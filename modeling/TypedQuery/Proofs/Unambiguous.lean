import TypedQuery.Condition
import TypedQuery.Proofs.Legible

/-!
# Conditions are unambiguous

The statement of a predicate determines the predicate, up to what a test for
membership of the empty set was a test of.  To show this the tokens of the
statement are read back, with the values in the order of their placeholders, by
a reader that knows nothing but the grammar of conditions.
-/

namespace TypedQuery

/-- A predicate in which a test for membership of the empty set is the constant
that it amounts to. -/
inductive Reading where
  | constant (value : Bool)
  /-- A predicate that is neither a conjunction nor a disjunction. -/
  | test (predicate : Predicate)
  | both (left right : Reading)
  | either (left right : Reading)
  deriving DecidableEq

namespace Predicate

/-- The predicate with constants for the tests of the empty set. -/
def reading : Predicate → Reading
  | inSet _ [] negated => .constant negated
  | both left right => .both left.reading right.reading
  | either left right => .either left.reading right.reading
  | compare column op value => .test (.compare column op value)
  | compareColumn column op other => .test (.compareColumn column op other)
  | between column low high => .test (.between column low high)
  | inSet column values negated => .test (.inSet column values negated)
  | like column pattern negated => .test (.like column pattern negated)
  | isNull column negated => .test (.isNull column negated)

end Predicate

namespace Reading

def fragment : Reading → Fragment
  | constant value => .text (if value then "1 = 1" else "1 = 0")
  | test predicate => predicate.fragment
  | both left right => left.fragment.parens ++ .text " AND " ++ right.fragment.parens
  | either left right => left.fragment.parens ++ .text " OR " ++ right.fragment.parens

/-! ## Reading conditions -/

/-- What was read, with the tokens and the values that are left. -/
abbrev Read (α : Type) : Type := Option (α × List Token × List Value)

/-- Reads a list of values to the parenthesis that closes it. -/
def readValues : List Token → List Value → Read (List Value)
  | .placeholder _ _ :: .mark ')' :: tokens, value :: values =>
    some ([value], tokens, values)
  | .placeholder _ _ :: .mark ',' :: tokens, value :: values =>
    (readValues tokens values).map fun (more, tokens, values) =>
      (value :: more, tokens, values)
  | _, _ => none

def readSign : List Token → Option (CompareOp × List Token)
  | .mark '<' :: .mark '>' :: tokens => some (.ne, tokens)
  | .mark '<' :: .mark '=' :: tokens => some (.le, tokens)
  | .mark '<' :: tokens => some (.lt, tokens)
  | .mark '>' :: .mark '=' :: tokens => some (.ge, tokens)
  | .mark '>' :: tokens => some (.gt, tokens)
  | .mark '=' :: tokens => some (.eq, tokens)
  | _ => none

/-- Reads the right side of a comparison. -/
def readOperand (column : ColumnRef) (op : CompareOp) :
    List Token → List Value → Read Predicate
  | .placeholder _ _ :: tokens, value :: values =>
    some (.compare column op value, tokens, values)
  | .ident table :: .mark '.' :: .ident name :: tokens, values =>
    some (.compareColumn column op ⟨table, name⟩, tokens, values)
  | _, _ => none

def readTest (column : ColumnRef) : List Token → List Value → Read Predicate
  | .word "BETWEEN" :: .placeholder _ _ :: .word "AND" :: .placeholder _ _ :: tokens,
      low :: high :: values =>
    some (.between column low high, tokens, values)
  | .word "IN" :: .mark '(' :: tokens, values =>
    (readValues tokens values).map fun (set, tokens, values) =>
      (.inSet column set false, tokens, values)
  | .word "NOT" :: .word "IN" :: .mark '(' :: tokens, values =>
    (readValues tokens values).map fun (set, tokens, values) =>
      (.inSet column set true, tokens, values)
  | .word "LIKE" :: .placeholder _ _ :: tokens, .text pattern :: values =>
    some (.like column pattern false, tokens, values)
  | .word "NOT" :: .word "LIKE" :: .placeholder _ _ :: tokens, .text pattern :: values =>
    some (.like column pattern true, tokens, values)
  | .word "IS" :: .word "NULL" :: tokens, values =>
    some (.isNull column false, tokens, values)
  | .word "IS" :: .word "NOT" :: .word "NULL" :: tokens, values =>
    some (.isNull column true, tokens, values)
  | tokens, values =>
    (readSign tokens).bind fun (op, tokens) => readOperand column op tokens values

/-- Reads the end of one side of a conjunction or disjunction and the start of
the other. -/
def readConnective : List Token → Option ((Reading → Reading → Reading) × List Token)
  | .mark ')' :: .word "AND" :: .mark '(' :: tokens => some (both, tokens)
  | .mark ')' :: .word "OR" :: .mark '(' :: tokens => some (either, tokens)
  | _ => none

def readClose : List Token → Option (List Token)
  | .mark ')' :: tokens => some tokens
  | _ => none

/-- Reads a predicate in which parentheses are nested less than `depth` deep. -/
def read : Nat → List Token → List Value → Read Reading
  | depth + 1, .mark '(' :: tokens, values =>
    (read depth tokens values).bind fun (left, tokens, values) =>
      (readConnective tokens).bind fun (connective, tokens) =>
        (read depth tokens values).bind fun (right, tokens, values) =>
          (readClose tokens).map fun tokens =>
            (connective left right, tokens, values)
  | _ + 1, .word "1" :: .mark '=' :: .word "1" :: tokens, values =>
    some (constant true, tokens, values)
  | _ + 1, .word "1" :: .mark '=' :: .word "0" :: tokens, values =>
    some (constant false, tokens, values)
  | _ + 1, .ident table :: .mark '.' :: .ident name :: tokens, values =>
    (readTest ⟨table, name⟩ tokens values).map fun (predicate, tokens, values) =>
      (test predicate, tokens, values)
  | _, _, _ => none

/-- The predicate that a statement states, when it states one. -/
def ofStatement? (statement : Statement) : Option Reading :=
  let tokens := Token.ofText statement.sql
  match read tokens.length tokens statement.params with
  | some (reading, [], []) => some reading
  | _ => none

end Reading

namespace Predicate

/-! ## The fragment of a predicate -/

theorem isPlain_sign (op : CompareOp) :
    (Chunk.text (" " ++ op.sign ++ " ")).isPlain = true := by
  cases op <;> decide

theorem isLeading_sign (op : CompareOp) :
    (Chunk.text (" " ++ op.sign ++ " ")).isLeading = true := by
  cases op <;> decide

theorem isClosed_sign (op : CompareOp) :
    (Chunk.text (" " ++ op.sign ++ " ")).isClosed = true := by
  cases op <;> decide

/-- The list of the members of a set is legible. -/
theorem legible_params (values : List Value) :
    (Fragment.join ", " (values.map .param)).Legible := by
  apply Fragment.legible_join (by decide) (by decide) (by decide)
  intro fragment hfragment
  obtain ⟨value, -, rfl⟩ := List.mem_map.mp hfragment
  exact Fragment.legible_param value

/-- Both sides of a connective between parentheses. -/
theorem legible_connective
    {left right : Fragment} {words : String}
    (hleft : left.Legible) (hright : right.Legible)
    (hplain : (Chunk.text words).isPlain = true)
    (hleading : (Chunk.text words).isLeading = true) :
    (left.parens ++ .text words ++ right.parens).Legible := by
  have hwords := hleft.parens.append_text words hplain hleading
  exact hwords.append hright.parens (Or.inr (Fragment.isLeading_parens right))

theorem legible_fragment (predicate : Predicate) :
    predicate.fragment.Legible := by
  induction predicate with
  | compare column op value =>
      have hsign := (Fragment.legible_column column).append_text _
        (isPlain_sign op) (isLeading_sign op)
      exact hsign.append_param value
  | compareColumn column op other =>
      have hsign := (Fragment.legible_column column).append_text _
        (isPlain_sign op) (isLeading_sign op)
      exact hsign.append (Fragment.legible_column other)
        (Or.inl (Fragment.isClosed_append_text _ (isClosed_sign op)))
  | between column low high =>
      have hlow : (.column column ++ .text " BETWEEN " ++ .param low :
          Fragment).Legible :=
        ((Fragment.legible_column column).append_text _
          (by decide) (by decide)).append_param low
      have hand := hlow.append_text " AND " (by decide) (by decide)
      exact hand.append_param high
  | inSet column values negated =>
      cases values with
      | nil => cases negated <;> exact Fragment.legible_text (by decide)
      | cons value values =>
          have hset := (legible_params (value :: values)).parens
          have hleading := Fragment.isLeading_parens
            (Fragment.join ", " ((value :: values).map .param))
          cases negated with
          | false =>
              have hwords := (Fragment.legible_column column).append_text
                " IN " (by decide) (by decide)
              exact hwords.append hset (Or.inr hleading)
          | true =>
              have hwords := (Fragment.legible_column column).append_text
                " NOT IN " (by decide) (by decide)
              exact hwords.append hset (Or.inr hleading)
  | like column pattern negated =>
      cases negated with
      | false =>
          have hwords := (Fragment.legible_column column).append_text
            " LIKE " (by decide) (by decide)
          exact hwords.append_param (.text pattern)
      | true =>
          have hwords := (Fragment.legible_column column).append_text
            " NOT LIKE " (by decide) (by decide)
          exact hwords.append_param (.text pattern)
  | isNull column negated =>
      cases negated with
      | false =>
          exact (Fragment.legible_column column).append_text
            " IS NULL" (by decide) (by decide)
      | true =>
          exact (Fragment.legible_column column).append_text
            " IS NOT NULL" (by decide) (by decide)
  | both left right ihleft ihright =>
      exact legible_connective ihleft ihright (by decide) (by decide)
  | either left right ihleft ihright =>
      exact legible_connective ihleft ihright (by decide) (by decide)

/-- A predicate is written as what it amounts to. -/
theorem fragment_reading (predicate : Predicate) :
    predicate.reading.fragment = predicate.fragment := by
  induction predicate with
  | compare column op value => rfl
  | compareColumn column op other => rfl
  | between column low high => rfl
  | inSet column values negated => cases values <;> rfl
  | like column pattern negated => rfl
  | isNull column negated => rfl
  | both left right ihleft ihright =>
      rw [reading, Reading.fragment, ihleft, ihright, fragment]
  | either left right ihleft ihright =>
      rw [reading, Reading.fragment, ihleft, ihright, fragment]

end Predicate

namespace Reading

/-! ## Reading a predicate back -/

/-- The tokens of the members of a set are read to the end of the list. -/
theorem readValues_join
    (dialect : Dialect) (index : Nat) (value : Value) (set : List Value)
    (tokens : List Token) (values : List Value) :
    readValues
        (Fragment.tokensFrom dialect index
          (Fragment.join ", " ((value :: set).map .param)).chunks ++
            .mark ')' :: tokens)
        (value :: set ++ values) =
      some (value :: set, tokens, values) := by
  induction set generalizing index value with
  | nil => rfl
  | cons next set ih =>
      have hchunks :
          (Fragment.join ", " ((value :: next :: set).map .param)).chunks =
            .param value :: .text ", " ::
              (Fragment.join ", " ((next :: set).map .param)).chunks := rfl
      have hcomma : Token.ofText ", " = [.mark ','] := rfl
      rw [hchunks, Fragment.tokensFrom, Fragment.tokensFrom, Chunk.tokens,
        Chunk.tokens, hcomma]
      simp only [List.cons_append, List.nil_append, readValues]
      rw [← List.cons_append, ih]
      rfl

theorem readTest_inSet
    (dialect : Dialect) (index : Nat) (column : ColumnRef)
    (value : Value) (set : List Value) (negated : Bool)
    (tokens : List Token) (values : List Value) :
    readTest column
        (Token.ofText (if negated then " NOT IN " else " IN ") ++
          Fragment.tokensFrom dialect index
            (Fragment.join ", " ((value :: set).map .param)).parens.chunks ++
            tokens)
        (value :: set ++ values) =
      some (.inSet column (value :: set) negated, tokens, values) := by
  have hread := readValues_join dialect index value set tokens values
  rw [Fragment.tokensFrom_parens]
  cases negated with
  | false =>
      have hwords : Token.ofText (if false then " NOT IN " else " IN ") =
          [.word "IN"] := rfl
      rw [hwords]
      simp only [List.cons_append, List.nil_append, List.append_assoc] at hread ⊢
      rw [readTest, hread]
      rfl
  | true =>
      have hwords : Token.ofText (if true then " NOT IN " else " IN ") =
          [.word "NOT", .word "IN"] := rfl
      rw [hwords]
      simp only [List.cons_append, List.nil_append, List.append_assoc] at hread ⊢
      rw [readTest, hread]
      rfl

theorem readTest_compare
    (dialect : Dialect) (index : Nat) (column : ColumnRef) (op : CompareOp)
    (value : Value) (tokens : List Token) (values : List Value) :
    readTest column
        (Fragment.tokensFrom dialect index
          [.text (" " ++ op.sign ++ " "), .param value] ++ tokens)
        (value :: values) =
      some (.compare column op value, tokens, values) := by
  cases op <;> rfl

theorem readTest_compareColumn
    (dialect : Dialect) (index : Nat) (column : ColumnRef) (op : CompareOp)
    (other : ColumnRef) (tokens : List Token) (values : List Value) :
    readTest column
        (Fragment.tokensFrom dialect index
          [.text (" " ++ op.sign ++ " "), .column other] ++ tokens)
        values =
      some (.compareColumn column op other, tokens, values) := by
  cases op <;> rfl

theorem readTest_between
    (dialect : Dialect) (index : Nat) (column : ColumnRef) (low high : Value)
    (tokens : List Token) (values : List Value) :
    readTest column
        (Fragment.tokensFrom dialect index
          [.text " BETWEEN ", .param low, .text " AND ", .param high] ++ tokens)
        (low :: high :: values) =
      some (.between column low high, tokens, values) :=
  rfl

theorem readTest_like
    (dialect : Dialect) (index : Nat) (column : ColumnRef) (pattern : String)
    (negated : Bool) (tokens : List Token) (values : List Value) :
    readTest column
        (Fragment.tokensFrom dialect index
          [.text (if negated then " NOT LIKE " else " LIKE "),
            .param (.text pattern)] ++ tokens)
        (.text pattern :: values) =
      some (.like column pattern negated, tokens, values) := by
  cases negated <;> rfl

theorem readTest_isNull
    (dialect : Dialect) (index : Nat) (column : ColumnRef) (negated : Bool)
    (tokens : List Token) (values : List Value) :
    readTest column
        (Fragment.tokensFrom dialect index
          [.text (if negated then " IS NOT NULL" else " IS NULL")] ++ tokens)
        values =
      some (.isNull column negated, tokens, values) := by
  cases negated <;> rfl

/-- The predicate is read from its tokens, and what follows them is left. -/
def IsRead (dialect : Dialect) (predicate : Predicate) : Prop :=
  ∀ index depth,
    (Fragment.tokensFrom dialect index predicate.fragment.chunks).length ≤ depth →
      ∀ tokens values,
        read depth
            (Fragment.tokensFrom dialect index predicate.fragment.chunks ++ tokens)
            (predicate.fragment.params ++ values) =
          some (predicate.reading, tokens, values)

/-- A leaf is read when what it says about its column is. -/
theorem isRead_of_readTest
    {dialect : Dialect} {predicate : Predicate} {column : ColumnRef}
    {chunks : List Chunk}
    (hchunks : predicate.fragment.chunks = .column column :: chunks)
    (hreading : predicate.reading = .test predicate)
    (htest : ∀ index tokens values,
      readTest column (Fragment.tokensFrom dialect index chunks ++ tokens)
          (predicate.fragment.params ++ values) =
        some (predicate, tokens, values)) :
    IsRead dialect predicate := by
  intro index depth h tokens values
  have htokens : Fragment.tokensFrom dialect index predicate.fragment.chunks =
      .ident column.table :: .mark '.' :: .ident column.name ::
        Fragment.tokensFrom dialect index chunks := by
    rw [hchunks]
    rfl
  rw [htokens] at h ⊢
  obtain ⟨depth, rfl⟩ := Nat.exists_eq_add_one.mpr
    (Nat.lt_of_lt_of_le (Nat.succ_pos _) h)
  rw [List.cons_append, List.cons_append, List.cons_append, read, htest, hreading]
  rfl

/-- The tokens of both sides of a connective between parentheses. -/
theorem tokensFrom_connective
    (dialect : Dialect) (index : Nat) (left right : Fragment)
    {words : String} {letters : String} (h : Token.ofText words = [.word letters]) :
    Fragment.tokensFrom dialect index
        (left.parens ++ .text words ++ right.parens).chunks =
      .mark '(' :: (Fragment.tokensFrom dialect index left.chunks ++
        .mark ')' :: .word letters :: .mark '(' ::
          (Fragment.tokensFrom dialect (index + left.paramCount) right.chunks ++
            [.mark ')'])) := by
  have hcount : (left.parens.chunks.filterMap Chunk.value?).length =
      left.paramCount := by
    rw [Fragment.paramCount, ← Fragment.params_parens, Fragment.params]
  have hchunks : (left.parens ++ .text words ++ right.parens).chunks =
      left.parens.chunks ++ .text words :: right.parens.chunks := by
    simp [Fragment.text]
  rw [hchunks, Fragment.tokensFrom_append, hcount, Fragment.tokensFrom,
    Fragment.tokensFrom_parens, Chunk.tokens, h]
  simp [Chunk.value?, Fragment.tokensFrom_parens]

/-- Both sides of a connective are read one after the other. -/
theorem read_connective
    {dialect : Dialect} {left right : Predicate} {words letters : String}
    {connective : Reading → Reading → Reading}
    (hwords : Token.ofText words = [.word letters])
    (hconnective : ∀ rest,
      readConnective (.mark ')' :: .word letters :: .mark '(' :: rest) =
        some (connective, rest))
    (hleft : IsRead dialect left) (hright : IsRead dialect right)
    {index depth : Nat}
    (h : (Fragment.tokensFrom dialect index
      (left.fragment.parens ++ .text words ++ right.fragment.parens).chunks).length ≤
        depth)
    (tokens : List Token) (values : List Value) :
    read depth
        (Fragment.tokensFrom dialect index
          (left.fragment.parens ++ .text words ++ right.fragment.parens).chunks ++
            tokens)
        ((left.fragment.parens ++ .text words ++ right.fragment.parens).params ++
          values) =
      some (connective left.reading right.reading, tokens, values) := by
  have htokens := tokensFrom_connective dialect index left.fragment right.fragment
    hwords
  rw [htokens] at h ⊢
  simp only [List.length_cons, List.length_append] at h
  obtain ⟨depth, rfl⟩ := Nat.exists_eq_add_one.mpr
    (Nat.lt_of_lt_of_le (Nat.succ_pos _) h)
  -- Each side has fewer tokens than the whole, so less depth is enough for it.
  have hleft := hleft index depth (by omega)
  have hright := hright (index + left.fragment.paramCount) depth (by omega)
  simp only [Fragment.params_append, Fragment.params_parens, Fragment.params_text,
    List.append_nil, List.cons_append, List.append_assoc, List.nil_append]
  rw [read, hleft]
  simp only [Option.bind_some, hconnective, hright]
  rfl

/-- The reader goes down the tokens as the predicate was built up. -/
theorem isRead (dialect : Dialect) (predicate : Predicate) :
    IsRead dialect predicate := by
  induction predicate with
  | compare column op value =>
      exact isRead_of_readTest rfl rfl fun index tokens values =>
        readTest_compare dialect index column op value tokens values
  | compareColumn column op other =>
      exact isRead_of_readTest rfl rfl fun index tokens values =>
        readTest_compareColumn dialect index column op other tokens values
  | between column low high =>
      exact isRead_of_readTest rfl rfl fun index tokens values =>
        readTest_between dialect index column low high tokens values
  | inSet column set negated =>
      cases set with
      | nil =>
          intro index depth h tokens values
          have hpos : 0 < (Fragment.tokensFrom dialect index
              (Predicate.inSet column [] negated).fragment.chunks).length := by
            cases negated <;> exact Nat.succ_pos _
          obtain ⟨depth, rfl⟩ := Nat.exists_eq_add_one.mpr
            (Nat.lt_of_lt_of_le hpos h)
          cases negated <;> rfl
      | cons value set =>
          have hparams :
              (Predicate.inSet column (value :: set) negated).fragment.params =
                value :: set := by
            simp [Predicate.fragment]
          refine isRead_of_readTest rfl rfl fun index tokens values => ?_
          rw [hparams]
          exact readTest_inSet dialect index column value set negated tokens values
  | like column pattern negated =>
      exact isRead_of_readTest rfl rfl fun index tokens values =>
        readTest_like dialect index column pattern negated tokens values
  | isNull column negated =>
      exact isRead_of_readTest rfl rfl fun index tokens values =>
        readTest_isNull dialect index column negated tokens values
  | both left right ihleft ihright =>
      have hwords : Token.ofText " AND " = [.word "AND"] := rfl
      intro index depth h tokens values
      exact read_connective hwords (fun _ => rfl) ihleft ihright h tokens values
  | either left right ihleft ihright =>
      have hwords : Token.ofText " OR " = [.word "OR"] := rfl
      intro index depth h tokens values
      exact read_connective hwords (fun _ => rfl) ihleft ihright h tokens values

theorem ofStatement?_render (dialect : Dialect) (predicate : Predicate) :
    ofStatement? (predicate.fragment.render dialect) = some predicate.reading := by
  have htokens := predicate.legible_fragment.ofText_render dialect
  have hread := isRead dialect predicate 0 _ (Nat.le_refl _) [] []
  rw [List.append_nil, List.append_nil] at hread
  rw [ofStatement?, htokens, Fragment.render, hread]

end Reading

namespace Predicate

/-- Two predicates have the same statement, with the same values, only when
they are the same but for tests of the empty set.  This holds for all names of
tables and columns and for all values. -/
theorem render_eq_render_iff (dialect : Dialect) (first second : Predicate) :
    first.fragment.render dialect = second.fragment.render dialect ↔
      first.reading = second.reading := by
  constructor
  · intro h
    have hfirst := Reading.ofStatement?_render dialect first
    have hsecond := Reading.ofStatement?_render dialect second
    rw [h, hsecond] at hfirst
    exact (Option.some.inj hfirst).symm
  · intro h
    rw [← fragment_reading first, h, fragment_reading second]

end Predicate

end TypedQuery
