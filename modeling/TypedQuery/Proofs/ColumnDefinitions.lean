import TypedQuery.Proofs.Contents
import TypedQuery.Schema.Definition

/-!
# Tokens of column definitions

A column is defined by its name, its type and some clauses.  Its text is read as exactly
these: the name as an identifier, the type as words of its own, and each clause as tokens
that no other clause has.  So what a definition declares can be read off its text.
-/

namespace TypedQuery

namespace ColumnType

/-! ## Types -/

def names : List String :=
  ["BLOB", "INTEGER", "TEXT", "REAL", "BYTEA", "BOOLEAN", "TIMESTAMP", "DOUBLE PRECISION",
    "BIGINT", "SMALLINT", "SMALLSERIAL", "SERIAL", "BIGSERIAL"]

theorem integerWord_mem (bits : Nat) (signed counting : Bool) :
    integerWord bits signed counting ∈ names := by
  have hword : ∀ counting : Bool,
      (if counting then "SMALLSERIAL" else "SMALLINT") ∈ names ∧
      (if counting then "SERIAL" else "INTEGER") ∈ names ∧
      (if counting then "BIGSERIAL" else "BIGINT") ∈ names := by
    decide
  obtain ⟨hsmall, hmiddle, hbig⟩ := hword counting
  unfold integerWord
  split
  · exact hsmall
  · split
    · exact hmiddle
    · exact hbig

theorem word_mem (dialect : Dialect) (constraints : Constraints) (type : ColumnType) :
    type.word dialect constraints ∈ names := by
  cases dialect with
  | sqlite => cases type <;> simp [word, names]
  | postgresql =>
      cases type with
      | integer bits signed => exact integerWord_mem bits signed constraints.autoIncrement
      | binary | boolean | dateTime | decimal | foreignKey | text => simp [word, names]

end ColumnType

namespace Token

def isTypeWord : Token → Bool
  | word letters =>
    ["BLOB", "INTEGER", "TEXT", "REAL", "BYTEA", "BOOLEAN", "TIMESTAMP", "DOUBLE", "PRECISION",
      "BIGINT", "SMALLINT", "SMALLSERIAL", "SERIAL", "BIGSERIAL"].contains letters
  | _ => false

end Token

namespace ColumnType

/-- The name of a type is words of types, and it goes with what stands before it. -/
theorem plain_of_mem_names : ∀ name ∈ names,
    (Chunk.text (" " ++ name)).isPlain = true ∧
      (Chunk.text (" " ++ name)).isLeading = true ∧
      (Token.ofText (" " ++ name)).all Token.isTypeWord = true := by
  decide

end ColumnType

namespace ColumnClause

/-! ## Clauses -/

def tokens : ColumnClause → List Token
  | primaryKey => [.word "PRIMARY", .word "KEY"]
  | autoIncrement => [.word "AUTOINCREMENT"]
  | notNull => [.word "NOT", .word "NULL"]
  | unique => [.word "UNIQUE"]
  | lengthCheck column max =>
    [.word "CHECK", .mark '(', .word "length", .mark '(', .ident column, .mark ')', .mark '<',
      .mark '=', .word (Digits.naturalText max), .mark ')']
  | references table key =>
    [.word "REFERENCES", .ident table, .mark '(', .ident key, .mark ')']

theorem settled_bound (max : Nat) :
    (Scan.between.after (") <= " ++ Digits.naturalText max).toList).Settled ")".toList := by
  rw [Token.after_append_naturalText (by decide)]
  exact Scan.settled_of_isDelimiter (fun h => h) (by decide)

theorem ofText_bound (max : Nat) :
    Token.ofText (") <= " ++ Digits.naturalText max ++ ")") =
      [.mark ')', .mark '<', .mark '=', .word (Digits.naturalText max), .mark ')'] := by
  rw [Token.ofText_append (settled_bound max), Token.ofText_append_naturalText (by decide)]
  rfl

theorem isPlain_bound (max : Nat) :
    (Chunk.text (") <= " ++ Digits.naturalText max ++ ")")).isPlain = true := by
  have hlimit : (Token.word (Digits.naturalText max)).isPlain = true := by
    rw [Token.isPlain, bne_iff_ne]
    exact fun h => Dialect.word_naturalText_ne_limit max (congrArg Token.word h)
  rw [Chunk.isPlain, ofText_bound]
  simp only [List.all_cons, List.all_nil, hlimit]
  rfl

theorem isLeading_bound (max : Nat) :
    (Chunk.text (") <= " ++ Digits.naturalText max ++ ")")).isLeading = true := by
  rw [Chunk.isLeading, String.toList_append, String.toList_append]
  rfl

theorem legible_fragment (clause : ColumnClause) : clause.fragment.Legible := by
  cases clause with
  | primaryKey | autoIncrement | notNull | unique => exact Fragment.legible_text (by decide)
  | lengthCheck column max =>
      have hopen : (Fragment.text " CHECK(length(" ++ Fragment.ident column).Legible :=
        (Fragment.legible_ident column).text_append (by decide) (by decide)
      exact hopen.append_text _ (isPlain_bound max) (isLeading_bound max)
  | references table key =>
      have htable : (Fragment.text " REFERENCES " ++ Fragment.ident table).Legible :=
        (Fragment.legible_ident table).text_append (by decide) (by decide)
      have hopen := htable.append_text " (" (by decide) (by decide)
      have hkey := hopen.append (Fragment.legible_ident key)
        (.inl (Fragment.isClosed_append_text _ (by decide)))
      exact hkey.append_text ")" (by decide) (by decide)

theorem isLeading_fragment (clause : ColumnClause) : clause.fragment.IsLeading := by
  cases clause with
  | primaryKey | autoIncrement | notNull | unique => exact Fragment.isLeading_text (by decide)
  | lengthCheck column max => exact Fragment.isLeading_text_append _ (by decide)
  | references table key =>
      intro chunk hchunk
      obtain rfl := Option.some.inj hchunk
      decide

theorem params_fragment (clause : ColumnClause) : clause.fragment.params = [] := by
  cases clause <;> rfl

theorem tokensFrom_fragment (clause : ColumnClause) (dialect : Dialect) (index : Nat) :
    Fragment.tokensFrom dialect index clause.fragment.chunks = clause.tokens := by
  cases clause with
  | lengthCheck column max =>
      have hchunks : (lengthCheck column max).fragment.chunks =
          [.text " CHECK(length(", .ident column,
            .text (") <= " ++ Digits.naturalText max ++ ")")] := rfl
      rw [hchunks]
      simp only [Fragment.tokensFrom, Chunk.tokens, ofText_bound]
      rfl
  | primaryKey | autoIncrement | notNull | unique | references => rfl

end ColumnClause

namespace ColumnDef

/-! ## Clauses of a column -/

section Clauses

variable {column : ColumnDef} {dialect : Dialect} {clauses : List ColumnClause}

/-- The clauses come in three groups. -/
theorem clauses_eq_ok_iff :
    column.clauses dialect = .ok clauses ↔
      ∃ references, column.referenceClauses = .ok references ∧
        column.keyClauses dialect ++ column.lengthClauses ++ references = clauses := by
  rw [ColumnDef.clauses, bind_eq_ok_iff]
  constructor
  · rintro ⟨references, hreferences, hclauses⟩
    exact ⟨references, hreferences, Except.ok.inj hclauses⟩
  · rintro ⟨references, hreferences, rfl⟩
    exact ⟨references, hreferences, rfl⟩

theorem mem_lengthClauses_iff {clause : ColumnClause} :
    clause ∈ column.lengthClauses ↔
      ∃ max, column.constraints.maxLength = some max ∧ column.type.hasLength = true ∧
        clause = .lengthCheck column.name max := by
  unfold lengthClauses
  cases column.constraints.maxLength with
  | none => simp
  | some max =>
      by_cases hlength : column.type.hasLength = true
      · simp [hlength]
      · simp [hlength]

/-- A primary key leaves out what it entails. -/
theorem mem_keyClauses_iff {clause : ColumnClause} :
    clause ∈ column.keyClauses dialect ↔
      if column.constraints.primaryKey = true then
        clause = .primaryKey ∨
          (column.constraints.autoIncrement && dialect == .sqlite) = true ∧
            clause = .autoIncrement
      else
        column.constraints.notNull = true ∧ clause = .notNull ∨
          column.constraints.unique = true ∧ clause = .unique := by
  dsimp only [keyClauses]
  by_cases hkey : column.constraints.primaryKey = true
  · rw [if_pos hkey, if_pos hkey]
    by_cases hcounts : (column.constraints.autoIncrement && dialect == .sqlite) = true
    · rw [if_pos hcounts, List.mem_cons, List.mem_singleton]
      exact or_congr_right (and_iff_right hcounts).symm
    · rw [if_neg hcounts, List.mem_singleton, or_iff_left fun h => hcounts h.1]
  · rw [if_neg hkey, if_neg hkey, List.mem_append, List.mem_ite_nil_right,
      List.mem_ite_nil_right, List.mem_singleton, List.mem_singleton]

end Clauses

/-! ## Columns -/

def tokens (column : ColumnDef) (dialect : Dialect) (clauses : List ColumnClause) :
    List Token :=
  .ident column.name ::
    (Token.ofText (" " ++ column.type.word dialect column.constraints) ++
      clauses.flatMap ColumnClause.tokens)

def head (column : ColumnDef) (dialect : Dialect) : Fragment :=
  Fragment.ident column.name ++
    Fragment.text (" " ++ column.type.word dialect column.constraints)

theorem fragment_eq_ok_iff {column : ColumnDef} {dialect : Dialect} {fragment : Fragment} :
    column.fragment dialect = .ok fragment ↔
      ∃ clauses, column.clauses dialect = .ok clauses ∧
        clauses.foldl (fun sql clause => sql ++ clause.fragment) (column.head dialect) =
          fragment := by
  rw [ColumnDef.fragment, bind_eq_ok_iff]
  constructor
  · rintro ⟨clauses, hclauses, hfragment⟩
    exact ⟨clauses, hclauses, Except.ok.inj hfragment⟩
  · rintro ⟨clauses, hclauses, rfl⟩
    exact ⟨clauses, hclauses, rfl⟩

/-- Clauses are added one by one, and each stands apart from what comes before it. -/
theorem legible_foldl (clauses : List ColumnClause) {first : Fragment} (h : first.Legible) :
    (clauses.foldl (fun sql clause => sql ++ clause.fragment) first).Legible := by
  induction clauses generalizing first with
  | nil => exact h
  | cons clause clauses ih =>
      exact ih (h.append clause.legible_fragment (.inr clause.isLeading_fragment))

theorem params_foldl (clauses : List ColumnClause) (first : Fragment) :
    (clauses.foldl (fun sql clause => sql ++ clause.fragment) first).params = first.params := by
  induction clauses generalizing first with
  | nil => rfl
  | cons clause clauses ih =>
      rw [List.foldl_cons, ih, Fragment.params_append, clause.params_fragment, List.append_nil]

theorem tokensFrom_foldl (dialect : Dialect) (index : Nat) (clauses : List ColumnClause)
    (first : Fragment) :
    Fragment.tokensFrom dialect index
        (clauses.foldl (fun sql clause => sql ++ clause.fragment) first).chunks =
      Fragment.tokensFrom dialect index first.chunks ++ clauses.flatMap ColumnClause.tokens := by
  induction clauses generalizing first with
  | nil => exact (List.append_nil _).symm
  | cons clause clauses ih =>
      rw [List.foldl_cons, ih, Fragment.chunks_append, Fragment.tokensFrom_append,
        clause.tokensFrom_fragment, List.flatMap_cons, List.append_assoc]

theorem legible_head (column : ColumnDef) (dialect : Dialect) :
    (column.head dialect).Legible := by
  obtain ⟨hplain, hleading, -⟩ := ColumnType.plain_of_mem_names _
    (ColumnType.word_mem dialect column.constraints column.type)
  exact (Fragment.legible_ident column.name).append_text _ hplain hleading

/-- The text of a column is read as its name, its type and its clauses. -/
theorem tokens_of_fragment {column : ColumnDef} {dialect : Dialect} {fragment : Fragment}
    (h : column.fragment dialect = .ok fragment) :
    ∃ clauses, column.clauses dialect = .ok clauses ∧ fragment.Legible ∧
      fragment.params = [] ∧
      ∀ index, Fragment.tokensFrom dialect index fragment.chunks =
        column.tokens dialect clauses := by
  obtain ⟨clauses, hclauses, rfl⟩ := fragment_eq_ok_iff.mp h
  refine ⟨clauses, hclauses, legible_foldl clauses (column.legible_head dialect),
    params_foldl clauses _, ?_⟩
  intro index
  have hhead : Fragment.tokensFrom dialect index (column.head dialect).chunks =
      .ident column.name ::
        Token.ofText (" " ++ column.type.word dialect column.constraints) :=
    congrArg (List.cons _) (List.append_nil _)
  rw [tokensFrom_foldl, hhead, tokens, List.cons_append]

end ColumnDef

end TypedQuery
