import TypedQuery.Proofs.ColumnDefinitions
import TypedQuery.Schema.Validation

/-!
# Declared constraints

A row is checked before it is sent, and the database checks it again by what the table
declares.  Both draw the same line: a column takes null unless its definition declares a
primary key or that it is not null, and a key that the database fills in may be left out
all the same; it takes a value unless a length is declared that the value exceeds.
-/

namespace TypedQuery

namespace ColumnClause

/-! ## What opens a clause -/

def opening : ColumnClause → String
  | primaryKey => "PRIMARY"
  | autoIncrement => "AUTOINCREMENT"
  | notNull => "NOT"
  | unique => "UNIQUE"
  | lengthCheck .. => "CHECK"
  | references .. => "REFERENCES"

def openings : List String :=
  ["PRIMARY", "AUTOINCREMENT", "NOT", "UNIQUE", "CHECK", "REFERENCES"]

theorem opening_mem (clause : ColumnClause) : clause.opening ∈ openings := by
  cases clause <;> simp [opening, openings]

theorem not_isTypeWord_opening : ∀ letters ∈ openings,
    Token.isTypeWord (.word letters) = false := by
  decide

/-- A numeral opens no clause. -/
theorem naturalText_not_mem (n : Nat) : Digits.naturalText n ∉ openings := by
  intro hmem
  have hletters : ∀ letters ∈ openings, letters.toList.all Char.isDigit = false := by
    decide
  have hdigits : (Digits.naturalText n).toList.all Char.isDigit = true := by
    rw [Digits.naturalText, String.toList_ofList, List.all_eq_true]
    exact fun _ => Digits.isDigit_of_mem_natural
  rw [hletters _ hmem] at hdigits
  exact Bool.noConfusion hdigits

theorem ne_of_mem_openings : ∀ letters ∈ openings,
    letters ≠ "KEY" ∧ letters ≠ "NULL" ∧ letters ≠ "length" := by
  decide

/-- What opens a clause stands nowhere else in clauses. -/
theorem opening_of_mem {clause : ColumnClause} {letters : String} (hopening : letters ∈ openings)
    (h : .word letters ∈ clause.tokens) : clause.opening = letters := by
  obtain ⟨hkey, hnull, hlength⟩ := ne_of_mem_openings letters hopening
  cases clause with
  | lengthCheck column max =>
      have hnumeral : letters ≠ Digits.naturalText max := by
        rintro rfl
        exact naturalText_not_mem max hopening
      simpa [tokens, opening, hlength, hnumeral, eq_comm] using h
  | primaryKey => simpa [tokens, opening, hkey, eq_comm] using h
  | notNull => simpa [tokens, opening, hnull, eq_comm] using h
  | autoIncrement | unique | references => simpa [tokens, opening, eq_comm] using h

theorem eq_primaryKey_of_opening {clause : ColumnClause} (h : clause.opening = "PRIMARY") :
    clause = .primaryKey := by
  cases clause with
  | primaryKey => rfl
  | autoIncrement | notNull | unique | lengthCheck | references => simp [opening] at h

theorem eq_notNull_of_opening {clause : ColumnClause} (h : clause.opening = "NOT") :
    clause = .notNull := by
  cases clause with
  | notNull => rfl
  | primaryKey | autoIncrement | unique | lengthCheck | references => simp [opening] at h

theorem exists_lengthCheck_of_opening {clause : ColumnClause} (h : clause.opening = "CHECK") :
    ∃ column max, clause = .lengthCheck column max := by
  cases clause with
  | lengthCheck column max => exact ⟨column, max, rfl⟩
  | primaryKey | autoIncrement | notNull | unique | references => simp [opening] at h

end ColumnClause

/-- The text of a column has the clause among its tokens. -/
def Declares (text : String) (clause : ColumnClause) : Prop :=
  clause.tokens <:+: Token.ofText text

namespace ColumnDef

variable {column : ColumnDef} {dialect : Dialect} {clauses : List ColumnClause}

theorem exists_clause_of_mem {letters : String} (hopening : letters ∈ ColumnClause.openings)
    (h : .word letters ∈ column.tokens dialect clauses) :
    ∃ clause ∈ clauses, clause.opening = letters := by
  rw [tokens, List.mem_cons, List.mem_append, List.mem_flatMap] at h
  rcases h with h | h | ⟨clause, hclause, hmem⟩
  · exact Token.noConfusion h
  · have hwords := (ColumnType.plain_of_mem_names _
      (ColumnType.word_mem dialect column.constraints column.type)).2.2
    have hword := List.all_eq_true.mp hwords _ h
    rw [ColumnClause.not_isTypeWord_opening letters hopening] at hword
    exact Bool.noConfusion hword
  · exact ⟨clause, hclause, ColumnClause.opening_of_mem hopening hmem⟩

theorem infix_tokens_of_mem {clause : ColumnClause} (h : clause ∈ clauses) :
    clause.tokens <:+: column.tokens dialect clauses := by
  have hclauses : clause.tokens <:+: clauses.flatMap ColumnClause.tokens := by
    rw [List.flatMap]
    exact List.infix_of_mem_flatten (List.mem_map_of_mem h)
  rw [tokens, ← List.cons_append]
  exact hclauses.trans (List.suffix_append _ _).isInfix

theorem opening_mem_tokens (clause : ColumnClause) : .word clause.opening ∈ clause.tokens := by
  cases clause <;> exact List.mem_cons_self

/-- A clause whose first word says all is declared just if it is one of the clauses. -/
theorem infix_tokens_iff {clause : ColumnClause}
    (h : ∀ other : ColumnClause, other.opening = clause.opening → other = clause) :
    clause.tokens <:+: column.tokens dialect clauses ↔ clause ∈ clauses := by
  constructor
  · intro hinfix
    have hmem := hinfix.subset (opening_mem_tokens clause)
    obtain ⟨other, hother, hopening⟩ := exists_clause_of_mem clause.opening_mem hmem
    rwa [← h other hopening]
  · exact infix_tokens_of_mem

/-! ## Bounds on lengths -/

/-- The tokens of a bound tell the column and the greatest length. -/
theorem lengthCheck_tokens_prefix_iff {name other : String} {max greatest : Nat}
    (rest : List Token) :
    (ColumnClause.lengthCheck name max).tokens <+:
        (ColumnClause.lengthCheck other greatest).tokens ++ rest ↔
      name = other ∧ max = greatest := by
  have hnumeral : Digits.naturalText max = Digits.naturalText greatest ↔ max = greatest := by
    constructor
    · intro h
      have hdigits : Digits.natural max = Digits.natural greatest := by
        rwa [Digits.naturalText, Digits.naturalText, String.ofList_inj] at h
      rw [← Digits.value_natural max, hdigits, Digits.value_natural]
    · rintro rfl
      rfl
  simp [ColumnClause.tokens, hnumeral]

theorem opening_of_mem_referenceClauses {references : List ColumnClause}
    (h : column.referenceClauses = .ok references) {clause : ColumnClause}
    (hmem : clause ∈ references) : clause.opening = "REFERENCES" := by
  unfold referenceClauses at h
  split at h
  · obtain rfl := Except.ok.inj h
    rw [List.mem_singleton.mp hmem]
    rfl
  · cases h
  · obtain rfl := Except.ok.inj h
    cases hmem

theorem opening_of_mem_lengthClauses {clause : ColumnClause}
    (h : clause ∈ column.lengthClauses) : clause.opening = "CHECK" := by
  obtain ⟨max, -, -, rfl⟩ := mem_lengthClauses_iff.mp h
  rfl

theorem primaryKey_mem_keyClauses_iff :
    .primaryKey ∈ column.keyClauses dialect ↔ column.constraints.primaryKey = true := by
  rw [mem_keyClauses_iff]
  by_cases hkey : column.constraints.primaryKey = true <;> simp [hkey]

theorem notNull_mem_keyClauses_iff :
    .notNull ∈ column.keyClauses dialect ↔
      column.constraints.primaryKey ≠ true ∧ column.constraints.notNull = true := by
  rw [mem_keyClauses_iff]
  by_cases hkey : column.constraints.primaryKey = true <;> simp [hkey]

theorem opening_ne_of_mem_keyClauses {clause : ColumnClause}
    (h : clause ∈ column.keyClauses dialect) :
    clause.opening ≠ "CHECK" ∧ clause.opening ≠ "REFERENCES" := by
  rw [mem_keyClauses_iff] at h
  split at h
  · rcases h with rfl | ⟨-, rfl⟩ <;> decide
  · rcases h with ⟨-, rfl⟩ | ⟨-, rfl⟩ <;> decide

/-! ## What the clauses of a column are -/

theorem mem_clauses_iff (h : column.clauses dialect = .ok clauses) {clause : ColumnClause}
    (hopening : clause.opening ≠ "REFERENCES") :
    clause ∈ clauses ↔
      clause ∈ column.keyClauses dialect ∨ clause ∈ column.lengthClauses := by
  obtain ⟨references, hreferences, rfl⟩ := clauses_eq_ok_iff.mp h
  have hother : clause ∉ references :=
    fun hmem => hopening (opening_of_mem_referenceClauses hreferences hmem)
  rw [List.mem_append, List.mem_append, or_iff_left hother]

theorem mem_clauses_iff_mem_keyClauses (h : column.clauses dialect = .ok clauses)
    {clause : ColumnClause} (hreference : clause.opening ≠ "REFERENCES")
    (hlength : clause.opening ≠ "CHECK") :
    clause ∈ clauses ↔ clause ∈ column.keyClauses dialect := by
  have hother : clause ∉ column.lengthClauses :=
    fun hmem => hlength (opening_of_mem_lengthClauses hmem)
  rw [mem_clauses_iff h hreference, or_iff_left hother]

theorem primaryKey_mem_clauses_iff (h : column.clauses dialect = .ok clauses) :
    .primaryKey ∈ clauses ↔ column.constraints.primaryKey = true := by
  rw [mem_clauses_iff_mem_keyClauses h (by decide) (by decide), primaryKey_mem_keyClauses_iff]

theorem notNull_mem_clauses_iff (h : column.clauses dialect = .ok clauses) :
    .notNull ∈ clauses ↔
      column.constraints.primaryKey ≠ true ∧ column.constraints.notNull = true := by
  rw [mem_clauses_iff_mem_keyClauses h (by decide) (by decide), notNull_mem_keyClauses_iff]

theorem lengthCheck_mem_clauses_iff (h : column.clauses dialect = .ok clauses) {name : String}
    {max : Nat} :
    .lengthCheck name max ∈ clauses ↔
      column.constraints.maxLength = some max ∧ column.type.hasLength = true ∧
        name = column.name := by
  have hkey : .lengthCheck name max ∉ column.keyClauses dialect :=
    fun hmem => (opening_ne_of_mem_keyClauses hmem).1 rfl
  have hopening : (ColumnClause.lengthCheck name max).opening ≠ "REFERENCES" := by
    rw [ColumnClause.opening]
    decide
  rw [mem_clauses_iff h hopening, or_iff_right hkey, mem_lengthClauses_iff]
  constructor
  · rintro ⟨greatest, hmax, hlength, hclause⟩
    obtain ⟨rfl, rfl⟩ := ColumnClause.lengthCheck.inj hclause
    exact ⟨hmax, hlength, rfl⟩
  · rintro ⟨hmax, hlength, rfl⟩
    exact ⟨max, hmax, hlength, rfl⟩

theorem check_not_mem_of_opening_ne {clauses : List ColumnClause}
    (h : ∀ clause ∈ clauses, clause.opening ≠ "CHECK") :
    .word "CHECK" ∉ clauses.flatMap ColumnClause.tokens := by
  rw [List.mem_flatMap]
  rintro ⟨clause, hclause, hmem⟩
  exact h clause hclause (ColumnClause.opening_of_mem (by decide) hmem)

/-- A bound among tokens of which only one bound can be opened is that one. -/
theorem eq_of_lengthCheck_infix {name other : String} {max greatest : Nat}
    {front back : List Token} (hfront : .word "CHECK" ∉ front) (hback : .word "CHECK" ∉ back)
    (h : (ColumnClause.lengthCheck name max).tokens <:+:
      front ++ ((ColumnClause.lengthCheck other greatest).tokens ++ back)) :
    name = other ∧ max = greatest := by
  obtain ⟨before, after, htokens⟩ := h
  have hcons : ∀ name max, (ColumnClause.lengthCheck name max).tokens =
      .word "CHECK" :: (ColumnClause.lengthCheck name max).tokens.tail :=
    fun _ _ => rfl
  have hnumeral : "CHECK" ≠ Digits.naturalText greatest := by
    intro hsame
    exact ColumnClause.naturalText_not_mem greatest (hsame ▸ by decide)
  have htail : .word "CHECK" ∉
      (ColumnClause.lengthCheck other greatest).tokens.tail ++ back := by
    rw [List.mem_append, or_iff_left hback]
    simp [ColumnClause.tokens, hnumeral]
  rw [hcons name, hcons other, List.append_assoc, List.cons_append, List.cons_append] at htokens
  obtain ⟨-, -, hrest⟩ := (List.append_cons_inj_of_notMem hfront htail).mp htokens.symm
  rw [← lengthCheck_tokens_prefix_iff back]
  refine ⟨after, ?_⟩
  rw [hcons name, hcons other, List.cons_append, List.cons_append, hrest]

/-- A bound is declared just if it is among the clauses: they have only one of the sort,
so it is found where that one stands. -/
theorem infix_tokens_lengthCheck_iff (h : column.clauses dialect = .ok clauses) {name : String}
    {max : Nat} :
    (ColumnClause.lengthCheck name max).tokens <:+: column.tokens dialect clauses ↔
      .lengthCheck name max ∈ clauses := by
  refine ⟨?_, infix_tokens_of_mem⟩
  intro hinfix
  have hmem := hinfix.subset (opening_mem_tokens _)
  obtain ⟨clause, hclause, hopening⟩ := exists_clause_of_mem
    (ColumnClause.opening_mem (.lengthCheck name max)) hmem
  obtain ⟨other, greatest, rfl⟩ := ColumnClause.exists_lengthCheck_of_opening hopening
  obtain ⟨references, hreferences, rfl⟩ := clauses_eq_ok_iff.mp h
  obtain ⟨hmax, hlength, rfl⟩ := (lengthCheck_mem_clauses_iff h).mp hclause
  have hbound : column.lengthClauses = [.lengthCheck column.name greatest] := by
    rw [lengthClauses, hmax]
    exact if_pos hlength
  have htokens : column.tokens dialect
        (column.keyClauses dialect ++ column.lengthClauses ++ references) =
      column.tokens dialect (column.keyClauses dialect) ++
        ((ColumnClause.lengthCheck column.name greatest).tokens ++
          references.flatMap ColumnClause.tokens) := by
    simp only [tokens, hbound, List.flatMap_append, List.flatMap_cons,
      List.nil_append, List.cons_append, List.append_assoc]
  have hfront : .word "CHECK" ∉ column.tokens dialect (column.keyClauses dialect) := by
    intro hcheck
    obtain ⟨clause, hkey, hopening⟩ := exists_clause_of_mem (by decide) hcheck
    exact (opening_ne_of_mem_keyClauses hkey).1 hopening
  have hback : .word "CHECK" ∉ references.flatMap ColumnClause.tokens := by
    apply check_not_mem_of_opening_ne
    intro clause hreference
    rw [opening_of_mem_referenceClauses hreferences hreference]
    decide
  rw [htokens] at hinfix
  obtain ⟨rfl, rfl⟩ := eq_of_lengthCheck_infix hfront hback hinfix
  exact hclause

/-! ## Checks of values -/

variable {fragment : Fragment}

theorem declares_iff_of_fragment (h : column.fragment dialect = .ok fragment) :
    ∃ clauses, column.clauses dialect = .ok clauses ∧
      ∀ clause, Declares (fragment.render dialect).sql clause ↔
        clause.tokens <:+: column.tokens dialect clauses := by
  obtain ⟨clauses, hclauses, hlegible, -, htokens⟩ := tokens_of_fragment h
  refine ⟨clauses, hclauses, ?_⟩
  intro clause
  rw [Declares, hlegible.ofText_render, htokens]

theorem declares_primaryKey_iff (h : column.fragment dialect = .ok fragment) :
    Declares (fragment.render dialect).sql .primaryKey ↔
      column.constraints.primaryKey = true := by
  obtain ⟨clauses, hclauses, hdeclares⟩ := declares_iff_of_fragment h
  rw [hdeclares, infix_tokens_iff fun _ => ColumnClause.eq_primaryKey_of_opening,
    primaryKey_mem_clauses_iff hclauses]

theorem declares_notNull_iff (h : column.fragment dialect = .ok fragment) :
    Declares (fragment.render dialect).sql .notNull ↔
      column.constraints.primaryKey ≠ true ∧ column.constraints.notNull = true := by
  obtain ⟨clauses, hclauses, hdeclares⟩ := declares_iff_of_fragment h
  rw [hdeclares, infix_tokens_iff fun _ => ColumnClause.eq_notNull_of_opening,
    notNull_mem_clauses_iff hclauses]

theorem declares_lengthCheck_iff (h : column.fragment dialect = .ok fragment) {name : String}
    {max : Nat} :
    Declares (fragment.render dialect).sql (.lengthCheck name max) ↔
      column.constraints.maxLength = some max ∧ column.type.hasLength = true ∧
        name = column.name := by
  obtain ⟨clauses, hclauses, hdeclares⟩ := declares_iff_of_fragment h
  rw [hdeclares, infix_tokens_lengthCheck_iff hclauses, lengthCheck_mem_clauses_iff hclauses]

end ColumnDef

/-- The value is one of the type, as it is bound. -/
inductive ColumnType.Holds : ColumnType → Value → Prop where
  | binary (bytes : Bytes) : Holds .binary (.blob bytes)
  | boolean (b : Bool) : Holds .boolean (.boolean b)
  | dateTime (t : Timestamp) : Holds .dateTime (.timestamp t)
  | decimal (r : Binary64) : Holds .decimal (.real r)
  | foreignKey (target : Reference) (i : Int64) : Holds (.foreignKey target) (.integer i)
  | integer (bits : Nat) (signed : Bool) (i : Int64) : Holds (.integer bits signed) (.integer i)
  | text (s : String) : Holds .text (.text s)

/-- The value has a length: the characters of a text or the bytes of a byte string. -/
inductive Value.HasLength : Value → Nat → Prop where
  | text (s : String) : HasLength (.text s) s.toList.length
  | blob (bytes : Bytes) : HasLength (.blob bytes) bytes.length

namespace Value

theorem HasLength.unique {value : Value} {length other : Nat} (h : value.HasLength length)
    (hother : value.HasLength other) : length = other := by
  cases h with
  | text s =>
      cases hother with
      | text => rfl
  | blob bytes =>
      cases hother with
      | blob => rfl

end Value

namespace ColumnType.Holds

variable {type : ColumnType} {value : Value}

theorem isNull_eq (h : type.Holds value) : value.isNull = false := by
  cases h <;> rfl

theorem hasLength_boundedLength (h : type.Holds value) (hlength : type.hasLength = true) :
    value.HasLength value.boundedLength := by
  cases h with
  | binary bytes => exact .blob bytes
  | text s => exact .text s
  | boolean | dateTime | decimal | foreignKey | integer => exact Bool.noConfusion hlength

theorem boundedLength_eq_zero (h : type.Holds value) (hlength : type.hasLength ≠ true) :
    value.boundedLength = 0 := by
  cases h with
  | binary | text => exact absurd rfl hlength
  | boolean | dateTime | decimal | foreignKey | integer => rfl

end ColumnType.Holds

namespace ColumnDef

variable {column : ColumnDef} {dialect : Dialect} {fragment : Fragment}

/-- A column takes null unless its definition forbids it or the database fills it in. -/
theorem validate_null_iff (h : column.fragment dialect = .ok fragment) :
    column.validate .null = .ok () ↔
      ¬(Declares (fragment.render dialect).sql .primaryKey ∨
          Declares (fragment.render dialect).sql .notNull) ∨
        (column.constraints.primaryKey = true ∧ column.constraints.autoIncrement = true) := by
  rw [declares_primaryKey_iff h, declares_notNull_iff h]
  have hvalidate : column.validate .null =
      if column.requiresValue = true then .error column.missingValue else .ok () := rfl
  have hok : ∀ refused : Bool,
      (if refused = true then .error column.missingValue else .ok () : Result Unit) = .ok () ↔
        refused = false := by
    intro refused
    cases refused <;> simp
  have hlogic : ∀ primaryKey notNull autoIncrement : Bool,
      ((notNull || primaryKey) && !(primaryKey && autoIncrement)) = false ↔
        ¬(primaryKey = true ∨ primaryKey ≠ true ∧ notNull = true) ∨
          primaryKey = true ∧ autoIncrement = true := by
    decide
  rw [hvalidate, hok, requiresValue, Constraints.isGenerated]
  exact hlogic _ _ _

/-- A value is held against the greatest length. -/
theorem validate_eq_ok_iff {value : Value} (h : value.isNull = false) :
    column.validate value = .ok () ↔
      ∀ max, column.constraints.maxLength = some max → value.boundedLength ≤ max := by
  have hsome : ¬value.isNull = true := Bool.eq_false_iff.mp h
  rw [validate, if_neg hsome]
  cases column.constraints.maxLength with
  | none => exact iff_of_true rfl nofun
  | some max =>
      dsimp only
      by_cases hlong : max < value.boundedLength
      · rw [if_pos hlong]
        exact iff_of_false nofun fun hfits => Nat.not_le.mpr hlong (hfits max rfl)
      · rw [if_neg hlong]
        refine iff_of_true rfl ?_
        rintro greatest ⟨⟩
        exact Nat.not_lt.mp hlong

/-- A column takes a value of its type unless it declares a length that the value
exceeds. -/
theorem validate_iff_of_holds (h : column.fragment dialect = .ok fragment) {value : Value}
    (hvalue : column.type.Holds value) :
    column.validate value = .ok () ↔
      ∀ name max, Declares (fragment.render dialect).sql (.lengthCheck name max) →
        ∃ length, value.HasLength length ∧ length ≤ max := by
  rw [validate_eq_ok_iff hvalue.isNull_eq]
  constructor
  · intro hfits name max hdeclared
    obtain ⟨hmax, hlength, -⟩ := (declares_lengthCheck_iff h).mp hdeclared
    exact ⟨_, hvalue.hasLength_boundedLength hlength, hfits max hmax⟩
  · intro hdeclared max hmax
    by_cases hlength : column.type.hasLength = true
    · obtain ⟨length, hvaluelength, hle⟩ := hdeclared column.name max
        ((declares_lengthCheck_iff h).mpr ⟨hmax, hlength, rfl⟩)
      rwa [(hvalue.hasLength_boundedLength hlength).unique hvaluelength]
    · rw [hvalue.boundedLength_eq_zero hlength]
      exact Nat.zero_le max

end ColumnDef

namespace Schema

/-! ## Checks of rows -/

/-- The column takes the value. -/
def Takes (column : ColumnDef) (value : Value) : Prop :=
  column.validate value = .ok ()

theorem validateColumns_eq_ok_iff {columns : List ColumnDef} {values : List Value}
    (hlength : values.length = columns.length) :
    validateColumns columns values = .ok () ↔ List.Forall₂ Takes columns values := by
  induction columns generalizing values with
  | nil =>
      rw [List.eq_nil_of_length_eq_zero hlength]
      exact iff_of_true rfl .nil
  | cons column columns ih =>
      obtain ⟨value, values, rfl⟩ := List.exists_cons_of_length_eq_add_one hlength
      rw [validateColumns, bind_eq_ok_iff, List.forall₂_cons, ← ih (Nat.succ.inj hlength)]
      constructor
      · rintro ⟨⟨⟩, hcolumn, hrest⟩
        exact ⟨hcolumn, hrest⟩
      · rintro ⟨hcolumn, hrest⟩
        exact ⟨(), hcolumn, hrest⟩

/-- The row is refused for the column, after those before it have taken their values. -/
def RefusedAt (columns : List ColumnDef) (values : List Value) (error : Error) : Prop :=
  ∃ (before : List ColumnDef) (column : ColumnDef) (after : List ColumnDef)
    (taken : List Value) (value : Value) (rest : List Value),
    columns = before ++ column :: after ∧ values = taken ++ value :: rest ∧
      List.Forall₂ Takes before taken ∧ column.validate value = .error error

theorem validateColumns_eq_error_iff {columns : List ColumnDef} {values : List Value}
    {error : Error} :
    validateColumns columns values = .error error ↔ RefusedAt columns values error := by
  induction columns generalizing values with
  | nil =>
      refine iff_of_false nofun ?_
      rintro ⟨before, column, after, -, -, -, hcolumns, -⟩
      exact List.cons_ne_nil _ _ (List.append_eq_nil_iff.mp hcolumns.symm).2
  | cons column columns ih =>
      cases values with
      | nil =>
          refine iff_of_false nofun ?_
          rintro ⟨-, -, -, taken, value, rest, -, hvalues, -⟩
          exact List.cons_ne_nil _ _ (List.append_eq_nil_iff.mp hvalues.symm).2
      | cons value values =>
          rw [validateColumns, bind_eq_error_iff]
          constructor
          · rintro (hcolumn | ⟨⟨⟩, hcolumn, hrest⟩)
            · exact ⟨[], column, columns, [], value, values, rfl, rfl, .nil, hcolumn⟩
            · obtain ⟨before, refusing, after, taken, refused, rest, rfl, rfl, htaken,
                herror⟩ := ih.mp hrest
              exact ⟨column :: before, refusing, after, value :: taken, refused, rest, rfl, rfl,
                .cons hcolumn htaken, herror⟩
          · rintro ⟨before, refusing, after, taken, refused, rest, hcolumns, hvalues, htaken,
              herror⟩
            cases htaken with
            | nil =>
                obtain ⟨rfl, -⟩ := List.cons.inj hcolumns
                obtain ⟨rfl, -⟩ := List.cons.inj hvalues
                exact .inl herror
            | cons hfirst htaken =>
                obtain ⟨rfl, hbefore⟩ := List.cons.inj hcolumns
                obtain ⟨rfl, hrest⟩ := List.cons.inj hvalues
                exact .inr ⟨(), hfirst, ih.mpr
                  ⟨_, refusing, after, _, refused, rest, hbefore, hrest, htaken, herror⟩⟩

/-- The check of a row agrees with what the table declares.  A column takes null just if
its definition declares neither a primary key nor that it is not null, or the database
counts the key; and it takes a value of its type just if it declares no length that the
value exceeds.  A full row is taken if every column takes its value, and otherwise it is
refused with the error of the first column that does not. -/
theorem validate_iff_declares :
    (∀ (column : ColumnDef) (dialect : Dialect) (fragment : Fragment),
      column.fragment dialect = .ok fragment →
      (column.validate .null = .ok () ↔
        ¬(Declares (fragment.render dialect).sql .primaryKey ∨
            Declares (fragment.render dialect).sql .notNull) ∨
          (column.constraints.primaryKey = true ∧
            column.constraints.autoIncrement = true)) ∧
      ∀ value, column.type.Holds value →
        (column.validate value = .ok () ↔
          ∀ name max, Declares (fragment.render dialect).sql (.lengthCheck name max) →
            ∃ length, value.HasLength length ∧ length ≤ max)) ∧
    ∀ (schema : Schema) (values : List Value), values.length = schema.columns.length →
      (schema.validate values = .ok () ↔
        List.Forall₂ (fun column value => column.validate value = .ok ())
          schema.columns values) ∧
      ∀ error, schema.validate values = .error error ↔
        RefusedAt schema.columns values error := by
  refine ⟨?_, ?_⟩
  · intro column dialect fragment h
    refine ⟨ColumnDef.validate_null_iff h, ?_⟩
    intro value hvalue
    exact ColumnDef.validate_iff_of_holds h hvalue
  · intro schema values hlength
    refine ⟨validateColumns_eq_ok_iff hlength, ?_⟩
    intro error
    exact validateColumns_eq_error_iff

/-- A name of at most three characters. -/
def shortName : ColumnDef :=
  ⟨"name", .text, { notNull := true, maxLength := some 3 }⟩

/-- Three characters of two bytes each are short enough, and a row is refused for its
first column. -/
theorem validate_iff_declares_shortName :
    shortName.validate (.text "äöü") = .ok () ∧
    ¬shortName.validate .null = .ok () ∧
    Schema.validate ⟨"users", [shortName, shortName]⟩ [.text "long", .null] =
      .error (shortName.tooLong 4 3) := by
  have hfragment : ∃ fragment, shortName.fragment .sqlite = .ok fragment := ⟨_, rfl⟩
  obtain ⟨fragment, hfragment⟩ := hfragment
  obtain ⟨hnull, hvalue⟩ := validate_iff_declares.1 shortName .sqlite fragment hfragment
  refine ⟨?_, ?_, ?_⟩
  · rw [hvalue _ (.text "äöü")]
    intro name max hdeclared
    obtain ⟨hmax, -⟩ := (ColumnDef.declares_lengthCheck_iff hfragment).mp hdeclared
    obtain rfl := Option.some.inj hmax
    exact ⟨3, .text "äöü", Nat.le_refl 3⟩
  · rw [hnull, not_or, not_not]
    refine ⟨.inr ((ColumnDef.declares_notNull_iff hfragment).mpr ⟨nofun, rfl⟩), ?_⟩
    rintro ⟨hkey, -⟩
    cases hkey
  · exact ((validate_iff_declares.2 ⟨"users", [shortName, shortName]⟩
      [.text "long", .null] rfl).2 _).mpr
        ⟨[], shortName, [shortName], [], .text "long", [.null], rfl, rfl, .nil, rfl⟩

end Schema

end TypedQuery
