import TypedQuery.Proofs.InsertedRecords

/-!
# The text of conditions

What a condition is in SQL, said of the predicate alone.  A comparison is its column, its
sign and a placeholder; conjunctions and disjunctions put both sides in parentheses.  The
placeholders of the right side go on from those of the left side.
-/

namespace TypedQuery

def ColumnRef.text (ref : ColumnRef) : String :=
  Identifier.quote ref.table ++ "." ++ Identifier.quote ref.name

@[simp]
theorem Fragment.textFrom_column (dialect : Dialect) (index : Nat) (ref : ColumnRef) :
    textFrom dialect index (column ref) = ref.text :=
  String.append_empty

namespace Predicate

def inParens (text : String) : String :=
  "(" ++ text ++ ")"

/-- As many placeholders as there are values, when `index` values came before them. -/
def placeholders (dialect : Dialect) (index : Nat) (values : List Value) : String :=
  ", ".intercalate ((List.range' (index + 1) values.length).map dialect.placeholder)

/-- The text of a predicate when `index` values came before it. -/
def text (dialect : Dialect) (index : Nat) : Predicate → String
  | compare column op _ =>
    column.text ++ (" " ++ op.sign ++ " ") ++ dialect.placeholder (index + 1)
  | compareColumn column op other => column.text ++ (" " ++ op.sign ++ " ") ++ other.text
  | between column _ _ =>
    column.text ++ " BETWEEN " ++ dialect.placeholder (index + 1) ++ " AND " ++
      dialect.placeholder (index + 2)
  | inSet _ [] false => "1 = 0"
  | inSet _ [] true => "1 = 1"
  | inSet column values false =>
    column.text ++ " IN " ++ inParens (placeholders dialect index values)
  | inSet column values true =>
    column.text ++ " NOT IN " ++ inParens (placeholders dialect index values)
  | like column _ false => column.text ++ " LIKE " ++ dialect.placeholder (index + 1)
  | like column _ true => column.text ++ " NOT LIKE " ++ dialect.placeholder (index + 1)
  | isNull column false => column.text ++ " IS NULL"
  | isNull column true => column.text ++ " IS NOT NULL"
  | both left right =>
    inParens (left.text dialect index) ++ " AND " ++
      inParens (right.text dialect (index + left.operands.length))
  | either left right =>
    inParens (left.text dialect index) ++ " OR " ++
      inParens (right.text dialect (index + left.operands.length))

/-- Two predicates in parentheses, with words between them. -/
theorem textFrom_parens_append (dialect : Dialect) (index : Nat) (words : String)
    (left right : Predicate) :
    (left.fragment.parens ++ .text words ++ right.fragment.parens).textFrom dialect index =
      inParens (left.fragment.textFrom dialect index) ++ words ++
        inParens (right.fragment.textFrom dialect (index + left.operands.length)) := by
  have hcount : (left.fragment.parens ++ .text words).paramCount = left.operands.length := by
    simp [Fragment.paramCount]
  rw [Fragment.textFrom_append, Fragment.textFrom_append, hcount, Fragment.textFrom_text,
    Fragment.textFrom_parens, Fragment.textFrom_parens, inParens, inParens]

theorem textFrom_parens_values (dialect : Dialect) (index : Nat) (values : List Value) :
    (Fragment.join ", " (values.map .param)).parens.textFrom dialect index =
      inParens (placeholders dialect index values) := by
  rw [Fragment.textFrom_parens, Fragment.textFrom_join, Fragment.texts_map_param, inParens,
    placeholders]

/-- Rendering a predicate gives its text. -/
theorem textFrom_fragment (dialect : Dialect) (index : Nat) (predicate : Predicate) :
    predicate.fragment.textFrom dialect index = predicate.text dialect index := by
  induction predicate generalizing index with
  | compare column op value =>
      simp [fragment, text, Fragment.textFrom_append, Fragment.paramCount]
  | compareColumn column op other =>
      simp [fragment, text, Fragment.textFrom_append]
  | between column low high =>
      simp [fragment, text, Fragment.textFrom_append, Fragment.paramCount]
  | inSet column values negated =>
      cases values with
      | nil => cases negated <;> rfl
      | cons value values =>
          have hwords : ∀ words,
              (Fragment.column column ++ .text words).textFrom dialect index =
                column.text ++ words := by
            simp [Fragment.textFrom_append]
          have hcount : ∀ words, (Fragment.column column ++ .text words).paramCount = 0 := by
            simp [Fragment.paramCount]
          cases negated with
          | false | true =>
              rw [fragment, Fragment.textFrom_append, hwords, hcount, textFrom_parens_values]
              · rfl
              · exact List.cons_ne_nil value values
  | like column pattern negated =>
      cases negated <;>
        simp [fragment, text, Fragment.textFrom_append, Fragment.paramCount]
  | isNull column negated =>
      cases negated <;> simp [fragment, text, Fragment.textFrom_append]
  | both left right ihleft ihright =>
      rw [fragment, textFrom_parens_append, ihleft, ihright, text]
  | either left right ihleft ihright =>
      rw [fragment, textFrom_parens_append, ihleft, ihright, text]

end Predicate

end TypedQuery
