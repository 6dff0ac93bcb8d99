/-!
# Quoted identifiers

Between double quotes any text can name a table or a column. A quote inside is
written twice, so the identifier ends at the first quote that is not doubled.
-/

namespace TypedQuery.Identifier

/-- The characters between the quotes: a quote twice and all else once. -/
def escape (name : List Char) : List Char :=
  name.flatMap fun c => if c = '"' then ['"', '"'] else [c]

/-- A name between double quotes. -/
def quote (name : String) : String :=
  String.ofList ('"' :: escape name.toList ++ ['"'])

end TypedQuery.Identifier
