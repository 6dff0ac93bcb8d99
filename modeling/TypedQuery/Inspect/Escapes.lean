import TypedQuery.Inspect.Hidden

/-!
# Quoted text in structural output

Text between double quotes shows by an escape what would end the text or be taken
for an escape, and every hidden character.
-/

namespace TypedQuery.Escapes

/-- Characters with an escape of one letter, and that letter. -/
def letters : List (Char × Char) :=
  [('"', '"'), ('\\', '\\'), ('\n', 'n'), ('\t', 't'), ('\r', 'r'), ('\x00', '0')]

/-- One character in quoted text. -/
def escape (c : Char) : List Char :=
  match letters.lookup c with
  | some letter => ['\\', letter]
  | none =>
    if Hidden.contains c then
      '\\' :: 'u' :: '\x7b' :: Nat.toDigits 16 c.toNat ++ ['\x7d']
    else [c]

def quote (text : String) : String :=
  String.ofList ('"' :: text.toList.flatMap escape ++ ['"'])

end TypedQuery.Escapes
