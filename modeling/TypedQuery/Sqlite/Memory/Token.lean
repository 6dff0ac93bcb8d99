import TypedQuery.Timestamp.Text

/-!
# Tokens of a statement

Statements are cut into words, quoted names, string literals, numbers,
placeholders and single marks. Every token knows where it stands.
-/

namespace TypedQuery.Sqlite.Memory

/-- The sort of a token, with what it denotes. -/
inductive TokenKind where
  | word
  | quotedName (name : String)
  | literal (text : String)
  | number
  | placeholder
  | mark
  deriving DecidableEq, Repr

/-- A piece of a statement: what it is, how it is written, and the places of
its first character and of the one after its last. -/
structure Token where
  kind : TokenKind
  text : String
  start : Nat
  stop : Nat
  deriving DecidableEq, Repr

/-- The contents of a quoted text up to the closing quote, in which a doubled
quote stands for one, and the number of characters with the closing quote. -/
def quotedBody (quote : Char) : List Char → List Char × Nat
  | [] => ([], 0)
  | [c] => if c = quote then ([], 1) else ([c], 1)
  | c :: d :: rest =>
    if c = quote then
      if d = quote then
        let (body, length) := quotedBody quote rest
        (quote :: body, length + 2)
      else ([], 1)
    else
      let (body, length) := quotedBody quote (d :: rest)
      (c :: body, length + 1)

def isWordChar (c : Char) : Bool :=
  c.isAlphanum || c == '_' || 128 ≤ c.toNat

/-- The sort of the token that starts with `c`, and how many characters it has
after `c`. -/
def lexeme (c : Char) (rest : List Char) : TokenKind × Nat :=
  if c = '"' then
    let (body, length) := quotedBody '"' rest
    (.quotedName (String.ofList body), length)
  else if c = '\'' then
    let (body, length) := quotedBody '\'' rest
    (.literal (String.ofList body), length)
  else if c.isDigit then (.number, (rest.takeWhile Char.isDigit).length)
  else if isWordChar c then (.word, (rest.takeWhile isWordChar).length)
  else if c = '?' then (.placeholder, (rest.takeWhile Char.isDigit).length)
  else (.mark, 0)

/-- The tokens of a text whose first character has the place `index`. -/
def tokensFrom (index : Nat) : List Char → List Token
  | [] => []
  | c :: rest =>
    if isBlank c then tokensFrom (index + 1) rest
    else
      let (kind, length) := lexeme c rest
      ⟨kind, String.ofList (c :: rest.take length), index, index + 1 + length⟩ ::
        tokensFrom (index + 1 + length) (rest.drop length)
termination_by chars => chars.length
decreasing_by all_goals simp only [List.length_drop, List.length_cons]; omega

def tokens (text : String) : List Token :=
  tokensFrom 0 text.toList

namespace Token

/-- True when the token is the given word, in any case. -/
def isWord (token : Token) (word : String) : Bool :=
  token.kind == .word && token.text.toList.map Char.toUpper == word.toList

/-- True when the token is the given mark. -/
def isMark (token : Token) (mark : Char) : Bool :=
  token.kind == .mark && token.text.toList == [mark]

/-- The name that the token denotes, if it can be one. -/
def name? (token : Token) : Option String :=
  match token.kind with
  | .word => some token.text
  | .quotedName name => some name
  | _ => none

end Token

end TypedQuery.Sqlite.Memory
