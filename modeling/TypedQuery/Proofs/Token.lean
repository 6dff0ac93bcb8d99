import Mathlib.Data.List.Basic
import TypedQuery.Dialect
import TypedQuery.Identifier

/-!
# Tokens of SQL text

The text of a statement is read from left to right as quoted identifiers,
numbered placeholders, words and single marks.  A double quote opens an
identifier, which ends at the next quote that is not doubled.  Words and
placeholders are as long as they can be.

The reader is an automaton whose state is the token that is being read.  The
main lemma says that a text can be cut wherever the token read so far does not
go on: then both parts are read by themselves.
-/

namespace TypedQuery

/-- A piece of SQL text. -/
inductive Token where
  /-- A quoted identifier, with its quotes taken away. -/
  | ident (name : String)
  /-- A quote, and what follows it, where the identifier is never closed. -/
  | unclosed (letters : String)
  /-- A placeholder, with the sign that opens it. -/
  | placeholder (sign : Char) (index : Nat)
  /-- Letters, digits and underscores. -/
  | word (letters : String)
  /-- Any other character. -/
  | mark (sign : Char)
  deriving DecidableEq, Repr

/-- What has been read of the token that is being read. -/
inductive Scan where
  /-- No token has been opened. -/
  | between
  | word (read : List Char)
  | mark (sign : Char)
  | placeholder (sign : Char) (digits : List Char)
  /-- An identifier that is still open. -/
  | name (read : List Char)
  /-- An identifier and a quote, which closes it unless another one follows. -/
  | nameEnd (read : List Char)
  deriving DecidableEq, Repr

namespace Scan

def isWordChar (c : Char) : Bool :=
  c.isAlphanum || c == '_'

/-- A character that neither belongs to a word nor is a quote. -/
def isDelimiter (c : Char) : Bool :=
  !isWordChar c && c != '"'

/-- What a character opens when it does not belong to the token before it. -/
def opening (c : Char) : Scan :=
  if c = '"' then name []
  else if c = '?' ∨ c = '$' then placeholder c []
  else if isWordChar c then word [c]
  else if c.isWhitespace then between
  else mark c

/-- The token that is being read with one more character, if the character
belongs to it. -/
def extend? : Scan → Char → Option Scan
  | between, _ => none
  | word read, c => if isWordChar c then some (word (read ++ [c])) else none
  | mark _, _ => none
  | placeholder sign digits, c =>
    if c.isDigit then some (placeholder sign (digits ++ [c])) else none
  | name read, c => some (if c = '"' then nameEnd read else name (read ++ [c]))
  | nameEnd read, c => if c = '"' then some (name (read ++ ['"'])) else none

/-- The token that has been read when nothing more belongs to it. -/
def pending : Scan → List Token
  | between => []
  | word read => [.word (String.ofList read)]
  | mark sign => [.mark sign]
  | placeholder sign digits => [.placeholder sign (Digits.value digits)]
  | name read => [.unclosed (String.ofList read)]
  | nameEnd read => [.ident (String.ofList read)]

/-- The tokens of a text, with the one that is being read. -/
def tokens : Scan → List Char → List Token
  | scan, [] => scan.pending
  | scan, c :: rest =>
    match scan.extend? c with
    | some next => next.tokens rest
    | none => scan.pending ++ (opening c).tokens rest

/-- What is being read at the end of a text. -/
def after : Scan → List Char → Scan
  | scan, [] => scan
  | scan, c :: rest => ((scan.extend? c).getD (opening c)).after rest

/-- The text that follows does not go on with the token that is being read. -/
def Settled (scan : Scan) (rest : List Char) : Prop :=
  ∀ c ∈ rest.head?, scan.extend? c = none

def InName : Scan → Prop
  | name _ => True
  | _ => False

theorem exists_of_inName {scan : Scan} (h : scan.InName) :
    ∃ read, scan = name read := by
  cases scan with
  | name read => exact ⟨read, rfl⟩
  | between => exact False.elim h
  | mark sign => exact False.elim h
  | word read => exact False.elim h
  | placeholder sign digits => exact False.elim h
  | nameEnd read => exact False.elim h

/-- Whatever follows, the token that is being read is complete. -/
def isClosed : Scan → Bool
  | between | mark _ => true
  | _ => false

theorem settled_nil (scan : Scan) : scan.Settled [] := by
  intro c hc
  simp at hc

theorem settled_of_isClosed
    {scan : Scan} (h : scan.isClosed = true) (rest : List Char) :
    scan.Settled rest := by
  intro c _
  cases scan with
  | between => rfl
  | mark sign => rfl
  | word read => simp [isClosed] at h
  | placeholder sign digits => simp [isClosed] at h
  | name read => simp [isClosed] at h
  | nameEnd read => simp [isClosed] at h

theorem isWordChar_of_isDigit {c : Char} (h : c.isDigit = true) :
    isWordChar c = true := by
  simp [isWordChar, Char.isAlphanum, h]

/-- A delimiter ends every token but an open identifier. -/
theorem settled_of_isDelimiter
    {scan : Scan} {c : Char} {rest : List Char}
    (hopen : ¬scan.InName) (hc : isDelimiter c = true) :
    scan.Settled (c :: rest) := by
  simp only [isDelimiter, Bool.and_eq_true, Bool.not_eq_true', bne_iff_ne] at hc
  obtain ⟨hword, hquote⟩ := hc
  have hdigit : c.isDigit = false := by
    by_contra h
    rw [Bool.not_eq_false] at h
    rw [isWordChar_of_isDigit h] at hword
    exact Bool.noConfusion hword
  intro d hd
  obtain rfl : c = d := by simpa using hd
  cases scan with
  | between => rfl
  | mark sign => rfl
  | word read => simp [extend?, hword]
  | placeholder sign digits => simp [extend?, hdigit]
  | name read => exact (hopen trivial).elim
  | nameEnd read => simp [extend?, hquote]

/-- A token that does not go on is complete. -/
theorem tokens_of_settled
    {scan : Scan} {rest : List Char} (h : scan.Settled rest) :
    scan.tokens rest = scan.pending ++ between.tokens rest := by
  cases rest with
  | nil => simp [tokens, pending]
  | cons c rest =>
      have hc : scan.extend? c = none := h c (by simp)
      have hbetween : between.extend? c = none := rfl
      simp [tokens, hc, hbetween, pending]

/-- A text can be cut where the token that is being read does not go on. -/
theorem tokens_append
    (scan : Scan) (text : List Char) {rest : List Char}
    (h : (scan.after text).Settled rest) :
    scan.tokens (text ++ rest) = scan.tokens text ++ between.tokens rest := by
  induction text generalizing scan with
  | nil => exact tokens_of_settled h
  | cons c text ih =>
      rw [after] at h
      rw [List.cons_append, tokens, tokens]
      cases hc : scan.extend? c with
      | some next =>
          rw [hc] at h
          exact ih next h
      | none =>
          rw [hc] at h
          simp only [ih (opening c) h, List.append_assoc]

theorem after_append (scan : Scan) (text rest : List Char) :
    scan.after (text ++ rest) = (scan.after text).after rest := by
  induction text generalizing scan with
  | nil => rfl
  | cons c text ih => exact ih _

theorem after_of_settled
    {scan : Scan} {c : Char} {rest : List Char} (h : scan.Settled (c :: rest)) :
    scan.after (c :: rest) = between.after (c :: rest) := by
  have hc : scan.extend? c = none := h c (by simp)
  have hbetween : between.extend? c = none := rfl
  simp only [after, hc, hbetween]

/-- The token that is being read at the end of a text is one of its tokens. -/
theorem pending_after_subset (scan : Scan) (text : List Char) :
    (scan.after text).pending ⊆ scan.tokens text := by
  induction text generalizing scan with
  | nil => exact List.Subset.refl _
  | cons c text ih =>
      rw [after, tokens]
      cases hc : scan.extend? c with
      | some next => exact ih next
      | none =>
          exact List.Subset.trans (ih (opening c))
            (List.subset_append_right _ _)

/-- The token that is being read with a text that belongs to it as a whole. -/
def absorb? (scan : Scan) (text : List Char) : Option Scan :=
  text.foldlM extend? scan

theorem absorb?_cons (scan : Scan) (c : Char) (text : List Char) :
    scan.absorb? (c :: text) =
      (scan.extend? c).bind fun next => next.absorb? text := by
  simp only [absorb?, List.foldlM_cons, Option.bind_eq_bind]

theorem tokens_of_absorb?
    {scan next : Scan} {text : List Char}
    (h : scan.absorb? text = some next) (rest : List Char) :
    scan.tokens (text ++ rest) = next.tokens rest := by
  induction text generalizing scan with
  | nil =>
      obtain rfl : scan = next := by simpa [absorb?] using h
      rfl
  | cons c text ih =>
      rw [absorb?_cons, Option.bind_eq_some_iff] at h
      obtain ⟨further, hc, htext⟩ := h
      rw [List.cons_append, tokens, hc]
      exact ih htext

theorem after_of_absorb?
    {scan next : Scan} {text : List Char}
    (h : scan.absorb? text = some next) :
    scan.after text = next := by
  induction text generalizing scan with
  | nil => simpa [absorb?, after] using h
  | cons c text ih =>
      rw [absorb?_cons, Option.bind_eq_some_iff] at h
      obtain ⟨further, hc, htext⟩ := h
      rw [after, hc, Option.getD_some]
      exact ih htext

/-! ## Identifiers -/

theorem absorb?_name_escape (read name : List Char) :
    (Scan.name read).absorb? (Identifier.escape name) =
      some (Scan.name (read ++ name)) := by
  induction name generalizing read with
  | nil => simp [Identifier.escape, absorb?]
  | cons c name ih =>
      by_cases hc : c = '"'
      · have hescape : Identifier.escape (c :: name) =
            '"' :: '"' :: Identifier.escape name := by
          simp [Identifier.escape, hc]
        rw [hescape, absorb?_cons, extend?, if_pos rfl, Option.bind_some,
          absorb?_cons, extend?, if_pos rfl, Option.bind_some, ih, hc,
          List.append_assoc, List.singleton_append]
      · have hescape : Identifier.escape (c :: name) =
            c :: Identifier.escape name := by
          simp [Identifier.escape, hc]
        rw [hescape, absorb?_cons, extend?, if_neg hc, Option.bind_some, ih,
          List.append_assoc, List.singleton_append]

theorem toList_quote (name : String) :
    (Identifier.quote name).toList =
      '"' :: (Identifier.escape name.toList ++ ['"']) := by
  simp [Identifier.quote]

theorem tokens_open_quote (text : List Char) :
    between.tokens ('"' :: text) = (Scan.name []).tokens text := by
  rfl

/-- A quoted name is read as one identifier, whatever characters it has. -/
theorem tokens_quote (name : String) :
    between.tokens (Identifier.quote name).toList = [.ident name] := by
  rw [toList_quote, tokens_open_quote,
    tokens_of_absorb? (absorb?_name_escape [] name.toList)]
  simp [tokens, extend?, pending]

theorem after_quote (name : String) :
    between.after (Identifier.quote name).toList = nameEnd name.toList := by
  have hname := after_of_absorb? (absorb?_name_escape [] name.toList)
  have hopening : between.after ('"' :: (Identifier.escape name.toList ++ ['"'])) =
      (Scan.name []).after (Identifier.escape name.toList ++ ['"']) := rfl
  rw [toList_quote, hopening, after_append, hname]
  rfl

/-! ## Numerals -/

theorem absorb?_word
    (read : List Char) {text : List Char} (h : ∀ c ∈ text, isWordChar c = true) :
    (word read).absorb? text = some (word (read ++ text)) := by
  induction text generalizing read with
  | nil => simp [absorb?]
  | cons c text ih =>
      obtain ⟨hc, hrest⟩ := List.forall_mem_cons.mp h
      rw [absorb?_cons, extend?, if_pos hc, Option.bind_some,
        ih (read ++ [c]) hrest, List.append_assoc, List.singleton_append]

theorem absorb?_placeholder
    (sign : Char) (read : List Char) {text : List Char}
    (h : ∀ c ∈ text, c.isDigit = true) :
    (placeholder sign read).absorb? text =
      some (placeholder sign (read ++ text)) := by
  induction text generalizing read with
  | nil => simp [absorb?]
  | cons c text ih =>
      obtain ⟨hc, hrest⟩ := List.forall_mem_cons.mp h
      rw [absorb?_cons, extend?, if_pos hc, Option.bind_some,
        ih (read ++ [c]) hrest, List.append_assoc, List.singleton_append]

theorem opening_of_isDigit {c : Char} (h : c.isDigit = true) :
    opening c = word [c] := by
  have hquote : c ≠ '"' := by
    rintro rfl
    exact absurd h (by decide)
  have hsign : ¬(c = '?' ∨ c = '$') := by
    rintro (rfl | rfl)
    · exact absurd h (by decide)
    · exact absurd h (by decide)
  rw [opening, if_neg hquote, if_neg hsign, if_pos (isWordChar_of_isDigit h)]

/-- A numeral is read as one word. -/
theorem tokens_natural (n : Nat) :
    between.tokens (Digits.natural n) = [.word (Digits.naturalText n)] ∧
      between.after (Digits.natural n) = word (Digits.natural n) := by
  have hne : Digits.natural n ≠ [] := Nat.toDigits_ne_nil
  obtain ⟨c, text, htext⟩ := List.exists_cons_of_ne_nil hne
  have hdigits : ∀ d ∈ c :: text, d.isDigit = true := by
    intro d hd
    exact Digits.isDigit_of_mem_natural (htext ▸ hd)
  have hopening := opening_of_isDigit (hdigits c (by simp))
  have habsorb : (word [c]).absorb? text = some (word (c :: text)) := by
    apply absorb?_word
    intro d hd
    exact isWordChar_of_isDigit (hdigits d (List.mem_cons_of_mem c hd))
  rw [Digits.naturalText, htext]
  constructor
  · rw [tokens, extend?, hopening]
    have htokens := tokens_of_absorb? habsorb []
    rw [List.append_nil] at htokens
    rw [htokens]
    rfl
  · rw [after, extend?, Option.getD_none, hopening]
    exact after_of_absorb? habsorb

theorem tokens_placeholder (dialect : Dialect) (index : Nat) :
    between.tokens (dialect.placeholder index).toList =
        [.placeholder dialect.placeholderSign index] ∧
      between.after (dialect.placeholder index).toList =
        placeholder dialect.placeholderSign (Digits.natural index) := by
  have hopening : opening dialect.placeholderSign =
      placeholder dialect.placeholderSign [] := by
    cases dialect <;> rfl
  have hdigits : ∀ c ∈ Digits.natural index, c.isDigit = true :=
    fun c hc => Digits.isDigit_of_mem_natural hc
  have habsorb := absorb?_placeholder dialect.placeholderSign [] hdigits
  have htext : (dialect.placeholder index).toList =
      dialect.placeholderSign :: Digits.natural index := by
    simp [Dialect.placeholder]
  rw [htext]
  constructor
  · have htokens := tokens_of_absorb? habsorb []
    rw [List.append_nil] at htokens
    rw [tokens, extend?, hopening, htokens]
    simp [tokens, pending]
  · rw [after, extend?, Option.getD_none, hopening]
    exact after_of_absorb? habsorb

end Scan

namespace Token

def ofText (text : String) : List Token :=
  Scan.between.tokens text.toList

/-- A text can be cut where the token before does not go on. -/
theorem ofText_append
    {first second : String}
    (h : (Scan.between.after first.toList).Settled second.toList) :
    ofText (first ++ second) = ofText first ++ ofText second := by
  rw [ofText, String.toList_append, Scan.tokens_append _ _ h]
  rfl

/-- A numeral after words that are complete is read as a word of its own. -/
theorem ofText_append_naturalText
    {words : String}
    (h : (Scan.between.after words.toList).isClosed = true) (n : Nat) :
    ofText (words ++ Digits.naturalText n) =
      ofText words ++ [.word (Digits.naturalText n)] := by
  have hnumeral : ofText (Digits.naturalText n) =
      [.word (Digits.naturalText n)] := by
    rw [ofText, Digits.naturalText, String.toList_ofList]
    exact (Scan.tokens_natural n).1
  rw [ofText_append (Scan.settled_of_isClosed h _), hnumeral]

theorem after_append_naturalText
    {words : String}
    (h : (Scan.between.after words.toList).isClosed = true) (n : Nat) :
    Scan.between.after (words ++ Digits.naturalText n).toList =
      .word (Digits.natural n) := by
  have hne : Digits.natural n ≠ [] := Nat.toDigits_ne_nil
  obtain ⟨c, text, htext⟩ := List.exists_cons_of_ne_nil hne
  have hnumeral := (Scan.tokens_natural n).2
  rw [Digits.naturalText, String.toList_append, String.toList_ofList,
    Scan.after_append]
  rw [htext] at hnumeral ⊢
  rw [Scan.after_of_settled (Scan.settled_of_isClosed h _), hnumeral]

end Token

end TypedQuery
