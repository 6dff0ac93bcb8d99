import TypedQuery.Proofs.Legible

/-!
# Contents of fragments

The names and the values of a fragment, in the order in which they are written.
Reading the text of a legible fragment gives the names back as its identifiers
and the numbers of the values as its placeholders.  The texts of the two
dialects have the same tokens but for the sign of a placeholder and the limit
that one of them needs before an offset.
-/

namespace TypedQuery

namespace Token

def name? : Token → Option String
  | ident name => some name
  | _ => none

/-- What follows a quote that is never closed. -/
def unclosed? : Token → Option String
  | unclosed letters => some letters
  | _ => none

def placeholder? : Token → Option (Char × Nat)
  | placeholder sign index => some (sign, index)
  | _ => none

/-- The token with another sign, if it is a placeholder. -/
def withSign (sign : Char) : Token → Token
  | placeholder _ index => placeholder sign index
  | token => token

/-- Tokens without the limit that bounds nothing, where it stands before an
offset. -/
def withoutIdleLimit : List Token → List Token
  | word "LIMIT" :: mark '-' :: word "1" :: word "OFFSET" :: rest =>
    word "OFFSET" :: withoutIdleLimit rest
  | token :: rest => token :: withoutIdleLimit rest
  | [] => []

theorem name?_of_isPlain {token : Token} (h : token.isPlain = true) :
    token.name? = none := by
  cases token with
  | ident name => exact Bool.noConfusion h
  | unclosed letters => rfl
  | placeholder sign index => rfl
  | word letters => rfl
  | mark sign => rfl

theorem unclosed?_of_isPlain {token : Token} (h : token.isPlain = true) :
    token.unclosed? = none := by
  cases token with
  | unclosed letters => exact Bool.noConfusion h
  | ident name => rfl
  | placeholder sign index => rfl
  | word letters => rfl
  | mark sign => rfl

theorem placeholder?_of_isPlain {token : Token} (h : token.isPlain = true) :
    token.placeholder? = none := by
  cases token with
  | ident name => rfl
  | unclosed letters => rfl
  | placeholder sign index => exact Bool.noConfusion h
  | word letters => rfl
  | mark sign => rfl

theorem withSign_of_isPlain
    {token : Token} (h : token.isPlain = true) (sign : Char) :
    token.withSign sign = token := by
  cases token with
  | ident name => rfl
  | unclosed letters => rfl
  | placeholder sign index => exact Bool.noConfusion h
  | word letters => rfl
  | mark sign => rfl

theorem withoutIdleLimit_cons
    {token : Token} (h : token ≠ word "LIMIT") (rest : List Token) :
    withoutIdleLimit (token :: rest) = token :: withoutIdleLimit rest := by
  rw [withoutIdleLimit]
  intro tail htoken
  exact (h htoken).elim

theorem ne_limit_of_isPlain {token : Token} (h : token.isPlain = true) :
    token ≠ word "LIMIT" := by
  rintro rfl
  exact absurd h (by decide)

theorem withoutIdleLimit_append
    {tokens : List Token} (h : ∀ token ∈ tokens, token ≠ word "LIMIT")
    (rest : List Token) :
    withoutIdleLimit (tokens ++ rest) = tokens ++ withoutIdleLimit rest := by
  induction tokens with
  | nil => rfl
  | cons token tokens ih =>
      obtain ⟨htoken, htokens⟩ := List.forall_mem_cons.mp h
      rw [List.cons_append, withoutIdleLimit_cons htoken, ih htokens,
        List.cons_append]

end Token

namespace Dialect

theorem word_naturalText_ne_limit (n : Nat) :
    Token.word (Digits.naturalText n) ≠ .word "LIMIT" := by
  intro h
  have htext : Digits.natural n = "LIMIT".toList := by
    rw [← Token.word.inj h, Digits.naturalText, String.toList_ofList]
  have hmem : 'L' ∈ Digits.natural n := by
    rw [htext]
    decide
  have hdigit := Digits.isDigit_of_mem_natural hmem
  exact absurd hdigit (by decide)

/-- The dialects bound the rows by the same tokens but for the idle limit. -/
theorem withoutIdleLimit_limitTokens
    (limit offset : Option UInt64) (rest : List Token) :
    Token.withoutIdleLimit (sqlite.limitTokens limit offset ++ rest) =
      postgresql.limitTokens limit offset ++ Token.withoutIdleLimit rest := by
  cases limit with
  | none =>
      cases offset with
      | none => rfl
      | some offset =>
          have hoffset := word_naturalText_ne_limit offset.toNat
          simp only [limitTokens, List.cons_append, List.nil_append,
            Token.withoutIdleLimit, Token.withoutIdleLimit_cons hoffset]
  | some limit =>
      have hlimit := word_naturalText_ne_limit limit.toNat
      cases offset with
      | none =>
          simp only [limitTokens, List.cons_append, List.nil_append]
          rw [Token.withoutIdleLimit, Token.withoutIdleLimit_cons hlimit]
          intro tail _ hmark
          exact Token.noConfusion (List.cons.inj hmark).1
      | some offset =>
          have hoffset := word_naturalText_ne_limit offset.toNat
          have hword : Token.word "OFFSET" ≠ .word "LIMIT" := by decide
          simp only [limitTokens, List.cons_append, List.nil_append]
          rw [Token.withoutIdleLimit, Token.withoutIdleLimit_cons hlimit,
            Token.withoutIdleLimit_cons hword,
            Token.withoutIdleLimit_cons hoffset]
          intro tail _ hmark
          exact Token.noConfusion (List.cons.inj hmark).1

theorem filterMap_limitTokens {α : Type} (dialect : Dialect)
    {f : Token → Option α} (hword : ∀ letters, f (.word letters) = none)
    (hmark : ∀ sign, f (.mark sign) = none) (limit offset : Option UInt64) :
    (dialect.limitTokens limit offset).filterMap f = [] := by
  cases limit with
  | none =>
      cases offset with
      | none => rfl
      | some offset =>
          cases dialect with
          | sqlite => simp [limitTokens, hword, hmark]
          | postgresql => simp [limitTokens, hword]
  | some limit =>
      cases offset with
      | none => simp [limitTokens, hword]
      | some offset => simp [limitTokens, hword]

theorem map_withSign_limitTokens
    (dialect : Dialect) (sign : Char) (limit offset : Option UInt64) :
    (dialect.limitTokens limit offset).map (Token.withSign sign) =
      dialect.limitTokens limit offset := by
  cases limit with
  | none =>
      cases offset with
      | none => rfl
      | some offset => cases dialect <;> rfl
  | some limit => cases offset <;> rfl

end Dialect

namespace ColumnRef

def names (ref : ColumnRef) : List String :=
  [ref.table, ref.name]

end ColumnRef

namespace Chunk

def names : Chunk → List String
  | ident name => [name]
  | column ref => ref.names
  | _ => []

theorem filterMap_ofText
    {α : Type} {f : Token → Option α}
    (hf : ∀ token, token.isPlain = true → f token = none)
    {words : String} (h : (text words).isPlain = true) :
    (Token.ofText words).filterMap f = [] := by
  rw [List.filterMap_eq_nil_iff]
  intro token htoken
  exact hf token (List.all_eq_true.mp h token htoken)

theorem names_tokens
    (dialect : Dialect) (index : Nat) {chunk : Chunk} (h : chunk.isPlain = true) :
    (chunk.tokens dialect index).filterMap Token.name? = chunk.names := by
  cases chunk with
  | text words => exact filterMap_ofText (fun _ => Token.name?_of_isPlain) h
  | ident name => rfl
  | column ref => rfl
  | param value => rfl
  | limit count offset =>
      exact dialect.filterMap_limitTokens (fun _ => rfl) (fun _ => rfl) count offset

/-- Every quote in a chunk is closed. -/
theorem unclosed_tokens
    (dialect : Dialect) (index : Nat) {chunk : Chunk} (h : chunk.isPlain = true) :
    (chunk.tokens dialect index).filterMap Token.unclosed? = [] := by
  cases chunk with
  | text words => exact filterMap_ofText (fun _ => Token.unclosed?_of_isPlain) h
  | ident name => rfl
  | column ref => rfl
  | param value => rfl
  | limit count offset =>
      exact dialect.filterMap_limitTokens (fun _ => rfl) (fun _ => rfl) count offset

theorem placeholders_tokens
    (dialect : Dialect) (index : Nat) {chunk : Chunk} (h : chunk.isPlain = true) :
    (chunk.tokens dialect index).filterMap Token.placeholder? =
      if chunk.value?.isSome then [(dialect.placeholderSign, index + 1)] else [] := by
  cases chunk with
  | text words => exact filterMap_ofText (fun _ => Token.placeholder?_of_isPlain) h
  | ident name => rfl
  | column ref => rfl
  | param value => rfl
  | limit count offset =>
      exact dialect.filterMap_limitTokens (fun _ => rfl) (fun _ => rfl) count offset

/-- The dialects write a chunk by the same tokens but for the sign of a
placeholder and the idle limit. -/
theorem withoutIdleLimit_tokens
    (index : Nat) {chunk : Chunk} (h : chunk.isPlain = true) (rest : List Token) :
    Token.withoutIdleLimit
        ((chunk.tokens .sqlite index).map
          (Token.withSign Dialect.postgresql.placeholderSign) ++ rest) =
      chunk.tokens .postgresql index ++ Token.withoutIdleLimit rest := by
  cases chunk with
  | text words =>
      have hplain : ∀ token ∈ Token.ofText words, token.isPlain = true :=
        List.all_eq_true.mp h
      have hsigns : (Token.ofText words).map
          (Token.withSign Dialect.postgresql.placeholderSign) =
            Token.ofText words := by
        rw [List.map_congr_left fun token htoken =>
          Token.withSign_of_isPlain (hplain token htoken) _, List.map_id']
      rw [tokens, tokens, hsigns]
      exact Token.withoutIdleLimit_append
        (fun token htoken => Token.ne_limit_of_isPlain (hplain token htoken)) rest
  | ident name => exact Token.withoutIdleLimit_append (by simp [tokens, Token.withSign]) rest
  | column ref => exact Token.withoutIdleLimit_append (by simp [tokens, Token.withSign]) rest
  | param value => exact Token.withoutIdleLimit_append (by simp [tokens, Token.withSign]) rest
  | limit count offset =>
      rw [tokens, tokens, Dialect.map_withSign_limitTokens]
      exact Dialect.withoutIdleLimit_limitTokens count offset rest

end Chunk

namespace Fragment

/-- The names of tables and columns, in order. -/
def names (fragment : Fragment) : List String :=
  fragment.chunks.flatMap Chunk.names

theorem names_tokensFrom
    (dialect : Dialect) (index : Nat) {chunks : List Chunk}
    (h : ∀ chunk ∈ chunks, chunk.isPlain = true) :
    (tokensFrom dialect index chunks).filterMap Token.name? =
      chunks.flatMap Chunk.names := by
  induction chunks generalizing index with
  | nil => rfl
  | cons chunk rest ih =>
      obtain ⟨hchunk, hrest⟩ := List.forall_mem_cons.mp h
      rw [tokensFrom, List.filterMap_append, Chunk.names_tokens dialect index hchunk,
        ih _ hrest, List.flatMap_cons]

theorem unclosed_tokensFrom
    (dialect : Dialect) (index : Nat) {chunks : List Chunk}
    (h : ∀ chunk ∈ chunks, chunk.isPlain = true) :
    (tokensFrom dialect index chunks).filterMap Token.unclosed? = [] := by
  induction chunks generalizing index with
  | nil => rfl
  | cons chunk rest ih =>
      obtain ⟨hchunk, hrest⟩ := List.forall_mem_cons.mp h
      rw [tokensFrom, List.filterMap_append,
        Chunk.unclosed_tokens dialect index hchunk, ih _ hrest, List.nil_append]

theorem placeholders_tokensFrom
    (dialect : Dialect) (index : Nat) {chunks : List Chunk}
    (h : ∀ chunk ∈ chunks, chunk.isPlain = true) :
    (tokensFrom dialect index chunks).filterMap Token.placeholder? =
      (List.range' (index + 1) (chunks.filterMap Chunk.value?).length).map
        fun number => (dialect.placeholderSign, number) := by
  induction chunks generalizing index with
  | nil => rfl
  | cons chunk rest ih =>
      obtain ⟨hchunk, hrest⟩ := List.forall_mem_cons.mp h
      rw [tokensFrom, List.filterMap_append,
        Chunk.placeholders_tokens dialect index hchunk, ih _ hrest]
      cases hvalue : chunk.value? with
      | none => simp [hvalue]
      | some value => simp [hvalue, List.range'_succ]

theorem withoutIdleLimit_tokensFrom
    (index : Nat) {chunks : List Chunk}
    (h : ∀ chunk ∈ chunks, chunk.isPlain = true) :
    Token.withoutIdleLimit
        ((tokensFrom .sqlite index chunks).map
          (Token.withSign Dialect.postgresql.placeholderSign)) =
      tokensFrom .postgresql index chunks := by
  induction chunks generalizing index with
  | nil => rfl
  | cons chunk rest ih =>
      obtain ⟨hchunk, hrest⟩ := List.forall_mem_cons.mp h
      rw [tokensFrom, tokensFrom, List.map_append,
        Chunk.withoutIdleLimit_tokens index hchunk, ih _ hrest]

theorem Legible.names_ofText
    {fragment : Fragment} (h : fragment.Legible) (dialect : Dialect) :
    (Token.ofText (fragment.render dialect).sql).filterMap Token.name? =
      fragment.names := by
  rw [h.ofText_render]
  exact names_tokensFrom dialect 0 h.plain

/-- Every quote in the text of a legible fragment is closed. -/
theorem Legible.unclosed_ofText
    {fragment : Fragment} (h : fragment.Legible) (dialect : Dialect) :
    (Token.ofText (fragment.render dialect).sql).filterMap Token.unclosed? = [] := by
  rw [h.ofText_render]
  exact unclosed_tokensFrom dialect 0 h.plain

/-- The placeholders in the text of a legible fragment are numbered from one
to the number of its parameters. -/
theorem Legible.placeholders_ofText
    {fragment : Fragment} (h : fragment.Legible) (dialect : Dialect) :
    (Token.ofText (fragment.render dialect).sql).filterMap Token.placeholder? =
      (List.range' 1 (fragment.render dialect).params.length).map
        fun number => (dialect.placeholderSign, number) := by
  rw [h.ofText_render]
  exact placeholders_tokensFrom dialect 0 h.plain

/-- The two texts of a legible fragment have the same tokens but for the sign
of a placeholder and the idle limit. -/
theorem Legible.withoutIdleLimit_ofText
    {fragment : Fragment} (h : fragment.Legible) :
    Token.withoutIdleLimit
        ((Token.ofText (fragment.render .sqlite).sql).map
          (Token.withSign Dialect.postgresql.placeholderSign)) =
      Token.ofText (fragment.render .postgresql).sql := by
  rw [h.ofText_render, h.ofText_render]
  exact withoutIdleLimit_tokensFrom 0 h.plain

/-! ## Names of composed fragments -/

@[simp]
theorem names_append (first second : Fragment) :
    (first ++ second).names = first.names ++ second.names := by
  rw [names, chunks_append, List.flatMap_append]
  rfl

@[simp]
theorem names_empty : empty.names = [] :=
  rfl

@[simp]
theorem names_text (words : String) : (text words).names = [] :=
  rfl

@[simp]
theorem names_ident (name : String) : (ident name).names = [name] :=
  rfl

@[simp]
theorem names_column (ref : ColumnRef) : (column ref).names = ref.names :=
  rfl

@[simp]
theorem names_param (value : Value) : (param value).names = [] :=
  rfl

@[simp]
theorem names_limit (count offset : Option UInt64) :
    (limit count offset).names = [] := by
  rw [limit]
  split <;> rfl

@[simp]
theorem names_parens (fragment : Fragment) :
    fragment.parens.names = fragment.names := by
  simp [parens]

@[simp]
theorem names_join (separator : String) (fragments : List Fragment) :
    (join separator fragments).names = fragments.flatMap names := by
  induction fragments with
  | nil => rfl
  | cons first rest ih =>
      cases rest with
      | nil => simp [join]
      | cons second rest => simp [join, ih]

end Fragment

end TypedQuery
