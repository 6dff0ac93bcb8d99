import Mathlib.Data.List.Chain
import TypedQuery.Fragment
import TypedQuery.Proofs.Token

/-!
# Legible fragments

Every chunk of a fragment stands for some tokens.  A fragment is legible when
its words are plain and no two neighbouring chunks can run together.  The main
theorem says that the text of a legible fragment is read as the tokens of its
chunks, for either dialect and for all names and values.

Legibility is kept by everything that fragments are built with, so that it has
to be looked at only where two fragments meet.
-/

namespace TypedQuery

namespace Dialect

/-- The tokens of the clause that bounds the rows. -/
def limitTokens (dialect : Dialect) : Option UInt64 → Option UInt64 → List Token
  | none, none => []
  | some limit, none => [.word "LIMIT", .word (Digits.naturalText limit.toNat)]
  | some limit, some offset =>
    [.word "LIMIT", .word (Digits.naturalText limit.toNat),
      .word "OFFSET", .word (Digits.naturalText offset.toNat)]
  | none, some offset =>
    match dialect with
    | sqlite =>
      [.word "LIMIT", .mark '-', .word "1",
        .word "OFFSET", .word (Digits.naturalText offset.toNat)]
    | postgresql => [.word "OFFSET", .word (Digits.naturalText offset.toNat)]

/-- The words before an offset are complete. -/
theorem after_limit_offset (n : Nat) :
    Scan.between.after (" LIMIT " ++ Digits.naturalText n ++ " OFFSET ").toList =
      .between := by
  rw [String.toList_append, Scan.after_append,
    Token.after_append_naturalText (by decide)]
  rfl

theorem ofText_limitClause
    (dialect : Dialect) (limit offset : Option UInt64) :
    Token.ofText (dialect.limitClause limit offset) =
      dialect.limitTokens limit offset := by
  cases limit with
  | none =>
      cases offset with
      | none => rfl
      | some offset =>
          cases dialect with
          | sqlite =>
              rw [limitClause_sqlite, Token.ofText_append_naturalText (by decide)]
              rfl
          | postgresql =>
              rw [limitClause_postgresql, Token.ofText_append_naturalText (by decide)]
              rfl
  | some limit =>
      cases offset with
      | none =>
          rw [limitClause_some_none, Token.ofText_append_naturalText (by decide)]
          rfl
      | some offset =>
          have hlimit : (Scan.between.after
              (" LIMIT " ++ Digits.naturalText limit.toNat).toList).Settled
                " OFFSET ".toList := by
            rw [Token.after_append_naturalText (by decide)]
            exact Scan.settled_of_isDelimiter (fun h => h) (by decide)
          have hoffset := after_limit_offset limit.toNat
          rw [limitClause_some_some, Token.ofText_append_naturalText (by rw [hoffset]; rfl),
            Token.ofText_append hlimit,
            Token.ofText_append_naturalText (by decide)]
          rfl

/-- The clause ends with a numeral, if there is one. -/
theorem not_inName_after_limitClause
    (dialect : Dialect) (limit offset : Option UInt64) :
    ¬(Scan.between.after (dialect.limitClause limit offset).toList).InName := by
  cases limit with
  | none =>
      cases offset with
      | none => exact fun h => h
      | some offset =>
          cases dialect with
          | sqlite =>
              rw [limitClause_sqlite, Token.after_append_naturalText (by decide)]
              exact fun h => h
          | postgresql =>
              rw [limitClause_postgresql, Token.after_append_naturalText (by decide)]
              exact fun h => h
  | some limit =>
      cases offset with
      | none =>
          rw [limitClause_some_none, Token.after_append_naturalText (by decide)]
          exact fun h => h
      | some offset =>
          have hoffset := after_limit_offset limit.toNat
          rw [limitClause_some_some, Token.after_append_naturalText (by rw [hoffset]; rfl)]
          exact fun h => h

theorem exists_toList_limitClause
    (dialect : Dialect) {limit offset : Option UInt64}
    (h : (limit.isSome || offset.isSome) = true) :
    ∃ rest, (dialect.limitClause limit offset).toList = ' ' :: rest := by
  cases limit with
  | none =>
      cases offset with
      | none => exact Bool.noConfusion h
      | some offset =>
          cases dialect with
          | sqlite => exact ⟨_, by rw [limitClause_sqlite, String.toList_append]; rfl⟩
          | postgresql => exact ⟨_, by rw [limitClause_postgresql, String.toList_append]; rfl⟩
  | some limit =>
      cases offset with
      | none => exact ⟨_, by rw [limitClause_some_none, String.toList_append]; rfl⟩
      | some offset =>
          exact ⟨_, by
            rw [limitClause_some_some, String.toList_append, String.toList_append,
              String.toList_append]
            rfl⟩

end Dialect

namespace Token

/-- A word or a mark, but not the word that opens a bound on the rows. -/
def isPlain : Token → Bool
  | word letters => letters != "LIMIT"
  | mark _ => true
  | _ => false

end Token

namespace Chunk

/-- The tokens that a chunk stands for when `index` values came before it. -/
def tokens (dialect : Dialect) (index : Nat) : Chunk → List Token
  | text words => Token.ofText words
  | ident name => [.ident name]
  | column ref => [.ident ref.table, .mark '.', .ident ref.name]
  | param _ => [.placeholder dialect.placeholderSign (index + 1)]
  | limit count offset => dialect.limitTokens count offset

/-- Words are words indeed: they hold neither names nor placeholders. -/
def isPlain : Chunk → Bool
  | text words => (Token.ofText words).all Token.isPlain
  | _ => true

/-- The last token of the chunk is complete, whatever follows. -/
def isClosed : Chunk → Bool
  | text words => (Scan.between.after words.toList).isClosed
  | _ => false

def isLeading : Chunk → Bool
  | text words => words.toList.head?.any Scan.isDelimiter
  | ident _ => false
  | column _ => false
  | param _ => true
  | limit count offset => count.isSome || offset.isSome

/-- The first chunk does not run into the second. -/
def Fits (first second : Chunk) : Prop :=
  first.isClosed = true ∨ second.isLeading = true

/-- A column is read up to the point without regard to what follows. -/
theorem after_table_point (table : String) :
    Scan.between.after (Identifier.quote table ++ ".").toList = .mark '.' := by
  rw [String.toList_append, Scan.after_append, Scan.after_quote]
  rfl

theorem ofText_render
    (dialect : Dialect) (index : Nat) (chunk : Chunk) :
    Token.ofText (chunk.render dialect index) = chunk.tokens dialect index := by
  cases chunk with
  | text words => rfl
  | ident name => exact Scan.tokens_quote name
  | column ref =>
      have htable : (Scan.between.after (Identifier.quote ref.table).toList).Settled
          ".".toList := by
        rw [Scan.after_quote]
        exact Scan.settled_of_isDelimiter (fun h => h) (by decide)
      have hpoint : (Scan.between.after
          (Identifier.quote ref.table ++ ".").toList).Settled
            (Identifier.quote ref.name).toList := by
        rw [after_table_point]
        exact Scan.settled_of_isClosed rfl _
      rw [render, Token.ofText_append hpoint, Token.ofText_append htable,
        Token.ofText, Token.ofText, Token.ofText, Scan.tokens_quote,
        Scan.tokens_quote]
      rfl
  | param value => exact (Scan.tokens_placeholder dialect (index + 1)).1
  | limit count offset => exact Dialect.ofText_limitClause dialect count offset

/-- No chunk leaves an identifier open. -/
theorem not_inName_after_render
    (dialect : Dialect) (index : Nat) {chunk : Chunk} (h : chunk.isPlain = true) :
    ¬(Scan.between.after (chunk.render dialect index).toList).InName := by
  intro hname
  cases chunk with
  | text words =>
      obtain ⟨read, hread⟩ := Scan.exists_of_inName hname
      have hpending : Token.unclosed (String.ofList read) ∈
          (Scan.between.after words.toList).pending := by
        rw [show Scan.between.after words.toList = .name read from hread]
        exact List.mem_singleton.mpr rfl
      have hmem := Scan.pending_after_subset .between words.toList hpending
      have hplain := List.all_eq_true.mp h _ hmem
      exact Bool.noConfusion hplain
  | ident name =>
      rw [render, Scan.after_quote] at hname
      exact hname
  | column ref =>
      rw [render, String.toList_append, Scan.after_append, after_table_point,
        Scan.toList_quote,
        Scan.after_of_settled (Scan.settled_of_isClosed rfl _),
        ← Scan.toList_quote, Scan.after_quote] at hname
      exact hname
  | param value =>
      rw [render, (Scan.tokens_placeholder dialect (index + 1)).2] at hname
      exact hname
  | limit count offset =>
      exact Dialect.not_inName_after_limitClause dialect count offset hname

/-- A leading chunk opens its text with a delimiter. -/
theorem exists_delimiter_of_isLeading
    (dialect : Dialect) (index : Nat) {chunk : Chunk} (h : chunk.isLeading = true) :
    ∃ c rest, (chunk.render dialect index).toList = c :: rest ∧
      Scan.isDelimiter c = true := by
  cases chunk with
  | text words =>
      rw [isLeading, Option.any_eq_true] at h
      obtain ⟨c, hc, hdelimiter⟩ := h
      obtain ⟨rest, hrest⟩ := List.head?_eq_some_iff.mp hc
      exact ⟨c, rest, hrest, hdelimiter⟩
  | ident name => exact Bool.noConfusion h
  | column ref => exact Bool.noConfusion h
  | param value =>
      refine ⟨dialect.placeholderSign, Digits.natural (index + 1), ?_, ?_⟩
      · simp [render, Dialect.placeholder]
      · cases dialect <;> decide
  | limit count offset =>
      obtain ⟨rest, hrest⟩ := dialect.exists_toList_limitClause h
      exact ⟨' ', rest, hrest, by decide⟩

/-- Where chunks fit, the first is read by itself. -/
theorem settled_of_fits
    (dialect : Dialect) (index next : Nat) {first second : Chunk}
    (hplain : first.isPlain = true) (hfits : Fits first second) (rest : String) :
    (Scan.between.after (first.render dialect index).toList).Settled
      (second.render dialect next ++ rest).toList := by
  rcases hfits with hclosed | hleading
  · cases first with
    | text words => exact Scan.settled_of_isClosed hclosed _
    | ident name => exact Bool.noConfusion hclosed
    | column ref => exact Bool.noConfusion hclosed
    | param value => exact Bool.noConfusion hclosed
    | limit count offset => exact Bool.noConfusion hclosed
  · obtain ⟨c, tail, htext, hdelimiter⟩ :=
      exists_delimiter_of_isLeading dialect next hleading
    rw [String.toList_append, htext, List.cons_append]
    exact Scan.settled_of_isDelimiter
      (not_inName_after_render dialect index hplain) hdelimiter

end Chunk

namespace Fragment

/-- The tokens of chunks when `index` values came before them. -/
def tokensFrom (dialect : Dialect) (index : Nat) : List Chunk → List Token
  | [] => []
  | chunk :: rest =>
    chunk.tokens dialect index ++
      tokensFrom dialect (index + if chunk.value?.isSome then 1 else 0) rest

/-- Tokens are composed like chunks, and numbers go on from where they were. -/
theorem tokensFrom_append
    (dialect : Dialect) (index : Nat) (first second : List Chunk) :
    tokensFrom dialect index (first ++ second) =
      tokensFrom dialect index first ++
        tokensFrom dialect
          (index + (first.filterMap Chunk.value?).length) second := by
  induction first generalizing index with
  | nil => rfl
  | cons chunk first ih =>
      rw [List.cons_append, tokensFrom, tokensFrom, ih, List.append_assoc]
      cases hvalue : chunk.value? with
      | none => simp [hvalue]
      | some value =>
          have hnumber : index + 1 + (first.filterMap Chunk.value?).length =
              index + ((first.filterMap Chunk.value?).length + 1) := by omega
          simp [hvalue, hnumber]

/-- Parentheses take no number away from what comes between them. -/
theorem tokensFrom_parens
    (dialect : Dialect) (index : Nat) (fragment : Fragment) :
    tokensFrom dialect index fragment.parens.chunks =
      .mark '(' :: (tokensFrom dialect index fragment.chunks ++ [.mark ')']) := by
  have hopen : Token.ofText "(" = [.mark '('] := rfl
  have hclose : Token.ofText ")" = [.mark ')'] := rfl
  have hchunks : fragment.parens.chunks =
      .text "(" :: (fragment.chunks ++ [.text ")"]) := rfl
  rw [hchunks, tokensFrom, tokensFrom_append, Chunk.tokens, hopen,
    List.singleton_append]
  simp only [tokensFrom, Chunk.tokens, hclose, List.append_nil]
  rfl

/-- Words are plain, and no two neighbours run together. -/
structure Legible (fragment : Fragment) : Prop where
  plain : ∀ chunk ∈ fragment.chunks, chunk.isPlain = true
  fits : fragment.chunks.IsChain Chunk.Fits

theorem ofText_renderFrom
    (dialect : Dialect) (index : Nat) {chunks : List Chunk}
    (hplain : ∀ chunk ∈ chunks, chunk.isPlain = true)
    (hfits : chunks.IsChain Chunk.Fits) :
    Token.ofText (renderFrom dialect index chunks) =
      tokensFrom dialect index chunks := by
  induction chunks generalizing index with
  | nil => rfl
  | cons chunk rest ih =>
      obtain ⟨hchunk, hothers⟩ := List.forall_mem_cons.mp hplain
      have hrest := ih (index + if chunk.value?.isSome then 1 else 0)
        hothers hfits.tail
      have hsettled : (Scan.between.after
          (chunk.render dialect index).toList).Settled
            (renderFrom dialect
              (index + if chunk.value?.isSome then 1 else 0) rest).toList := by
        cases rest with
        | nil => exact Scan.settled_nil _
        | cons next rest =>
            exact Chunk.settled_of_fits dialect index _ hchunk hfits.rel _
      rw [renderFrom, Token.ofText_append hsettled, Chunk.ofText_render, hrest,
        tokensFrom]

/-- The text of a legible fragment is read as the tokens of its chunks. -/
theorem Legible.ofText_render
    {fragment : Fragment} (h : fragment.Legible) (dialect : Dialect) :
    Token.ofText (fragment.render dialect).sql =
      tokensFrom dialect 0 fragment.chunks :=
  ofText_renderFrom dialect 0 h.plain h.fits

/-! ## Building legible fragments -/

/-- Whatever follows, it does not run into the fragment. -/
def IsClosed (fragment : Fragment) : Prop :=
  ∀ chunk ∈ fragment.chunks.getLast?, chunk.isClosed = true

/-- The fragment does not run into what comes before it. -/
def IsLeading (fragment : Fragment) : Prop :=
  ∀ chunk ∈ fragment.chunks.head?, chunk.isLeading = true

theorem legible_empty : empty.Legible :=
  ⟨fun chunk h => by simp [empty] at h, List.IsChain.nil⟩

theorem legible_chunk {chunk : Chunk} (h : chunk.isPlain = true) :
    (Fragment.mk [chunk]).Legible := by
  constructor
  · intro other hother
    rw [List.mem_singleton.mp hother]
    exact h
  · exact List.IsChain.singleton chunk

theorem legible_text {words : String} (h : (Chunk.text words).isPlain = true) :
    (text words).Legible :=
  legible_chunk h

theorem legible_ident (name : String) : (ident name).Legible :=
  legible_chunk rfl

theorem legible_column (ref : ColumnRef) : (column ref).Legible :=
  legible_chunk rfl

theorem legible_param (value : Value) : (param value).Legible :=
  legible_chunk rfl

theorem legible_limit (count offset : Option UInt64) :
    (limit count offset).Legible := by
  rw [limit]
  split
  · exact legible_chunk rfl
  · exact legible_empty

theorem Legible.append
    {first second : Fragment} (hfirst : first.Legible) (hsecond : second.Legible)
    (h : first.IsClosed ∨ second.IsLeading) :
    (first ++ second).Legible := by
  constructor
  · intro chunk hchunk
    rw [chunks_append, List.mem_append] at hchunk
    rcases hchunk with hchunk | hchunk
    · exact hfirst.plain chunk hchunk
    · exact hsecond.plain chunk hchunk
  · rw [chunks_append]
    apply hfirst.fits.append hsecond.fits
    -- Only the seam is new: the last chunk before it and the first one after.
    intro last hlast next hnext
    rcases h with hclosed | hleading
    · exact Or.inl (hclosed last hlast)
    · exact Or.inr (hleading next hnext)

theorem isLeading_text {words : String} (h : (Chunk.text words).isLeading = true) :
    (text words).IsLeading := by
  intro chunk hchunk
  obtain rfl : Chunk.text words = chunk := by simpa [text] using hchunk
  exact h

theorem isLeading_param (value : Value) : (param value).IsLeading := by
  intro chunk hchunk
  obtain rfl : Chunk.param value = chunk := by simpa [param] using hchunk
  rfl

theorem isLeading_empty : empty.IsLeading := by
  intro chunk hchunk
  simp [empty] at hchunk

theorem isLeading_limit (count offset : Option UInt64) :
    (limit count offset).IsLeading := by
  rw [limit]
  split
  · rename_i h
    intro chunk hchunk
    obtain rfl : Chunk.limit count offset = chunk := by simpa using hchunk
    exact h
  · exact isLeading_empty

theorem IsLeading.append
    {first second : Fragment} (hfirst : first.IsLeading)
    (hne : first.chunks ≠ []) :
    (first ++ second).IsLeading := by
  intro chunk hchunk
  rw [chunks_append, List.head?_append_of_ne_nil _ hne] at hchunk
  exact hfirst chunk hchunk

theorem isClosed_text {words : String} (h : (Chunk.text words).isClosed = true) :
    (text words).IsClosed := by
  intro chunk hchunk
  obtain rfl : Chunk.text words = chunk := by simpa [text] using hchunk
  exact h

theorem isClosed_append_text
    (fragment : Fragment) {words : String}
    (h : (Chunk.text words).isClosed = true) :
    (fragment ++ text words).IsClosed := by
  intro chunk hchunk
  obtain rfl : Chunk.text words = chunk := by
    simpa [chunks_append, text] using hchunk
  exact h

/-- Words that begin with a delimiter may follow anything. -/
theorem Legible.append_text
    {fragment : Fragment} (h : fragment.Legible) (words : String)
    (hplain : (Chunk.text words).isPlain = true)
    (hleading : (Chunk.text words).isLeading = true) :
    (fragment ++ text words).Legible :=
  h.append (legible_text hplain) (Or.inr (isLeading_text hleading))

/-- Anything may follow closed words. -/
theorem Legible.text_append
    {fragment : Fragment} (h : fragment.Legible) {words : String}
    (hplain : (Chunk.text words).isPlain = true)
    (hclosed : (Chunk.text words).isClosed = true) :
    (text words ++ fragment).Legible :=
  (legible_text hplain).append h (Or.inl (isClosed_text hclosed))

theorem isLeading_text_append
    (fragment : Fragment) {words : String}
    (h : (Chunk.text words).isLeading = true) :
    (text words ++ fragment).IsLeading :=
  (isLeading_text h).append (by simp [text])

theorem Legible.append_param
    {fragment : Fragment} (h : fragment.Legible) (value : Value) :
    (fragment ++ param value).Legible :=
  h.append (legible_param value) (Or.inr (isLeading_param value))

theorem Legible.parens {fragment : Fragment} (h : fragment.Legible) :
    fragment.parens.Legible := by
  have hopen : (text "(" ++ fragment).Legible :=
    h.text_append (by decide) (by decide)
  exact hopen.append_text _ (by decide) (by decide)

theorem isLeading_parens (fragment : Fragment) : fragment.parens.IsLeading := by
  have hopen : (text "(" ++ fragment).IsLeading :=
    isLeading_text_append fragment (by decide)
  exact hopen.append (by simp [text])

theorem legible_join
    {separator : String}
    (hplain : (Chunk.text separator).isPlain = true)
    (hleading : (Chunk.text separator).isLeading = true)
    (hclosed : (Chunk.text separator).isClosed = true)
    {fragments : List Fragment}
    (h : ∀ fragment ∈ fragments, fragment.Legible) :
    (join separator fragments).Legible := by
  induction fragments with
  | nil => exact legible_empty
  | cons first rest ih =>
      obtain ⟨hfirst, hothers⟩ := List.forall_mem_cons.mp h
      have hrest := ih hothers
      cases rest with
      | nil => exact hfirst
      | cons second rest =>
          exact (hfirst.append_text _ hplain hleading).append hrest
            (Or.inl (isClosed_append_text first hclosed))

end Fragment

end TypedQuery
