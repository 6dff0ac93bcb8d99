import TypedQuery.Proofs.InsertedRecords

/-!
# Renumbered placeholders

A fragment does not number its values.  They are numbered when it is rendered, each by how
many came before it, so the text of a fragment depends on what it is put behind: all its
placeholders are raised by the number of values there, and nothing else changes.
-/

namespace TypedQuery

/-! ## Pieces of rendered text -/

/-- A piece of rendered text. -/
inductive Piece where
  /-- Text without a placeholder. -/
  | words (text : String)
  /-- The placeholder with a number. -/
  | placeholder (index : Nat)
  deriving DecidableEq, Repr

namespace Piece

def text (dialect : Dialect) : Piece → String
  | words text => text
  | placeholder index => dialect.placeholder index

def index? : Piece → Option Nat
  | words _ => none
  | placeholder index => some index

def raise (count : Nat) : Piece → Piece
  | words text => words text
  | placeholder index => placeholder (count + index)

/-- The text of pieces one after the other. -/
def textOf (dialect : Dialect) : List Piece → String
  | [] => ""
  | piece :: rest => piece.text dialect ++ textOf dialect rest

theorem textOf_append (dialect : Dialect) (first second : List Piece) :
    textOf dialect (first ++ second) = textOf dialect first ++ textOf dialect second := by
  induction first with
  | nil => exact String.empty_append.symm
  | cons piece first ih => rw [List.cons_append, textOf, textOf, ih, String.append_assoc]

theorem map_raise_zero (pieces : List Piece) : pieces.map (raise 0) = pieces := by
  have hraise : ∀ piece, raise 0 piece = piece := by
    intro piece
    cases piece with
    | words text => rfl
    | placeholder index => exact congrArg placeholder (Nat.zero_add index)
  exact (List.map_congr_left fun piece _ => hraise piece).trans (List.map_id pieces)

theorem map_raise_raise (count more : Nat) (pieces : List Piece) :
    (pieces.map (raise count)).map (raise more) = pieces.map (raise (more + count)) := by
  rw [List.map_map]
  apply List.map_congr_left
  intro piece _
  cases piece with
  | words text => rfl
  | placeholder index => exact congrArg placeholder (Nat.add_assoc more count index).symm

theorem filterMap_index?_raise (count : Nat) (pieces : List Piece) :
    (pieces.map (raise count)).filterMap index? =
      (pieces.filterMap index?).map (count + ·) := by
  induction pieces with
  | nil => rfl
  | cons piece pieces ih =>
      rw [List.map_cons]
      cases piece with
      | words text => exact ih
      | placeholder index => exact congrArg (List.cons (count + index)) ih

end Piece

namespace Chunk

/-- The number of values that a chunk carries. -/
def valueCount (chunk : Chunk) : Nat :=
  if chunk.value?.isSome then 1 else 0

/-- The piece that a chunk is written as where no values come before it. -/
def piece (dialect : Dialect) : Chunk → Piece
  | param _ => .placeholder 1
  | chunk => .words (chunk.render dialect 0)

theorem text_raise_piece (dialect : Dialect) (index : Nat) (chunk : Chunk) :
    ((chunk.piece dialect).raise index).text dialect = chunk.render dialect index := by
  cases chunk with
  | param value | text words | ident name | column ref | limit count offset => rfl

end Chunk

namespace Fragment

/-- The pieces of chunks.  A value counts for all that come after it. -/
def piecesOf (dialect : Dialect) : List Chunk → List Piece
  | [] => []
  | chunk :: rest =>
    chunk.piece dialect :: (piecesOf dialect rest).map (.raise chunk.valueCount)

/-- The pieces of a fragment that is rendered by itself. -/
def pieces (fragment : Fragment) (dialect : Dialect) : List Piece :=
  piecesOf dialect fragment.chunks

theorem length_values_cons (chunk : Chunk) (chunks : List Chunk) :
    ((chunk :: chunks).filterMap Chunk.value?).length =
      (chunks.filterMap Chunk.value?).length + chunk.valueCount := by
  cases chunk with
  | param value | text words | ident name | column ref | limit count offset => rfl

/-- Behind some values the numbers are raised, and the rest of the text stays. -/
theorem renderFrom_eq_textOf (dialect : Dialect) (index : Nat) (chunks : List Chunk) :
    renderFrom dialect index chunks =
      Piece.textOf dialect ((piecesOf dialect chunks).map (.raise index)) := by
  induction chunks generalizing index with
  | nil => rfl
  | cons chunk chunks ih =>
      rw [renderFrom, piecesOf, List.map_cons, Piece.textOf, Chunk.text_raise_piece, ih,
        Piece.map_raise_raise, Chunk.valueCount]

/-- The placeholders are numbered from one on, in order. -/
theorem filterMap_index?_piecesOf (dialect : Dialect) (chunks : List Chunk) :
    (piecesOf dialect chunks).filterMap Piece.index? =
      List.range' 1 (chunks.filterMap Chunk.value?).length := by
  induction chunks with
  | nil => rfl
  | cons chunk chunks ih =>
      have hrest : ((piecesOf dialect chunks).map (.raise chunk.valueCount)).filterMap
          Piece.index? =
            List.range' (chunk.valueCount + 1) (chunks.filterMap Chunk.value?).length := by
        rw [Piece.filterMap_index?_raise, ih, List.map_add_range']
      rw [piecesOf, length_values_cons]
      cases chunk with
      | param value => exact congrArg (List.cons 1) hrest
      | text words | ident name | column ref | limit count offset => exact hrest

theorem piecesOf_append (dialect : Dialect) (chunks rest : List Chunk) :
    piecesOf dialect (chunks ++ rest) =
      piecesOf dialect chunks ++
        (piecesOf dialect rest).map (.raise (chunks.filterMap Chunk.value?).length) := by
  induction chunks with
  | nil => exact (Piece.map_raise_zero _).symm
  | cons chunk chunks ih =>
      rw [List.cons_append, piecesOf, piecesOf, ih, List.map_append, Piece.map_raise_raise,
        length_values_cons, Nat.add_comm chunk.valueCount, List.cons_append]

/-! ## Joined fragments -/

theorem chunks_join_cons_cons (separator : String) (first second : Fragment)
    (rest : List Fragment) :
    (join separator (first :: second :: rest)).chunks =
      first.chunks ++ [.text separator] ++ (join separator (second :: rest)).chunks :=
  rfl

/-- All parts are there in order, with one separator between neighbours. -/
theorem chunks_join (separator : String) (parts : List Fragment) :
    (join separator parts).chunks = [.text separator].intercalate (parts.map chunks) := by
  induction parts with
  | nil => rfl
  | cons first rest ih =>
      cases rest with
      | nil => exact List.intercalate_singleton.symm
      | cons second rest =>
          rw [chunks_join_cons_cons, ih, List.map_cons, List.map_cons, List.map_cons,
            List.intercalate_cons_cons, List.append_assoc]

theorem count_join (separator : String) (parts : List Fragment) :
    (join separator parts).chunks.count (.text separator) =
      (parts.map fun part => part.chunks.count (.text separator)).sum +
        (parts.length - 1) := by
  induction parts with
  | nil => rfl
  | cons first rest ih =>
      cases rest with
      | nil => simp [join]
      | cons second rest =>
          rw [chunks_join_cons_cons, List.count_append, List.count_append,
            List.count_singleton_self, ih]
          simp only [List.map_cons, List.sum_cons, List.length_cons]
          omega

/-! ## Fragments by the calls that build them -/

/-- The calls that build a fragment, nested in any way. -/
inductive Draft where
  | empty
  | pushText (before : Draft) (words : String)
  | pushIdent (before : Draft) (name : String)
  | pushColumn (before : Draft) (ref : ColumnRef)
  | pushParam (before : Draft) (value : Value)
  | pushLimit (before : Draft) (count offset : Option UInt64)
  | append (first second : Draft)
  | parens (inner : Draft)
  | join (separator : String) (parts : List Draft)

namespace Draft

def build : Draft → Fragment
  | empty => .empty
  | pushText before words => before.build ++ .text words
  | pushIdent before name => before.build ++ .ident name
  | pushColumn before ref => before.build ++ .column ref
  | pushParam before value => before.build ++ .param value
  | pushLimit before count offset => before.build ++ .limit count offset
  | append first second => first.build ++ second.build
  | parens inner => inner.build.parens
  | join separator parts => .join separator (buildAll parts)
where
  /-- The fragments that the parts of a join build. -/
  buildAll : List Draft → List Fragment
    | [] => []
    | part :: parts => part.build :: buildAll parts

/-- The values that are handed to the calls, from left to right. -/
def values : Draft → List Value
  | empty => []
  | pushText before _ => before.values
  | pushIdent before _ => before.values
  | pushColumn before _ => before.values
  | pushParam before value => before.values ++ [value]
  | pushLimit before _ _ => before.values
  | append first second => first.values ++ second.values
  | parens inner => inner.values
  | join _ parts => valuesOf parts
where
  /-- The values of the parts of a join. -/
  valuesOf : List Draft → List Value
    | [] => []
    | part :: parts => part.values ++ valuesOf parts

mutual

/-- A fragment carries the values that its calls were given. -/
theorem params_build : (draft : Draft) → draft.build.params = draft.values
  | empty => rfl
  | pushText before words => by
      rw [build, params_append, params_build before, params_text, List.append_nil, values]
  | pushIdent before name => by
      rw [build, params_append, params_build before, params_ident, List.append_nil, values]
  | pushColumn before ref => by
      rw [build, params_append, params_build before, params_column, List.append_nil, values]
  | pushParam before value => by
      rw [build, params_append, params_build before, params_param, values]
  | pushLimit before count offset => by
      rw [build, params_append, params_build before, params_limit, List.append_nil, values]
  | append first second => by
      rw [build, params_append, params_build first, params_build second, values]
  | parens inner => by
      rw [build, params_parens, params_build inner, values]
  | join separator parts => by
      rw [build, params_join, params_buildAll parts, values]

theorem params_buildAll : (parts : List Draft) →
    (build.buildAll parts).flatMap params = values.valuesOf parts
  | [] => rfl
  | part :: parts => by
      rw [build.buildAll, List.flatMap_cons, params_build part, params_buildAll parts,
        values.valuesOf]

end

end Draft

/-! ## Fragments put together -/

theorem sql_render_eq_textOf (fragment : Fragment) (dialect : Dialect) :
    (fragment.render dialect).sql = Piece.textOf dialect (fragment.pieces dialect) := by
  have htext := renderFrom_eq_textOf dialect 0 fragment.chunks
  rwa [Piece.map_raise_zero] at htext

theorem pieces_append (first second : Fragment) (dialect : Dialect) :
    (first ++ second).pieces dialect =
      first.pieces dialect ++ (second.pieces dialect).map (.raise first.paramCount) :=
  piecesOf_append dialect first.chunks second.chunks

/-- Behind another fragment only the numbers of the placeholders change. -/
theorem sql_render_append (first second : Fragment) (dialect : Dialect) :
    ((first ++ second).render dialect).sql =
      (first.render dialect).sql ++
        Piece.textOf dialect ((second.pieces dialect).map (.raise first.paramCount)) := by
  rw [sql_render_eq_textOf, pieces_append, Piece.textOf_append, ← sql_render_eq_textOf]

/-- Fragments are put together without a thought for numbers.  The parameters of a fragment
are the values that its calls were given, in order, and its placeholders are numbered from
one on, one for each of them.  A fragment behind another has the same text but for its
placeholders, which are raised by the number of values of the other, and its parameters
follow.  Joined fragments are all there, with one separator between neighbours, also where
they are empty. -/
theorem render_composes (dialect : Dialect) :
    (∀ draft : Draft,
      (draft.build.render dialect).params = draft.values ∧
        draft.values.length = draft.build.paramCount) ∧
    (∀ fragment : Fragment,
      (fragment.render dialect).sql = Piece.textOf dialect (fragment.pieces dialect) ∧
        (fragment.pieces dialect).filterMap Piece.index? =
          List.range' 1 fragment.paramCount) ∧
    (∀ first second : Fragment,
      ((first ++ second).render dialect).sql =
          (first.render dialect).sql ++
            Piece.textOf dialect ((second.pieces dialect).map (.raise first.paramCount)) ∧
        ((first ++ second).render dialect).params =
          (first.render dialect).params ++ (second.render dialect).params) ∧
    ∀ (separator : String) (parts : List Fragment),
      (join separator parts).chunks = [.text separator].intercalate (parts.map chunks) ∧
        (join separator parts).chunks.count (.text separator) =
          (parts.map fun part => part.chunks.count (.text separator)).sum +
            (parts.length - 1) := by
  refine ⟨?_, ?_, ?_, ?_⟩
  · intro draft
    refine ⟨draft.params_build, ?_⟩
    rw [paramCount, draft.params_build]
  · intro fragment
    exact ⟨fragment.sql_render_eq_textOf dialect, filterMap_index?_piecesOf dialect _⟩
  · intro first second
    exact ⟨sql_render_append first second dialect, params_append first second⟩
  · intro separator parts
    exact ⟨chunks_join separator parts, count_join separator parts⟩

example :
    ((Fragment.param (.integer 1) ++ Fragment.join ", " [.param .null, .empty]).render
      .postgresql).sql = "$1$2, " := by
  decide +kernel

end Fragment

end TypedQuery
