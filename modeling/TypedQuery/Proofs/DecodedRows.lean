import TypedQuery.Proofs.PluckedRows
import TypedQuery.Proofs.StoredRecords

/-!
# Decoded rows

A row is read by one cursor that all parts of a shape move on, so what is read is
decided by position alone: the leaves of the shape in order against the cells in order.
Either every leaf reads the cell at its position and no cell is left, or there is a first
place where this fails, and the error is the one of that place.
-/

namespace TypedQuery

/-! ## Failures of a value -/

/-- If there is no value, it is because something was not of a kind or out of its
domain. -/
def FailsByValue {α : Type} (result : Result α) : Prop :=
  ∀ error, result = .error error → error.kind = .conversion ∨ error.kind = .domain

namespace FailsByValue

variable {α β : Type}

theorem ok (value : α) : FailsByValue (.ok value) := by
  intro error h
  cases h

theorem conversion (message : String) :
    FailsByValue (.error ⟨.conversion, message⟩ : Result α) := by
  intro error h
  obtain rfl := Except.error.inj h
  exact Or.inl rfl

theorem domain (message : String) :
    FailsByValue (.error ⟨.domain, message⟩ : Result α) := by
  intro error h
  obtain rfl := Except.error.inj h
  exact Or.inr rfl

theorem bind {result : Result α} {next : α → Result β} (h : FailsByValue result)
    (hnext : ∀ value, FailsByValue (next value)) : FailsByValue (result >>= next) := by
  cases result with
  | error error =>
      intro other hother
      obtain rfl := Except.error.inj hother
      exact h error rfl
  | ok value => exact hnext value

theorem map {result : Result α} (h : FailsByValue result) (f : α → β) :
    FailsByValue (f <$> result) := by
  cases result with
  | error error =>
      intro other hother
      obtain rfl := Except.error.inj hother
      exact h error rfl
  | ok value => exact ok (f value)

end FailsByValue

namespace Kind

theorem failsByValue_narrow (type : IntegerType) (i : Int) :
    FailsByValue (narrow type i) := by
  rw [narrow]
  split
  · exact .ok _
  · exact .domain _

theorem failsByValue_parseInteger (type : IntegerType) (text : String) :
    FailsByValue (parseInteger type text) := by
  rw [parseInteger]
  split
  · exact .conversion _
  · split
    · exact .conversion _
    · split
      · exact .domain _
      · exact failsByValue_narrow type _

theorem failsByValue_decodeInteger (type : IntegerType) (cell : Value) :
    FailsByValue (decodeInteger type cell) := by
  cases cell with
  | null => exact .ok none
  | integer i => exact (failsByValue_narrow type _).map some
  | boolean b => exact (failsByValue_narrow type _).map some
  | real r =>
      rw [decodeInteger]
      split
      · exact (failsByValue_narrow type _).map some
      · exact .conversion _
  | text s => exact (failsByValue_parseInteger type s).map some
  | _ => exact .conversion _

theorem failsByValue_check (kind : Kind) (value : kind.Carrier) :
    FailsByValue (kind.check value) := by
  cases kind with
  | decimal =>
      rw [check, checkDecimal]
      split
      · exact .ok ()
      · exact .domain _
  | _ => exact .ok ()

theorem failsByValue_parse (kind : Kind) (text : String) :
    FailsByValue (kind.parse text) := by
  cases kind with
  | integer type => exact failsByValue_parseInteger type text
  | foreignKey target => exact failsByValue_parseInteger .int64 text
  | decimal =>
      rw [parse, parseDecimal]
      split
      · exact .conversion _
      · exact (failsByValue_check .decimal _).bind fun _ => .ok _
  | boolean =>
      rw [parse, parseBoolean]
      split
      · exact .ok true
      · split
        · exact .ok false
        · exact .conversion _
  | text => exact .ok text
  | binary =>
      rw [parse, parseBinary]
      split
      · exact .ok _
      · exact .conversion _
  | dateTime =>
      rw [parse, parseDateTime]
      split
      · exact .ok _
      · exact .conversion _

/-- A cell that cannot be read is not of the kind, or it is beyond its bounds. -/
theorem failsByValue_decode (kind : Kind) (cell : Value) :
    FailsByValue (kind.decode cell) := by
  cases kind with
  | integer type => exact failsByValue_decodeInteger type cell
  | foreignKey target => exact failsByValue_decodeInteger .int64 cell
  | decimal =>
      cases cell with
      | text s => exact (failsByValue_parse .decimal s).map some
      | null | real r | integer i => exact .ok _
      | _ => exact .conversion _
  | boolean =>
      cases cell with
      | text s => exact (failsByValue_parse .boolean s).map some
      | null | boolean b | integer i => exact .ok _
      | _ => exact .conversion _
  | text =>
      cases cell with
      | blob bytes =>
          rw [decode, textOfBytes]
          split
          · exact .ok _
          · exact .conversion _
      | null | text s => exact .ok _
      | _ => exact .conversion _
  | binary =>
      cases cell with
      | null | text s | blob bytes => exact .ok _
      | _ => exact .conversion _
  | dateTime =>
      cases cell with
      | text s => exact (failsByValue_parse .dateTime s).map some
      | null | timestamp t => exact .ok _
      | _ => exact .conversion _

end Kind

theorem Attribute.failsByValue_ofCell (kind : Kind) (cell : Value) :
    FailsByValue (Attribute.ofCell cell : Result (Attribute kind)) := by
  refine (Kind.failsByValue_decode kind cell).bind fun value => .map ?_ Attribute.mk
  cases value with
  | none => exact .ok none
  | some value => exact (Kind.failsByValue_check kind value).bind fun _ => .ok (some value)

/-! ## Columns against cells -/

namespace Column

/-- The cell is read as a value of the column, in its domain. -/
def Reads (column : Column) (cell : Value) : Prop :=
  ∃ attr : Attribute column.kind, Attribute.ofCell cell = .ok attr

/-- There is one cell for each column, and each is read as a value of its column. -/
def Fits (columns : List Column) (cells : List Value) : Prop :=
  List.Forall₂ Reads columns cells

end Column

/-- The leaf holds what is read from the cell. -/
def Leaf.OfCell (leaf : Leaf) (cell : Value) : Prop :=
  Attribute.ofCell cell = .ok leaf.attr

theorem Leaf.eq_of_ofCell {leaves others : List Leaf} {cells : List Value}
    (hcolumns : leaves.map Leaf.column = others.map Leaf.column)
    (hleaves : List.Forall₂ Leaf.OfCell leaves cells)
    (hothers : List.Forall₂ Leaf.OfCell others cells) : leaves = others := by
  induction hleaves generalizing others with
  | nil =>
      cases hothers
      rfl
  | @cons leaf cell leaves cells hleaf _ ih =>
      cases hothers with
      | @cons other _ others _ hother hothers =>
          obtain ⟨hcolumn, hrest⟩ := List.cons.inj hcolumns
          obtain ⟨column, attr⟩ := leaf
          obtain ⟨column', attr'⟩ := other
          obtain rfl : column = column' := hcolumn
          obtain rfl : attr = attr' := Except.ok.inj (hleaf.symm.trans hother)
          rw [ih hrest hothers]

/-- Why a row is not read as values of some columns: from the left, the cell of a column
is not of its kind or out of its domain, or there is no cell for a column, or there is a
cell after those of all columns. -/
inductive RowFault : List Column → List Value → Error → Prop where
  | cell {columns : List Column} {cells : List Value} {column : Column} {cell : Value}
      {error : Error} (hfits : Column.Fits columns cells)
      (hcell : (Attribute.ofCell cell : Result (Attribute column.kind)) = .error error)
      (later : List Column) (after : List Value) :
      RowFault (columns ++ column :: later) (cells ++ cell :: after)
        ⟨error.kind, Column.cellContext cells.length column.name ++ error.message⟩
  | tooShort {columns : List Column} {cells : List Value}
      (hfits : Column.Fits columns cells) (column : Column) (later : List Column) :
      RowFault (columns ++ column :: later) cells (RowReader.tooShort cells.length)
  | tooLong {columns : List Column} {cells : List Value}
      (hfits : Column.Fits columns cells) (cell : Value) (after : List Value) :
      RowFault columns (cells ++ cell :: after)
        (RowReader.tooLong columns.length (after.length + 1))

/-- A row with a fault after its first cell is a row with a fault. -/
theorem RowFault.cons {columns : List Column} {column : Column} {cells : List Value}
    {cell : Value} {error : Error} (h : RowFault columns cells error)
    (hreads : column.Reads cell) :
    ∃ error', RowFault (column :: columns) (cell :: cells) error' := by
  cases h with
  | cell hfits hcell later after =>
      exact ⟨_, .cell (.cons hreads hfits) hcell later after⟩
  | tooShort hfits next later => exact ⟨_, .tooShort (.cons hreads hfits) next later⟩
  | tooLong hfits next after => exact ⟨_, .tooLong (.cons hreads hfits) next after⟩

/-- The cells fit the columns, or there is a first place where they do not. -/
theorem Column.fits_or_exists_rowFault (columns : List Column) (cells : List Value) :
    Fits columns cells ∨ ∃ error, RowFault columns cells error := by
  induction columns generalizing cells with
  | nil =>
      cases cells with
      | nil => exact Or.inl .nil
      | cons cell cells => exact Or.inr ⟨_, RowFault.tooLong .nil cell cells⟩
  | cons column columns ih =>
      cases cells with
      | nil => exact Or.inr ⟨_, RowFault.tooShort .nil column columns⟩
      | cons cell cells =>
          cases hcell : (Attribute.ofCell cell : Result (Attribute column.kind)) with
          | error error => exact Or.inr ⟨_, RowFault.cell .nil hcell columns cells⟩
          | ok attr =>
              rcases ih cells with hfits | ⟨error, hfault⟩
              · exact Or.inl (.cons ⟨attr, hcell⟩ hfits)
              · exact Or.inr (hfault.cons ⟨attr, hcell⟩)

/-! ## Shapes of what is read -/

namespace Record

theorem columns_leaves {fields : List Field} (entry : Record fields) (table : String) :
    (entry.leaves table).map Leaf.column =
      fields.map fun field => ⟨table, field.name, field.kind⟩ := by
  induction entry with
  | nil => rfl
  | cons attr rest ih => exact congrArg (List.cons _) ih

theorem eq_of_leaves {fields : List Field} {entry other : Record fields} (table : String)
    (h : entry.leaves table = other.leaves table) : entry = other := by
  induction entry with
  | nil =>
      cases other with
      | nil => rfl
  | cons attr rest ih =>
      cases other with
      | cons attr' rest' =>
          obtain ⟨hattr, hrest⟩ := List.cons.inj h
          obtain rfl := ih hrest
          cases hattr
          rfl

end Record

namespace Row

def shape : Row → RowShape
  | .attribute source _ => .column source
  | .record table _ => .model table
  | .tuple parts => .tuple (shapesOf parts)
where
  /-- The shapes of rows one after the other. -/
  shapesOf : List Row → List RowShape
    | [] => []
    | part :: parts => part.shape :: shapesOf parts

mutual

theorem columns_shape : (row : Row) → row.shape.columns = row.leaves.map Leaf.column
  | .attribute _ _ => rfl
  | .record table entry => (entry.columns_leaves table.table).symm
  | .tuple parts => columns_shapesOf parts

theorem columns_shapesOf : (parts : List Row) →
    RowShape.columns.columnsOf (shape.shapesOf parts) =
      (leaves.leavesOf parts).map Leaf.column
  | [] => rfl
  | part :: parts => by
      rw [leaves.leavesOf, List.map_append, ← columns_shape part, ← columns_shapesOf parts]
      rfl

end

theorem columns_leaves_of_shape_eq {row other : Row} (h : row.shape = other.shape) :
    row.leaves.map Leaf.column = other.leaves.map Leaf.column := by
  rw [← columns_shape, ← columns_shape, h]

theorem length_leaves {row other : Row} (h : row.shape = other.shape) :
    row.leaves.length = other.leaves.length := by
  simpa using congrArg List.length (columns_leaves_of_shape_eq h)

mutual

/-- Rows of one shape with the same leaves are the same. -/
theorem eq_of_leaves : (row other : Row) → row.shape = other.shape →
    row.leaves = other.leaves → row = other
  | .attribute source attr, .attribute source' attr' => by
      intro _ hleaves
      obtain ⟨hleaf, -⟩ := List.cons.inj hleaves
      cases hleaf
      rfl
  | .record table entry, .record table' entry' => by
      intro hshape hleaves
      obtain rfl := RowShape.model.inj hshape
      exact congrArg (record table) (Record.eq_of_leaves table.table hleaves)
  | .tuple parts, .tuple others => by
      intro hshape hleaves
      have hshapes := RowShape.tuple.inj hshape
      exact congrArg tuple (eq_of_leavesOf parts others hshapes hleaves)
  | .attribute _ _, .record _ _ | .attribute _ _, .tuple _
  | .record _ _, .attribute _ _ | .record _ _, .tuple _
  | .tuple _, .attribute _ _ | .tuple _, .record _ _ => nofun

theorem eq_of_leavesOf : (parts others : List Row) →
    shape.shapesOf parts = shape.shapesOf others →
    leaves.leavesOf parts = leaves.leavesOf others → parts = others
  | [], [] => fun _ _ => rfl
  | part :: parts, other :: others => by
      intro hshapes hleaves
      obtain ⟨hshape, hrest⟩ := List.cons.inj hshapes
      -- Parts of one shape have as many leaves, so the lists part at the same place.
      obtain ⟨hfirst, hothers⟩ := List.append_inj hleaves (length_leaves hshape)
      rw [eq_of_leaves part other hshape hfirst, eq_of_leavesOf parts others hrest hothers]
  | [], _ :: _ | _ :: _, [] => nofun

end

/-- The row is of a shape, and its leaves hold what is read from the cells, each from
the cell at its position. -/
structure IsRead (shape : RowShape) (row : Row) (cells : List Value) : Prop where
  shape_eq : row.shape = shape
  leaves : List.Forall₂ Leaf.OfCell row.leaves cells

variable {shape : RowShape} {row : Row} {cells : List Value}

theorem IsRead.fits (h : row.IsRead shape cells) : Column.Fits shape.columns cells := by
  rw [← h.shape_eq, columns_shape, Column.Fits, List.forall₂_map_left_iff]
  exact h.leaves.imp fun leaf _ hleaf => ⟨leaf.attr, hleaf⟩

/-- No two rows of one shape are read from the same cells. -/
theorem IsRead.eq {other : Row} (h : row.IsRead shape cells)
    (hother : other.IsRead shape cells) : row = other := by
  have hshape : row.shape = other.shape := h.shape_eq.trans hother.shape_eq.symm
  apply eq_of_leaves row other hshape
  exact Leaf.eq_of_ofCell (columns_leaves_of_shape_eq hshape) h.leaves hother.leaves

end Row

namespace RowShape

open TypedQuery.Action

mutual

theorem yields_shape (mode : CellMode) : (shape : RowShape) →
    Yields (shape.read mode) fun row => row.shape = shape
  | .column _ => (yields_true _).bind fun _ _ => yields_pure rfl
  | .model _ => (yields_true _).bind fun _ _ => yields_pure rfl
  | .tuple parts => (yields_shapes mode parts).bind fun _ hrows =>
      yields_pure (congrArg RowShape.tuple hrows)

theorem yields_shapes (mode : CellMode) : (parts : List RowShape) →
    Yields (read.readAll mode parts) fun rows => Row.shape.shapesOf rows = parts
  | [] => yields_pure rfl
  | part :: parts => by
      refine (yields_shape mode part).bind fun row hrow => ?_
      refine (yields_shapes mode parts).bind fun rows hrows => yields_pure ?_
      rw [Row.shape.shapesOf, hrow, hrows]

end

end RowShape

namespace RowReader

/-- Reads the next cells as leaves, one for each column. -/
def readLeaves : List Column → Read (List Leaf)
  | [] => return []
  | column :: columns => do
    let attr ← RowShape.readColumn .located column
    let leaves ← readLeaves columns
    return ⟨column, attr⟩ :: leaves

theorem readLeaves_append (columns more : List Column) :
    readLeaves (columns ++ more) = do
      let first ← readLeaves columns
      let second ← readLeaves more
      return first ++ second := by
  induction columns with
  | nil => simp [readLeaves]
  | cons column columns ih => simp [readLeaves, ih]

theorem leaves_readRecord (table : String) (fields : List Field) :
    Record.leaves table <$> Record.read fields =
      readLeaves (fields.map fun field => ⟨table, field.name, field.kind⟩) := by
  induction fields with
  | nil => simp [Record.read, Record.leaves, readLeaves]
  | cons field fields ih =>
      rw [List.map_cons, readLeaves, ← ih]
      simp [Record.read, Record.leaves, RowShape.readColumn]

mutual

theorem leaves_read : (shape : RowShape) →
    Row.leaves <$> shape.read .located = readLeaves shape.columns
  | .column source => by
      simp [RowShape.read, RowShape.columns, readLeaves, Row.leaves]
  | .model table => by
      rw [RowShape.columns, Model.columns, ← leaves_readRecord]
      simp [RowShape.read, Row.leaves]
  | .tuple parts => by
      rw [RowShape.columns, ← leaves_readAll]
      simp [RowShape.read, Row.leaves]

theorem leaves_readAll : (parts : List RowShape) →
    Row.leaves.leavesOf <$> RowShape.read.readAll .located parts =
      readLeaves (RowShape.columns.columnsOf parts)
  | [] => by
      simp [RowShape.read.readAll, RowShape.columns.columnsOf, readLeaves,
        Row.leaves.leavesOf]
  | part :: parts => by
      rw [RowShape.columns.columnsOf, readLeaves_append, ← leaves_read, ← leaves_readAll]
      simp [RowShape.read.readAll, Row.leaves.leavesOf]

end

/-! ## What a reader comes to -/

theorem readColumn_of_ok {column : Column} {cell : Value} {attr : Attribute column.kind}
    (h : Attribute.ofCell cell = .ok attr) (cells : List Value) (position : Nat) :
    RowShape.readColumn .located column ⟨cell :: cells, position⟩ =
      (.ok attr, ⟨cells, position + 1⟩) := by
  rw [readColumn_located_cons, h]
  rfl

theorem readColumn_of_error {column : Column} {cell : Value} {error : Error}
    (h : (Attribute.ofCell cell : Result (Attribute column.kind)) = .error error)
    (cells : List Value) (position : Nat) :
    RowShape.readColumn .located column ⟨cell :: cells, position⟩ =
      (.error ⟨error.kind, Column.cellContext position column.name ++ error.message⟩,
        ⟨cells, position + 1⟩) := by
  have hcontext : error.withContext (Column.cellContext position column.name) =
      ⟨error.kind, Column.cellContext position column.name ++ error.message⟩ :=
    if_pos (Attribute.failsByValue_ofCell column.kind cell error h)
  rw [readColumn_located_cons, h, ← hcontext]
  rfl

/-- Columns take the cells that fit them, and no others. -/
theorem exists_readLeaves_of_fits {columns : List Column} {cells : List Value}
    (h : Column.Fits columns cells) (rest : List Value) (position : Nat) :
    ∃ leaves, List.Forall₂ Leaf.OfCell leaves cells ∧
      readLeaves columns ⟨cells ++ rest, position⟩ =
        (.ok leaves, ⟨rest, position + cells.length⟩) := by
  induction h generalizing position with
  | nil => exact ⟨[], .nil, rfl⟩
  | @cons column cell columns cells hreads hfits ih =>
      obtain ⟨attr, hattr⟩ := hreads
      obtain ⟨leaves, hleaves, hrest⟩ := ih (position + 1)
      have hplace : position + 1 + cells.length = position + (cell :: cells).length := by
        rw [List.length_cons]
        omega
      refine ⟨⟨column, attr⟩ :: leaves, .cons hattr hleaves, ?_⟩
      rw [readLeaves, List.cons_append, Action.bind_apply, readColumn_of_ok hattr]
      simp only [Action.bind_apply, hrest, hplace]
      rfl

theorem readLeaves_of_error {columns : List Column} {cells : List Value}
    (h : Column.Fits columns cells) {column : Column} {rest : List Value} {error : Error}
    {after : RowReader}
    (hcolumn : RowShape.readColumn .located column ⟨rest, cells.length⟩ =
      (.error error, after)) (later : List Column) :
    readLeaves (columns ++ column :: later) (start (cells ++ rest)) =
      (.error error, after) := by
  obtain ⟨leaves, -, hleaves⟩ := exists_readLeaves_of_fits h rest 0
  rw [Nat.zero_add] at hleaves
  rw [readLeaves_append, Action.bind_apply, start, hleaves, readLeaves]
  simp only [Action.bind_apply, hcolumn]

section

variable {shape : RowShape} {state after : RowReader}

theorem exists_read_of_readLeaves {leaves : List Leaf}
    (h : readLeaves shape.columns state = (.ok leaves, after)) :
    ∃ row, row.shape = shape ∧ row.leaves = leaves ∧
      shape.read .located state = (.ok row, after) := by
  rw [← leaves_read, Action.map_apply] at h
  obtain ⟨hleaves, hafter⟩ := Prod.mk.inj h
  obtain ⟨row, hrow, hmap⟩ := map_eq_ok_iff.mp hleaves
  have hread : shape.read .located state = (.ok row, after) := Prod.ext hrow hafter
  exact ⟨row, RowShape.yields_shape .located shape _ _ _ hread, hmap, hread⟩

theorem read_of_readLeaves_error {error : Error}
    (h : readLeaves shape.columns state = (.error error, after)) :
    shape.read .located state = (.error error, after) := by
  rw [← leaves_read, Action.map_apply] at h
  obtain ⟨herror, hafter⟩ := Prod.mk.inj h
  cases hread : (shape.read .located state).1 with
  | ok row =>
      rw [hread] at herror
      cases herror
  | error error' =>
      rw [hread] at herror
      obtain rfl := Except.error.inj herror
      exact Prod.ext hread hafter

end

theorem exists_read_of_fits {shape : RowShape} {cells : List Value}
    (h : Column.Fits shape.columns cells) (rest : List Value) :
    ∃ row : Row, row.IsRead shape cells ∧
      shape.read .located (start (cells ++ rest)) = (.ok row, ⟨rest, cells.length⟩) := by
  obtain ⟨leaves, hleaves, hread⟩ := exists_readLeaves_of_fits h rest 0
  rw [Nat.zero_add] at hread
  obtain ⟨row, hshape, rfl, hrow⟩ := exists_read_of_readLeaves hread
  exact ⟨row, ⟨hshape, hleaves⟩, hrow⟩

theorem read_of_rowFault {shape : RowShape} {cells : List Value} {error : Error}
    (h : RowFault shape.columns cells error) :
    (∃ after, shape.read .located (start cells) = (.error error, after)) ∨
    ∃ own cell rest, ∃ row : Row,
      cells = own ++ cell :: rest ∧
      row.IsRead shape own ∧
      shape.read .located (start cells) = (.ok row, ⟨cell :: rest, own.length⟩) ∧
      error = tooLong own.length (rest.length + 1) := by
  generalize hcolumns : shape.columns = columns at h
  cases h with
  | cell hfits hcell later after =>
      have hleaves := readLeaves_of_error hfits (readColumn_of_error hcell after _) later
      rw [← hcolumns] at hleaves
      exact Or.inl ⟨_, read_of_readLeaves_error hleaves⟩
  | tooShort hfits column later =>
      have hleaves := readLeaves_of_error hfits (readColumn_nil .located column _) later
      rw [← hcolumns, List.append_nil] at hleaves
      exact Or.inl ⟨_, read_of_readLeaves_error hleaves⟩
  | @tooLong _ own hfits cell rest =>
      have hlength : columns.length = own.length := hfits.length_eq
      rw [← hcolumns] at hfits
      obtain ⟨row, hrow, hread⟩ := exists_read_of_fits hfits (cell :: rest)
      exact Or.inr ⟨own, cell, rest, row, rfl, hrow, hread, by rw [hlength]⟩

theorem read_cases (shape : RowShape) (cells : List Value) :
    (∃ own rest, ∃ row : Row,
      cells = own ++ rest ∧
      row.IsRead shape own ∧
      shape.read .located (start cells) = (.ok row, ⟨rest, own.length⟩)) ∨
    ∃ error after, shape.read .located (start cells) = (.error error, after) := by
  rcases Column.fits_or_exists_rowFault shape.columns cells with hfits | ⟨error, hfault⟩
  · obtain ⟨row, hrow, hread⟩ := exists_read_of_fits hfits []
    rw [List.append_nil] at hread
    exact Or.inl ⟨cells, [], row, (List.append_nil cells).symm, hrow, hread⟩
  · rcases read_of_rowFault hfault with ⟨after, hread⟩ | ⟨own, cell, rest, row, h⟩
    · exact Or.inr ⟨error, after, hread⟩
    · exact Or.inl ⟨own, cell :: rest, row, h.1, h.2.1, h.2.2.1⟩

/-! ## Whole rows -/

theorem readRow_of_left {α : Type} {read : Read α} {cells left : List Value} {value : α}
    {cell : Value} {position : Nat}
    (h : read (start cells) = (.ok value, ⟨cell :: left, position⟩)) :
    readRow read cells = .error (tooLong position (left.length + 1)) := by
  simp only [readRow, ExceptT.run, Action.bind_apply, h]
  rfl

theorem readRow_of_error {α : Type} {read : Read α} {cells : List Value} {error : Error}
    {after : RowReader} (h : read (start cells) = (.error error, after)) :
    readRow read cells = .error error := by
  simp only [readRow, ExceptT.run, Action.bind_apply, h]

theorem exists_readRow_of_fits {shape : RowShape} {cells : List Value}
    (h : Column.Fits shape.columns cells) :
    ∃ row : Row, row.IsRead shape cells ∧
      readRow (shape.read .located) cells = .ok row := by
  obtain ⟨row, hrow, hread⟩ := exists_read_of_fits h []
  rw [List.append_nil] at hread
  exact ⟨row, hrow, readRow_of_read hread⟩

theorem readRow_of_rowFault {shape : RowShape} {cells : List Value} {error : Error}
    (h : RowFault shape.columns cells error) :
    readRow (shape.read .located) cells = .error error := by
  rcases read_of_rowFault h with ⟨after, hread⟩ | ⟨own, cell, rest, row, -, -, hread, rfl⟩
  · exact readRow_of_error hread
  · exact readRow_of_left hread

theorem readRow_eq_ok_iff {shape : RowShape} {cells : List Value} {row : Row} :
    readRow (shape.read .located) cells = .ok row ↔ row.IsRead shape cells := by
  constructor
  · intro h
    rcases Column.fits_or_exists_rowFault shape.columns cells with hfits | ⟨error, hfault⟩
    · obtain ⟨other, hother, hread⟩ := exists_readRow_of_fits hfits
      obtain rfl := Except.ok.inj (h.symm.trans hread)
      exact hother
    · rw [readRow_of_rowFault hfault] at h
      cases h
  · intro h
    obtain ⟨other, hother, hread⟩ := exists_readRow_of_fits h.fits
    rw [h.eq hother, hread]

theorem readRow_eq_error_iff {shape : RowShape} {cells : List Value} {error : Error} :
    readRow (shape.read .located) cells = .error error ↔
      RowFault shape.columns cells error := by
  constructor
  · intro h
    rcases Column.fits_or_exists_rowFault shape.columns cells with hfits | ⟨other, hfault⟩
    · obtain ⟨row, -, hread⟩ := exists_readRow_of_fits hfits
      rw [hread] at h
      cases h
    · obtain rfl := Except.error.inj (h.symm.trans (readRow_of_rowFault hfault))
      exact hfault
  · exact readRow_of_rowFault

theorem exists_isRead_iff {shape : RowShape} {cells : List Value} :
    (∃ row : Row, row.IsRead shape cells) ↔ Column.Fits shape.columns cells := by
  constructor
  · rintro ⟨row, hrow⟩
    exact hrow.fits
  · intro h
    obtain ⟨row, hrow, -⟩ := exists_readRow_of_fits h
    exact ⟨row, hrow⟩

end RowReader

/-! ## Result sets -/

/-- Checked steps fail as the first of them that fails. -/
theorem mapM_eq_error_iff {α β : Type} {f : α → Result β} {entries : List α}
    {error : Error} :
    entries.mapM f = .error error ↔
      ∃ before entry after,
        entries = before ++ entry :: after ∧
        (∀ earlier ∈ before, ∃ result, f earlier = .ok result) ∧
        f entry = .error error := by
  induction entries with
  | nil =>
      refine iff_of_false nofun ?_
      rintro ⟨before, entry, after, hentries, -⟩
      have hnil : before ++ entry :: after = [] := hentries.symm
      exact List.cons_ne_nil _ _ (List.append_eq_nil_iff.mp hnil).2
  | cons first entries ih =>
      rw [List.mapM_cons, bind_eq_error_iff]
      constructor
      · rintro (hfirst | ⟨result, hfirst, hrest⟩)
        · exact ⟨[], first, entries, rfl, List.forall_mem_nil _, hfirst⟩
        · rcases bind_eq_error_iff.mp hrest with hrest | ⟨results, -, hresults⟩
          · obtain ⟨before, entry, after, rfl, hbefore, hentry⟩ := ih.mp hrest
            exact ⟨first :: before, entry, after, rfl,
              List.forall_mem_cons.mpr ⟨⟨result, hfirst⟩, hbefore⟩, hentry⟩
          · cases hresults
      · rintro ⟨before, entry, after, hentries, hbefore, hentry⟩
        cases before with
        | nil =>
            obtain ⟨rfl, -⟩ := List.cons.inj hentries
            exact Or.inl hentry
        | cons earlier before =>
            obtain ⟨rfl, hrest⟩ := List.cons.inj hentries
            obtain ⟨⟨result, hfirst⟩, hbefore⟩ := List.forall_mem_cons.mp hbefore
            refine Or.inr ⟨result, hfirst, bind_eq_error_iff.mpr (Or.inl ?_)⟩
            exact ih.mpr ⟨before, entry, after, hrest, hbefore, hentry⟩

namespace Rows

/-- Rows are decoded by position, all or none.  They are decoded exactly when in every
row there is one cell for each column of the shape and it is read, in its domain, as a
value of that column.  Then there is one result for each row, of the shape, and each of
its leaves is what is read from the cell at the same position.  Otherwise the error is
that of the first row that fails: of the leftmost cell that is not read, with its index
and the name of its column; of a missing cell, once all the others are read; or of cells
that are left, once all the columns are. -/
theorem decode_by_position (result : Rows) (shape : RowShape) :
    ((∃ rows, result.decode shape = .ok rows) ↔
      ∀ cells ∈ result.rows, Column.Fits shape.columns cells) ∧
    (∀ rows,
      result.decode shape = .ok rows ↔
        List.Forall₂ (Row.IsRead shape) rows result.rows) ∧
    ∀ error,
      result.decode shape = .error error ↔
        ∃ before cells after,
          result.rows = before ++ cells :: after ∧
          (∀ earlier ∈ before, Column.Fits shape.columns earlier) ∧
          RowFault shape.columns cells error := by
  refine ⟨?_, ?_, ?_⟩
  · simp only [decode, decodeWith, mapM_eq_ok_iff, RowReader.readRow_eq_ok_iff,
      exists_forall₂_iff, RowReader.exists_isRead_iff]
  · intro rows
    simp only [decode, decodeWith, mapM_eq_ok_iff, RowReader.readRow_eq_ok_iff]
  · intro error
    simp only [decode, decodeWith, mapM_eq_error_iff, RowReader.readRow_eq_ok_iff,
      RowReader.exists_isRead_iff, RowReader.readRow_eq_error_iff]

/-- A cell that is not read comes before one that is missing. -/
example :
    Rows.decode ⟨["name", "score"], [[.integer 1]]⟩
        (.tuple [.column ⟨"users", "name", .text⟩, .column Sample.score]) =
      .error ⟨.conversion, "column 0 (`name`): expected text, found integer"⟩ := by
  rfl

end Rows

end TypedQuery
