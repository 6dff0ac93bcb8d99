import TypedQuery.Adaptor.Scripted
import TypedQuery.Proofs.StatementTokens
import TypedQuery.Sample

/-!
# What inserting records writes

Records with values are inserted by one statement.  It lists the columns for which some
record has a value, and each of its tuples has one value for each of them.  Putting the
values of a tuple into the columns at whose places they stand, and null into the others,
gives the record back.  Records without any value are inserted one after the other,
until the connection fails.
-/

namespace TypedQuery

namespace Fragment

/-! ## Rendering part by part -/

theorem renderFrom_append
    (dialect : Dialect) (index : Nat) (chunks rest : List Chunk) :
    renderFrom dialect index (chunks ++ rest) =
      renderFrom dialect index chunks ++
        renderFrom dialect (index + (chunks.filterMap Chunk.value?).length) rest := by
  induction chunks generalizing index with
  | nil => exact String.empty_append.symm
  | cons chunk chunks ih =>
      have hcount : (if chunk.value?.isSome then 1 else 0) +
          (chunks.filterMap Chunk.value?).length =
            ((chunk :: chunks).filterMap Chunk.value?).length := by
        cases chunk with
        | param value => exact Nat.add_comm _ _
        | _ => exact Nat.zero_add _
      rw [List.cons_append, renderFrom, renderFrom, ih, String.append_assoc,
        Nat.add_assoc, hcount]

/-- The text of a fragment when `index` values came before it. -/
def textFrom (dialect : Dialect) (index : Nat) (fragment : Fragment) : String :=
  renderFrom dialect index fragment.chunks

/-- What comes later is rendered with the number of values that came before it. -/
theorem textFrom_append
    (dialect : Dialect) (index : Nat) (first second : Fragment) :
    textFrom dialect index (first ++ second) =
      textFrom dialect index first ++
        textFrom dialect (index + first.paramCount) second :=
  renderFrom_append dialect index first.chunks second.chunks

@[simp]
theorem textFrom_text (dialect : Dialect) (index : Nat) (words : String) :
    textFrom dialect index (text words) = words :=
  String.append_empty

@[simp]
theorem textFrom_ident (dialect : Dialect) (index : Nat) (name : String) :
    textFrom dialect index (ident name) = Identifier.quote name :=
  String.append_empty

@[simp]
theorem textFrom_param (dialect : Dialect) (index : Nat) (value : Value) :
    textFrom dialect index (param value) = dialect.placeholder (index + 1) :=
  String.append_empty

theorem textFrom_parens (dialect : Dialect) (index : Nat) (fragment : Fragment) :
    textFrom dialect index fragment.parens =
      "(" ++ textFrom dialect index fragment ++ ")" := by
  have hopen : (text "(").paramCount = 0 := rfl
  rw [parens, textFrom_append, textFrom_append, textFrom_text, textFrom_text, hopen,
    Nat.add_zero]

/-- The texts of fragments that follow each other. -/
def texts (dialect : Dialect) : Nat → List Fragment → List String
  | _, [] => []
  | index, fragment :: rest =>
    textFrom dialect index fragment :: texts dialect (index + fragment.paramCount) rest

theorem textFrom_join
    (dialect : Dialect) (index : Nat) (words : String) (fragments : List Fragment) :
    textFrom dialect index (join words fragments) =
      words.intercalate (texts dialect index fragments) := by
  induction fragments generalizing index with
  | nil => rfl
  | cons first rest ih =>
      cases rest with
      | nil => simp only [join, texts, String.intercalate_singleton]
      | cons second rest =>
          have hjoin : join words (first :: second :: rest) =
              first ++ text words ++ join words (second :: rest) := rfl
          have hcount : (first ++ text words).paramCount = first.paramCount := by
            simp [paramCount]
          rw [hjoin, textFrom_append, textFrom_append, textFrom_text, hcount, ih]
          simp only [texts, String.intercalate_cons_cons]

theorem texts_map_ident (dialect : Dialect) (index : Nat) (names : List String) :
    texts dialect index (names.map ident) = names.map Identifier.quote := by
  induction names generalizing index with
  | nil => rfl
  | cons name names ih => rw [List.map_cons, texts, textFrom_ident, ih, List.map_cons]

/-- Values are numbered from left to right. -/
theorem texts_map_param (dialect : Dialect) (index : Nat) (values : List Value) :
    texts dialect index (values.map param) =
      (List.range' (index + 1) values.length).map dialect.placeholder := by
  induction values generalizing index with
  | nil => rfl
  | cons value values ih =>
      have hcount : (param value).paramCount = 1 := rfl
      rw [List.map_cons, texts, textFrom_param, hcount, ih, List.length_cons,
        List.range'_succ, List.map_cons]

/-- Fragments with equally many values are numbered by their places. -/
theorem texts_map_of_paramCount
    {α : Type} {f : α → Fragment} {entries : List α} {width : Nat}
    (h : ∀ entry ∈ entries, (f entry).paramCount = width)
    (dialect : Dialect) (index : Nat) {write : Nat → String}
    (hwrite : ∀ place, ∀ entry ∈ entries,
      textFrom dialect (index + place * width) (f entry) = write place) :
    texts dialect index (entries.map f) =
      (List.range entries.length).map write := by
  induction entries generalizing index write with
  | nil => rfl
  | cons entry entries ih =>
      obtain ⟨hentry, hentries⟩ := List.forall_mem_cons.mp h
      have hfirst : textFrom dialect index (f entry) = write 0 := by
        have hplace := hwrite 0 entry List.mem_cons_self
        rwa [Nat.zero_mul, Nat.add_zero] at hplace
      have hrest : ∀ place, ∀ later ∈ entries,
          textFrom dialect (index + width + place * width) (f later) =
            write (place + 1) := by
        intro place later hlater
        have hplace := hwrite (place + 1) later (List.mem_cons_of_mem entry hlater)
        rwa [Nat.succ_mul, Nat.add_comm (place * width), ← Nat.add_assoc] at hplace
      rw [List.map_cons, texts, hfirst, hentry, ih hentries (index + width) hrest,
        List.length_cons, List.range_succ_eq_map, List.map_cons, List.map_map]
      rfl

end Fragment

/-! ## Insertions -/

/-- Tuples of values for some columns of a table. -/
structure Insertion where
  table : String
  columns : List String
  tuples : List (List Value)

namespace Insertion

/-- The placeholders of the tuple at a place.  They go on where those of the tuple
before it end. -/
def tupleText (insertion : Insertion) (dialect : Dialect) (place : Nat) : String :=
  let width := insertion.columns.length
  "(" ++ ", ".intercalate
    ((List.range' (place * width + 1) width).map dialect.placeholder) ++ ")"

/-- The statement with the values of all tuples as its parameters. -/
def statement (insertion : Insertion) (dialect : Dialect) : Statement where
  sql := "INSERT INTO " ++ Identifier.quote insertion.table ++ " (" ++
    ", ".intercalate (insertion.columns.map Identifier.quote) ++ ") VALUES " ++
    ", ".intercalate ((List.range insertion.tuples.length).map (insertion.tupleText dialect))
  params := insertion.tuples.flatten

/-- What a tuple puts into a column: the value at the place where the column is listed,
and null where it is not. -/
def assigned {α : Type} [BEq α] (listed : List α) (tuple : List Value) (column : α) :
    Value :=
  ((listed.zip tuple).lookup column).getD .null

section Assigned

variable {α : Type} [BEq α] [LawfulBEq α] {listed : List α} {tuple : List Value}

theorem assigned_cons_self (column : α) (value : Value) :
    assigned (column :: listed) (value :: tuple) column = value := by
  simp [assigned]

theorem assigned_cons_of_ne {column other : α} (h : other ≠ column) (value : Value) :
    assigned (column :: listed) (value :: tuple) other =
      assigned listed tuple other := by
  have hother : (other == column) = false := beq_eq_false_iff_ne.mpr h
  simp only [assigned, List.zip_cons_cons, List.lookup_cons, hother]

theorem assigned_of_not_mem {column : α} (h : column ∉ listed) :
    assigned listed tuple column = .null := by
  induction listed generalizing tuple with
  | nil => rfl
  | cons other listed ih =>
      cases tuple with
      | nil => rfl
      | cons value tuple =>
          rw [assigned_cons_of_ne (List.ne_of_not_mem_cons h),
            ih (List.not_mem_of_not_mem_cons h)]

end Assigned

end Insertion

/-! ## The marked columns -/

namespace Model

variable {α β : Type}

theorem pick_map (f : α → β) (marks : List Bool) (entries : List α) :
    pick marks (entries.map f) = (pick marks entries).map f := by
  induction marks generalizing entries with
  | nil => rfl
  | cons mark marks ih =>
      cases entries with
      | nil => cases mark <;> rfl
      | cons entry entries =>
          cases mark with
          | true => exact congrArg (f entry :: ·) (ih entries)
          | false => exact ih entries

theorem pick_sublist (marks : List Bool) (entries : List α) :
    (pick marks entries).Sublist entries := by
  induction marks generalizing entries with
  | nil => exact List.nil_sublist entries
  | cons mark marks ih =>
      cases entries with
      | nil => cases mark <;> exact List.nil_sublist []
      | cons entry entries =>
          cases mark with
          | true => exact (ih entries).cons_cons entry
          | false => exact (ih entries).cons entry

theorem mem_pick_iff {marks : List Bool} {entries : List α} {entry : α} :
    entry ∈ pick marks entries ↔
      ∃ place : Nat, marks[place]? = some true ∧ entries[place]? = some entry := by
  induction marks generalizing entries with
  | nil => simp [pick]
  | cons mark marks ih =>
      cases entries with
      | nil => cases mark <;> simp [pick]
      | cons first entries =>
          rw [← Nat.or_exists_add_one]
          cases mark with
          | true => simp [pick, ih, eq_comm]
          | false => simp [pick, ih]

theorem map_some_eq_map_range (entries : List α) :
    entries.map some = (List.range entries.length).map fun place => entries[place]? := by
  apply List.ext_getElem
  · rw [List.length_map, List.length_map, List.length_range]
  · intro place hplace _
    rw [List.length_map] at hplace
    rw [List.getElem_map, List.getElem_map, List.getElem_range,
      List.getElem?_eq_getElem hplace]

/-- The places that are marked decide how many entries are picked. -/
theorem length_pick_eq
    {marks : List Bool} {entries : List α} {others : List β}
    (h : entries.length = others.length) :
    (pick marks entries).length = (pick marks others).length := by
  induction marks generalizing entries others with
  | nil => rfl
  | cons mark marks ih =>
      cases entries with
      | nil =>
          obtain rfl := List.length_eq_zero_iff.mp h.symm
          cases mark <;> rfl
      | cons entry entries =>
          cases others with
          | nil => exact absurd h (Nat.succ_ne_zero _)
          | cons other others =>
              have hrest := ih (Nat.succ.inj h)
              cases mark with
              | true => exact congrArg Nat.succ hrest
              | false => exact hrest

/-- Values that are null where no place is marked are given back by those picked. -/
theorem map_assigned_pick
    [BEq α] [LawfulBEq α] {marks : List Bool} {columns : List α} {values : List Value}
    (hcolumns : columns.Nodup) (hmarks : marks.length = columns.length)
    (hvalues : values.length = columns.length)
    (hnull : ∀ place : Nat,
      marks[place]? = some false → values[place]? = some Value.null) :
    columns.map (Insertion.assigned (pick marks columns) (pick marks values)) =
      values := by
  induction columns generalizing marks values with
  | nil => exact (List.length_eq_zero_iff.mp hvalues).symm
  | cons column columns ih =>
      obtain ⟨mark, marks, rfl⟩ := List.exists_cons_of_length_eq_add_one hmarks
      obtain ⟨value, values, rfl⟩ := List.exists_cons_of_length_eq_add_one hvalues
      obtain ⟨hnew, hcolumns⟩ := List.nodup_cons.mp hcolumns
      have hrest := ih hcolumns (Nat.succ.inj hmarks) (Nat.succ.inj hvalues)
        fun place hplace => hnull (place + 1) hplace
      cases mark with
      | true =>
          have hothers : columns.map (Insertion.assigned
              (column :: pick marks columns) (value :: pick marks values)) = values := by
            refine Eq.trans (List.map_congr_left ?_) hrest
            intro other hother
            apply Insertion.assigned_cons_of_ne
            rintro rfl
            exact hnew hother
          rw [pick, pick, List.map_cons, Insertion.assigned_cons_self, hothers]
      | false =>
          have hnone : column ∉ pick marks columns := fun hmem =>
            hnew ((pick_sublist marks columns).mem hmem)
          have hvalue : value = .null := Option.some.inj (hnull 0 rfl)
          rw [pick, pick, List.map_cons, hrest,
            Insertion.assigned_of_not_mem hnone, hvalue]

end Model

namespace Record

/-- The record has a value for the field at a position. -/
def IsPresentAt : {fields : List Field} → Record fields → Nat → Prop
  | _, .nil, _ => False
  | _, .cons attr _, 0 => attr.isPresent = true
  | _, .cons _ rest, position + 1 => rest.IsPresentAt position

theorem length_cells {fields : List Field} (record : Record fields) :
    record.cells.length = fields.length := by
  induction record with
  | nil => rfl
  | cons attr rest ih => exact congrArg Nat.succ ih

end Record

theorem Attribute.isNull_toCell {kind : Kind} (attr : Attribute kind) :
    attr.toCell.isNull = !attr.isPresent := by
  obtain ⟨value⟩ := attr
  cases value with
  | none => rfl
  | some value => cases kind <;> rfl

namespace Record

theorem isPresentAt_iff
    {fields : List Field} {record : Record fields} {position : Nat} :
    record.IsPresentAt position ↔
      (record.cells.getD position .null).isNull = false := by
  induction record generalizing position with
  | nil => simp [IsPresentAt, cells, Value.isNull]
  | cons attr rest ih =>
      cases position with
      | zero => simp [IsPresentAt, cells, Attribute.isNull_toCell]
      | succ position => exact ih

theorem IsPresentAt.lt_length
    {fields : List Field} {record : Record fields} {position : Nat}
    (h : record.IsPresentAt position) : position < fields.length := by
  apply Nat.lt_of_not_le
  intro hle
  have hcell : record.cells.getD position .null = .null := by
    rw [List.getD_eq_getElem?_getD,
      List.getElem?_eq_none (by rw [length_cells]; exact hle), Option.getD_none]
  rw [isPresentAt_iff, hcell] at h
  exact Bool.noConfusion h

theorem not_isPresentAt_empty (fields : List Field) (position : Nat) :
    ¬(empty fields).IsPresentAt position := by
  induction fields generalizing position with
  | nil => exact not_false
  | cons field fields ih =>
      cases position with
      | zero => exact Bool.false_ne_true
      | succ position => exact ih position

end Record

namespace Model

theorem getElem?_presence
    {model : Model} {rows : List (List Value)} {position : Nat}
    (h : position < model.fields.length) :
    (model.presence rows)[position]? =
      some (rows.any fun row => !(row.getD position .null).isNull) := by
  rw [presence, List.getElem?_map, List.getElem?_range h, Option.map_some]

theorem length_presence (model : Model) (rows : List (List Value)) :
    (model.presence rows).length = model.fields.length := by
  rw [presence, List.length_map, List.length_range]

/-- A column is marked when some record has a value for it. -/
theorem presence_eq_some_true_iff
    {model : Model} {records : List (Record model.fields)} {position : Nat} :
    (model.presence (records.map Record.cells))[position]? = some true ↔
      ∃ record ∈ records, record.IsPresentAt position := by
  by_cases hposition : position < model.fields.length
  · simp [getElem?_presence hposition, Record.isPresentAt_iff]
  · have hlength := model.length_presence (records.map Record.cells)
    rw [List.getElem?_eq_none (by omega)]
    constructor
    · intro h
      cases h
    · rintro ⟨record, -, hrecord⟩
      exact absurd hrecord.lt_length hposition

theorem any_presence_iff
    {model : Model} {records : List (Record model.fields)} :
    (model.presence (records.map Record.cells)).any id = true ↔
      ∃ record ∈ records, ∃ position, record.IsPresentAt position := by
  have hany : (model.presence (records.map Record.cells)).any id = true ↔
      ∃ position : Nat,
        (model.presence (records.map Record.cells))[position]? = some true := by
    rw [List.any_eq_true]
    constructor
    · rintro ⟨mark, hmark, rfl⟩
      exact List.mem_iff_getElem?.mp hmark
    · rintro ⟨position, hposition⟩
      exact ⟨true, List.mem_of_getElem? hposition, rfl⟩
  rw [hany]
  constructor
  · rintro ⟨position, hposition⟩
    obtain ⟨record, hrecord, hpresent⟩ := presence_eq_some_true_iff.mp hposition
    exact ⟨record, hrecord, position, hpresent⟩
  · rintro ⟨record, hrecord, position, hpresent⟩
    exact ⟨position, presence_eq_some_true_iff.mpr ⟨record, hrecord, hpresent⟩⟩

/-- A record has null where no record has a value. -/
theorem cells_of_not_present
    {model : Model} {records : List (Record model.fields)}
    {record : Record model.fields} (hrecord : record ∈ records) {position : Nat}
    (h : (model.presence (records.map Record.cells))[position]? = some false) :
    record.cells[position]? = some .null := by
  have hposition : position < record.cells.length := by
    rw [Record.length_cells, ← model.length_presence (records.map Record.cells)]
    exact (List.getElem?_eq_some_iff.mp h).1
  have habsent : ¬record.IsPresentAt position := by
    intro hpresent
    have htrue := presence_eq_some_true_iff.mpr ⟨record, hrecord, hpresent⟩
    rw [h] at htrue
    cases htrue
  rw [Record.isPresentAt_iff, List.getD_eq_getElem?_getD,
    List.getElem?_eq_getElem hposition, Option.getD_some] at habsent
  rw [List.getElem?_eq_getElem hposition]
  cases hcell : record.cells[position] with
  | null => rfl
  | _ =>
      rw [hcell] at habsent
      exact absurd rfl habsent

end Model

/-! ## The insertion of records -/

namespace Insertion

/-- The insertion writes the records.  It lists the columns that some record has a value
for, in the order of the model, and has one tuple for each record, in order; what a
tuple assigns to the columns is the record.  Columns are told apart by their position,
and also by their names if these differ. -/
structure Writes
    (model : Model) (records : List (Record model.fields)) (insertion : Insertion)
    (positions : List Nat) : Prop where
  table : insertion.table = model.table
  ascending : positions.Pairwise (· < ·)
  listed : ∀ position,
    position ∈ positions ↔ ∃ record ∈ records, record.IsPresentAt position
  columns : insertion.columns.map some =
    positions.map fun position => (model.fields.map Field.name)[position]?
  width : ∀ tuple ∈ insertion.tuples, tuple.length = insertion.columns.length
  count : insertion.tuples.flatten.length = records.length * insertion.columns.length
  rows : (insertion.tuples.map fun tuple =>
    (List.range model.fields.length).map (assigned positions tuple)) =
      records.map Record.cells
  rowsByName : (model.fields.map Field.name).Nodup →
    (insertion.tuples.map fun tuple =>
      (model.fields.map Field.name).map (assigned insertion.columns tuple)) =
        records.map Record.cells

/-- The insertion of rows into the columns that are marked. -/
def ofRows (model : Model) (present : List Bool) (rows : List (List Value)) :
    Insertion where
  table := model.table
  columns := Model.pick present (model.fields.map Field.name)
  tuples := rows.map (Model.pick present)

/-- The part before the tuples has no parameters. -/
theorem textFrom_columnList (dialect : Dialect) (table : String) (columns : List String) :
    let head : Fragment := .text "INSERT INTO " ++ .ident table ++ .text " " ++
      (Fragment.join ", " (columns.map .ident)).parens ++ .text " VALUES "
    head.paramCount = 0 ∧
      Fragment.textFrom dialect 0 head =
        "INSERT INTO " ++ Identifier.quote table ++ " (" ++
          ", ".intercalate (columns.map Identifier.quote) ++ ") VALUES " := by
  intro head
  constructor
  · simp [head, Fragment.paramCount, List.flatMap_map]
  · have hopen : " (" = " " ++ "(" := rfl
    have hclose : ") VALUES " = ")" ++ " VALUES " := rfl
    simp only [head, Fragment.textFrom_append, Fragment.textFrom_text,
      Fragment.textFrom_ident, Fragment.textFrom_parens, Fragment.textFrom_join,
      Fragment.texts_map_ident, hopen, hclose, String.append_assoc]

theorem length_pick_cells
    (model : Model) (present : List Bool) {row : List Value}
    (h : row.length = model.fields.length) :
    (Model.pick present row).length =
      (Model.pick present (model.fields.map Field.name)).length := by
  apply Model.length_pick_eq
  rw [h, List.length_map]

theorem textFrom_tuples
    (model : Model) (present : List Bool) {rows : List (List Value)}
    (h : ∀ row ∈ rows, row.length = model.fields.length) (dialect : Dialect) :
    Fragment.textFrom dialect 0 (Fragment.join ", "
        (rows.map fun row => Model.tuple (Model.pick present row))) =
      ", ".intercalate ((List.range rows.length).map
        ((ofRows model present rows).tupleText dialect)) := by
  let width := (ofRows model present rows).columns.length
  have hcount : ∀ row ∈ rows,
      (Model.tuple (Model.pick present row)).paramCount = width := by
    intro row hrow
    have hwidth : (Model.pick present row).length = width :=
      length_pick_cells model present (h row hrow)
    rw [← hwidth]
    simp [Fragment.paramCount, Model.tuple]
  have htuple : ∀ place, ∀ row ∈ rows,
      Fragment.textFrom dialect (0 + place * width) (Model.tuple (Model.pick present row)) =
        (ofRows model present rows).tupleText dialect place := by
    intro place row hrow
    have hwidth : (Model.pick present row).length = width :=
      length_pick_cells model present (h row hrow)
    rw [Model.tuple, Fragment.textFrom_parens, Fragment.textFrom_join,
      Fragment.texts_map_param, hwidth, Nat.zero_add, tupleText]
  rw [Fragment.textFrom_join, Fragment.texts_map_of_paramCount hcount dialect 0 htuple]

theorem render_insertFragment
    (model : Model) (present : List Bool) {rows : List (List Value)}
    (h : ∀ row ∈ rows, row.length = model.fields.length) (dialect : Dialect) :
    (model.insertFragment present rows).render dialect =
      (ofRows model present rows).statement dialect := by
  let insertion := ofRows model present rows
  let head : Fragment := .text "INSERT INTO " ++ .ident model.table ++ .text " " ++
    (Fragment.join ", " (insertion.columns.map .ident)).parens ++ .text " VALUES "
  let body : Fragment :=
    Fragment.join ", " (rows.map fun row => Model.tuple (Model.pick present row))
  -- No parameter stands before the tuples, so their placeholders are counted from one.
  obtain ⟨hhead_count, hhead⟩ :=
    textFrom_columnList dialect model.table insertion.columns
  have hbody := textFrom_tuples model present h dialect
  have hlength : insertion.tuples.length = rows.length := List.length_map _
  have hsql : Fragment.textFrom dialect 0 (model.insertFragment present rows) =
      (insertion.statement dialect).sql :=
    calc Fragment.textFrom dialect 0 (head ++ body)
      _ = Fragment.textFrom dialect 0 head ++
            Fragment.textFrom dialect (0 + head.paramCount) body :=
          Fragment.textFrom_append dialect 0 head body
      _ = (insertion.statement dialect).sql := by
          rw [hhead, hhead_count, hbody, ← hlength]
          rfl
  have hparams : (model.insertFragment present rows).params =
      (insertion.statement dialect).params := by
    rw [Model.params_insertFragment]
    exact List.flatMap_def
  exact congrArg₂ Statement.mk hsql hparams

section Records

variable {model : Model} (records : List (Record model.fields))

/-- The tuples assign the records to columns that differ, one for each field. -/
theorem assigned_pick_presence
    {α : Type} [BEq α] [LawfulBEq α] {columns : List α} (hnodup : columns.Nodup)
    (hlength : columns.length = model.fields.length) :
    let present := model.presence (records.map Record.cells)
    ((records.map Record.cells).map (Model.pick present)).map (fun tuple =>
      columns.map (assigned (Model.pick present columns) tuple)) =
        records.map Record.cells := by
  intro present
  rw [List.map_map, List.map_map]
  apply List.map_congr_left
  intro record hrecord
  apply Model.map_assigned_pick hnodup
  · rw [model.length_presence, hlength]
  · rw [record.length_cells, hlength]
  · intro place hplace
    exact Model.cells_of_not_present hrecord hplace

/-- The positions that are listed are those that some record has a value for. -/
theorem mem_pick_presence_iff (position : Nat) :
    position ∈ Model.pick (model.presence (records.map Record.cells))
        (List.range model.fields.length) ↔
      ∃ record ∈ records, record.IsPresentAt position := by
  rw [Model.mem_pick_iff, ← Model.presence_eq_some_true_iff]
  constructor
  · rintro ⟨place, hplace, hposition⟩
    obtain ⟨hlt, rfl⟩ := List.getElem?_eq_some_iff.mp hposition
    rwa [List.getElem_range]
  · intro hposition
    have hlt := (List.getElem?_eq_some_iff.mp hposition).1
    rw [model.length_presence] at hlt
    exact ⟨position, hposition, List.getElem?_range hlt⟩

theorem length_flatten_of_forall
    {α : Type} {tuples : List (List α)} {width : Nat}
    (h : ∀ tuple ∈ tuples, tuple.length = width) :
    tuples.flatten.length = tuples.length * width := by
  rw [List.length_flatten, List.map_eq_replicate_iff.mpr h, List.sum_replicate_nat]

/-- What is picked for records writes them. -/
theorem writes_ofRows :
    ∃ positions, (ofRows model (model.presence (records.map Record.cells))
      (records.map Record.cells)).Writes model records positions := by
  let present := model.presence (records.map Record.cells)
  let names := model.fields.map Field.name
  have hnames : names.length = model.fields.length := List.length_map _
  have hwidth : ∀ tuple ∈ (records.map Record.cells).map (Model.pick present),
      tuple.length = (Model.pick present names).length := by
    intro tuple htuple
    obtain ⟨row, hrow, rfl⟩ := List.mem_map.mp htuple
    obtain ⟨record, -, rfl⟩ := List.mem_map.mp hrow
    exact length_pick_cells model present record.length_cells
  refine ⟨Model.pick present (List.range model.fields.length), ?_⟩
  constructor
  case table => rfl
  case ascending => exact List.pairwise_lt_range.sublist (Model.pick_sublist _ _)
  case listed => exact mem_pick_presence_iff records
  case columns =>
      have hplaces := Model.map_some_eq_map_range names
      rw [hnames] at hplaces
      rw [← Model.pick_map, ← hplaces, Model.pick_map]
      rfl
  case width => exact hwidth
  case count =>
      have hcount := length_flatten_of_forall hwidth
      rw [List.length_map, List.length_map] at hcount
      exact hcount
  case rows => exact assigned_pick_presence records List.nodup_range List.length_range
  case rowsByName => exact fun hnodup => assigned_pick_presence records hnodup hnames

end Records

end Insertion

/-! ## Repeated executions -/

section Executions

variable {σ : Type} [Adaptor σ]

/-- A statement is executed with success, as often as there are numbers of rows. -/
inductive Executes (statement : Statement) : σ → List UInt64 → σ → Prop where
  | done (state : σ) : Executes statement state [] state
  | next {state middle after : σ} {count : UInt64} {counts : List UInt64}
      (h : Adaptor.execute statement state = (.ok count, middle))
      (hrest : Executes statement middle counts after) :
      Executes statement state (count :: counts) after

/-- A statement is executed a number of times.  The first failure ends it; without one
the numbers of rows are added up. -/
inductive Repeats (statement : Statement) (times : Nat) (state : σ) :
    Result UInt64 × σ → Prop where
  | completed {counts : List UInt64} {after : σ} {total : UInt64}
      (h : Executes statement state counts after) (htimes : counts.length = times)
      (htotal : (counts.map UInt64.toNat).sum < UInt64.size →
        total.toNat = (counts.map UInt64.toNat).sum) :
      Repeats statement times state (.ok total, after)
  | stopped {counts : List UInt64} {middle after : σ} {error : Error}
      (h : Executes statement state counts middle) (htimes : counts.length < times)
      (herror : Adaptor.execute statement middle = (.error error, after)) :
      Repeats statement times state (.error error, after)

namespace Model

def defaultsStatement (model : Model) : Statement :=
  .raw ("INSERT INTO " ++ Identifier.quote model.table ++ " DEFAULT VALUES")

theorem render_insertDefaultsFragment (model : Model) (dialect : Dialect) :
    model.insertDefaultsFragment.render dialect = model.defaultsStatement := by
  have hsql : Fragment.textFrom dialect 0 model.insertDefaultsFragment =
      model.defaultsStatement.sql := by
    simp only [insertDefaultsFragment, Fragment.textFrom_append, Fragment.textFrom_text,
      Fragment.textFrom_ident, defaultsStatement, Statement.raw]
  exact congrArg₂ Statement.mk hsql rfl

theorem repeats_executeTimes {fragment : Fragment} {statement : Statement}
    (h : ∀ dialect, fragment.render dialect = statement) (times : Nat) (state : σ) :
    Repeats statement times state (executeTimes fragment times state) := by
  induction times generalizing state with
  | zero => exact .completed (.done state) rfl fun _ => rfl
  | succ times ih =>
      rw [executeTimes, Action.bind_apply, Adaptor.executeFragment, Action.bind_apply,
        Action.get_apply]
      simp only [h]
      cases hfirst : Adaptor.execute statement state with
      | mk result middle =>
          cases result with
          | error error => exact .stopped (.done state) (Nat.succ_pos times) hfirst
          | ok count =>
              simp only [Action.bind_apply]
              have hrest := ih middle
              generalize executeTimes fragment times middle = outcome at hrest ⊢
              cases hrest with
              | stopped hexecutes htimes herror =>
                  exact .stopped (.next hfirst hexecutes) (Nat.succ_lt_succ htimes) herror
              | @completed counts after total hexecutes htimes htotal =>
                  refine .completed (.next hfirst hexecutes)
                    (congrArg Nat.succ htimes) ?_
                  intro hsum
                  rw [List.map_cons, List.sum_cons] at hsum ⊢
                  have hrest_total := htotal (Nat.lt_of_le_of_lt (Nat.le_add_left _ _) hsum)
                  rw [UInt64.toNat_add, hrest_total]
                  exact Nat.mod_eq_of_lt hsum

theorem validRows_of_valid
    {model : Model} {records : List (Record model.fields)}
    (h : ∀ record ∈ records, model.validate record = .ok ()) :
    model.validRows records = .ok (records.map Record.cells) := by
  induction records with
  | nil => rfl
  | cons record records ih =>
      obtain ⟨hrecord, hrecords⟩ := List.forall_mem_cons.mp h
      rw [validRows, hrecord, ih hrecords]
      rfl

/-- The first record that is refused decides. -/
theorem validRows_of_refused
    {model : Model} {before : List (Record model.fields)}
    (h : ∀ record ∈ before, model.validate record = .ok ())
    {refused : Record model.fields} {error : Error}
    (hrefused : model.validate refused = .error error)
    (after : List (Record model.fields)) :
    model.validRows (before ++ refused :: after) = .error error := by
  induction before with
  | nil =>
      rw [List.nil_append, validRows, hrefused]
      rfl
  | cons record before ih =>
      obtain ⟨hrecord, hbefore⟩ := List.forall_mem_cons.mp h
      rw [List.cons_append, validRows, hrecord, ih hbefore]
      rfl

/-- Inserting records.  If one is refused, the first that is decides and nothing is done.
Otherwise one statement writes the records, if there is a value in any of them; if there
is none, a row of defaults is inserted for each. -/
theorem insertAll_writes
    (model : Model) (records : List (Record model.fields)) (state : σ) :
    (∀ before refused after error, records = before ++ refused :: after →
      (∀ record ∈ before, model.validate record = .ok ()) →
      model.validate refused = .error error →
        model.insertAll records state = (.error error, state)) ∧
    ((∀ record ∈ records, model.validate record = .ok ()) →
      (∃ record ∈ records, ∃ position, record.IsPresentAt position) →
        ∃ insertion : Insertion, ∃ positions,
          insertion.Writes model records positions ∧
          model.insertAll records state =
            Adaptor.execute (insertion.statement (Adaptor.dialect state)) state) ∧
    ((∀ record ∈ records, model.validate record = .ok ()) →
      (∀ record ∈ records, ∀ position, ¬record.IsPresentAt position) →
        Repeats model.defaultsStatement records.length state
          (model.insertAll records state)) := by
  constructor
  · rintro before refused after error rfl hbefore hrefused
    rw [insertAll, validRows_of_refused hbefore hrefused]
  constructor
  · intro hvalid hpresent
    have hlengths : ∀ row ∈ records.map Record.cells,
        row.length = model.fields.length := by
      intro row hrow
      obtain ⟨record, -, rfl⟩ := List.mem_map.mp hrow
      exact record.length_cells
    obtain ⟨positions, hwrites⟩ := Insertion.writes_ofRows records
    refine ⟨_, positions, hwrites, ?_⟩
    rw [insertAll, validRows_of_valid hvalid]
    dsimp only
    rw [if_pos (any_presence_iff.mpr hpresent), Adaptor.executeFragment,
      Action.bind_apply, Action.get_apply]
    dsimp only
    rw [Insertion.render_insertFragment _ _ hlengths]
  · intro hvalid habsent
    have hnone : ¬(model.presence (records.map Record.cells)).any id = true := by
      rw [any_presence_iff]
      rintro ⟨record, hrecord, position, hpresent⟩
      exact habsent record hrecord position hpresent
    have hrepeats := repeats_executeTimes model.render_insertDefaultsFragment
      records.length state
    rw [insertAll, validRows_of_valid hvalid]
    dsimp only
    rwa [if_neg hnone, List.length_map]

end Model

end Executions

namespace Sample

/-- Two records with different columns. -/
def halves : List (Record noKey.fields) :=
  [.cons ⟨some "left"⟩ (.cons .null .nil),
    .cons .null (.cons ⟨some ⟨7, by decide, by decide⟩⟩ .nil)]

/-- A connection that affects one row each time. -/
def oneByOne : Scripted :=
  { dialect := .postgresql, executions := [.ok 1, .ok 1] }

theorem insertAll_writes_samples :
    (∃ insertion : Insertion, ∃ positions,
      insertion.Writes noKey halves positions ∧
      noKey.insertAll halves oneByOne =
        Adaptor.execute (insertion.statement .postgresql) oneByOne) ∧
    (noKey.insertAll halves oneByOne).2.sent = [.execute
      ⟨"INSERT INTO \"nokey\" (\"label\", \"n\") VALUES ($1, $2), ($3, $4)",
        [.text "left", .null, .null, .integer 7]⟩] ∧
    Repeats tag.defaultsStatement 2 oneByOne
      (tag.insertAll [.empty _, .empty _] oneByOne) ∧
    user.insertAll [.empty _] oneByOne =
      (.error ⟨.domain, "`name` must not be null"⟩, oneByOne) := by
  have hhalves := Model.insertAll_writes noKey halves oneByOne
  have htags := Model.insertAll_writes tag [.empty _, .empty _] oneByOne
  have huser := Model.insertAll_writes user [.empty _] oneByOne
  refine ⟨hhalves.2.1 ?_ ?_, rfl, htags.2.2 ?_ ?_, ?_⟩
  · exact List.forall_mem_cons.mpr ⟨rfl, List.forall_mem_singleton.mpr rfl⟩
  · exact ⟨_, List.mem_cons_self, 0, rfl⟩
  · exact List.forall_mem_cons.mpr ⟨rfl, List.forall_mem_singleton.mpr rfl⟩
  · have hempty := Record.not_isPresentAt_empty tag.fields
    exact List.forall_mem_cons.mpr ⟨hempty, List.forall_mem_singleton.mpr hempty⟩
  · exact huser.1 [] _ [] _ rfl (List.forall_mem_nil _) rfl

end Sample

end TypedQuery
