import TypedQuery.Proofs.DecodedRows
import TypedQuery.Sample

/-!
# Columns by name

The columns of a record can be read and written as texts by their names.  A write changes
the named column alone, and only if the kind of the column accepts the text.  So after any
writes a column holds the last value that was accepted for it, whatever was written to
other columns and whatever failed in between.
-/

namespace TypedQuery

/-! ## Texts of attributes -/

namespace Kind

theorem inDomain_of_parse {kind : Kind} {text : String} {value : kind.Carrier}
    (h : kind.parse text = .ok value) : kind.InDomain value := by
  cases kind with
  | decimal =>
      rw [parse, parseDecimal] at h
      split at h
      · cases h
      · obtain ⟨⟨⟩, hcheck, hvalue⟩ := bind_eq_ok_iff.mp h
        obtain rfl := Except.ok.inj hvalue
        exact check_eq_ok_iff.mp hcheck
  | _ => trivial

end Kind

namespace Attribute

variable {kind : Kind}

/-- An attribute has what its kind reads in the text; the check finds nothing more. -/
theorem ofText_eq_map_parse (text : String) :
    (ofText text : Result (Attribute kind)) =
      (fun value => ⟨some value⟩) <$> kind.parse text := by
  rw [ofText]
  cases hparse : kind.parse text with
  | error error => rfl
  | ok value =>
      have hcheck := Kind.check_eq_ok_iff.mpr (Kind.inDomain_of_parse hparse)
      rw [ok_bind, ofValue, ofOption, Kind.checkOption, hcheck]
      rfl

theorem display_eq_elim (attr : Attribute kind) :
    attr.display = attr.value.elim absentText kind.format := by
  obtain ⟨value⟩ := attr
  cases value <;> rfl

end Attribute

/-! ## Places of fields -/

/-- A place among fields, with the field that stands there. -/
inductive Slot : List Field → Field → Type where
  | here {field : Field} {fields : List Field} : Slot (field :: fields) field
  | there {field other : Field} {fields : List Field} (slot : Slot fields field) :
      Slot (other :: fields) field

namespace Slot

theorem mem {fields : List Field} {field : Field} (slot : Slot fields field) :
    field ∈ fields := by
  induction slot with
  | here => exact List.mem_cons_self
  | there slot ih => exact List.mem_cons_of_mem _ ih

theorem nonempty_of_mem {fields : List Field} {field : Field} (h : field ∈ fields) :
    Nonempty (Slot fields field) := by
  induction fields with
  | nil => cases h
  | cons first fields ih =>
      rcases List.mem_cons.mp h with rfl | hmem
      · exact ⟨.here⟩
      · obtain ⟨slot⟩ := ih hmem
        exact ⟨.there slot⟩

/-- Where names are distinct, a later field has another name than the first. -/
theorem name_ne {first field : Field} {fields : List Field}
    (hnames : ((first :: fields).map Field.name).Nodup) (slot : Slot fields field) :
    field.name ≠ first.name := by
  rw [List.map_cons, List.nodup_cons] at hnames
  intro hname
  exact hnames.1 (hname ▸ List.mem_map_of_mem slot.mem)

end Slot

namespace Record

variable {fields : List Field} {field : Field}

def attr : {fields : List Field} → Record fields → Slot fields field → Attribute field.kind
  | _, .cons attr _, .here => attr
  | _, .cons _ rest, .there slot => rest.attr slot

/-- The record with another attribute at a place. -/
def put : {fields : List Field} → Record fields → Slot fields field → Attribute field.kind →
    Record fields
  | _, .cons _ rest, .here, new => .cons new rest
  | _, .cons attr rest, .there slot, new => .cons attr (rest.put slot new)

@[simp]
theorem attr_put (record : Record fields) (slot : Slot fields field)
    (new : Attribute field.kind) : (record.put slot new).attr slot = new := by
  induction slot with
  | here =>
      cases record
      rfl
  | there slot ih =>
      cases record with
      | cons attr rest => exact ih rest new

/-- Elsewhere nothing changes. -/
theorem attr_put_of_ne {other : Field} (record : Record fields) (slot : Slot fields field)
    (new : Attribute field.kind) (place : Slot fields other) (h : other.name ≠ field.name) :
    (record.put slot new).attr place = record.attr place := by
  induction slot with
  | here =>
      cases record
      cases place with
      | here => exact absurd rfl h
      | there place => rfl
  | there slot ih =>
      cases record with
      | cons attr rest =>
          cases place with
          | here => rfl
          | there place => exact ih rest new place h

/-! ## Texts by name -/

/-- A text that is in the list can be read by its name. -/
theorem text?_of_mem_texts {record : Record fields} {entry : String × String}
    (h : entry ∈ record.texts) : record.text? entry.1 = some entry.2 := by
  obtain ⟨field, -, hentry⟩ := List.mem_filterMap.mp h
  obtain ⟨text, htext, rfl⟩ := Option.map_eq_some_iff.mp hentry
  exact htext

theorem text?_eq_none_iff {record : Record fields} {name : String} :
    record.text? name = none ↔ ∀ field ∈ fields, field.name ≠ name := by
  induction record with
  | nil => simp [text?]
  | @cons first fields attr rest ih =>
      rw [text?, List.forall_mem_cons, ← ih]
      by_cases hname : name = first.name
      · rw [if_pos hname]
        exact iff_of_false (Option.some_ne_none _) fun h => h.1 hname.symm
      · rw [if_neg hname]
        exact (and_iff_right fun h => hname h.symm).symm

theorem text?_name (hnames : (fields.map Field.name).Nodup) (record : Record fields)
    (slot : Slot fields field) : record.text? field.name = some (record.attr slot).display := by
  induction slot with
  | here =>
      cases record with
      | cons attr rest => exact if_pos rfl
  | there slot ih =>
      cases record with
      | cons attr rest =>
          rw [text?, if_neg (slot.name_ne hnames)]
          exact ih (List.nodup_cons.mp hnames).2 rest

/-- The texts are those that the names give, one for each field in order. -/
theorem texts_eq_map (record : Record fields) :
    record.texts = fields.map fun field =>
      (field.name, (record.text? field.name).getD Attribute.absentText) := by
  rw [texts, List.filterMap_eq_map_iff_forall_eq_some]
  intro field hfield
  cases htext : record.text? field.name with
  | none => exact absurd rfl (text?_eq_none_iff.mp htext field hfield)
  | some text => rw [Option.map_some, Option.getD_some]

theorem setText?_eq_none_iff {record : Record fields} {name text : String} :
    record.setText? name text = none ↔ ∀ field ∈ fields, field.name ≠ name := by
  induction record with
  | nil => simp [setText?]
  | @cons first fields attr rest ih =>
      rw [setText?, List.forall_mem_cons, ← ih]
      by_cases hname : name = first.name
      · rw [if_pos hname]
        exact iff_of_false (Option.some_ne_none _) fun h => h.1 hname.symm
      · rw [if_neg hname, Option.map_eq_none_iff]
        exact (and_iff_right fun h => hname h.symm).symm

/-- A text is written to the field with the name, if the kind of the field reads it. -/
theorem setText?_name (hnames : (fields.map Field.name).Nodup) (record : Record fields)
    (slot : Slot fields field) (text : String) :
    record.setText? field.name text =
      some ((fun value => record.put slot ⟨some value⟩) <$> field.kind.parse text) := by
  induction slot with
  | here =>
      cases record with
      | cons attr rest =>
          rw [setText?, if_pos rfl, Attribute.ofText_eq_map_parse]
          cases Kind.parse _ text <;> rfl
  | there slot ih =>
      cases record with
      | cons attr rest =>
          rw [setText?, if_neg (slot.name_ne hnames), ih (List.nodup_cons.mp hnames).2 rest]
          cases Kind.parse _ text <;> rfl

end Record

/-! ## Writes in a row -/

namespace Field

/-- The value that a write gives a field.  The write has to name the field, and the kind of
the field has to accept the text. -/
def accepted? (field : Field) (write : String × String) : Option field.kind.Carrier :=
  if write.1 = field.name then (field.kind.parse write.2).toOption else none

/-- The value that the last of the writes that give one gives. -/
def lastAccepted? (field : Field) (writes : List (String × String)) :
    Option field.kind.Carrier :=
  (writes.filterMap field.accepted?).getLast?

theorem lastAccepted?_cons (field : Field) (write : String × String)
    (writes : List (String × String)) :
    field.lastAccepted? (write :: writes) =
      (field.lastAccepted? writes).or (field.accepted? write) := by
  rw [lastAccepted?, lastAccepted?, List.filterMap_cons]
  cases field.accepted? write with
  | none => exact Option.or_none.symm
  | some value =>
      rw [List.getLast?_cons]
      cases (writes.filterMap field.accepted?).getLast? <;> rfl

end Field

namespace Model

variable {model : Model} {field : Field}

/-- The record after a write.  A write that fails leaves it as it is. -/
def written (model : Model) (record : Record model.fields) (write : String × String) :
    Record model.fields :=
  match model.setText record write.1 write.2 with
  | .ok new => new
  | .error _ => record

/-- The record after writes, one after the other. -/
def writtenAll (model : Model) (record : Record model.fields)
    (writes : List (String × String)) : Record model.fields :=
  writes.foldl model.written record

theorem setText_name (hnames : (model.fields.map Field.name).Nodup)
    (record : Record model.fields) (slot : Slot model.fields field) (text : String) :
    model.setText record field.name text =
      (fun value => record.put slot ⟨some value⟩) <$> field.kind.parse text := by
  rw [setText, Record.setText?_name hnames record slot, Option.getD_some]

theorem setText_of_forall_ne {name : String} (h : ∀ field ∈ model.fields, field.name ≠ name)
    (record : Record model.fields) (text : String) :
    model.setText record name text = .error (model.unknownColumn name) := by
  rw [setText, Record.setText?_eq_none_iff.mpr h, Option.getD_none]

/-- A write to a field fails just as its kind fails to read the text. -/
theorem setText_name_eq_error_iff (hnames : (model.fields.map Field.name).Nodup)
    (record : Record model.fields) (slot : Slot model.fields field) {text : String}
    {error : Error} :
    model.setText record field.name text = .error error ↔
      field.kind.parse text = .error error := by
  rw [setText_name hnames record slot]
  cases field.kind.parse text with
  | ok value => exact iff_of_false (fun h => by cases h) fun h => by cases h
  | error other => exact ⟨fun h => by cases h; rfl, fun h => by cases h; rfl⟩

/-- One write decides about the field that it names, and only if its text is accepted. -/
theorem value_attr_written (hnames : (model.fields.map Field.name).Nodup)
    (record : Record model.fields) (write : String × String)
    (slot : Slot model.fields field) :
    ((model.written record write).attr slot).value =
      (field.accepted? write).or (record.attr slot).value := by
  obtain ⟨name, text⟩ := write
  by_cases hname : name = field.name
  · subst hname
    rw [written, setText_name hnames record slot, Field.accepted?, if_pos rfl]
    cases field.kind.parse text with
    | error error => rfl
    | ok value => exact congrArg Attribute.value (record.attr_put slot ⟨some value⟩)
  · rw [Field.accepted?, if_neg hname, Option.none_or, written]
    by_cases hknown : ∃ other ∈ model.fields, other.name = name
    · obtain ⟨other, hother, rfl⟩ := hknown
      obtain ⟨place⟩ := Slot.nonempty_of_mem hother
      rw [setText_name hnames record place]
      cases other.kind.parse text with
      | error error => rfl
      | ok value =>
          exact congrArg Attribute.value
            (record.attr_put_of_ne place ⟨some value⟩ slot (Ne.symm hname))
    · have hunknown : ∀ other ∈ model.fields, other.name ≠ name :=
        fun other hother hother' => hknown ⟨other, hother, hother'⟩
      rw [setText_of_forall_ne hunknown]

/-- After all writes a field has the last value that it accepted. -/
theorem value_attr_writtenAll (hnames : (model.fields.map Field.name).Nodup)
    (record : Record model.fields) (writes : List (String × String))
    (slot : Slot model.fields field) :
    ((model.writtenAll record writes).attr slot).value =
      (field.lastAccepted? writes).or (record.attr slot).value := by
  induction writes generalizing record with
  | nil => rfl
  | cons write writes ih =>
      have hwrites : model.writtenAll record (write :: writes) =
          model.writtenAll (model.written record write) writes :=
        rfl
      rw [hwrites, ih, value_attr_written hnames, Field.lastAccepted?_cons, Option.or_assoc]

/-- Only an unknown name is misuse; all other failures are of the text. -/
theorem exists_usage_iff (hnames : (model.fields.map Field.name).Nodup)
    (record : Record model.fields) (name text : String) :
    (∃ error, model.setText record name text = .error error ∧ error.kind = .usage) ↔
      ∀ field ∈ model.fields, field.name ≠ name := by
  constructor
  · rintro ⟨error, herror, husage⟩ field hfield rfl
    obtain ⟨slot⟩ := Slot.nonempty_of_mem hfield
    have hparse := (setText_name_eq_error_iff hnames record slot).mp herror
    rcases Kind.failsByValue_parse field.kind text error hparse with hkind | hkind
    · cases husage.symm.trans hkind
    · cases husage.symm.trans hkind
  · intro h
    exact ⟨_, setText_of_forall_ne h record text, rfl⟩

/-- Columns that are accessed by name keep to themselves, where no two have one name.
Whatever texts are written to whatever names, a column holds the last value that its kind
accepted for it, or else what it held before.  What is read by its name is the text of
that, and the list of all texts has every column once, in order, with what is read by its
name.  A write fails for its name just if no column has the name, and otherwise just as the
kind fails to read the text. -/
theorem named_columns (model : Model) (hnames : (model.fields.map Field.name).Nodup)
    (record : Record model.fields) (writes : List (String × String)) :
    (∀ field (slot : Slot model.fields field),
      ((model.writtenAll record writes).attr slot).value =
          (field.lastAccepted? writes).or (record.attr slot).value ∧
        (model.writtenAll record writes).text? field.name =
          some (((field.lastAccepted? writes).or (record.attr slot).value).elim "NULL"
            field.kind.format)) ∧
    (∀ name, (model.writtenAll record writes).text? name = none ↔
      ∀ field ∈ model.fields, field.name ≠ name) ∧
    (model.writtenAll record writes).texts.map Prod.fst = model.fields.map Field.name ∧
    (∀ entry ∈ (model.writtenAll record writes).texts,
      (model.writtenAll record writes).text? entry.1 = some entry.2) ∧
    (∀ name text,
      (∃ error, model.setText record name text = .error error ∧ error.kind = .usage) ↔
        ∀ field ∈ model.fields, field.name ≠ name) ∧
    ∀ field ∈ model.fields, ∀ text error,
      (model.setText record field.name text = .error error ↔
          field.kind.parse text = .error error) ∧
        (model.setText record field.name text = .error error →
          error.kind = .conversion ∨ error.kind = .domain) := by
  refine ⟨?_, ?_, ?_, ?_, exists_usage_iff hnames record, ?_⟩
  · intro field slot
    have hvalue := value_attr_writtenAll hnames record writes slot
    have htext := Record.text?_name hnames (model.writtenAll record writes) slot
    rw [Attribute.display_eq_elim, hvalue] at htext
    exact ⟨hvalue, htext⟩
  · intro name
    exact Record.text?_eq_none_iff
  · rw [Record.texts_eq_map, List.map_map]
    rfl
  · intro entry hentry
    exact Record.text?_of_mem_texts hentry
  · intro field hfield text error
    obtain ⟨slot⟩ := Slot.nonempty_of_mem hfield
    have hiff : model.setText record field.name text = .error error ↔
        field.kind.parse text = .error error :=
      setText_name_eq_error_iff hnames record slot
    exact ⟨hiff, fun h => Kind.failsByValue_parse field.kind text error (hiff.mp h)⟩

/-- A later text that is no number and a name without a column leave an age as it is. -/
theorem named_columns_user :
    (Sample.user.fields.map Field.name).Nodup ∧
      (Sample.user.writtenAll (.empty _)
        [("age", "30"), ("age", "31"), ("nick", "Ann"), ("age", "old"), ("name", "Ann")]).text?
          "age" = some "31" := by
  have hnames : (Sample.user.fields.map Field.name).Nodup := by decide
  have hage := (named_columns Sample.user hnames (.empty _)
    [("age", "30"), ("age", "31"), ("nick", "Ann"), ("age", "old"), ("name", "Ann")]).1
      _ (.there (.there .here))
  exact ⟨hnames, hage.2.trans (by decide +kernel)⟩

end Model

end TypedQuery
