import TypedQuery.Adaptor.Basic
import TypedQuery.Proofs.Domain
import TypedQuery.Proofs.TimestampText
import TypedQuery.Sample
import TypedQuery.Sqlite.Storage

/-!
# Records survive storage

What is bound for a record and stored is read back as the record, its timestamps as
clocks show them.  Truth values come back as integers and timestamps as text, so the
proof goes kind by kind: what a stored value is read as is decoded to the value that was
encoded.  Only a leap second inside a minute is lost.  A row is read cell by cell, and
every field takes the one cell that was bound for it.
-/

namespace TypedQuery

@[simp]
theorem Utf8.decode_encode (text : String) :
    decode (encode text) = .ok text := by
  have hbytes : (⟨(encode text).toArray⟩ : ByteArray) = text.toByteArray := rfl
  have hread : String.fromUTF8? text.toByteArray = some text :=
    dif_pos text.isValidUTF8
  rw [decode, hbytes, hread]

namespace IntegerType

/-- Every number of a type fits sixty-four bits with a sign. -/
theorem Number.toInt_ofInt {type : IntegerType} (n : type.Number) :
    (Int64.ofInt n.val).toInt = n.val := by
  have hbounds : -2 ^ (63 : Nat) ≤ type.lower ∧ type.upper < 2 ^ (63 : Nat) := by
    cases type <;> decide
  apply Int64.toInt_ofInt_of_le
  · exact Int.le_trans hbounds.1 n.lower_le
  · exact Int.lt_of_le_of_lt n.le_upper hbounds.2

end IntegerType

namespace Kind

theorem narrow_val {type : IntegerType} (n : type.Number) :
    narrow type n.val = .ok n := by
  have hnumber : type.number? n.val = some n :=
    IntegerType.number?_eq_some_iff.mpr rfl
  rw [narrow, hnumber]

theorem decodeInteger_encode {type : IntegerType} (n : type.Number) :
    decodeInteger type (.integer (Int64.ofInt n.val)) = .ok (some n) := by
  rw [decodeInteger, n.toInt_ofInt, narrow_val]
  rfl

/-- The value as clocks show it, if it is a timestamp. -/
def civil : (kind : Kind) → kind.Carrier → kind.Carrier
  | dateTime, t => Timestamp.civil t
  | integer _, value | foreignKey _, value | decimal, value | boolean, value
  | text, value | binary, value => value

/-- The value is not a timestamp, or it is one that clocks show. -/
def IsCivil : (kind : Kind) → kind.Carrier → Prop
  | dateTime, t => Timestamp.IsCivil t
  | _, _ => True

theorem civil_eq_self_iff {kind : Kind} {value : kind.Carrier} :
    kind.civil value = value ↔ kind.IsCivil value := by
  cases kind with
  | dateTime => exact Timestamp.civil_eq_self_iff
  | integer | foreignKey | decimal | boolean | text | binary => exact iff_of_true rfl trivial

/-- A stored value is decoded to the value that was stored, as clocks show it. -/
theorem decode_stored (kind : Kind) (value : kind.Carrier) :
    kind.decode (Sqlite.Storage.ofValue (kind.encode value)).toValue =
      .ok (some (kind.civil value)) := by
  cases kind with
  | integer type => exact decodeInteger_encode value
  | foreignKey target => exact decodeInteger_encode value
  | decimal => rfl
  | boolean => cases value <;> rfl
  | text =>
      rw [encode, Sqlite.Storage.ofValue, Sqlite.Storage.toValue,
        Utf8.decode_encode]
      rfl
  | binary => rfl
  | dateTime =>
      rw [encode, Sqlite.Storage.ofValue, Sqlite.Storage.toValue,
        Utf8.decode_encode]
      simp only [decode, parseDateTime, Timestamp.format,
        Timestamp.parse_write_blank]
      rfl

end Kind

namespace Attribute

def civil {kind : Kind} (attr : Attribute kind) : Attribute kind :=
  ⟨attr.value.map kind.civil⟩

def IsCivil {kind : Kind} (attr : Attribute kind) : Prop :=
  ∀ value, attr.value = some value → kind.IsCivil value

theorem civil_eq_self_iff {kind : Kind} {attr : Attribute kind} :
    attr.civil = attr ↔ attr.IsCivil := by
  obtain ⟨value⟩ := attr
  rw [civil, IsCivil, Attribute.mk.injEq]
  cases value with
  | none =>
      constructor
      · intro _ _ hnone
        cases hnone
      · intro _
        rfl
  | some value =>
      simp only [Option.map_some, Option.some.injEq, Kind.civil_eq_self_iff, forall_eq']

theorem ofCell_stored
    {kind : Kind} {attr : Attribute kind} (h : attr.InDomain) :
    ofCell (Sqlite.Storage.ofValue attr.toCell).toValue = .ok attr.civil := by
  obtain ⟨value⟩ := attr
  rw [ofCell_eq_read, Kind.read]
  cases value with
  | none => cases kind <;> rfl
  | some value =>
      have hcheck : kind.check (kind.civil value) = .ok () := by
        cases kind with
        | decimal => exact Kind.check_eq_ok_iff.mpr (h value rfl)
        | integer | foreignKey | boolean | text | binary | dateTime => rfl
      rw [toCell, Kind.decode_stored, ok_bind, Kind.checkOption, hcheck]
      rfl

end Attribute

namespace Column

theorem readAttribute_cons
    {kind : Kind} {cell : Value} {attr : Attribute kind}
    (h : Attribute.ofCell cell = .ok attr)
    (name : String) (rest : List Value) (position : Nat) :
    readAttribute name kind ⟨cell :: rest, position⟩ =
      (.ok attr, ⟨rest, position + 1⟩) := by
  have hnext : RowReader.next ⟨cell :: rest, position⟩ =
      (.ok cell, ⟨rest, position + 1⟩) := rfl
  rw [readAttribute, Action.bind_apply, Action.get_apply]
  simp only [Action.bind_apply, hnext, h]
  rfl

end Column

/-- A row of which nothing is left was read as a whole. -/
theorem RowReader.readRow_of_read
    {α : Type} {read : RowReader.Read α} {cells : List Value} {value : α}
    {position : Nat} (h : read (start cells) = (.ok value, ⟨[], position⟩)) :
    readRow read cells = .ok value := by
  simp only [readRow, ExceptT.run, Action.bind_apply, h]
  rfl

namespace Record

/-- Every present value of the record is in the domain of its field. -/
def InDomain : {fields : List Field} → Record fields → Prop
  | _, .nil => True
  | _, .cons attr rest => attr.InDomain ∧ rest.InDomain

/-- The record as clocks show its timestamps. -/
def civil : {fields : List Field} → Record fields → Record fields
  | _, .nil => .nil
  | _, .cons attr rest => .cons attr.civil rest.civil

/-- Clocks show every timestamp of the record. -/
def IsCivil : {fields : List Field} → Record fields → Prop
  | _, .nil => True
  | _, .cons attr rest => attr.IsCivil ∧ rest.IsCivil

theorem civil_eq_self_iff {fields : List Field} {record : Record fields} :
    record.civil = record ↔ record.IsCivil := by
  induction record with
  | nil => exact iff_of_true rfl trivial
  | cons attr record ih =>
      rw [civil, IsCivil, Record.cons.injEq, Attribute.civil_eq_self_iff, ih]

/-- The cells of a row in which a record was stored, as they are read. -/
def storedCells {fields : List Field} (record : Record fields) : List Value :=
  record.cells.map fun cell => (Sqlite.Storage.ofValue cell).toValue

/-- The fields of a record take the cells that were stored for it and no
others. -/
theorem read_storedCells
    {fields : List Field} {record : Record fields} (h : record.InDomain)
    (rest : List Value) (position : Nat) :
    Record.read fields ⟨record.storedCells ++ rest, position⟩ =
      (.ok record.civil, ⟨rest, position + fields.length⟩) := by
  induction record generalizing position with
  | nil => rfl
  | @cons field fields attr record ih =>
      obtain ⟨hattr, hrecord⟩ := h
      have hfirst := Column.readAttribute_cons (Attribute.ofCell_stored hattr)
        field.name (record.storedCells ++ rest) position
      have hothers := ih hrecord (position + 1)
      have hcells : (Record.cons attr record).storedCells ++ rest =
          (Sqlite.Storage.ofValue attr.toCell).toValue ::
            (record.storedCells ++ rest) := rfl
      have hplace : position + 1 + fields.length =
          position + (field :: fields).length := by
        rw [List.length_cons]
        omega
      rw [read, hcells, Action.bind_apply, hfirst]
      simp only [Action.bind_apply, hothers, hplace]
      rfl

end Record

/-- A record is read back from the row in which it was stored: each value from its own
place and as clocks show it, nothing where there was no value, and the row to its last
cell.  It is the record that was stored exactly when clocks show all its timestamps. -/
theorem Model.readRow_stored
    (model : Model) (record : Record model.fields) (h : record.InDomain) :
    Record.read model.fields (RowReader.start record.storedCells) =
        (.ok record.civil, ⟨[], model.fields.length⟩) ∧
      RowReader.readRow (Record.read model.fields) record.storedCells =
        .ok record.civil ∧
      (record.civil = record ↔ record.IsCivil) := by
  have hread : Record.read model.fields (RowReader.start record.storedCells) =
      (.ok record.civil, ⟨[], model.fields.length⟩) := by
    have hcells := Record.read_storedCells h [] 0
    rw [List.append_nil, Nat.zero_add] at hcells
    exact hcells
  exact ⟨hread, RowReader.readRow_of_read hread, Record.civil_eq_self_iff⟩

namespace Sample

/-- A user with a number, a text, no age, a negative zero and an empty byte string, who
joined at a moment. -/
def extremeUser (joined : Timestamp) : Record user.fields :=
  .cons ⟨some ⟨-9223372036854775808, by decide, by decide⟩⟩ <|
  .cons ⟨some "O'Hara \u0000"⟩ <|
  .cons .null <|
  .cons ⟨some ⟨0x8000000000000000⟩⟩ <|
  .cons ⟨some false⟩ <|
  .cons ⟨some []⟩ <|
  .cons ⟨some joined⟩ .nil

theorem inDomain_extremeUser (joined : Timestamp) : (extremeUser joined).InDomain := by
  have hscore : Attribute.InDomain (⟨some ⟨0x8000000000000000⟩⟩ : Attribute .decimal) := by
    intro value hvalue
    cases hvalue
    exact (by decide : Binary64.isFinite ⟨0x8000000000000000⟩ = true)
  exact ⟨fun _ _ => trivial, fun _ _ => trivial, fun _ _ => trivial, hscore,
    fun _ _ => trivial, fun _ _ => trivial, fun _ _ => trivial, trivial⟩

/-- A leap second before the common era. -/
def earlyLeap : Timestamp :=
  ⟨⟨-1, 2, 28, by decide⟩, ⟨23, 59, 59, 1500000000, by decide⟩⟩

theorem readRow_stored_extremeUser :
    (extremeUser earlyLeap).InDomain ∧
      RowReader.readRow (Record.read user.fields) (extremeUser earlyLeap).storedCells =
        .ok (extremeUser earlyLeap) := by
  have hdomain := inDomain_extremeUser earlyLeap
  have hshown : (extremeUser earlyLeap).civil = extremeUser earlyLeap := rfl
  obtain ⟨-, hrow, -⟩ := Model.readRow_stored user (extremeUser earlyLeap) hdomain
  rw [hshown] at hrow
  exact ⟨hdomain, hrow⟩

/-- A user who joined in a leap second inside a minute is read back with the second that
follows. -/
theorem readRow_stored_strayLeap :
    (extremeUser strayLeap).InDomain ∧
      RowReader.readRow (Record.read user.fields) (extremeUser strayLeap).storedCells =
        .ok (extremeUser afterStrayLeap) ∧
      extremeUser afterStrayLeap ≠ extremeUser strayLeap := by
  have hread := Record.read_storedCells (inDomain_extremeUser strayLeap) [] 0
  rw [List.append_nil] at hread
  have hne : extremeUser afterStrayLeap ≠ extremeUser strayLeap := by decide
  exact ⟨inDomain_extremeUser strayLeap, RowReader.readRow_of_read hread, hne⟩

end Sample

end TypedQuery
