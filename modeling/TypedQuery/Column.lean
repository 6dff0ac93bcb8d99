import TypedQuery.Fragment
import TypedQuery.Kind.Codec

/-!
# Columns and attributes

A column of a table is known by name and kind. An attribute is the value of a
column in one record, which may be absent.
-/

namespace TypedQuery

/-- A column together with the kind of its values. -/
structure Column where
  table : String
  name : String
  kind : Kind
  deriving DecidableEq, Repr

def Column.ref (column : Column) : ColumnRef :=
  ⟨column.table, column.name⟩

/-- The value of a column of some kind in one record, absent where the record
has none. -/
structure Attribute (kind : Kind) where
  value : Option kind.Carrier
  deriving DecidableEq

namespace Attribute

variable {kind : Kind}

def null : Attribute kind :=
  ⟨none⟩

/-- A value that columns of the kind accept, or none. -/
def ofOption (value : Option kind.Carrier) : Result (Attribute kind) :=
  mk <$> kind.checkOption value

/-- A value that columns of the kind accept. -/
def ofValue (value : kind.Carrier) : Result (Attribute kind) :=
  ofOption (some value)

/-- The value of a cell: what it decodes to, if columns of the kind accept that. -/
def ofCell (cell : Value) : Result (Attribute kind) := do
  ofOption (← kind.decode cell)

theorem ofCell_eq_read (cell : Value) :
    (ofCell cell : Result (Attribute kind)) = mk <$> kind.read cell := by
  rw [ofCell, Kind.read]
  cases kind.decode cell <;> rfl

/-- The value that a text denotes. The text is never read as "no value". -/
def ofText (text : String) : Result (Attribute kind) := do
  ofValue (← kind.parse text)

def isPresent (attr : Attribute kind) : Bool :=
  attr.value.isSome

def isNull (attr : Attribute kind) : Bool :=
  attr.value.isNone

/-- The bound form; absence is null. -/
def toCell (attr : Attribute kind) : Value :=
  match attr.value with
  | some value => kind.encode value
  | none => .null

/-- What stands for an absent value in text. -/
def absentText : String := "NULL"

/-- The text form, also of an absent value. -/
def display (attr : Attribute kind) : String :=
  match attr.value with
  | some value => kind.format value
  | none => absentText

/-- Equality of attributes; decimals are compared as numbers. -/
def same (a b : Attribute kind) : Bool :=
  match a.value, b.value with
  | some x, some y => kind.same x y
  | none, none => true
  | _, _ => false

/-- Every present value is in the domain of the kind. -/
def InDomain (attr : Attribute kind) : Prop :=
  ∀ value, attr.value = some value → kind.InDomain value

end Attribute

end TypedQuery
