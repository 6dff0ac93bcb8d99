import TypedQuery.Inspect.Escapes
import TypedQuery.Condition
import TypedQuery.Relation.Basic

/-!
# Structural texts

A text that shows how a value is built, for people who debug. Structures show
their name and fields, alternatives their name and contents, and text stands
between double quotes.
-/

namespace TypedQuery

/-- A value as it is built. -/
inductive Inspected where
  /-- Written as it is. -/
  | atom (text : String)
  | quoted (text : String)
  /-- A name before contents in parentheses. -/
  | call (name : String) (contents : List Inspected)
  /-- A name before named fields in braces. -/
  | fields (name : String) (fields : List (String × Inspected))
  | list (items : List Inspected)

namespace Inspected

/-- Texts with a comma and a blank between neighbours. -/
def commas (texts : List String) : String :=
  String.intercalate ", " texts

/-- The text of an inspected value. A name without fields stands alone. -/
def text : Inspected → String
  | atom words => words
  | quoted words => Escapes.quote words
  | call name contents => name ++ "(" ++ commas (texts contents) ++ ")"
  | .fields name [] => name
  | .fields name entries => name ++ " \x7b " ++ commas (entryTexts entries) ++ " \x7d"
  | list items => "[" ++ commas (texts items) ++ "]"
where
  /-- The texts of inspected values. -/
  texts : List Inspected → List String
    | [] => []
    | item :: items => item.text :: texts items
  /-- The texts of fields. -/
  entryTexts : List (String × Inspected) → List String
    | [] => []
    | (name, item) :: entries => (name ++ ": " ++ item.text) :: entryTexts entries

def option {α : Type} (inspect : α → Inspected) : Option α → Inspected
  | none => atom "None"
  | some value => call "Some" [inspect value]

def bool (b : Bool) : Inspected :=
  atom (Value.booleanText b)

def natural (n : Nat) : Inspected :=
  atom (Digits.naturalText n)

end Inspected

def Dialect.inspect : Dialect → Inspected
  | .sqlite => .atom "SQLite"
  | .postgresql => .atom "PostgreSQL"

/-- The parts of a timestamp, with the letter between date and time. -/
def Timestamp.inspect (timestamp : Timestamp) : Inspected :=
  .atom (timestamp.write 'T')

/-- The bytes of a byte string as numbers. -/
def Bytes.inspect (bytes : Bytes) : Inspected :=
  .list (bytes.map fun byte => .natural byte.toNat)

/-- A bound value with the name of its shape. -/
def Value.inspect : Value → Inspected
  | .null => .atom "Null"
  | .boolean b => .call "Boolean" [.bool b]
  | .integer i => .call "Integer" [.atom (Digits.integerText i.toInt)]
  | .real r => .call "Real" [.atom r.structural]
  | .text s => .call "Text" [.quoted s]
  | .blob bytes => .call "Blob" [Bytes.inspect bytes]
  | .timestamp t => .call "Timestamp" [t.inspect]

def Kind.inspect : (kind : Kind) → kind.Carrier → Inspected
  | .integer _, n => .atom (Digits.integerText n.val)
  | .foreignKey _, n => .atom (Digits.integerText n.val)
  | .decimal, value => .atom value.structural
  | .boolean, value => .bool value
  | .text, value => .quoted value
  | .binary, value => Bytes.inspect value
  | .dateTime, value => value.inspect

def Attribute.inspect {kind : Kind} (name : String) (attr : Attribute kind) : Inspected :=
  match attr.value with
  | some value => .call name [kind.inspect value]
  | none => .call name [.atom Attribute.absentText]

def Record.inspectFields : {fields : List Field} → Record fields → List (String × Inspected)
  | _, .nil => []
  | field :: _, .cons attr rest =>
    (field.name, attr.inspect field.name) :: rest.inspectFields

def Model.inspect (model : Model) (record : Record model.fields) : Inspected :=
  .fields model.name record.inspectFields

/-- An error with the name of its category. -/
def Error.inspect (error : Error) : Inspected :=
  .call error.kind.title [.quoted error.message]

def ColumnRef.inspect (column : ColumnRef) : Inspected :=
  .fields "ColumnRef" [("table", .quoted column.table), ("name", .quoted column.name)]

def CompareOp.inspect : CompareOp → Inspected
  | .eq => .atom "Eq"
  | .ne => .atom "Ne"
  | .lt => .atom "Lt"
  | .le => .atom "Le"
  | .gt => .atom "Gt"
  | .ge => .atom "Ge"

def Predicate.inspect : Predicate → Inspected
  | .compare column op value =>
    .fields "Compare" [("column", column.inspect), ("op", op.inspect), ("value", value.inspect)]
  | .compareColumn column op other =>
    .fields "CompareColumn"
      [("column", column.inspect), ("op", op.inspect), ("other", other.inspect)]
  | .between column low high =>
    .fields "Between" [("column", column.inspect), ("low", low.inspect), ("high", high.inspect)]
  | .inSet column values negated =>
    .fields "InSet"
      [("column", column.inspect), ("values", .list (values.map Value.inspect)),
        ("negated", .bool negated)]
  | .like column pattern negated =>
    .fields "Like"
      [("column", column.inspect), ("pattern", .quoted pattern), ("negated", .bool negated)]
  | .isNull column negated =>
    .fields "Null" [("column", column.inspect), ("negated", .bool negated)]
  | .both left right => .call "And" [left.inspect, right.inspect]
  | .either left right => .call "Or" [left.inspect, right.inspect]

/-- A condition, with its fault if it has one. -/
def Condition.inspect (condition : Condition) : Inspected :=
  .call "Condition" (condition.predicate.inspect :: (condition.fault.map Error.inspect).toList)

def Assignment.inspect (assignment : Assignment) : Inspected :=
  .fields "Assignment"
    [("column", .quoted assignment.column), ("value", assignment.value.inspect),
      ("error", .option Error.inspect assignment.fault)]

def Order.inspect : Order → Inspected
  | .asc => .atom "Asc"
  | .desc => .atom "Desc"

def JoinKind.inspect : JoinKind → Inspected
  | .inner => .atom "Inner"
  | .left => .atom "Left"

def Join.inspect (join : Join) : Inspected :=
  .fields "Join"
    [("table", .quoted join.table), ("kind", join.kind.inspect), ("on", join.on.inspect)]

/-- The clauses of a relation and how far it has come. -/
def Relation.inspect (relation : Relation) : Inspected :=
  let bound : Option UInt64 → Inspected := .option fun n => .natural n.toNat
  .fields "Relation"
    [("table", .quoted relation.model.table),
      ("projection", .list (relation.shape.columnRefs.map ColumnRef.inspect)),
      ("joins", .list (relation.joins.map Join.inspect)),
      ("condition", .option Predicate.inspect relation.condition),
      ("group_by", .list (relation.groupBy.map ColumnRef.inspect)),
      ("order_by", .list (relation.orderBy.map fun (column, order) =>
        .call "" [column.inspect, order.inspect])),
      ("limit", bound relation.limit),
      ("offset", bound relation.offset),
      ("phase", .atom relation.phase.name)]

end TypedQuery
