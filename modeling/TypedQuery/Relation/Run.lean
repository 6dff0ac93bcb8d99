import TypedQuery.Adaptor.Basic
import TypedQuery.Relation.Statement

/-!
# Executing relations

A relation is executed once, by one of several terminal operations. Each plans
a statement, sends it through an adaptor and reads the answer. Whatever comes
of it, the relation is finalized, unless it already refused to be.
-/

namespace TypedQuery

/-- An operation that executes a relation. -/
inductive Terminal where
  /-- All rows in the relation's own shape. -/
  | exec
  /-- All rows as bare values of a shape. -/
  | pluck (shape : RowShape)
  /-- The sum of a column, in the column's kind. -/
  | sum (column : Column)
  /-- The mean of a column, as a decimal. -/
  | avg (column : Column)
  | min (column : Column)
  | max (column : Column)
  /-- The number of rows. -/
  | count
  /-- The number of rows in which a column is not null. -/
  | countOf (column : Column)
  /-- The number of rows for each combination of keys. -/
  | countBy (keys : RowShape)
  /-- Assigns to the rows that satisfy the condition, which must be there. -/
  | update (assignments : List Assignment)
  /-- Assigns to all rows, or to those that satisfy a condition. -/
  | updateAll (assignments : List Assignment)

/-- What executing a relation answers. -/
inductive Answer where
  | rows (rows : List Row)
  /-- A single value of a kind, if there is one. -/
  | value (kind : Kind) (attr : Attribute kind)
  | count (n : UInt64)
  /-- Numbers by keys, in the order in which the keys first appear. -/
  | counts (counts : List (Row × UInt64))

/-- What is sent to execute a relation. -/
inductive Request where
  | query (fragment : Fragment)
  | execute (fragment : Fragment)
  deriving DecidableEq

namespace Terminal

/-- What the operation sends for a relation. -/
def plan (relation : Relation) : Terminal → Result Request
  | exec => .ok (.query (relation.selectFragment relation.shape.columnRefs))
  | pluck shape => .ok (.query (relation.selectFragment shape.columnRefs))
  | sum column => .query <$> relation.aggregateFragment .sum (some column.ref)
  | avg column => .query <$> relation.aggregateFragment .avg (some column.ref)
  | min column => .query <$> relation.aggregateFragment .min (some column.ref)
  | max column => .query <$> relation.aggregateFragment .max (some column.ref)
  | count => .query <$> relation.aggregateFragment .count none
  | countOf column => .query <$> relation.aggregateFragment .count (some column.ref)
  | countBy keys => .ok (.query (relation.countByFragment keys.columnRefs))
  | update assignments =>
    if relation.condition.isNone then .error Relation.unconditionalUpdate
    else .execute <$> relation.updateFragment assignments
  | updateAll assignments => .execute <$> relation.updateFragment assignments

/-- Fails because a number of rows is negative. -/
def negativeCount (number : Int) : Error :=
  ⟨.query, "negative row count " ++ Digits.integerText number⟩

/-- Reads a number of rows; null counts as zero. -/
def readCount (cell : Value) : Result UInt64 := do
  let number := match ← Kind.decodeInteger .int64 cell with
    | some n => n.val
    | none => 0
  if number < 0 then throw (negativeCount number) else return UInt64.ofNat number.toNat

/-- Reads a row of keys followed by a number. -/
def readKeyCount (keys : RowShape) : RowReader.Read (Row × UInt64) := do
  let key ← keys.read .bare
  let cell ← RowReader.next
  match readCount cell with
  | .ok n => return (key, n)
  | .error error => throw error

/-- Adds to the number of a key; a new key goes to the end. -/
def tally : List (Row × UInt64) → Row × UInt64 → List (Row × UInt64)
  | [], entry => [entry]
  | (key, total) :: rest, (newKey, n) =>
    if key.sameLeaves newKey then (key, total + n) :: rest
    else (key, total) :: tally rest (newKey, n)

/-- Reads the rows of keys and numbers, adding up the numbers of equal keys. -/
def readCounts (keys : RowShape) (result : Rows) : Result (List (Row × UInt64)) := do
  let entries ← result.rows.mapM (RowReader.readRow (readKeyCount keys))
  return entries.foldl tally []

def readAnswer (relation : Relation) (result : Rows) : Terminal → Result Answer
  | exec => .rows <$> result.decode relation.shape
  | pluck shape => .rows <$> result.values shape
  | sum column | min column | max column =>
    (fun value => .value column.kind ⟨value⟩) <$> column.kind.read result.scalar
  | avg _ => (fun value => .value .decimal ⟨value⟩) <$> Kind.decimal.read result.scalar
  | count | countOf _ => .count <$> readCount result.scalar
  | countBy keys => .counts <$> readCounts keys result
  | update _ | updateAll _ => .ok (.rows [])

end Terminal

namespace Relation

variable {σ : Type} [Adaptor σ]

/-- Sends what an operation planned and reads the answer. -/
def answer (relation : Relation) (terminal : Terminal) : Action σ Answer := do
  match ← liftExcept (terminal.plan relation) with
  | .query fragment =>
    let result ← Adaptor.queryFragment fragment
    liftExcept (terminal.readAnswer relation result)
  | .execute fragment => return .count (← Adaptor.executeFragment fragment)
where
  /-- A result as an action. -/
  liftExcept {α : Type} (result : Result α) : Action σ α := fun state => (result, state)

/-- Executes a relation: the answer, the relation afterwards, and the
connection afterwards. -/
def run (relation : Relation) (terminal : Terminal) (state : σ) :
    Result Answer × Relation × σ :=
  match relation.finalize with
  | .error error => (.error error, relation, state)
  | .ok finalized =>
    let (result, state) := finalized.answer terminal state
    (result, finalized, state)

/-- Executes a relation whose rows are records of a model, and takes the first. -/
def firstRecord (relation : Relation) (model : Model) :
    Action σ (Option (Record model.fields)) := fun state =>
  match relation.run .exec state with
  | (.ok (.rows (row :: _)), _, state) => (.ok (row.record? model), state)
  | (.ok _, _, state) => (.ok none, state)
  | (.error error, _, state) => (.error error, state)

end Relation

end TypedQuery
