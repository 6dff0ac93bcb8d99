import TypedQuery.Condition
import TypedQuery.Projection

/-!
# Relations

A relation describes a query over a model. Clauses are added in any order and
keep their own order only among clauses of one sort. A relation that has been
executed takes no more clauses: the attempt is remembered as an error. The
error of a faulty condition is remembered likewise, and the first error stays.
-/

namespace TypedQuery

/-- The direction of a sort. -/
inductive Order where
  | asc
  | desc
  deriving DecidableEq, Repr

/-- The direction when none is given. -/
instance : Inhabited Order := ⟨.asc⟩

def Order.word : Order → String
  | asc => "ASC"
  | desc => "DESC"

def Order.ofName? : String → Option Order
  | "asc" => some asc
  | "desc" => some desc
  | "default" => some default
  | _ => none

/-- Whether rows without a partner are kept. -/
inductive JoinKind where
  | inner
  | left
  deriving DecidableEq, Repr

/-- The words for a join, with the blanks around them. -/
def JoinKind.words : JoinKind → String
  | inner => " INNER JOIN "
  | left => " LEFT JOIN "

/-- How far a relation has come. -/
inductive Phase where
  /-- Nothing has been added. -/
  | initial
  /-- A condition has been added. -/
  | filtering
  /-- A projection, join, grouping, order or bound has been added. -/
  | shaping
  /-- The relation has been executed. -/
  | finalized
  deriving DecidableEq, Repr

namespace Phase

/-- The place of a phase in the order of phases. -/
def rank : Phase → Nat
  | initial => 0
  | filtering => 1
  | shaping => 2
  | finalized => 3

def later (a b : Phase) : Phase :=
  if a.rank ≤ b.rank then b else a

def name : Phase → String
  | initial => "Initial"
  | filtering => "Filtering"
  | shaping => "Shaping"
  | finalized => "Finalized"

end Phase

/-- A table joined to the relation, and the predicate that pairs the rows. -/
structure Join where
  table : String
  kind : JoinKind
  on : Predicate
  deriving DecidableEq

/-- What can be added to a relation. -/
inductive Clause where
  /-- Keeps the rows that satisfy a condition, besides all earlier ones. -/
  | filter (condition : Condition)
  /-- Reads rows of a shape instead of what was read before. -/
  | select (shape : RowShape)
  /-- Groups by further columns. -/
  | groupBy (columns : List ColumnRef)
  /-- Sorts by a further column. -/
  | orderBy (column : ColumnRef) (order : Order)
  /-- Bounds the number of rows, instead of an earlier bound. -/
  | limit (count : UInt64)
  /-- Skips rows, instead of an earlier number of them. -/
  | offset (count : UInt64)
  /-- Pairs the rows with those of another table. -/
  | join (kind : JoinKind) (table : String) (on : Condition)

/-- A query over a model. -/
structure Relation where
  model : Model
  shape : RowShape
  joins : List Join
  condition : Option Predicate
  groupBy : List ColumnRef
  orderBy : List (ColumnRef × Order)
  limit : Option UInt64
  offset : Option UInt64
  phase : Phase
  fault : Option Error

namespace Clause

/-- The phase that a clause brings a relation to. -/
def phase : Clause → Phase
  | filter _ => .filtering
  | _ => .shaping

end Clause

namespace Relation

def all (model : Model) : Relation :=
  ⟨model, .model model, [], none, [], [], none, none, .initial, none⟩

def alreadyExecuted : Error :=
  ⟨.usage, "relation already executed"⟩

/-- Remembers an error, unless there is an earlier one. -/
def record (relation : Relation) (error : Option Error) : Relation :=
  { relation with fault := relation.fault.or error }

/-- A predicate besides those that were there. -/
def conjoin : Option Predicate → Predicate → Predicate
  | none, predicate => predicate
  | some earlier, predicate => .both earlier predicate

/-- Adds a clause to a relation that has not been executed. -/
def addOpen (relation : Relation) : Clause → Relation
  | .filter condition =>
    { relation.record condition.fault with
      condition := some (conjoin relation.condition condition.predicate) }
  | .select shape => { relation with shape := shape }
  | .groupBy columns => { relation with groupBy := relation.groupBy ++ columns }
  | .orderBy column order => { relation with orderBy := relation.orderBy ++ [(column, order)] }
  | .limit count => { relation with limit := some count }
  | .offset count => { relation with offset := some count }
  | .join kind table on =>
    { relation.record on.fault with
      joins := relation.joins ++ [⟨table, kind, on.predicate⟩] }

/-- Adds a clause to a relation that has been executed: an error, and nothing
else but that the rows are read in a newly selected shape. -/
def addClosed (relation : Relation) : Clause → Relation
  | .select shape => { relation.record (some alreadyExecuted) with shape := shape }
  | _ => relation.record (some alreadyExecuted)

def add (relation : Relation) (clause : Clause) : Relation :=
  if relation.phase = .finalized then relation.addClosed clause
  else
    { relation.addOpen clause with phase := relation.phase.later clause.phase }

def addAll (relation : Relation) (clauses : List Clause) : Relation :=
  clauses.foldl add relation

/-- The records of a model that satisfy a condition. -/
def filtered (model : Model) (condition : Condition) : Relation :=
  (all model).add (.filter condition)

def selected (model : Model) (shape : RowShape) : Relation :=
  (all model).add (.select shape)

/-- Marks a relation as executed. That fails when an error is remembered, and
when the relation has been executed before; then it stays as it is. -/
def finalize (relation : Relation) : Result Relation :=
  match relation.fault with
  | some error => .error error
  | none =>
    if relation.phase = .finalized then .error alreadyExecuted
    else .ok { relation with phase := .finalized }

end Relation

end TypedQuery
