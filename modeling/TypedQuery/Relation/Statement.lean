import TypedQuery.Relation.Basic

/-!
# Statements of relations

The clauses of a relation are written in the fixed order of SQL, whatever order
they were added in. Every statement over a relation draws on the same rows:
its tables, joins and condition.
-/

namespace TypedQuery

/-- A function over all rows of a relation. -/
inductive Aggregate where
  | sum
  | avg
  | min
  | max
  | count
  deriving DecidableEq, Repr

def Aggregate.word : Aggregate → String
  | sum => "SUM"
  | avg => "AVG"
  | min => "MIN"
  | max => "MAX"
  | count => "COUNT"

def Join.fragment (join : Join) : Fragment :=
  .text join.kind.words ++ .ident join.table ++ .text " ON " ++ join.on.fragment

namespace Relation

/-- The `WHERE` clause, if there is a condition. -/
def whereFragment : Option Predicate → Fragment
  | none => .empty
  | some predicate => .text " WHERE " ++ predicate.fragment

/-- The rows that a relation draws on: tables, joins and condition. -/
def sourceFragment (relation : Relation) : Fragment :=
  let tables := relation.joins.foldl (fun sql join => sql ++ join.fragment)
    (.text " FROM " ++ .ident relation.model.table)
  tables ++ whereFragment relation.condition

def columnList (columns : List ColumnRef) : Fragment :=
  Fragment.join ", " (columns.map .column)

/-- The `GROUP BY` clause, if there are grouping columns. -/
def groupFragment (columns : List ColumnRef) : Fragment :=
  if columns.isEmpty then .empty else .text " GROUP BY " ++ columnList columns

def orderTerm : ColumnRef × Order → Fragment
  | (column, order) => .column column ++ .text " " ++ .text order.word

/-- The `ORDER BY` clause, if there are terms. -/
def orderFragment (terms : List (ColumnRef × Order)) : Fragment :=
  if terms.isEmpty then .empty
  else .text " ORDER BY " ++ Fragment.join ", " (terms.map orderTerm)

def selectFragment (relation : Relation) (columns : List ColumnRef) : Fragment :=
  .text "SELECT " ++ columnList columns ++ relation.sourceFragment
    ++ groupFragment relation.groupBy ++ orderFragment relation.orderBy
    ++ .limit relation.limit relation.offset

/-- The statement that executing the relation sends. -/
def toStatement (relation : Relation) (dialect : Dialect) : Result Statement :=
  match relation.fault with
  | some error => .error error
  | none => .ok ((relation.selectFragment relation.shape.columnRefs).render dialect)

/-- Fails because an aggregate over groups has no single answer. -/
def aggregateOfGroups (aggregate : Aggregate) : Error :=
  ⟨.usage, aggregate.word ++ " on a grouped relation; use count_by for per-group counts"⟩

/-- The query for an aggregate over one column, or over whole rows. -/
def aggregateFragment (relation : Relation) (aggregate : Aggregate)
    (column : Option ColumnRef) : Result Fragment :=
  if relation.groupBy.isEmpty then
    let argument := match column with
      | some column => Fragment.column column
      | none => .text "*"
    .ok (.text "SELECT " ++ .text aggregate.word ++ argument.parens ++ relation.sourceFragment)
  else
    .error (aggregateOfGroups aggregate)

/-- The query for the number of rows for each combination of keys. -/
def countByFragment (relation : Relation) (keys : List ColumnRef) : Fragment :=
  .text "SELECT " ++ columnList keys ++ .text ", COUNT(*)" ++ relation.sourceFragment
    ++ groupFragment (relation.groupBy ++ keys)

/-- The first clause that an update cannot express. -/
def updateObstacle? (relation : Relation) : Option String :=
  if relation.limit.isSome then some "limit"
  else if relation.offset.isSome then some "offset"
  else if !relation.orderBy.isEmpty then some "order_by"
  else if !relation.groupBy.isEmpty then some "group_by"
  else if relation.shape.columnRefs ≠ relation.model.columns.map Column.ref then some "select"
  else none

/-- Fails because an update cannot express a clause. -/
def obstructedUpdate (clause : String) : Error :=
  ⟨.usage, "update on a relation with " ++ clause ++ "; narrow it with a condition instead"⟩

/-- Fails because an update assigns nothing. -/
def emptyUpdate : Error :=
  ⟨.usage, "update without assignments"⟩

/-- Fails because an update of chosen rows has no condition to choose them. -/
def unconditionalUpdate : Error :=
  ⟨.usage, "update without a condition; use update_all to update every row"⟩

def updateFragment (relation : Relation) (assignments : List Assignment) : Result Fragment :=
  match relation.updateObstacle? with
  | some clause => .error (obstructedUpdate clause)
  | none =>
    if assignments.isEmpty then .error emptyUpdate
    else
      match assignments.findSome? Assignment.fault with
      | some fault => .error fault
      | none =>
        .ok (.text "UPDATE " ++ .ident relation.model.table ++ .text " SET "
          ++ Fragment.join ", " (assignments.map Assignment.fragment)
          ++ whereFragment relation.condition)

end Relation

end TypedQuery
