import Mathlib.Data.List.Basic
import Mathlib.Data.List.Induction
import TypedQuery.Relation.Statement
import TypedQuery.Sample

/-!
# Histories of clauses

A relation to which clauses were added one by one is the relation that can be
read off the whole list of them.  Clauses of different sorts do not disturb each
other: joins, groupings and orders are collected, projections and bounds replace
each other, conditions are conjoined from the left, and the first error stays.
-/

namespace TypedQuery

/-- The sorts of clauses.  Both kinds of joins are of one sort. -/
inductive ClauseSort where
  | filter
  | select
  | groupBy
  | orderBy
  | limit
  | offset
  | join
  deriving DecidableEq

namespace Clause

def sort : Clause → ClauseSort
  | filter _ => .filter
  | select _ => .select
  | groupBy _ => .groupBy
  | orderBy _ _ => .orderBy
  | limit _ => .limit
  | offset _ => .offset
  | join _ _ _ => .join

@[simp]
def fault? : Clause → Option Error
  | filter condition => condition.fault
  | join _ _ on => on.fault
  | _ => none

@[simp]
def predicate? : Clause → Option Predicate
  | filter condition => some condition.predicate
  | _ => none

@[simp]
def shape? : Clause → Option RowShape
  | select shape => some shape
  | _ => none

@[simp]
def grouping? : Clause → Option (List ColumnRef)
  | groupBy columns => some columns
  | _ => none

@[simp]
def ordering? : Clause → Option (ColumnRef × Order)
  | orderBy column order => some (column, order)
  | _ => none

@[simp]
def limit? : Clause → Option UInt64
  | limit count => some count
  | _ => none

@[simp]
def offset? : Clause → Option UInt64
  | offset count => some count
  | _ => none

@[simp]
def join? : Clause → Option Join
  | join kind table on => some ⟨table, kind, on.predicate⟩
  | _ => none

theorem phase_ne_finalized (clause : Clause) : clause.phase ≠ .finalized := by
  cases clause <;> exact Phase.noConfusion

end Clause

namespace Phase

theorem later_eq_or_eq (a b : Phase) : a.later b = a ∨ a.later b = b := by
  rw [later]
  split
  · exact Or.inr rfl
  · exact Or.inl rfl

theorem later_ne_finalized {a b : Phase}
    (ha : a ≠ .finalized) (hb : b ≠ .finalized) :
    a.later b ≠ .finalized := by
  rcases later_eq_or_eq a b with h | h
  · rw [h]
    exact ha
  · rw [h]
    exact hb

end Phase

namespace Predicate

/-- The conjunction of predicates from the left; nothing when there are none. -/
def conjunction : List Predicate → Option Predicate
  | [] => none
  | first :: rest => some (rest.foldl both first)

theorem conjunction_concat (predicates : List Predicate) (last : Predicate) :
    conjunction (predicates ++ [last]) =
      some (Relation.conjoin (conjunction predicates) last) := by
  cases predicates with
  | nil => rfl
  | cons first rest =>
      rw [List.cons_append, conjunction, List.foldl_append]
      rfl

end Predicate

namespace Clause

/-- The clauses of each sort are the same, in the same order. -/
def Agree (first second : List Clause) : Prop :=
  ∀ sort : ClauseSort,
    first.filter (fun clause => clause.sort = sort) =
      second.filter (fun clause => clause.sort = sort)

/-- What only clauses of one sort have is found among the clauses of the sort. -/
theorem filterMap_filter_sort
    {α : Type} {f : Clause → Option α} {sort : ClauseSort}
    (hf : ∀ clause, clause.sort ≠ sort → f clause = none)
    (clauses : List Clause) :
    (clauses.filter (fun clause => clause.sort = sort)).filterMap f =
      clauses.filterMap f := by
  rw [List.filterMap_filter]
  apply List.filterMap_congr
  intro clause _
  by_cases hsort : clause.sort = sort
  · simp [hsort]
  · simp [hsort, hf clause hsort]

theorem Agree.filterMap_eq
    {first second : List Clause} (h : Agree first second)
    {α : Type} {f : Clause → Option α} (sort : ClauseSort)
    (hf : ∀ clause, clause.sort ≠ sort → f clause = none) :
    first.filterMap f = second.filterMap f := by
  rw [← filterMap_filter_sort hf first, h sort, filterMap_filter_sort hf second]

/-- Lists that agree hold the same clauses. -/
theorem Agree.mem_of_mem
    {first second : List Clause} (h : Agree first second) {clause : Clause}
    (hmem : clause ∈ second) :
    clause ∈ first := by
  have hsecond : clause ∈ second.filter fun other => other.sort = clause.sort :=
    List.mem_filter.mpr ⟨hmem, by simp⟩
  rw [← h clause.sort] at hsecond
  exact (List.mem_filter.mp hsecond).1

end Clause

namespace Relation

/-- The relation that a list of clauses over a model amounts to. -/
def ofHistory (model : Model) (clauses : List Clause) : Relation where
  model := model
  shape := (clauses.filterMap Clause.shape?).getLast?.getD (.model model)
  joins := clauses.filterMap Clause.join?
  condition := Predicate.conjunction (clauses.filterMap Clause.predicate?)
  groupBy := (clauses.filterMap Clause.grouping?).flatten
  orderBy := clauses.filterMap Clause.ordering?
  limit := (clauses.filterMap Clause.limit?).getLast?
  offset := (clauses.filterMap Clause.offset?).getLast?
  phase := clauses.foldl (fun phase clause => phase.later clause.phase) .initial
  fault := clauses.findSome? Clause.fault?

/-- Adding clauses does not execute a relation. -/
theorem phase_ofHistory_ne_finalized (model : Model) (clauses : List Clause) :
    (ofHistory model clauses).phase ≠ .finalized := by
  induction clauses using List.reverseRecOn with
  | nil => exact Phase.noConfusion
  | append_singleton clauses clause ih =>
      rw [ofHistory, List.foldl_append]
      exact Phase.later_ne_finalized ih clause.phase_ne_finalized

/-- One more clause amounts to a history that is longer by it. -/
theorem add_ofHistory (model : Model) (clauses : List Clause) (clause : Clause) :
    (ofHistory model clauses).add clause = ofHistory model (clauses ++ [clause]) := by
  rw [add, if_neg (phase_ofHistory_ne_finalized model clauses)]
  cases clause with
  | filter condition =>
      simp [addOpen, record, ofHistory, Predicate.conjunction_concat]
  | select shape => simp [addOpen, ofHistory, List.filterMap_cons]
  | groupBy columns => simp [addOpen, ofHistory, List.filterMap_cons]
  | orderBy column order => simp [addOpen, ofHistory, List.filterMap_cons]
  | limit count => simp [addOpen, ofHistory, List.filterMap_cons]
  | offset count => simp [addOpen, ofHistory, List.filterMap_cons]
  | join kind table on => simp [addOpen, record, ofHistory, List.filterMap_cons]

/-- A relation is what its whole history amounts to. -/
theorem addAll_all (model : Model) (clauses : List Clause) :
    (all model).addAll clauses = ofHistory model clauses := by
  -- Clauses come in at the end, so the induction takes the last one away.
  induction clauses using List.reverseRecOn with
  | nil => rfl
  | append_singleton clauses clause ih =>
      rw [addAll] at ih ⊢
      rw [List.foldl_append, ih]
      exact add_ofHistory model clauses clause

/-! ## Conditions one after the other -/

/-- Where nothing was conjoined yet, two conditions are one conjunction. -/
theorem add_filter_filter
    {relation : Relation} (hopen : relation.phase ≠ .finalized)
    (hnone : relation.condition = none) (first second : Condition) :
    (relation.add (.filter first)).add (.filter second) =
      relation.add (.filter (first.and second)) := by
  have hphase : relation.phase.later .filtering ≠ .finalized :=
    Phase.later_ne_finalized hopen Phase.noConfusion
  have hagain : (relation.phase.later .filtering).later .filtering =
      relation.phase.later .filtering := by
    cases relation.phase <;> rfl
  rw [add, add, add, if_neg hopen, if_neg hopen]
  simp [addOpen, record, Clause.phase, hphase, hagain, hnone, conjoin,
    Condition.and, Option.or_assoc]

/-- Where nothing was conjoined yet, any number of conditions is one
conjunction from the left. -/
theorem addAll_filters
    {relation : Relation} (hopen : relation.phase ≠ .finalized)
    (hnone : relation.condition = none) (first : Condition) (rest : List Condition) :
    relation.addAll ((first :: rest).map .filter) =
      relation.add (.filter (rest.foldl .and first)) := by
  induction rest generalizing first with
  | nil => rfl
  | cons second rest ih =>
      -- The first two conditions become one, and the rest follows that one.
      have hpair := add_filter_filter hopen hnone first second
      have hrest := ih (first.and second)
      rw [List.foldl_cons, ← hrest]
      simp only [addAll, List.map_cons, List.foldl_cons, hpair]

theorem condition_ofHistory_eq_none
    (model : Model) {clauses : List Clause}
    (h : ∀ clause ∈ clauses, clause.sort ≠ .filter) :
    (ofHistory model clauses).condition = none := by
  have hnone : clauses.filterMap Clause.predicate? = [] := by
    rw [List.filterMap_eq_nil_iff]
    intro clause hmem
    have hsort := h clause hmem
    cases clause <;> simp_all [Clause.sort]
  rw [ofHistory, hnone]
  rfl

/-- Two conditions on people. -/
def adult : Condition :=
  .ofPredicate (.compare ⟨"users", "age"⟩ .ge (.integer 18))

def named : Condition :=
  .ofPredicate (.isNull ⟨"users", "name"⟩ true)

end Relation

end TypedQuery
