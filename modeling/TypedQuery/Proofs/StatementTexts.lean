import TypedQuery.Proofs.FiniteOperands
import TypedQuery.Proofs.InsertedRecords
import TypedQuery.Proofs.ReleasedValues

/-!
# Texts do not depend on values

Two programs make the same calls with different operands, patterns and assigned values.
What they send has the same text, and as many values.  Neither an operand nor a pattern
is ever written into a text, and no operand changes the form of a condition.  What can
be seen is how many values there are in a set, and whether an attribute that is
compared with its column has a value, as it is looked for with `IS NULL` otherwise.
-/

namespace TypedQuery

theorem Condition.Built.fault_eq_none
    {condition : Condition} (h : condition.Built)
    (hoperands : Value.AllFinite condition.predicate.operands) :
    condition.fault = none := by
  rw [h.fault_eq]
  exact Value.findSome?_fault?_eq_none_iff.mpr hoperands

/-- Statements with one text and equally many values. -/
structure Statement.Alike (first second : Statement) : Prop where
  sql : first.sql = second.sql
  params : first.params.length = second.params.length

/-! ## Fragments with one text -/

namespace Fragment

/-- Fragments with one text and equally many values, wherever they stand. -/
structure Alike (first second : Fragment) : Prop where
  count : first.paramCount = second.paramCount
  text : ∀ dialect index, first.textFrom dialect index = second.textFrom dialect index

namespace Alike

theorem refl (fragment : Fragment) : Alike fragment fragment :=
  ⟨rfl, fun _ _ => rfl⟩

/-- A value is written as a placeholder. -/
theorem param (first second : Value) : Alike (.param first) (.param second) := by
  refine ⟨rfl, ?_⟩
  intro dialect index
  rw [textFrom_param, textFrom_param]

theorem append
    {first second first' second' : Fragment} (h : Alike first second)
    (h' : Alike first' second') :
    Alike (first ++ first') (second ++ second') := by
  constructor
  · simp only [paramCount, params_append, List.length_append]
    exact congrArg₂ (· + ·) h.count h'.count
  · intro dialect index
    rw [textFrom_append, textFrom_append, h.text, h.count, h'.text]

theorem parens {first second : Fragment} (h : Alike first second) :
    Alike first.parens second.parens :=
  ((refl _).append h).append (refl _)

theorem join
    (separator : String) {first second : List Fragment}
    (h : List.Forall₂ Alike first second) :
    Alike (Fragment.join separator first) (Fragment.join separator second) := by
  induction h with
  | nil => exact refl _
  | cons hhead htail ih =>
      cases htail with
      | nil => exact hhead
      | cons hnext hrest => exact (hhead.append (refl _)).append ih

/-- Values between commas: their number decides. -/
theorem params {first second : List Value} (h : first.length = second.length) :
    Alike (Fragment.join ", " (first.map .param)) (Fragment.join ", " (second.map .param)) := by
  apply join
  induction first generalizing second with
  | nil =>
      obtain rfl := List.length_eq_zero_iff.mp h.symm
      exact .nil
  | cons value first ih =>
      cases second with
      | nil => cases h
      | cons value' second => exact .cons (param value value') (ih (Nat.succ.inj h))

theorem render {first second : Fragment} (h : Alike first second) (dialect : Dialect) :
    (first.render dialect).Alike (second.render dialect) :=
  ⟨h.text dialect 0, h.count⟩

end Alike

end Fragment

/-! ## Conditions -/

namespace Predicate

/-- Predicates with one text. -/
def Alike (first second : Predicate) : Prop :=
  first.fragment.Alike second.fragment

theorem alike_compare (column : ColumnRef) (op : CompareOp) (first second : Value) :
    Alike (.compare column op first) (.compare column op second) :=
  (Fragment.Alike.refl _).append (.param first second)

theorem alike_between (column : ColumnRef) (low high low' high' : Value) :
    Alike (.between column low high) (.between column low' high') := by
  have hlow : (Fragment.column column ++ .text " BETWEEN " ++ .param low).Alike
      (Fragment.column column ++ .text " BETWEEN " ++ .param low') :=
    (Fragment.Alike.refl _).append (.param low low')
  exact (hlow.append (.refl (.text " AND "))).append (.param high high')

/-- Only the number of values in a set can be seen. -/
theorem alike_inSet
    (column : ColumnRef) {first second : List Value} (negated : Bool)
    (h : first.length = second.length) :
    Alike (.inSet column first negated) (.inSet column second negated) := by
  have hvalues := (Fragment.Alike.params h).parens
  cases first with
  | nil =>
      obtain rfl := List.length_eq_zero_iff.mp h.symm
      exact .refl _
  | cons value first =>
      cases second with
      | nil => cases h
      | cons value' second => exact (Fragment.Alike.refl _).append hvalues

theorem alike_like (column : ColumnRef) (first second : String) (negated : Bool) :
    Alike (.like column first negated) (.like column second negated) :=
  (Fragment.Alike.refl _).append (.param (.text first) (.text second))

theorem Alike.both {left right left' right' : Predicate} (hleft : left.Alike left')
    (hright : right.Alike right') :
    Alike (.both left right) (.both left' right') :=
  (hleft.parens.append (.refl _)).append hright.parens

theorem Alike.either {left right left' right' : Predicate} (hleft : left.Alike left')
    (hright : right.Alike right') :
    Alike (.either left right) (.either left' right') :=
  (hleft.parens.append (.refl _)).append hright.parens

end Predicate

/-- Conditions that the builders make by the same calls on the same columns.  Operands
and patterns may differ, but not the number of values in a set, nor whether an
attribute has a value. -/
inductive Condition.SameCalls : Condition → Condition → Prop where
  | compare (column : Column) (op : CompareOp) (value value' : column.kind.Carrier) :
      SameCalls (column.compare op value) (column.compare op value')
  | between (column : Column) (low high low' high' : column.kind.Carrier) :
      SameCalls (column.between low high) (column.between low' high')
  | inSet (column : Column) {values values' : List column.kind.Carrier} (negated : Bool)
      (hlength : values.length = values'.length) :
      SameCalls (column.inSet values negated) (column.inSet values' negated)
  | like (column : Column) (pattern pattern' : String) (negated : Bool) :
      SameCalls (column.like pattern negated) (column.like pattern' negated)
  | isNull (column : Column) (negated : Bool) :
      SameCalls (column.isNull negated) (column.isNull negated)
  | eqColumn (column other : Column) :
      SameCalls (column.eqColumn other) (column.eqColumn other)
  | equals (column : Column) {attr attr' : Attribute column.kind} (h : attr.Obtained)
      (h' : attr'.Obtained) (hpresent : attr.isPresent = attr'.isPresent) :
      SameCalls (column.equals attr) (column.equals attr')
  | and {left right left' right' : Condition} (hleft : SameCalls left left')
      (hright : SameCalls right right') :
      SameCalls (left.and right) (left'.and right')
  | or {left right left' right' : Condition} (hleft : SameCalls left left')
      (hright : SameCalls right right') :
      SameCalls (left.or right) (left'.or right')

namespace Condition.SameCalls

variable {first second : Condition}

theorem symm (h : SameCalls first second) : SameCalls second first := by
  induction h with
  | compare column op value value' => exact .compare column op value' value
  | between column low high low' high' => exact .between column low' high' low high
  | inSet column negated hlength => exact .inSet column negated hlength.symm
  | like column pattern pattern' negated => exact .like column pattern' pattern negated
  | isNull column negated => exact .isNull column negated
  | eqColumn column other => exact .eqColumn column other
  | equals column h h' hpresent => exact .equals column h' h hpresent.symm
  | and hleft hright ihleft ihright => exact .and ihleft ihright
  | or hleft hright ihleft ihright => exact .or ihleft ihright

theorem built (h : SameCalls first second) : first.Built := by
  induction h with
  | compare column op value value' => exact .compare column op value
  | between column low high low' high' => exact .between column low high
  | inSet column negated hlength => exact .inSet column _ negated
  | like column pattern pattern' negated => exact .like column pattern negated
  | isNull column negated => exact .isNull column negated
  | eqColumn column other => exact .eqColumn column other
  | equals column h h' hpresent => exact .equals column _ h
  | and hleft hright ihleft ihright => exact .and ihleft ihright
  | or hleft hright ihleft ihright => exact .or ihleft ihright

theorem alike (h : SameCalls first second) : first.predicate.Alike second.predicate := by
  induction h with
  | compare column op value value' => exact Predicate.alike_compare _ _ _ _
  | between column low high low' high' => exact Predicate.alike_between _ _ _ _ _
  | inSet column negated hlength =>
      apply Predicate.alike_inSet
      rw [List.length_map, List.length_map, hlength]
  | like column pattern pattern' negated => exact Predicate.alike_like _ _ _ _
  | isNull column negated => exact .refl _
  | eqColumn column other => exact .refl _
  | @equals column attr attr' h h' hpresent =>
      obtain ⟨value⟩ := attr
      obtain ⟨value'⟩ := attr'
      cases value with
      | none =>
          cases value' with
          | none => exact .refl _
          | some value' => cases hpresent
      | some value =>
          cases value' with
          | none => cases hpresent
          | some value' => exact Predicate.alike_compare _ _ _ _
  | and hleft hright ihleft ihright => exact ihleft.both ihright
  | or hleft hright ihleft ihright => exact ihleft.either ihright

end Condition.SameCalls

/-- Assignments that the builders make by the same calls on the same columns. -/
inductive Assignment.SameCalls : Assignment → Assignment → Prop where
  | set (column : Column) (value value' : column.kind.Carrier) :
      SameCalls (.set column value) (.set column value')
  | setNull (column : Column) : SameCalls (.setNull column) (.setNull column)
  | ofAttribute (column : Column) {attr attr' : Attribute column.kind} (h : attr.Obtained)
      (h' : attr'.Obtained) :
      SameCalls (.ofAttribute column attr) (.ofAttribute column attr')

namespace Assignment.SameCalls

variable {first second : Assignment}

theorem symm (h : SameCalls first second) : SameCalls second first := by
  cases h with
  | set column value value' => exact .set column value' value
  | setNull column => exact .setNull column
  | ofAttribute column h h' => exact .ofAttribute column h' h

theorem built (h : SameCalls first second) : first.Built := by
  cases h with
  | set column value value' => exact .set column value
  | setNull column => exact .setNull column
  | ofAttribute column h h' => exact .ofAttribute column _ h

theorem findSome?_fault
    {assignments assignments' : List Assignment}
    (h : List.Forall₂ SameCalls assignments assignments')
    (hfinite : Value.AllFinite (assignments.map Assignment.value)) :
    assignments.findSome? Assignment.fault = none := by
  have hbuilt : ∀ assignment ∈ assignments, assignment.Built :=
    forall_mem_of_forall₂ (fun _ _ hcalls => hcalls.built) h
  rw [findSome?_fault_eq hbuilt]
  exact Value.findSome?_fault?_eq_none_iff.mpr hfinite

/-- An assigned value is a placeholder too, also where it is null. -/
theorem alike (h : SameCalls first second) : first.fragment.Alike second.fragment := by
  have hcolumn : first.column = second.column := by cases h <;> rfl
  rw [Assignment.fragment, Assignment.fragment, hcolumn]
  exact (Fragment.Alike.refl _).append (.param first.value second.value)

end Assignment.SameCalls

/-! ## Relations -/

/-- Clauses of one sort that are made by the same calls. -/
inductive Clause.SameCalls : Clause → Clause → Prop where
  | filter {condition condition' : Condition} (h : condition.SameCalls condition') :
      SameCalls (.filter condition) (.filter condition')
  | select (shape : RowShape) : SameCalls (.select shape) (.select shape)
  | groupBy (columns : List ColumnRef) : SameCalls (.groupBy columns) (.groupBy columns)
  | orderBy (column : ColumnRef) (order : Order) :
      SameCalls (.orderBy column order) (.orderBy column order)
  | limit (count : UInt64) : SameCalls (.limit count) (.limit count)
  | offset (count : UInt64) : SameCalls (.offset count) (.offset count)
  | join (kind : JoinKind) (table : String) {on on' : Condition} (h : on.SameCalls on') :
      SameCalls (.join kind table on) (.join kind table on')

namespace Clause.SameCalls

variable {first second : Clause}

theorem symm (h : SameCalls first second) : SameCalls second first := by
  cases h with
  | filter h => exact .filter h.symm
  | select shape => exact .select shape
  | groupBy columns => exact .groupBy columns
  | orderBy column order => exact .orderBy column order
  | limit count => exact .limit count
  | offset count => exact .offset count
  | join kind table h => exact .join kind table h.symm

theorem built (h : SameCalls first second) : first.Built := by
  cases h with
  | filter h => exact h.built
  | join kind table h => exact h.built
  | _ => trivial

end Clause.SameCalls

namespace Relation

/-- Relations that differ at most in the values of their conditions. -/
structure SameShape (first second : Relation) : Prop where
  model : first.model = second.model
  shape : first.shape = second.shape
  joins : List.Forall₂ (fun join join' : Join => join.fragment.Alike join'.fragment)
    first.joins second.joins
  condition : Option.Rel Predicate.Alike first.condition second.condition
  groupBy : first.groupBy = second.groupBy
  orderBy : first.orderBy = second.orderBy
  limit : first.limit = second.limit
  offset : first.offset = second.offset
  phase : first.phase = second.phase

theorem sameShape_all (model : Model) : SameShape (all model) (all model) :=
  ⟨rfl, rfl, .nil, .none, rfl, rfl, rfl, rfl, rfl⟩

theorem alike_conjoin {condition condition' : Option Predicate}
    {predicate predicate' : Predicate} (h : Option.Rel Predicate.Alike condition condition')
    (hpredicate : predicate.Alike predicate') :
    (conjoin condition predicate).Alike (conjoin condition' predicate') := by
  cases h with
  | none => exact hpredicate
  | some hearlier => exact hearlier.both hpredicate

namespace SameShape

variable {first second : Relation}

/-- The same call on both keeps their shape. -/
theorem add (h : SameShape first second) {clause clause' : Clause}
    (hclause : clause.SameCalls clause') :
    SameShape (first.add clause) (second.add clause') := by
  by_cases hphase : first.phase = .finalized
  · rw [Relation.add, Relation.add, if_pos hphase, if_pos (h.phase ▸ hphase)]
    cases hclause with
    | select shape => exact { h with shape := rfl }
    | _ => exact { h with }
  · rw [Relation.add, Relation.add, if_neg hphase, if_neg (h.phase ▸ hphase), h.phase]
    cases hclause with
    | filter hcondition =>
        exact { h with
          condition := .some (alike_conjoin h.condition hcondition.alike)
          phase := rfl }
    | select shape => exact { h with shape := rfl, phase := rfl }
    | groupBy columns =>
        exact { h with groupBy := congrArg (· ++ columns) h.groupBy, phase := rfl }
    | orderBy column order =>
        exact { h with orderBy := congrArg (· ++ [(column, order)]) h.orderBy, phase := rfl }
    | limit count => exact { h with limit := rfl, phase := rfl }
    | offset count => exact { h with offset := rfl, phase := rfl }
    | join kind table hon =>
        have hjoin := (Fragment.Alike.refl
          (.text kind.words ++ .ident table ++ .text " ON ")).append hon.alike
        exact { h with
          joins := List.rel_append h.joins (.cons hjoin .nil)
          phase := rfl }

theorem addAll (h : SameShape first second) {clauses clauses' : List Clause}
    (hclauses : List.Forall₂ Clause.SameCalls clauses clauses') :
    SameShape (first.addAll clauses) (second.addAll clauses') := by
  induction hclauses generalizing first second with
  | nil => exact h
  | cons hclause hrest ih => exact ih (h.add hclause)

end SameShape

/-! ### What both write -/

theorem alike_where {condition condition' : Option Predicate}
    (h : Option.Rel Predicate.Alike condition condition') :
    (whereFragment condition).Alike (whereFragment condition') := by
  cases h with
  | none => exact .refl _
  | some hpredicate => exact (Fragment.Alike.refl _).append hpredicate

theorem alike_joins
    {sql sql' : Fragment} (h : sql.Alike sql') {joins joins' : List Join}
    (hjoins : List.Forall₂ (fun join join' : Join => join.fragment.Alike join'.fragment)
      joins joins') :
    (joins.foldl (fun sql join => sql ++ join.fragment) sql).Alike
      (joins'.foldl (fun sql join => sql ++ join.fragment) sql') := by
  induction hjoins generalizing sql sql' with
  | nil => exact h
  | cons hjoin hrest ih => exact ih (h.append hjoin)

namespace SameShape

variable {first second : Relation}

theorem source (h : SameShape first second) :
    first.sourceFragment.Alike second.sourceFragment := by
  rw [sourceFragment, sourceFragment, h.model]
  exact (alike_joins (.refl _) h.joins).append (alike_where h.condition)

theorem select (h : SameShape first second) (columns : List ColumnRef) :
    (first.selectFragment columns).Alike (second.selectFragment columns) := by
  rw [selectFragment, selectFragment, h.groupBy, h.orderBy, h.limit, h.offset]
  exact ((((Fragment.Alike.refl _).append h.source).append (.refl _)).append
    (.refl _)).append (.refl _)

theorem countBy (h : SameShape first second) (keys : List ColumnRef) :
    (first.countByFragment keys).Alike (second.countByFragment keys) := by
  rw [countByFragment, countByFragment, h.groupBy]
  exact ((Fragment.Alike.refl _).append h.source).append (.refl _)

end SameShape

end Relation

/-! ## Plans -/

/-- Plans that fail with one error, or send one text. -/
inductive Request.SamePlan : Result Request → Result Request → Prop where
  | refused (error : Error) : SamePlan (.error error) (.error error)
  | query {first second : Fragment} (h : first.Alike second) :
      SamePlan (.ok (.query first)) (.ok (.query second))
  | execute {first second : Fragment} (h : first.Alike second) :
      SamePlan (.ok (.execute first)) (.ok (.execute second))

/-- Operations of one sort that are called with the same columns. -/
inductive Terminal.SameCalls : Terminal → Terminal → Prop where
  | same (terminal : Terminal) : SameCalls terminal terminal
  | update {assignments assignments' : List Assignment}
      (h : List.Forall₂ Assignment.SameCalls assignments assignments') :
      SameCalls (.update assignments) (.update assignments')
  | updateAll {assignments assignments' : List Assignment}
      (h : List.Forall₂ Assignment.SameCalls assignments assignments') :
      SameCalls (.updateAll assignments) (.updateAll assignments')

namespace Relation.SameShape

open Request

variable {first second : Relation} (h : SameShape first second)

include h

theorem aggregate (aggregate : Aggregate) (column : Option ColumnRef) :
    SamePlan (.query <$> first.aggregateFragment aggregate column)
      (.query <$> second.aggregateFragment aggregate column) := by
  unfold aggregateFragment
  rw [h.groupBy]
  split
  · exact .query ((Fragment.Alike.refl _).append h.source)
  · exact .refused _

theorem updateObstacle?_eq : first.updateObstacle? = second.updateObstacle? := by
  rw [updateObstacle?, updateObstacle?, h.limit, h.offset, h.orderBy, h.groupBy, h.shape,
    h.model]

/-- Updates have one text when the same columns are assigned and the same faults are
found. -/
theorem update {assignments assignments' : List Assignment}
    (hassignments : List.Forall₂ (fun assignment assignment' : Assignment =>
      assignment.fragment.Alike assignment'.fragment) assignments assignments')
    (hfault : assignments.findSome? Assignment.fault =
      assignments'.findSome? Assignment.fault) :
    SamePlan (.execute <$> first.updateFragment assignments)
      (.execute <$> second.updateFragment assignments') := by
  have hempty : assignments.isEmpty = assignments'.isEmpty := by
    cases hassignments <;> rfl
  rw [updateFragment, updateFragment, h.updateObstacle?_eq, hempty, hfault, h.model]
  split
  · exact .refused _
  split
  · exact .refused _
  split
  · exact .refused _
  have hlist := Fragment.Alike.join ", " (List.forall₂_map_left_iff.mpr
    (List.forall₂_map_right_iff.mpr hassignments))
  exact .execute (((Fragment.Alike.refl _).append hlist).append (alike_where h.condition))

end Relation.SameShape

namespace Terminal

/-- A condition is there for both relations of one shape or for none. -/
theorem plan_update_samePlan
    {first second : Relation} (h : first.SameShape second)
    {assignments assignments' : List Assignment}
    (hupdate : Request.SamePlan ((updateAll assignments).plan first)
      ((updateAll assignments').plan second)) :
    Request.SamePlan ((update assignments).plan first) ((update assignments').plan second) := by
  have hcondition : first.condition.isNone = second.condition.isNone := by
    have hrel := h.condition
    generalize first.condition = condition at hrel ⊢
    generalize second.condition = condition' at hrel ⊢
    cases hrel <;> rfl
  have hplan : ∀ (relation : Relation) (assignments : List Assignment),
      (update assignments).plan relation =
        if relation.condition.isNone then .error Relation.unconditionalUpdate
        else (updateAll assignments).plan relation := fun _ _ => rfl
  rw [hplan, hplan, hcondition]
  split
  · exact .refused _
  · exact hupdate

theorem plan_updateAll_samePlan
    {first second : Relation} (h : first.SameShape second)
    {assignments assignments' : List Assignment}
    (hcalls : List.Forall₂ Assignment.SameCalls assignments assignments')
    (hfinite : Value.AllFinite (assignments.map Assignment.value))
    (hfinite' : Value.AllFinite (assignments'.map Assignment.value)) :
    Request.SamePlan ((updateAll assignments).plan first)
      ((updateAll assignments').plan second) := by
  have hflip : List.Forall₂ Assignment.SameCalls assignments' assignments :=
    hcalls.flip.imp fun _ _ => Assignment.SameCalls.symm
  have hfault := Assignment.SameCalls.findSome?_fault hcalls hfinite
  have hfault' := Assignment.SameCalls.findSome?_fault hflip hfinite'
  exact h.update (hcalls.imp fun _ _ => Assignment.SameCalls.alike)
    (hfault.trans hfault'.symm)

/-- One operation plans the same text for relations of one shape. -/
theorem plan_samePlan
    (terminal : Terminal) {first second : Relation} (h : first.SameShape second) :
    Request.SamePlan (terminal.plan first) (terminal.plan second) := by
  have hupdate : ∀ assignments : List Assignment,
      Request.SamePlan ((updateAll assignments).plan first)
        ((updateAll assignments).plan second) := by
    intro assignments
    exact h.update (List.forall₂_same.mpr fun _ _ => .refl _) rfl
  cases terminal with
  | exec =>
      rw [plan, plan, h.shape]
      exact .query (h.select _)
  | pluck shape => exact .query (h.select _)
  | countBy keys => exact .query (h.countBy _)
  | update assignments => exact plan_update_samePlan h (hupdate assignments)
  | updateAll assignments => exact hupdate assignments
  | sum column | avg column | min column | max column | count | countOf column =>
      exact h.aggregate _ _

/-- So do operations called in the same way, if what they assign is in domain. -/
theorem samePlan_of_sameCalls
    {terminal terminal' : Terminal} (hcalls : terminal.SameCalls terminal')
    (hfinite : Value.AllFinite terminal.assigned)
    (hfinite' : Value.AllFinite terminal'.assigned)
    {first second : Relation} (h : first.SameShape second) :
    Request.SamePlan (terminal.plan first) (terminal'.plan second) := by
  cases hcalls with
  | same => exact terminal.plan_samePlan h
  | update hassignments =>
      exact plan_update_samePlan h (plan_updateAll_samePlan h hassignments hfinite hfinite')
  | updateAll hassignments => exact plan_updateAll_samePlan h hassignments hfinite hfinite'

theorem sent_alike
    {terminal terminal' : Terminal} {first second : Relation}
    (h : Request.SamePlan (terminal.plan first) (terminal'.plan second)) (dialect : Dialect) :
    List.Forall₂ Statement.Alike (terminal.sent first dialect)
      (terminal'.sent second dialect) := by
  rw [Terminal.sent, Terminal.sent]
  generalize terminal.plan first = plan at h ⊢
  generalize terminal'.plan second = plan' at h ⊢
  cases h with
  | refused error => exact .nil
  | query halike => exact .cons (halike.render dialect) .nil
  | execute halike => exact .cons (halike.render dialect) .nil

end Terminal

/-! ## Records -/

namespace Model

variable (model : Model)

/-- The tuples of an insertion have one text when they have the same widths. -/
theorem alike_insertFragment
    (present : List Bool) {rows rows' : List (List Value)}
    (h : List.Forall₂ (fun row row' : List Value => row.length = row'.length) rows rows') :
    (model.insertFragment present rows).Alike (model.insertFragment present rows') := by
  have htuples : List.Forall₂ Fragment.Alike
      (rows.map fun row => tuple (pick present row))
      (rows'.map fun row => tuple (pick present row)) := by
    rw [List.forall₂_map_left_iff, List.forall₂_map_right_iff]
    refine h.imp fun row row' hlength => ?_
    exact (Fragment.Alike.params (length_pick_eq hlength)).parens
  exact (Fragment.Alike.refl _).append (.join ", " htuples)

/-- What is sent for a number of records, as far as it can be told from the attributes
that are present in them. -/
def insertionOutline (present : List Bool) (count : Nat) (dialect : Dialect) : Statement :=
  if present.any id then
    (model.insertFragment present
      (List.replicate count (List.replicate model.fields.length .null))).render dialect
  else model.defaultsStatement

theorem alike_insertionOutline
    {model : Model} {records : List (Record model.fields)}
    (hpresent : (model.presence (records.map Record.cells)).any id = true)
    (dialect : Dialect) :
    ((model.insertFragment (model.presence (records.map Record.cells))
        (records.map Record.cells)).render dialect).Alike
      (model.insertionOutline (model.presence (records.map Record.cells)) records.length
        dialect) := by
  have hwidths : List.Forall₂ (fun row row' : List Value => row.length = row'.length)
      (records.map Record.cells)
      (List.replicate records.length (List.replicate model.fields.length .null)) := by
    rw [← List.map_const', List.forall₂_map_left_iff, List.forall₂_map_right_iff]
    refine List.forall₂_same.mpr fun record _ => ?_
    rw [record.length_cells, List.length_replicate]
  rw [insertionOutline, if_pos hpresent]
  exact (model.alike_insertFragment _ hwidths).render dialect

/-- Records in which the same attributes are present mark the same columns. -/
theorem presence_eq
    {model : Model} {records records' : List (Record model.fields)}
    (h : ∀ position, (∃ record ∈ records, record.IsPresentAt position) ↔
      ∃ record ∈ records', record.IsPresentAt position) :
    model.presence (records.map Record.cells) = model.presence (records'.map Record.cells) := by
  rw [presence, presence]
  apply List.map_congr_left
  intro position _
  have hposition := h position
  simp only [Record.isPresentAt_iff] at hposition
  rw [Bool.eq_iff_iff]
  simpa using hposition

theorem rows_of_validRows
    {model : Model} {records : List (Record model.fields)} {rows : List (List Value)}
    (h : model.validRows records = .ok rows) :
    rows = records.map Record.cells := by
  induction records generalizing rows with
  | nil =>
      obtain rfl := Except.ok.inj h
      rfl
  | cons record records ih =>
      rw [validRows] at h
      obtain ⟨_, -, h⟩ := bind_eq_ok_iff.mp h
      obtain ⟨rest, hrest, h⟩ := bind_eq_ok_iff.mp h
      obtain rfl := Except.ok.inj h
      rw [ih hrest, List.map_cons]

variable {σ : Type} [Adaptor σ]

theorem handed_executeFragment (fragment : Fragment) (handed : Handed σ) :
    (Adaptor.executeFragment fragment handed).2.statements =
      handed.statements ++ [fragment.render (Adaptor.dialect handed)] := by
  rw [Adaptor.executeFragment, Action.bind_apply, Action.get_apply]
  rfl

theorem handed_executes
    {statement : Statement} {before after : Handed σ} {counts : List UInt64}
    (h : Executes statement before counts after) :
    after.statements = before.statements ++ List.replicate counts.length statement := by
  induction h with
  | done state => exact (List.append_nil _).symm
  | @next state middle after count counts hfirst hrest ih =>
      have hmiddle : middle.statements = state.statements ++ [statement] := by
        have hsent : (Adaptor.execute statement state).2.statements =
            state.statements ++ [statement] := rfl
        rwa [hfirst] at hsent
      rw [ih, hmiddle, List.append_assoc]
      rfl

/-- Rows of defaults are inserted by one statement, again and again until it fails. -/
theorem handed_executeTimes (times : Nat) (handed : Handed σ) :
    ∃ count, (executeTimes model.insertDefaultsFragment times handed).2.statements =
        handed.statements ++ List.replicate count model.defaultsStatement ∧
      (0 < times → 0 < count) := by
  have hrepeats := repeats_executeTimes model.render_insertDefaultsFragment times handed
  generalize executeTimes model.insertDefaultsFragment times handed = outcome at hrepeats ⊢
  cases hrepeats with
  | @completed counts after total hexecutes htimes htotal =>
      exact ⟨counts.length, handed_executes hexecutes, fun hpositive => htimes ▸ hpositive⟩
  | @stopped counts middle after error hexecutes htimes herror =>
      refine ⟨counts.length + 1, ?_, fun _ => Nat.succ_pos _⟩
      have hsent : (Adaptor.execute model.defaultsStatement middle).2.statements =
          middle.statements ++ [model.defaultsStatement] := rfl
      rw [herror] at hsent
      rw [hsent, handed_executes hexecutes, List.append_assoc, List.replicate_succ']

/-- What inserting records sends is told by its outline. -/
theorem handed_insertAll
    (records : List (Record model.fields)) (handed : Handed σ) :
    ∃ sent, (model.insertAll records handed).2.statements = handed.statements ++ sent ∧
      (∀ statement ∈ sent, statement.Alike
        (model.insertionOutline (model.presence (records.map Record.cells)) records.length
          (Adaptor.dialect handed))) ∧
      ((∀ record ∈ records, model.validate record = .ok ()) →
        records ≠ [] → sent ≠ []) := by
  rw [insertAll]
  cases hrows : model.validRows records with
  | error error =>
      refine ⟨[], (List.append_nil _).symm, List.forall_mem_nil _, ?_⟩
      intro hvalid
      rw [validRows_of_valid hvalid] at hrows
      cases hrows
  | ok rows =>
      obtain rfl := rows_of_validRows hrows
      dsimp only
      by_cases hpresent : (model.presence (records.map Record.cells)).any id = true
      · rw [if_pos hpresent]
        refine ⟨_, handed_executeFragment _ _, ?_, fun _ _ => List.cons_ne_nil _ _⟩
        exact List.forall_mem_singleton.mpr (alike_insertionOutline hpresent _)
      · rw [if_neg hpresent, List.length_map]
        obtain ⟨count, hsent, hcount⟩ := model.handed_executeTimes records.length handed
        refine ⟨_, hsent, ?_, ?_⟩
        · intro statement hstatement
          rw [List.eq_of_mem_replicate hstatement, insertionOutline, if_neg hpresent]
          exact ⟨rfl, rfl⟩
        · intro _ hrecords hnil
          have hpositive := hcount (List.length_pos_iff.mpr hrecords)
          rw [List.replicate_eq_nil_iff] at hnil
          omega

end Model

/-! ## Two runs -/

/-- Statements that are alike, one for the other, were handed over on two connections. -/
def HandedAlike {σ σ' : Type} (before after : Handed σ) (before' after' : Handed σ') : Prop :=
  ∃ sent sent', after.statements = before.statements ++ sent ∧
    after'.statements = before'.statements ++ sent' ∧
    List.Forall₂ Statement.Alike sent sent'

namespace Relation

theorem fault_addAll_eq_none
    (model : Model) {clauses clauses' : List Clause}
    (h : List.Forall₂ Clause.SameCalls clauses clauses')
    (hfinite : Value.AllFinite (clauses.flatMap Clause.operands)) :
    ((all model).addAll clauses).fault = none := by
  rw [addAll_all]
  show clauses.findSome? Clause.fault? = none
  have hbuilt : ∀ clause ∈ clauses, clause.Built :=
    forall_mem_of_forall₂ (fun _ _ hcalls => hcalls.built) h
  rw [List.findSome?_eq_none_iff]
  intro clause hclause
  rw [(hbuilt clause hclause).fault?_eq, Value.findSome?_fault?_eq_none_iff]
  intro r hr
  exact hfinite r (List.mem_flatMap.mpr ⟨clause, hclause, hr⟩)

variable {σ : Type} [Adaptor σ]

/-- An open relation without errors hands over what is planned for it. -/
theorem statements_run
    {relation : Relation} (hphase : relation.phase ≠ .finalized)
    (hfault : relation.fault = none) (terminal : Terminal) (handed : Handed σ) :
    (relation.run terminal handed).2.2.statements =
      handed.statements ++ terminal.sent { relation with phase := .finalized }
        (Adaptor.dialect handed) := by
  obtain ⟨sent, -, -, hstate, hsent⟩ := run_handed relation terminal handed
  rw [finalize_of_open hphase hfault] at hsent
  rw [hstate, hsent]
  rfl

theorem phase_addAll_all (model : Model) (clauses : List Clause) :
    ((all model).addAll clauses).phase ≠ .finalized := by
  rw [addAll_all]
  exact phase_ofHistory_ne_finalized model clauses

theorem SameShape.finalized {first second : Relation} (h : SameShape first second) :
    SameShape { first with phase := .finalized } { second with phase := .finalized } :=
  { h with phase := rfl }

/-- Histories of the same calls, and an operation that is called in the same way. -/
theorem handedAlike_run
    {σ' : Type} [Adaptor σ'] (model : Model) {clauses clauses' : List Clause}
    (hclauses : List.Forall₂ Clause.SameCalls clauses clauses')
    (hoperands : Value.AllFinite (clauses.flatMap Clause.operands))
    (hoperands' : Value.AllFinite (clauses'.flatMap Clause.operands))
    {terminal terminal' : Terminal} (hterminal : terminal.SameCalls terminal')
    (hassigned : Value.AllFinite terminal.assigned)
    (hassigned' : Value.AllFinite terminal'.assigned)
    {handed : Handed σ} {handed' : Handed σ'}
    (hdialect : Adaptor.dialect handed = Adaptor.dialect handed') :
    HandedAlike handed (((all model).addAll clauses).run terminal handed).2.2
      handed' (((all model).addAll clauses').run terminal' handed').2.2 := by
  have hflip : List.Forall₂ Clause.SameCalls clauses' clauses :=
    hclauses.flip.imp fun _ _ => Clause.SameCalls.symm
  have hshape := ((sameShape_all model).addAll hclauses).finalized
  have hplan := Terminal.samePlan_of_sameCalls hterminal hassigned hassigned' hshape
  have hsent := statements_run (phase_addAll_all model clauses)
    (fault_addAll_eq_none model hclauses hoperands) terminal handed
  have hsent' := statements_run (phase_addAll_all model clauses')
    (fault_addAll_eq_none model hflip hoperands') terminal' handed'
  rw [← hdialect] at hsent'
  exact ⟨_, _, hsent, hsent', Terminal.sent_alike hplan _⟩

end Relation

namespace Model

variable {σ σ' : Type} [Adaptor σ] [Adaptor σ']

theorem handedAlike_destroy
    (model : Model) {condition condition' : Condition} (h : condition.SameCalls condition')
    (hoperands : Value.AllFinite condition.predicate.operands)
    (hoperands' : Value.AllFinite condition'.predicate.operands)
    {handed : Handed σ} {handed' : Handed σ'}
    (hdialect : Adaptor.dialect handed = Adaptor.dialect handed') :
    HandedAlike handed (model.destroy condition handed).2
      handed' (model.destroy condition' handed').2 := by
  rw [destroy, h.built.fault_eq_none hoperands, destroy, h.symm.built.fault_eq_none hoperands']
  have hfragment : (model.deleteFragment condition.predicate).Alike
      (model.deleteFragment condition'.predicate) :=
    (Fragment.Alike.refl _).append h.alike
  refine ⟨_, _, handed_executeFragment _ _, handed_executeFragment _ _, ?_⟩
  rw [← hdialect]
  exact .cons (hfragment.render _) .nil

/-- The text of a statement does not depend on the values in it.  Two programs whose
histories are made by the same calls, with operands in domain, hand over statements that
have one text and equally many values, whatever operation is run, if it is called in the
same way; so do deletions by conditions that are made by the same calls.  For equally
many records in which the same attributes are present, all insertions have one text and
equally many values, and valid records are inserted. -/
theorem texts_independent_of_values
    (model : Model) (handed : Handed σ) (handed' : Handed σ')
    (hdialect : Adaptor.dialect handed = Adaptor.dialect handed') :
    (∀ clauses clauses' terminal terminal',
      List.Forall₂ Clause.SameCalls clauses clauses' →
      Value.AllFinite (clauses.flatMap Clause.operands) →
      Value.AllFinite (clauses'.flatMap Clause.operands) →
      Terminal.SameCalls terminal terminal' →
      Value.AllFinite terminal.assigned →
      Value.AllFinite terminal'.assigned →
        HandedAlike
          handed (((Relation.all model).addAll clauses).run terminal handed).2.2
          handed' (((Relation.all model).addAll clauses').run terminal' handed').2.2) ∧
    (∀ condition condition',
      Condition.SameCalls condition condition' →
      Value.AllFinite condition.predicate.operands →
      Value.AllFinite condition'.predicate.operands →
        HandedAlike handed (model.destroy condition handed).2
          handed' (model.destroy condition' handed').2) ∧
    (∀ records records' : List (Record model.fields),
      records.length = records'.length →
      (∀ position, (∃ record ∈ records, record.IsPresentAt position) ↔
        ∃ record ∈ records', record.IsPresentAt position) →
        ∃ sent sent',
          (model.insertAll records handed).2.statements = handed.statements ++ sent ∧
          (model.insertAll records' handed').2.statements = handed'.statements ++ sent' ∧
          (∀ first ∈ sent ++ sent', ∀ second ∈ sent ++ sent', first.Alike second) ∧
          ((∀ record ∈ records, model.validate record = .ok ()) →
            records ≠ [] → sent ≠ []) ∧
          ((∀ record ∈ records', model.validate record = .ok ()) →
            records' ≠ [] → sent' ≠ [])) := by
  refine ⟨?_, ?_, ?_⟩
  · intro clauses clauses' terminal terminal' hclauses hoperands hoperands' hterminal
      hassigned hassigned'
    exact Relation.handedAlike_run model hclauses hoperands hoperands' hterminal hassigned
      hassigned' hdialect
  · intro condition condition' hcalls hoperands hoperands'
    exact model.handedAlike_destroy hcalls hoperands hoperands' hdialect
  · intro records records' hlength hpresent
    obtain ⟨sent, hsent, houtline, hvalid⟩ := model.handed_insertAll records handed
    obtain ⟨sent', hsent', houtline', hvalid'⟩ := model.handed_insertAll records' handed'
    rw [← presence_eq hpresent, ← hlength, ← hdialect] at houtline'
    refine ⟨sent, sent', hsent, hsent', ?_, hvalid, hvalid'⟩
    have hall : ∀ statement ∈ sent ++ sent', statement.Alike _ :=
      List.forall_mem_append.mpr ⟨houtline, houtline'⟩
    intro first hfirst second hsecond
    exact ⟨(hall first hfirst).sql.trans (hall second hsecond).sql.symm,
      (hall first hfirst).params.trans (hall second hsecond).params.symm⟩

end Model

namespace Sample

/-- A connection to which nothing has been handed over yet. -/
def unspoken : Handed Scripted :=
  ⟨Situation.quiet, []⟩

def labelled (pattern : String) : Condition :=
  Column.like ⟨"nokey", "label", .text⟩ pattern false

def relabel (label : String) : Terminal :=
  .update [.set ⟨"nokey", "label", .text⟩ label]

/-- Two records with the columns of `halves`. -/
def otherHalves : List (Record noKey.fields) :=
  [.cons ⟨some "NULL), (DEFAULT"⟩ (.cons .null .nil),
    .cons .null (.cons ⟨some ⟨-1, by decide, by decide⟩⟩ .nil)]

/-- What looks like SQL in a value changes nothing. -/
theorem texts_independent_of_values_labels :
    HandedAlike
      unspoken (((Relation.all noKey).addAll [.filter (labelled "A%")]).run
        (relabel "Ada") unspoken).2.2
      unspoken (((Relation.all noKey).addAll [.filter (labelled "' OR 1 = 1 --")]).run
        (relabel "?1\" = NULL") unspoken).2.2 ∧
    HandedAlike unspoken (noKey.destroy (labelled "A%") unspoken).2
      unspoken (noKey.destroy (labelled "' OR 1 = 1 --") unspoken).2 ∧
    (∃ first ∈ (noKey.insertAll halves unspoken).2.statements,
      ∃ second ∈ (noKey.insertAll otherHalves unspoken).2.statements,
        first.Alike second) := by
  obtain ⟨hruns, hdeletions, hinsertions⟩ :=
    Model.texts_independent_of_values noKey unspoken unspoken rfl
  have hlabelled : ∀ pattern pattern', (labelled pattern).SameCalls (labelled pattern') :=
    fun pattern pattern' => .like _ pattern pattern' false
  have htext : ∀ text, Value.AllFinite [.text text] := by
    intro text r hr
    cases List.mem_singleton.mp hr
  have hrelabel : ∀ label label', Terminal.SameCalls (relabel label) (relabel label') :=
    fun label label' => .update (.cons (.set ⟨"nokey", "label", .text⟩ label label') .nil)
  have hfilters : ∀ pattern pattern', List.Forall₂ Clause.SameCalls
      [.filter (labelled pattern)] [.filter (labelled pattern')] :=
    fun pattern pattern' => .cons (.filter (hlabelled pattern pattern')) .nil
  have hpresent : ∀ position, (∃ record ∈ halves, record.IsPresentAt position) ↔
      ∃ record ∈ otherHalves, record.IsPresentAt position := by
    have hpair : ∀ (first second : Record noKey.fields) (position : Nat),
        (∃ record ∈ [first, second], record.IsPresentAt position) ↔
          first.IsPresentAt position ∨ second.IsPresentAt position := by
      simp
    intro position
    refine (hpair _ _ position).trans (Iff.trans ?_ (hpair _ _ position).symm)
    rcases position with _ | _ | position <;> exact Iff.rfl
  have hhalves : ∀ record ∈ halves, noKey.validate record = .ok () :=
    List.forall_mem_cons.mpr ⟨rfl, List.forall_mem_singleton.mpr rfl⟩
  have hotherHalves : ∀ record ∈ otherHalves, noKey.validate record = .ok () :=
    List.forall_mem_cons.mpr ⟨rfl, List.forall_mem_singleton.mpr rfl⟩
  refine ⟨?_, ?_, ?_⟩
  · exact hruns _ _ _ _ (hfilters _ _) (htext _) (htext _) (hrelabel _ _) (htext _) (htext _)
  · exact hdeletions _ _ (hlabelled _ _) (htext _) (htext _)
  · obtain ⟨sent, sent', hsent, hsent', halike, hvalid, hvalid'⟩ :=
      hinsertions halves otherHalves rfl hpresent
    have hne := hvalid hhalves (List.cons_ne_nil _ _)
    have hne' := hvalid' hotherHalves (List.cons_ne_nil _ _)
    obtain ⟨first, hfirst⟩ := List.exists_mem_of_ne_nil _ hne
    obtain ⟨second, hsecond⟩ := List.exists_mem_of_ne_nil _ hne'
    refine ⟨first, hsent ▸ List.mem_append_right _ hfirst,
      second, hsent' ▸ List.mem_append_right _ hsecond, ?_⟩
    exact halike _ (List.mem_append_left _ hfirst) _ (List.mem_append_right _ hsecond)

end Sample

end TypedQuery
