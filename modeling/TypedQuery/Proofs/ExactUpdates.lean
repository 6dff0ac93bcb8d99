import TypedQuery.Proofs.ConditionText
import TypedQuery.Proofs.FiniteOperands

/-!
# Updates touch what was asked for

An update is sent for the table of a relation and for the whole condition that was
recorded.  Clauses that it cannot express are never dropped: whatever the history of
the relation, an update that would touch other rows than those is refused, and then the
connection is left alone.
-/

namespace TypedQuery

/-! ## The statement of an update -/

/-- A condition is written behind a word for it, whatever came before. -/
theorem Relation.textFrom_whereFragment_some
    (dialect : Dialect) (index : Nat) (predicate : Predicate) :
    (Relation.whereFragment (some predicate)).textFrom dialect index =
      " WHERE " ++ predicate.text dialect index := by
  have hwords : (Fragment.text " WHERE ").paramCount = 0 := rfl
  rw [Relation.whereFragment, Fragment.textFrom_append, hwords, Fragment.textFrom_text,
    Nat.add_zero, Predicate.textFrom_fragment]

/-- New values for the rows of a table, or for those that satisfy a condition. -/
structure Update where
  table : String
  assignments : List Assignment
  condition : Option Predicate

namespace Update

/-- What the clauses of a relation leave of an update: the table and all conditions. -/
def ofHistory (model : Model) (clauses : List Clause) (assignments : List Assignment) :
    Update :=
  ⟨model.table, assignments, Predicate.conjunction (clauses.filterMap Clause.predicate?)⟩

/-- The assignment at a place.  Its value is the parameter with that place. -/
def assignmentText (dialect : Dialect) (place : Nat) (assignment : Assignment) : String :=
  Identifier.quote assignment.column ++ " = " ++ dialect.placeholder (place + 1)

/-- The condition; its operands come after the assigned values. -/
def conditionText (update : Update) (dialect : Dialect) : String :=
  match update.condition with
  | none => ""
  | some predicate => " WHERE " ++ predicate.text dialect update.assignments.length

def statement (update : Update) (dialect : Dialect) : Statement where
  sql := "UPDATE " ++ Identifier.quote update.table ++ " SET " ++
    ", ".intercalate (update.assignments.mapIdx (assignmentText dialect)) ++
    update.conditionText dialect
  params := update.assignments.map Assignment.value ++
    update.condition.elim [] Predicate.operands

theorem textFrom_assignment (dialect : Dialect) (index : Nat) (assignment : Assignment) :
    assignment.fragment.textFrom dialect index =
      assignmentText dialect index assignment := by
  have hname : (Fragment.ident assignment.column ++ .text " = ").paramCount = 0 := by
    simp [Fragment.paramCount]
  have hcolumn : (Fragment.ident assignment.column).paramCount = 0 := rfl
  rw [Assignment.fragment, Fragment.textFrom_append, Fragment.textFrom_append, hname, hcolumn]
  simp [assignmentText]

theorem texts_assignments (dialect : Dialect) (index : Nat) (assignments : List Assignment) :
    Fragment.texts dialect index (assignments.map Assignment.fragment) =
      assignments.mapIdx fun place => assignmentText dialect (index + place) := by
  induction assignments generalizing index with
  | nil => rfl
  | cons assignment assignments ih =>
      have hcount : assignment.fragment.paramCount = 1 := by
        rw [Fragment.paramCount, Assignment.params_fragment]
        rfl
      rw [List.map_cons, Fragment.texts, textFrom_assignment, hcount, ih, List.mapIdx_cons]
      simp only [Nat.add_zero, Nat.add_assoc, Nat.add_comm 1]

theorem textFrom_where (update : Update) (dialect : Dialect) :
    (Relation.whereFragment update.condition).textFrom dialect update.assignments.length =
      update.conditionText dialect := by
  rw [conditionText]
  cases update.condition with
  | none => rfl
  | some predicate => exact Relation.textFrom_whereFragment_some dialect _ predicate

/-- The table, the assignments and the condition, in the order of SQL. -/
def fragment (update : Update) : Fragment :=
  .text "UPDATE " ++ .ident update.table ++ .text " SET " ++
    Fragment.join ", " (update.assignments.map Assignment.fragment) ++
    Relation.whereFragment update.condition

theorem render_fragment (update : Update) (dialect : Dialect) :
    update.fragment.render dialect = update.statement dialect := by
  let head : Fragment := .text "UPDATE " ++ .ident update.table ++ .text " SET "
  let body : Fragment := Fragment.join ", " (update.assignments.map Assignment.fragment)
  have hhead_count : head.paramCount = 0 := by
    simp [head, Fragment.paramCount]
  have hcount : (head ++ body).paramCount = update.assignments.length := by
    simp [head, body, Fragment.paramCount, Relation.params_assignments]
  have hhead : head.textFrom dialect 0 =
      "UPDATE " ++ Identifier.quote update.table ++ " SET " := by
    simp [head, Fragment.textFrom_append]
  have hbody : body.textFrom dialect 0 =
      ", ".intercalate (update.assignments.mapIdx (assignmentText dialect)) := by
    simp [body, Fragment.textFrom_join, texts_assignments]
  have hsql : update.fragment.textFrom dialect 0 = (update.statement dialect).sql :=
    calc (head ++ body ++ Relation.whereFragment update.condition).textFrom dialect 0
      _ = head.textFrom dialect 0 ++ body.textFrom dialect 0 ++
            (Relation.whereFragment update.condition).textFrom dialect
              update.assignments.length := by
          rw [Fragment.textFrom_append, Fragment.textFrom_append, hhead_count, hcount,
            Nat.add_zero, Nat.zero_add]
      _ = (update.statement dialect).sql := by
          rw [hhead, hbody, textFrom_where]
          rfl
  have hparams : update.fragment.params = (update.statement dialect).params := by
    simp [fragment, statement, Relation.params_assignments]
  exact congrArg₂ Statement.mk hsql hparams

end Update

/-! ## Histories that an update can express -/

namespace Clause

/-- The shape that is selected last; the whole record when none is. -/
def lastShape (model : Model) (clauses : List Clause) : RowShape :=
  (clauses.filterMap shape?).getLast?.getD (.model model)

/-- Nothing narrows, orders or groups the rows, and what was selected last are the
columns of the model. -/
@[mk_iff allowUpdate_iff]
structure AllowUpdate (model : Model) (clauses : List Clause) : Prop where
  limit : ∀ count, .limit count ∉ clauses
  offset : ∀ count, .offset count ∉ clauses
  orderBy : ∀ column order, .orderBy column order ∉ clauses
  groupBy : ∀ columns, .groupBy columns ∈ clauses → columns = []
  select : (lastShape model clauses).columnRefs = model.columns.map Column.ref

/-- Clauses have nothing of a sort when no clause of that sort is among them. -/
theorem filterMap_eq_nil_iff_not_mem
    {α : Type} {part : Clause → Option α} {make : α → Clause}
    (hpart : ∀ clause entry, part clause = some entry ↔ make entry = clause)
    {clauses : List Clause} :
    clauses.filterMap part = [] ↔ ∀ entry, make entry ∉ clauses := by
  rw [List.filterMap_eq_nil_iff]
  constructor
  · intro h entry hmem
    have hsome : part (make entry) = some entry := (hpart _ _).mpr rfl
    rw [h _ hmem] at hsome
    cases hsome
  · intro h clause hmem
    rw [Option.eq_none_iff_forall_ne_some]
    intro entry hsome
    have hmake : make entry = clause := (hpart _ _).mp hsome
    exact h entry (hmake ▸ hmem)

theorem limit?_eq_some_iff (clause : Clause) (count : UInt64) :
    clause.limit? = some count ↔ limit count = clause := by
  cases clause <;> simp [eq_comm]

theorem offset?_eq_some_iff (clause : Clause) (count : UInt64) :
    clause.offset? = some count ↔ offset count = clause := by
  cases clause <;> simp [eq_comm]

theorem ordering?_eq_some_iff (clause : Clause) (term : ColumnRef × Order) :
    clause.ordering? = some term ↔ orderBy term.1 term.2 = clause := by
  obtain ⟨column, order⟩ := term
  cases clause <;> simp [eq_comm]

theorem flatten_grouping?_eq_nil_iff {clauses : List Clause} :
    (clauses.filterMap grouping?).flatten = [] ↔
      ∀ columns, .groupBy columns ∈ clauses → columns = [] := by
  rw [List.flatten_eq_nil_iff]
  constructor
  · intro h columns hmem
    exact h columns (List.mem_filterMap.mpr ⟨_, hmem, rfl⟩)
  · intro h columns hmem
    obtain ⟨clause, hclause, hcolumns⟩ := List.mem_filterMap.mp hmem
    cases clause with
    | groupBy grouping =>
        obtain rfl := Option.some.inj hcolumns
        exact h grouping hclause
    | _ => cases hcolumns

end Clause

namespace Relation

theorem updateObstacle?_eq_none_iff (relation : Relation) :
    relation.updateObstacle? = none ↔
      relation.limit = none ∧ relation.offset = none ∧ relation.orderBy = [] ∧
        relation.groupBy = [] ∧
        relation.shape.columnRefs = relation.model.columns.map Column.ref := by
  rw [updateObstacle?]
  cases relation.limit with
  | some count => simp
  | none =>
      cases relation.offset with
      | some count => simp
      | none =>
          simp only [Option.isSome_none, Bool.false_eq_true, if_false]
          split_ifs <;> simp_all

theorem condition_ofHistory_ne_none_iff (model : Model) (clauses : List Clause) :
    (ofHistory model clauses).condition ≠ none ↔
      ∃ condition, .filter condition ∈ clauses := by
  constructor
  · intro h
    by_contra hfilter
    apply h
    apply condition_ofHistory_eq_none
    intro clause hmem hsort
    cases clause with
    | filter condition => exact hfilter ⟨condition, hmem⟩
    | _ => cases hsort
  · rintro ⟨condition, hmem⟩ hnone
    have hpredicate : condition.predicate ∈ clauses.filterMap Clause.predicate? :=
      List.mem_filterMap.mpr ⟨_, hmem, rfl⟩
    rw [ofHistory] at hnone
    cases hpredicates : clauses.filterMap Clause.predicate? with
    | nil =>
        rw [hpredicates] at hpredicate
        cases hpredicate
    | cons first rest =>
        rw [hpredicates] at hnone
        cases hnone

/-- An update finds no obstacle in just those histories that it can express. -/
theorem updateObstacle?_ofHistory_eq_none_iff (model : Model) (clauses : List Clause) :
    (ofHistory model clauses).updateObstacle? = none ↔
      Clause.AllowUpdate model clauses := by
  rw [updateObstacle?_eq_none_iff, Clause.allowUpdate_iff]
  simp only [ofHistory, List.getLast?_eq_none_iff, Clause.lastShape,
    Clause.filterMap_eq_nil_iff_not_mem Clause.limit?_eq_some_iff,
    Clause.filterMap_eq_nil_iff_not_mem Clause.offset?_eq_some_iff,
    Clause.filterMap_eq_nil_iff_not_mem Clause.ordering?_eq_some_iff,
    Clause.flatten_grouping?_eq_nil_iff, Prod.forall]

/-- An update has no obstacle, and it assigns something and nothing that is at fault. -/
structure AcceptsUpdate (relation : Relation) (assignments : List Assignment) : Prop where
  unobstructed : relation.updateObstacle? = none
  assigned : assignments ≠ []
  faultless : assignments.findSome? Assignment.fault = none

theorem AcceptsUpdate.updateFragment_eq
    {relation : Relation} {assignments : List Assignment}
    (h : relation.AcceptsUpdate assignments) :
    relation.updateFragment assignments =
      .ok (Update.mk relation.model.table assignments relation.condition).fragment := by
  have hassigned : assignments.isEmpty = false := by
    simpa using h.assigned
  rw [updateFragment, h.unobstructed]
  simp only [hassigned, Bool.false_eq_true, if_false, h.faultless]
  rfl

/-- An update that is not accepted is refused for how it is used, or for an assignment
at fault. -/
theorem updateFragment_of_not_acceptsUpdate
    {relation : Relation} {assignments : List Assignment}
    (h : ¬ relation.AcceptsUpdate assignments) :
    ∃ error, relation.updateFragment assignments = .error error ∧
      (error.kind = .usage ∨ assignments.findSome? Assignment.fault = some error) := by
  rw [updateFragment]
  cases hobstacle : relation.updateObstacle? with
  | some clause => exact ⟨_, rfl, Or.inl rfl⟩
  | none =>
      by_cases hassigned : assignments = []
      · subst hassigned
        exact ⟨_, rfl, Or.inl rfl⟩
      · cases hfault : assignments.findSome? Assignment.fault with
        | some fault => exact ⟨fault, by simp [hassigned], Or.inr rfl⟩
        | none => exact absurd ⟨hobstacle, hassigned, hfault⟩ h

/-- A planned statement is run, and its number of rows is the answer. -/
theorem run_eq_of_plan_execute
    {σ : Type} [Adaptor σ] {relation : Relation} {terminal : Terminal} {fragment : Fragment}
    (hphase : relation.phase ≠ .finalized) (hfault : relation.fault = none)
    (hplan : terminal.plan { relation with phase := .finalized } = .ok (.execute fragment))
    (state : σ) :
    relation.run terminal state =
      let outcome := Adaptor.execute (fragment.render (Adaptor.dialect state)) state
      (outcome.1.map .count, { relation with phase := .finalized }, outcome.2) := by
  rw [run_eq_of_finalize_ok (finalize_of_open hphase hfault), answer_eq, hplan]
  dsimp only
  cases Adaptor.execute (fragment.render (Adaptor.dialect state)) state with
  | mk result after => cases result <;> rfl

end Relation

/-! ## Plans of updates -/

namespace Terminal

variable {relation : Relation} {assignments : List Assignment}

theorem plan_updateAll_of_acceptsUpdate (h : relation.AcceptsUpdate assignments) :
    (updateAll assignments).plan { relation with phase := .finalized } =
      .ok (.execute (Update.mk relation.model.table assignments
        relation.condition).fragment) := by
  have hfinalized : Relation.AcceptsUpdate { relation with phase := .finalized } assignments :=
    ⟨h.unobstructed, h.assigned, h.faultless⟩
  rw [plan, hfinalized.updateFragment_eq]
  rfl

theorem plan_updateAll_of_not_acceptsUpdate
    (hassignments : ∀ assignment ∈ assignments, assignment.Built)
    (h : ¬ relation.AcceptsUpdate assignments) :
    ∃ error,
      (updateAll assignments).plan { relation with phase := .finalized } = .error error ∧
        (error.kind = .domain ∨ error.kind = .usage) := by
  obtain ⟨error, herror, hkind⟩ := Relation.updateFragment_of_not_acceptsUpdate h
  have hfinalized :
      Relation.updateFragment { relation with phase := .finalized } assignments =
        .error error := herror
  refine ⟨error, ?_, ?_⟩
  · rw [plan, hfinalized]
    rfl
  · rcases hkind with hkind | hfault
    · exact Or.inr hkind
    · rw [Assignment.findSome?_fault_eq hassignments] at hfault
      exact Or.inl (Value.kind_of_findSome?_fault? hfault)

/-- Where there is a condition, chosen rows are updated as all rows would be. -/
theorem plan_update (relation : Relation) (assignments : List Assignment) :
    (update assignments).plan relation =
      if relation.condition = none then .error Relation.unconditionalUpdate
      else (updateAll assignments).plan relation := by
  rw [plan, plan]
  cases relation.condition <;> rfl

end Terminal

/-! ## Updates after a history -/

namespace Move

def clause? {σ : Type} : Move σ → Option Clause
  | add clause => some clause
  | _ => none

end Move

namespace Situation

variable {σ : Type} [Adaptor σ]

theorem phase_next_of_finalized
    {situation : Situation σ} (h : situation.relation.phase = .finalized) (move : Move σ) :
    (situation.next move).relation.phase = .finalized := by
  rcases situation.next_cases move with
    ⟨hrelation, -⟩ | ⟨clause, -, hnext⟩ | ⟨terminal, -, -, hphase, -⟩
  · rw [hrelation, h]
  · rw [hnext]
    exact Relation.phase_add_of_finalized h clause
  · exact absurd h hphase

/-- As long as a relation has not been executed, it is what the clauses that were added
amount to, whatever else was tried. -/
theorem relation_after_of_open
    {model : Model} {connection : σ} {moves : List (Move σ)}
    (h : (after model connection moves).relation.phase ≠ .finalized) :
    (after model connection moves).relation =
      .ofHistory model (moves.filterMap Move.clause?) := by
  -- The last move is taken away: what is still open after it was open before it.
  induction moves using List.reverseRecOn with
  | nil => rfl
  | append_singleton moves move ih =>
      have hnext : after model connection (moves ++ [move]) =
          (after model connection moves).next move := play_append _ moves [move]
      rw [hnext] at h ⊢
      rw [List.filterMap_append]
      have hbefore : (after model connection moves).relation.phase ≠ .finalized :=
        fun hphase => h (phase_next_of_finalized hphase move)
      cases move with
      | add clause =>
          rw [next, ih hbefore]
          exact Relation.add_ofHistory model _ clause
      | elsewhere use =>
          have hnone : [Move.elsewhere use].filterMap Move.clause? = [] := rfl
          rw [hnone, List.append_nil]
          exact ih hbefore
      | run terminal =>
          have hnone : [(Move.run terminal : Move σ)].filterMap Move.clause? = [] := rfl
          rcases next_cases (after model connection moves) (.run terminal) with
            ⟨hrelation, -⟩ | ⟨clause, hmove, -⟩ | ⟨_, -, -, -, hrelation, -⟩
          · rw [hrelation, hnone, List.append_nil]
            exact ih hbefore
          · cases hmove
          · rw [hrelation] at h
            exact absurd rfl h

/-- An operation sends a statement just when it is admitted. -/
structure SendsJust (situation : Situation σ) (terminal : Terminal) (admitted : Prop)
    (statement : Statement) : Prop where
  /-- Then the statement is all that is handed over, and the answer is its number of
  rows. -/
  sent : admitted →
    situation.relation.run terminal situation.handed =
        ((Adaptor.execute statement situation.handed).1.map .count,
          { situation.relation with phase := .finalized },
          (Adaptor.execute statement situation.handed).2) ∧
      (Adaptor.execute statement situation.handed).2.statements =
        situation.handed.statements ++ [statement]
  /-- Otherwise it fails, and the connection is as it was. -/
  refused : ¬ admitted →
    ∃ error relation,
      situation.relation.run terminal situation.handed =
          (.error error, relation, situation.handed) ∧
        (situation.relation.fault = some error ∨ error.kind = .domain ∨ error.kind = .usage)

/-- What an operation does that plans a statement just when it is accepted. -/
theorem sendsJust_of_plan
    (situation : Situation σ) {terminal : Terminal} {accepted : Prop} {fragment : Fragment}
    (hok : accepted →
      terminal.plan { situation.relation with phase := .finalized } =
        .ok (.execute fragment))
    (herror : ¬ accepted →
      ∃ error,
        terminal.plan { situation.relation with phase := .finalized } = .error error ∧
          (error.kind = .domain ∨ error.kind = .usage)) :
    situation.SendsJust terminal
      (situation.relation.phase ≠ .finalized ∧ situation.relation.fault = none ∧ accepted)
      (fragment.render (Adaptor.dialect situation.handed)) := by
  constructor
  · rintro ⟨hphase, hfault, haccepted⟩
    exact ⟨Relation.run_eq_of_plan_execute hphase hfault (hok haccepted) _, rfl⟩
  · intro hadmitted
    rcases situation.relation.finalize_cases with
      ⟨error, hfault, h⟩ | ⟨-, -, h⟩ | ⟨hfault, hphase, h⟩
    · exact ⟨error, _, Relation.run_eq_of_finalize_error h _ _, Or.inl hfault⟩
    · exact ⟨_, _, Relation.run_eq_of_finalize_error h _ _, Or.inr (Or.inr rfl)⟩
    · obtain ⟨error, hplan, hkind⟩ :=
        herror fun haccepted => hadmitted ⟨hphase, hfault, haccepted⟩
      refine ⟨error, { situation.relation with phase := .finalized }, ?_, Or.inr hkind⟩
      rw [Relation.run_eq_of_finalize_ok h, Relation.answer_eq, hplan]

/-- Moves after which an update is sent: the relation has not been executed and
remembers no error, an update can express the clauses that were added, and what is
assigned is something and in domain. -/
structure AdmitUpdate (model : Model) (connection : σ) (moves : List (Move σ))
    (assignments : List Assignment) : Prop where
  unexecuted : (after model connection moves).relation.phase ≠ .finalized
  faultless : (after model connection moves).relation.fault = none
  expressible : Clause.AllowUpdate model (moves.filterMap Move.clause?)
  assigned : assignments ≠ []
  finite : Value.AllFinite (assignments.map Assignment.value)

/-- Every row may be assigned to, so no condition is asked for. -/
theorem sendsJust_updateAll
    (situation : Situation σ) {assignments : List Assignment}
    (hassignments : ∀ assignment ∈ assignments, assignment.Built) :
    situation.SendsJust (.updateAll assignments)
      (situation.relation.phase ≠ .finalized ∧ situation.relation.fault = none ∧
        situation.relation.AcceptsUpdate assignments)
      ((Update.mk situation.relation.model.table assignments
        situation.relation.condition).statement (Adaptor.dialect situation.handed)) := by
  rw [← Update.render_fragment]
  exact situation.sendsJust_of_plan Terminal.plan_updateAll_of_acceptsUpdate
    (Terminal.plan_updateAll_of_not_acceptsUpdate hassignments)

/-- Only chosen rows may be assigned to, so there has to be a condition. -/
theorem sendsJust_update
    (situation : Situation σ) {assignments : List Assignment}
    (hassignments : ∀ assignment ∈ assignments, assignment.Built) :
    situation.SendsJust (.update assignments)
      (situation.relation.phase ≠ .finalized ∧ situation.relation.fault = none ∧
        situation.relation.AcceptsUpdate assignments ∧ situation.relation.condition ≠ none)
      ((Update.mk situation.relation.model.table assignments
        situation.relation.condition).statement (Adaptor.dialect situation.handed)) := by
  rw [← Update.render_fragment]
  apply sendsJust_of_plan
  · rintro ⟨haccepts, hcondition⟩
    rw [Terminal.plan_update, if_neg hcondition]
    exact Terminal.plan_updateAll_of_acceptsUpdate haccepts
  · intro hrefused
    rw [Terminal.plan_update]
    by_cases hcondition : situation.relation.condition = none
    · exact ⟨Relation.unconditionalUpdate, if_pos hcondition, Or.inr rfl⟩
    · rw [if_neg hcondition]
      exact Terminal.plan_updateAll_of_not_acceptsUpdate hassignments
        fun haccepts => hrefused ⟨haccepts, hcondition⟩

theorem SendsJust.congr
    {situation : Situation σ} {terminal : Terminal} {admitted asked : Prop}
    {statement other : Statement} (h : situation.SendsJust terminal admitted statement)
    (hiff : admitted ↔ asked) (heq : asked → statement = other) :
    situation.SendsJust terminal asked other := by
  constructor
  · intro hasked
    rw [← heq hasked]
    exact h.sent (hiff.mpr hasked)
  · intro hasked
    exact h.refused fun hadmitted => hasked (hiff.mp hadmitted)

theorem acceptsUpdate_iff_admitUpdate
    (model : Model) (connection : σ) (moves : List (Move σ)) {assignments : List Assignment}
    (hassignments : ∀ assignment ∈ assignments, assignment.Built) :
    (after model connection moves).relation.phase ≠ .finalized ∧
        (after model connection moves).relation.fault = none ∧
        (after model connection moves).relation.AcceptsUpdate assignments ↔
      AdmitUpdate model connection moves assignments := by
  have hfaultless : assignments.findSome? Assignment.fault = none ↔
      Value.AllFinite (assignments.map Assignment.value) := by
    rw [Assignment.findSome?_fault_eq hassignments, Value.findSome?_fault?_eq_none_iff]
  constructor
  · rintro ⟨hphase, hfault, haccepts⟩
    have hexpressible := haccepts.unobstructed
    rw [relation_after_of_open hphase,
      Relation.updateObstacle?_ofHistory_eq_none_iff] at hexpressible
    exact ⟨hphase, hfault, hexpressible, haccepts.assigned,
      hfaultless.mp haccepts.faultless⟩
  · intro h
    refine ⟨h.unexecuted, h.faultless, ?_, h.assigned, hfaultless.mpr h.finite⟩
    rw [relation_after_of_open h.unexecuted,
      Relation.updateObstacle?_ofHistory_eq_none_iff]
    exact h.expressible

/-- Whatever is done to a relation in whatever order, an update of all its rows is sent
just when the relation is open and without errors, nothing bounds, orders, groups or
projects the rows, and something in domain is assigned; an update of chosen rows is sent
when there is a condition besides.  The statement is that of the table, the assignments
in order and the conjunction of all conditions.  An update that is not sent fails with
the error that the relation remembers, with a domain error or with a usage error, and
the connection is as it was. -/
theorem after_updates_as_asked
    (model : Model) (connection : σ) (moves : List (Move σ)) (assignments : List Assignment)
    (hassignments : ∀ assignment ∈ assignments, assignment.Built) :
    (after model connection moves).SendsJust (.update assignments)
      (AdmitUpdate model connection moves assignments ∧
        ∃ condition, .filter condition ∈ moves.filterMap Move.clause?)
      ((Update.ofHistory model (moves.filterMap Move.clause?) assignments).statement
        (Adaptor.dialect (after model connection moves).handed)) ∧
    (after model connection moves).SendsJust (.updateAll assignments)
      (AdmitUpdate model connection moves assignments)
      ((Update.ofHistory model (moves.filterMap Move.clause?) assignments).statement
        (Adaptor.dialect (after model connection moves).handed)) := by
  have hallowed := acceptsUpdate_iff_admitUpdate model connection moves hassignments
  have hstatement : (after model connection moves).relation.phase ≠ .finalized →
      Update.mk (after model connection moves).relation.model.table assignments
          (after model connection moves).relation.condition =
        Update.ofHistory model (moves.filterMap Move.clause?) assignments := by
    intro hphase
    rw [relation_after_of_open hphase]
    rfl
  have hcondition : (after model connection moves).relation.phase ≠ .finalized →
      ((after model connection moves).relation.condition ≠ none ↔
        ∃ condition, .filter condition ∈ moves.filterMap Move.clause?) := by
    intro hphase
    rw [relation_after_of_open hphase]
    exact Relation.condition_ofHistory_ne_none_iff model _
  constructor
  · refine ((after model connection moves).sendsJust_update hassignments).congr ?_ ?_
    · rw [← hallowed]
      constructor
      · rintro ⟨hphase, hfault, haccepts, hsome⟩
        exact ⟨⟨hphase, hfault, haccepts⟩, (hcondition hphase).mp hsome⟩
      · rintro ⟨⟨hphase, hfault, haccepts⟩, hfilter⟩
        exact ⟨hphase, hfault, haccepts, (hcondition hphase).mpr hfilter⟩
    · rintro ⟨hadmitted, -⟩
      rw [hstatement hadmitted.unexecuted]
  · refine ((after model connection moves).sendsJust_updateAll hassignments).congr hallowed ?_
    intro hadmitted
    rw [hstatement hadmitted.unexecuted]

/-- Two conditions, and a projection that is taken back. -/
def winnow : List (Move Scripted) :=
  [.add (.filter Relation.adult), .add (.select (.column score)), .elsewhere id,
    .add (.filter Relation.named), .add (.select (.model Sample.user))]

def rename : List Assignment :=
  [.set ⟨"users", "name", .text⟩ "Ada", .setNull score]

theorem after_updates_as_asked_user :
    (∀ assignment ∈ rename, assignment.Built) ∧
    AdmitUpdate Sample.user quiet winnow rename ∧
    ((after Sample.user quiet winnow).relation.run (.update rename)
        (after Sample.user quiet winnow).handed).2.2.statements =
      [⟨"UPDATE \"users\" SET \"name\" = ?1, \"score\" = ?2 " ++
          "WHERE (\"users\".\"age\" >= ?3) AND (\"users\".\"name\" IS NOT NULL)",
        [.text "Ada", .null, .integer 18]⟩] := by
  have hrename : ∀ assignment ∈ rename, assignment.Built := by
    intro assignment hassignment
    simp only [rename, List.mem_cons, List.not_mem_nil, or_false] at hassignment
    rcases hassignment with rfl | rfl
    · exact .set _ _
    · exact .setNull _
  have hallowed : AdmitUpdate Sample.user quiet winnow rename := by
    refine ⟨by decide, rfl, ⟨?_, ?_, ?_, ?_, rfl⟩, List.cons_ne_nil _ _, ?_⟩
    · simp [winnow, Move.clause?, List.filterMap_cons]
    · simp [winnow, Move.clause?, List.filterMap_cons]
    · simp [winnow, Move.clause?, List.filterMap_cons]
    · simp [winnow, Move.clause?, List.filterMap_cons]
    · intro r hr
      simp [rename, Assignment.set, Assignment.setNull, Kind.encode] at hr
  have hfilter : ∃ condition, Clause.filter condition ∈ winnow.filterMap Move.clause? :=
    ⟨Relation.adult, List.mem_cons_self⟩
  obtain ⟨hupdate, -⟩ := after_updates_as_asked Sample.user quiet winnow rename hrename
  obtain ⟨hrun, hstatements⟩ := hupdate.sent ⟨hallowed, hfilter⟩
  refine ⟨hrename, hallowed, ?_⟩
  rw [hrun]
  exact hstatements.trans (by decide)

end Situation

end TypedQuery
