import TypedQuery.Proofs.Domain
import TypedQuery.Proofs.SingleRun

/-!
# Only finite decimals are sent

Decimals that are infinite or not a number can be written down as operands and
as new values.  The builders of conditions and assignments keep such an operand
in place and remember beside it why it is none, and everything that is sent
passes by what was remembered.  What a condition remembers is determined by its
operands: it is the fault of the first one that has a fault.
-/

namespace TypedQuery

namespace Value

/-- Why a bound value is no operand, if it is none. -/
def fault? : Value → Option Error
  | real r => if r.isFinite then none else some (Kind.notFinite r)
  | _ => none

/-- Every decimal among the values is finite. -/
def AllFinite (values : List Value) : Prop :=
  ∀ r, real r ∈ values → r.isFinite = true

theorem allFinite_nil : AllFinite [] := by
  intro r hr
  cases hr

theorem fault?_eq_none_iff {value : Value} :
    value.fault? = none ↔ ∀ r, value = real r → r.isFinite = true := by
  cases value with
  | real r =>
      by_cases hfinite : r.isFinite = true <;> simp [fault?, hfinite]
  | _ => simp [fault?]

theorem kind_of_fault?
    {value : Value} {error : Error} (h : value.fault? = some error) :
    error.kind = .domain := by
  cases value with
  | real r =>
      rw [fault?] at h
      split at h
      · cases h
      · obtain rfl := Option.some.inj h
        rfl
  | _ => cases h

theorem findSome?_fault?_eq_none_iff {values : List Value} :
    values.findSome? fault? = none ↔ AllFinite values := by
  rw [List.findSome?_eq_none_iff]
  constructor
  · intro h r hr
    exact fault?_eq_none_iff.mp (h _ hr) r rfl
  · intro h value hvalue
    apply fault?_eq_none_iff.mpr
    rintro r rfl
    exact h r hvalue

theorem kind_of_findSome?_fault?
    {values : List Value} {error : Error}
    (h : values.findSome? fault? = some error) :
    error.kind = .domain := by
  obtain ⟨value, -, hvalue⟩ := List.exists_of_findSome?_eq_some h
  exact kind_of_fault? hvalue

end Value

/-! ## What is built -/

/-- The check of an operand and that of its bound form agree. -/
theorem Column.operandFault?_eq (column : Column) (value : column.kind.Carrier) :
    column.operandFault? value = (column.kind.encode value).fault? := by
  obtain ⟨table, name, kind⟩ := column
  cases kind with
  | decimal =>
      by_cases hfinite : Binary64.isFinite value = true
      all_goals simp [operandFault?, Kind.check, Kind.checkDecimal, Kind.encode,
        Value.fault?, hfinite]
  | _ => rfl

theorem Attribute.fault?_toCell
    {kind : Kind} {attr : Attribute kind} (h : attr.Obtained) :
    attr.toCell.fault? = none := by
  have hdomain := h.inDomain
  obtain ⟨value⟩ := attr
  cases value with
  | none => rfl
  | some value =>
      cases kind with
      | decimal => exact if_pos (hdomain value rfl)
      | _ => rfl

/-- The conditions that the builders on columns and attributes make, with any
operands. -/
inductive Condition.Built : Condition → Prop where
  | compare (column : Column) (op : CompareOp) (value : column.kind.Carrier) :
      Built (column.compare op value)
  | between (column : Column) (low high : column.kind.Carrier) :
      Built (column.between low high)
  | inSet (column : Column) (values : List column.kind.Carrier) (negated : Bool) :
      Built (column.inSet values negated)
  | like (column : Column) (pattern : String) (negated : Bool) :
      Built (column.like pattern negated)
  | isNull (column : Column) (negated : Bool) : Built (column.isNull negated)
  | eqColumn (column other : Column) : Built (column.eqColumn other)
  | equals (column : Column) (attr : Attribute column.kind) (h : attr.Obtained) :
      Built (column.equals attr)
  | and {left right : Condition} (hleft : Built left) (hright : Built right) :
      Built (left.and right)
  | or {left right : Condition} (hleft : Built left) (hright : Built right) :
      Built (left.or right)

/-- A condition remembers the fault of its first operand that has one. -/
theorem Condition.Built.fault_eq {condition : Condition} (h : condition.Built) :
    condition.fault = condition.predicate.operands.findSome? Value.fault? := by
  induction h with
  | compare column op value =>
      simp [Column.compare, Predicate.operands, Column.operandFault?_eq]
  | between column low high =>
      simp only [Column.between, Predicate.operands, Column.operandFault?_eq,
        List.findSome?_cons, List.findSome?_nil]
      cases (column.kind.encode low).fault? with
      | some error => rfl
      | none => cases (column.kind.encode high).fault? <;> rfl
  | inSet column values negated =>
      simp only [Column.inSet, Predicate.operands, List.findSome?_map]
      congr 1
      funext value
      exact column.operandFault?_eq value
  | like column pattern negated => rfl
  | isNull column negated => rfl
  | eqColumn column other => rfl
  | equals column attr h =>
      have hfault := Attribute.fault?_toCell h
      obtain ⟨value⟩ := attr
      cases value with
      | none => rfl
      | some value =>
          have hencoded : (column.kind.encode value).fault? = none := hfault
          simp [Column.equals, Condition.ofPredicate, Predicate.operands, hencoded]
  | and hleft hright ihleft ihright =>
      simp [Condition.and, Predicate.operands, List.findSome?_append, ihleft, ihright]
  | or hleft hright ihleft ihright =>
      simp [Condition.or, Predicate.operands, List.findSome?_append, ihleft, ihright]

/-- The assignments that the builders on columns and attributes make, with any
values. -/
inductive Assignment.Built : Assignment → Prop where
  | set (column : Column) (value : column.kind.Carrier) :
      Built (.set column value)
  | setNull (column : Column) : Built (.setNull column)
  | ofAttribute (column : Column) (attr : Attribute column.kind) (h : attr.Obtained) :
      Built (.ofAttribute column attr)

theorem Assignment.Built.fault_eq {assignment : Assignment} (h : assignment.Built) :
    assignment.fault = assignment.value.fault? := by
  cases h with
  | set column value => exact column.operandFault?_eq value
  | setNull column => rfl
  | ofAttribute column attr h => exact (Attribute.fault?_toCell h).symm

/-- So do assignments together remember the first fault of their values. -/
theorem Assignment.findSome?_fault_eq {assignments : List Assignment}
    (h : ∀ assignment ∈ assignments, assignment.Built) :
    assignments.findSome? fault = (assignments.map value).findSome? Value.fault? := by
  induction assignments with
  | nil => rfl
  | cons assignment assignments ih =>
      obtain ⟨hassignment, hassignments⟩ := List.forall_mem_cons.mp h
      rw [List.findSome?_cons, List.map_cons, List.findSome?_cons, hassignment.fault_eq,
        ih hassignments]

namespace Clause

def operands : Clause → List Value
  | filter condition => condition.predicate.operands
  | join _ _ on => on.predicate.operands
  | _ => []

/-- The condition in a clause, if there is one, is built. -/
def Built : Clause → Prop
  | filter condition => condition.Built
  | join _ _ on => on.Built
  | _ => True

theorem Built.fault?_eq {clause : Clause} (h : clause.Built) :
    clause.fault? = clause.operands.findSome? Value.fault? := by
  cases clause with
  | filter condition => exact Condition.Built.fault_eq h
  | join kind table on => exact Condition.Built.fault_eq h
  | _ => rfl

end Clause

namespace Terminal

def assigned : Terminal → List Value
  | update assignments | updateAll assignments => assignments.map Assignment.value
  | _ => []

def Built : Terminal → Prop
  | update assignments | updateAll assignments =>
    ∀ assignment ∈ assignments, assignment.Built
  | _ => True

end Terminal

def Move.Built {σ : Type} : Move σ → Prop
  | add clause => clause.Built
  | run terminal => terminal.Built
  | elsewhere _ => True

/-! ## What a relation remembers -/

namespace Relation

theorem mem_operands_conjoin
    {condition : Option Predicate} {predicate : Predicate} {value : Value} :
    value ∈ (conjoin condition predicate).operands ↔
      value ∈ condition.elim [] Predicate.operands ∨ value ∈ predicate.operands := by
  cases condition with
  | none => simp [conjoin]
  | some earlier => simp [conjoin, Predicate.operands]

/-- A clause brings its operands to those of an open relation. -/
theorem mem_sourceOperands_add_of_open
    {relation : Relation} (h : relation.phase ≠ .finalized)
    {clause : Clause} {value : Value} :
    value ∈ (relation.add clause).sourceOperands ↔
      value ∈ relation.sourceOperands ∨ value ∈ clause.operands := by
  rw [add, if_neg h]
  cases clause with
  | filter condition =>
      simp only [addOpen, record, sourceOperands, Clause.operands, List.mem_append,
        Option.elim_some, mem_operands_conjoin, or_assoc]
  | join kind table on =>
      simp only [addOpen, record, sourceOperands, Clause.operands,
        List.flatMap_append, List.flatMap_singleton, List.mem_append]
      tauto
  | _ => simp [addOpen, sourceOperands, Clause.operands]

/-- What a relation remembers screens its operands: while it is open it
remembers domain errors only, and if it remembers nothing then its operands are
finite. -/
structure Screened (relation : Relation) : Prop where
  domain : relation.phase ≠ .finalized →
    ∀ error, relation.fault = some error → error.kind = .domain
  finite : relation.fault = none → Value.AllFinite relation.sourceOperands

theorem screened_all (model : Model) : (all model).Screened := by
  refine ⟨?_, fun _ => Value.allFinite_nil⟩
  intro _ error herror
  cases herror

theorem Screened.add
    {relation : Relation} (h : relation.Screened) {clause : Clause}
    (hclause : clause.Built) :
    (relation.add clause).Screened := by
  by_cases hphase : relation.phase = .finalized
  · refine ⟨?_, ?_⟩
    · intro hopen
      exact absurd (phase_add_of_finalized hphase clause) hopen
    -- The relation remembers at least that it has been executed.
    · intro hnone
      rw [fault_add, if_pos hphase, Option.or_eq_none_iff] at hnone
      exact absurd hnone.2 (Option.some_ne_none _)
  · have hfault : (relation.add clause).fault = relation.fault.or clause.fault? := by
      rw [fault_add, if_neg hphase]
    refine ⟨?_, ?_⟩
    · intro _ error herror
      rw [hfault, Option.or_eq_some_iff] at herror
      rcases herror with herror | ⟨-, herror⟩
      · exact h.domain hphase error herror
      · rw [hclause.fault?_eq] at herror
        exact Value.kind_of_findSome?_fault? herror
    · intro hnone r hr
      rw [hfault, Option.or_eq_none_iff, hclause.fault?_eq] at hnone
      rcases (mem_sourceOperands_add_of_open hphase).mp hr with hr | hr
      · exact h.finite hnone.1 r hr
      · exact Value.findSome?_fault?_eq_none_iff.mp hnone.2 r hr

theorem Screened.exists_fault_add
    {relation : Relation} (h : relation.Screened)
    (hphase : relation.phase ≠ .finalized) {clause : Clause}
    (hclause : clause.Built) (hoperands : ¬ Value.AllFinite clause.operands) :
    ∃ error, error.kind = .domain ∧ (relation.add clause).fault = some error := by
  have hscreened := h.add hclause
  have hopen : (relation.add clause).phase ≠ .finalized := by
    rw [phase_add_of_open hphase]
    exact Phase.later_ne_finalized hphase clause.phase_ne_finalized
  cases hfault : (relation.add clause).fault with
  | some error => exact ⟨error, hscreened.domain hopen error hfault, rfl⟩
  | none =>
      have hfinite := hscreened.finite hfault
      exact absurd
        (fun r hr => hfinite r ((mem_sourceOperands_add_of_open hphase).mpr (Or.inr hr)))
        hoperands

/-- An update that is not refused assigns finite decimals. -/
theorem allFinite_of_updateFragment_eq_ok
    {relation : Relation} {assignments : List Assignment} {fragment : Fragment}
    (hassignments : ∀ assignment ∈ assignments, assignment.Built)
    (h : relation.updateFragment assignments = .ok fragment) :
    Value.AllFinite (assignments.map Assignment.value) := by
  rw [updateFragment] at h
  split at h
  · cases h
  split at h
  · cases h
  split at h
  · cases h
  rename_i hfault
  intro r hr
  obtain ⟨assignment, hmem, hvalue⟩ := List.mem_map.mp hr
  have hnone := List.findSome?_eq_none_iff.mp hfault assignment hmem
  rw [(hassignments assignment hmem).fault_eq, hvalue] at hnone
  exact Value.fault?_eq_none_iff.mp hnone r rfl

end Relation

namespace Terminal

theorem Built.allFinite_assigned
    {terminal : Terminal} (hterminal : terminal.Built)
    {relation : Relation} {request : Request}
    (h : terminal.plan relation = .ok request) :
    Value.AllFinite terminal.assigned := by
  cases terminal with
  | update assignments =>
      rw [plan] at h
      split at h
      · cases h
      · exact Relation.allFinite_of_updateFragment_eq_ok hterminal
          (fragment_of_map (fun _ => rfl) h)
  | updateAll assignments =>
      exact Relation.allFinite_of_updateFragment_eq_ok hterminal
        (fragment_of_map (fun _ => rfl) h)
  | _ => exact Value.allFinite_nil

theorem mem_operands
    {relation : Relation} {terminal : Terminal} {value : Value}
    (h : value ∈ terminal.operands relation) :
    value ∈ terminal.assigned ∨ value ∈ relation.sourceOperands := by
  cases terminal with
  | update assignments | updateAll assignments =>
      rcases List.mem_append.mp h with h | h
      · exact Or.inl h
      · exact Or.inr (List.mem_append_right _ h)
  | _ => exact Or.inr h

/-- An operation on a relation with finite operands sends finite decimals. -/
theorem Built.allFinite_sent
    {terminal : Terminal} (hterminal : terminal.Built)
    {relation : Relation} (hrelation : Value.AllFinite relation.sourceOperands)
    {dialect : Dialect} {statement : Statement}
    (h : statement ∈ terminal.sent relation dialect) :
    Value.AllFinite statement.params := by
  rw [sent] at h
  split at h
  · rename_i request hplan
    obtain rfl := List.mem_singleton.mp h
    have hparams : (request.fragment.render dialect).params = terminal.operands relation :=
      (plan_eq_ok hplan).2.2
    rw [hparams]
    intro r hr
    rcases mem_operands hr with hr | hr
    · exact hterminal.allFinite_assigned hplan r hr
    · exact hrelation r hr
  · cases h

end Terminal

/-! ## What is handed over -/

/-- Every decimal in the statements that were handed over is finite. -/
def Handed.AllFinite {σ : Type} (handed : Handed σ) : Prop :=
  ∀ statement ∈ handed.statements, Value.AllFinite statement.params

namespace Model

variable {σ : Type} [Adaptor σ]

/-- A condition with an operand that is not finite deletes nothing. -/
theorem destroy_eq_of_not_allFinite
    (model : Model) {condition : Condition} (hcondition : condition.Built)
    (hoperands : ¬ Value.AllFinite condition.predicate.operands) (state : σ) :
    ∃ error, error.kind = .domain ∧
      model.destroy condition state = (.error error, state) := by
  cases hfault : condition.fault with
  | none =>
      rw [hcondition.fault_eq] at hfault
      exact absurd (Value.findSome?_fault?_eq_none_iff.mp hfault) hoperands
  | some error =>
      have hkind := hfault
      rw [hcondition.fault_eq] at hkind
      exact ⟨error, Value.kind_of_findSome?_fault? hkind, by rw [destroy, hfault]⟩

/-- Deleting by a condition hands over finite decimals. -/
theorem allFinite_destroy
    (model : Model) {condition : Condition} (hcondition : condition.Built)
    {handed : Handed σ} (h : handed.AllFinite) :
    (model.destroy condition handed).2.AllFinite := by
  by_cases hoperands : Value.AllFinite condition.predicate.operands
  · rw [destroy]
    split
    · exact h
    · intro statement hstatement
      rw [Adaptor.executeFragment, Action.bind_apply, Action.get_apply] at hstatement
      rcases List.mem_append.mp hstatement with hstatement | hstatement
      · exact h statement hstatement
      · obtain rfl := List.mem_singleton.mp hstatement
        have hparams : (model.deleteFragment condition.predicate).params =
            condition.predicate.operands :=
          (Generated.deletion model condition.predicate).params_eq
        exact fun r hr => hoperands r (hparams ▸ hr)
  · obtain ⟨error, -, hdestroy⟩ :=
      model.destroy_eq_of_not_allFinite hcondition hoperands handed
    rw [hdestroy]
    exact h

end Model

namespace Relation

variable {σ : Type} [Adaptor σ]

/-- An operation that assigns a decimal that is not finite fails, and the
connection is as it was. -/
theorem run_eq_of_not_allFinite
    (relation : Relation) {terminal : Terminal} (hterminal : terminal.Built)
    (hassigned : ¬ Value.AllFinite terminal.assigned) (state : σ) :
    ∃ error after, relation.run terminal state = (.error error, after, state) := by
  cases hfinalize : relation.finalize with
  | error error => exact ⟨error, relation, run_eq_of_finalize_error hfinalize _ _⟩
  | ok finalized =>
      cases hplan : terminal.plan finalized with
      | error error =>
          refine ⟨error, finalized, ?_⟩
          rw [run_eq_of_finalize_ok hfinalize, answer_eq, hplan]
      | ok request => exact absurd (hterminal.allFinite_assigned hplan) hassigned

end Relation

namespace Situation

variable {σ : Type} [Adaptor σ]

/-- The relation screens its operands, and only finite decimals were handed
over. -/
structure Finite (situation : Situation σ) : Prop where
  screened : situation.relation.Screened
  handed : situation.handed.AllFinite

/-- Every move keeps it. -/
theorem Finite.next
    {situation : Situation σ} (h : situation.Finite) {move : Move σ}
    (hmove : move.Built) :
    (situation.next move).Finite := by
  rcases situation.next_cases move with
    ⟨hrelation, hstatements⟩ | ⟨clause, rfl, hnext⟩ |
      ⟨terminal, rfl, hfault, -, hrelation, hstatements⟩
  · refine ⟨by rw [hrelation]; exact h.screened, ?_⟩
    rw [Handed.AllFinite, hstatements]
    exact h.handed
  · rw [hnext]
    exact ⟨h.screened.add hmove, h.handed⟩
  -- The operation is executed because nothing is remembered.
  · have hoperands : Value.AllFinite
        ({ situation.relation with phase := .finalized } : Relation).sourceOperands :=
      h.screened.finite hfault
    refine ⟨?_, ?_⟩
    · rw [hrelation]
      exact ⟨fun hopen => absurd rfl hopen, fun _ => hoperands⟩
    · rw [Handed.AllFinite, hstatements]
      intro statement hstatement
      rcases List.mem_append.mp hstatement with hstatement | hstatement
      · exact h.handed statement hstatement
      · exact Terminal.Built.allFinite_sent hmove hoperands hstatement

theorem Finite.play
    {situation : Situation σ} (h : situation.Finite) {moves : List (Move σ)}
    (hmoves : ∀ move ∈ moves, move.Built) :
    (situation.play moves).Finite := by
  induction moves generalizing situation with
  | nil => exact h
  | cons move moves ih =>
      exact ih (h.next (hmoves move List.mem_cons_self))
        fun later hlater => hmoves later (List.mem_cons_of_mem move hlater)

theorem finite_after
    (model : Model) (connection : σ) {moves : List (Move σ)}
    (hmoves : ∀ move ∈ moves, move.Built) :
    (after model connection moves).Finite := by
  have hfresh : (fresh model connection).Finite :=
    ⟨Relation.screened_all model, fun _ hstatement => nomatch hstatement⟩
  exact hfresh.play hmoves

/-- A clause with an operand that is not finite, added to an open relation,
leaves a domain error for good. -/
theorem Finite.exists_fault_play
    {situation : Situation σ} (h : situation.Finite)
    (hphase : situation.relation.phase ≠ .finalized) {clause : Clause}
    (hclause : clause.Built) (hoperands : ¬ Value.AllFinite clause.operands)
    (later : List (Move σ)) :
    ∃ error, error.kind = .domain ∧
      (situation.play (.add clause :: later)).relation.fault = some error := by
  obtain ⟨error, hkind, hfault⟩ :=
    h.screened.exists_fault_add hphase hclause hoperands
  have hnext : (situation.next (.add clause)).relation.fault = some error := hfault
  exact ⟨error, hkind, fault_play hnext later⟩

/-- No decimal reaches the backend unless it is finite, whatever is done to a
relation in whatever order.  An operand that is not finite, added before the
relation is executed, makes its statement and every operation fail with a domain
error from then on; operations that assign such a decimal fail, and so does
deleting by a condition with such an operand.  None of them touches the
connection.  All that is handed over for the relation, and for deleting, holds
finite decimals. -/
theorem after_sends_finite
    (model : Model) (connection : σ) (moves : List (Move σ))
    (hmoves : ∀ move ∈ moves, move.Built) :
    (∀ earlier clause later,
      moves = earlier ++ .add clause :: later →
      (after model connection earlier).relation.phase ≠ .finalized →
      ¬ Value.AllFinite clause.operands →
        ∃ error, error.kind = .domain ∧
          (∀ dialect,
            (after model connection moves).relation.toStatement dialect =
              .error error) ∧
          ∀ terminal,
            (after model connection moves).relation.run terminal
                (after model connection moves).handed =
              (.error error, (after model connection moves).relation,
                (after model connection moves).handed)) ∧
    (∀ terminal : Terminal,
      terminal.Built →
      ¬ Value.AllFinite terminal.assigned →
        ∃ error relation,
          (after model connection moves).relation.run terminal
              (after model connection moves).handed =
            (.error error, relation, (after model connection moves).handed)) ∧
    (∀ (table : Model) (condition : Condition),
      condition.Built →
        (¬ Value.AllFinite condition.predicate.operands →
          ∃ error, error.kind = .domain ∧
            table.destroy condition (after model connection moves).handed =
              (.error error, (after model connection moves).handed)) ∧
        (table.destroy condition
          (after model connection moves).handed).2.AllFinite) ∧
    (after model connection moves).handed.AllFinite := by
  have hfinite := finite_after model connection hmoves
  refine ⟨?_, ?_, ?_, hfinite.handed⟩
  · rintro earlier clause later rfl hphase hoperands
    have hearlier := finite_after model connection
      fun move hmove => hmoves move (List.mem_append_left _ hmove)
    have hclause : clause.Built :=
      hmoves (.add clause) (List.mem_append_right _ List.mem_cons_self)
    obtain ⟨error, hkind, hfault⟩ :=
      hearlier.exists_fault_play hphase hclause hoperands later
    rw [after, ← play_append] at hfault
    refine ⟨error, hkind, ?_, ?_⟩
    · intro dialect
      rw [Relation.toStatement, after, hfault]
    · intro terminal
      apply Relation.run_eq_of_finalize_error
      rw [Relation.finalize, after, hfault]
  · intro terminal hterminal hassigned
    exact Relation.run_eq_of_not_allFinite _ hterminal hassigned _
  · intro table condition hcondition
    exact ⟨fun hoperands => table.destroy_eq_of_not_allFinite hcondition hoperands _,
      table.allFinite_destroy hcondition hfinite.handed⟩

def score : Column :=
  ⟨"users", "score", .decimal⟩

/-- No score, or one that is compared with what is not a number. -/
def scoreless : Condition :=
  (score.isNull false).or (score.compare .ge Binary64.nan)

/-- The comparison is added, and then a number of rows is asked for. -/
def countScoreless : List (Move Scripted) :=
  [.add (.limit 3), .add (.filter scoreless), .run .count]

theorem after_sends_finite_user :
    (∀ move ∈ countScoreless, move.Built) ∧
    (∃ error, error.kind = .domain ∧
      (after Sample.user quiet countScoreless).relation.toStatement .sqlite =
        .error error) ∧
    (∃ error relation,
      (after Sample.user quiet countScoreless).relation.run
          (.updateAll [.set score Binary64.nan])
          (after Sample.user quiet countScoreless).handed =
        (.error error, relation, (after Sample.user quiet countScoreless).handed)) ∧
    (∃ error, error.kind = .domain ∧
      Sample.user.destroy scoreless (after Sample.user quiet countScoreless).handed =
        (.error error, (after Sample.user quiet countScoreless).handed)) := by
  have hscoreless : scoreless.Built :=
    .or (.isNull score false) (.compare score .ge Binary64.nan)
  have hnan : ¬ Value.AllFinite [.real Binary64.nan] := fun h =>
    absurd (h Binary64.nan List.mem_cons_self) (by decide)
  have hmoves : ∀ move ∈ countScoreless, move.Built := by
    intro move hmove
    simp only [countScoreless, List.mem_cons, List.not_mem_nil, or_false] at hmove
    rcases hmove with rfl | rfl | rfl
    · trivial
    · exact hscoreless
    · trivial
  obtain ⟨hclause, hassigned, hdestroy, -⟩ :=
    after_sends_finite Sample.user quiet countScoreless hmoves
  obtain ⟨error, hkind, hstatement, -⟩ :=
    hclause [.add (.limit 3)] (.filter scoreless) [.run .count] rfl Phase.noConfusion hnan
  have hset : Terminal.Built (.updateAll [.set score Binary64.nan]) := by
    intro assignment hassignment
    obtain rfl := List.mem_singleton.mp hassignment
    exact .set score Binary64.nan
  exact ⟨hmoves, ⟨error, hkind, hstatement .sqlite⟩, hassigned _ hset hnan,
    (hdestroy Sample.user scoreless hscoreless).1 hnan⟩

end Situation

end TypedQuery
