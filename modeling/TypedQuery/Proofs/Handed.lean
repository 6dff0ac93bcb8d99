import TypedQuery.Proofs.StatementTokens

/-!
# What is handed to a connection

To see what an operation sends, the connection is wrapped so that it keeps the
statements that are handed to it.  On the wrapped connection an operation
answers as it does on the connection inside, whatever that is and does, and hands
over the statement that it planned.
-/

namespace TypedQuery

/-- A connection with the statements that were handed to it. -/
structure Handed (σ : Type) where
  connection : σ
  statements : List Statement

namespace Handed

variable {σ : Type}

/-- An action on the connection inside that hands over some statements. -/
def handing {α : Type} (statements : List Statement) (action : Action σ α) :
    Action (Handed σ) α := fun state =>
  ((action state.connection).1,
    ⟨(action state.connection).2, state.statements ++ statements⟩)

instance [Adaptor σ] : Adaptor (Handed σ) where
  dialect state := Adaptor.dialect state.connection
  query statement := handing [statement] (Adaptor.query statement)
  execute statement := handing [statement] (Adaptor.execute statement)
  executeBatch sql := handing [.raw sql] (Adaptor.executeBatch sql)
  begin := handing [] Adaptor.begin
  commit := handing [] Adaptor.commit
  rollback := handing [] Adaptor.rollback
  inTransaction state := Adaptor.inTransaction state.connection
  close := handing [] Adaptor.close
  isClosed state := Adaptor.isClosed state.connection
  serverVersion := handing [] Adaptor.serverVersion
  versionNumber := handing [] Adaptor.versionNumber
  tableExists table := handing [] (Adaptor.tableExists table)
  emit trace state := { state with connection := Adaptor.emit trace state.connection }

end Handed

namespace Terminal

/-- The statements that an operation hands over for a relation: the planned
one, if the operation can be planned. -/
def sent (relation : Relation) (terminal : Terminal) (dialect : Dialect) :
    List Statement :=
  match terminal.plan relation with
  | .ok request => [request.fragment.render dialect]
  | .error _ => []

theorem length_sent_le_one
    (relation : Relation) (terminal : Terminal) (dialect : Dialect) :
    (terminal.sent relation dialect).length ≤ 1 := by
  rw [sent]
  split
  · exact Nat.le_refl 1
  · exact Nat.zero_le 1

end Terminal

namespace Relation

variable {σ : Type} [Adaptor σ]

/-! ## What a terminal operation does -/

/-- An operation is planned, the planned statement is run, and its answer is
read. -/
theorem answer_eq (relation : Relation) (terminal : Terminal) (state : σ) :
    relation.answer terminal state =
      match terminal.plan relation with
      | .error error => (.error error, state)
      | .ok (.query fragment) =>
        match Adaptor.query (fragment.render (Adaptor.dialect state)) state with
        | (.ok rows, state) => (terminal.readAnswer relation rows, state)
        | (.error error, state) => (.error error, state)
      | .ok (.execute fragment) =>
        match Adaptor.execute (fragment.render (Adaptor.dialect state)) state with
        | (.ok count, state) => (.ok (.count count), state)
        | (.error error, state) => (.error error, state) := by
  rw [answer, Action.bind_apply, answer.liftExcept]
  cases terminal.plan relation with
  | error error => rfl
  | ok request =>
      cases request with
      | query fragment =>
          simp only [Action.bind_apply, Adaptor.queryFragment, Action.get_apply]
          obtain ⟨result, after⟩ :=
            Adaptor.query (fragment.render (Adaptor.dialect state)) state
          cases result <;> rfl
      | execute fragment =>
          simp only [Action.bind_apply, Adaptor.executeFragment, Action.get_apply]
          obtain ⟨result, after⟩ :=
            Adaptor.execute (fragment.render (Adaptor.dialect state)) state
          cases result <;> rfl

/-- On a wrapped connection an operation does what it does on the connection
inside, and hands over what it planned. -/
theorem answer_handed
    (relation : Relation) (terminal : Terminal) (state : Handed σ) :
    relation.answer terminal state =
      Handed.handing (terminal.sent relation (Adaptor.dialect state.connection))
        (relation.answer terminal) state := by
  rw [answer_eq, Handed.handing, answer_eq, Terminal.sent]
  cases terminal.plan relation with
  | error error =>
      simp only [List.append_nil]
  | ok request =>
      cases request with
      | query fragment =>
          have hquery : Adaptor.query
              (fragment.render (Adaptor.dialect state.connection)) state =
                Handed.handing [fragment.render (Adaptor.dialect state.connection)]
                  (Adaptor.query
                    (fragment.render (Adaptor.dialect state.connection))) state := rfl
          have hdialect : Adaptor.dialect state = Adaptor.dialect state.connection := rfl
          simp only [hdialect, hquery, Handed.handing]
          obtain ⟨result, after⟩ := Adaptor.query
            (fragment.render (Adaptor.dialect state.connection)) state.connection
          cases result <;> rfl
      | execute fragment =>
          have hexecute : Adaptor.execute
              (fragment.render (Adaptor.dialect state.connection)) state =
                Handed.handing [fragment.render (Adaptor.dialect state.connection)]
                  (Adaptor.execute
                    (fragment.render (Adaptor.dialect state.connection))) state := rfl
          have hdialect : Adaptor.dialect state = Adaptor.dialect state.connection := rfl
          simp only [hdialect, hexecute, Handed.handing]
          obtain ⟨result, after⟩ := Adaptor.execute
            (fragment.render (Adaptor.dialect state.connection)) state.connection
          cases result <;> rfl

/-- A relation that was executed, or that remembers an error, refuses. -/
theorem run_eq_of_finalize_error
    {relation : Relation} {error : Error} (h : relation.finalize = .error error)
    (terminal : Terminal) (state : σ) :
    relation.run terminal state = (.error error, relation, state) := by
  rw [run, h]

/-- A relation that is open and remembers no error is executed. -/
theorem run_eq_of_finalize_ok
    {relation finalized : Relation} (h : relation.finalize = .ok finalized)
    (terminal : Terminal) (state : σ) :
    relation.run terminal state =
      ((finalized.answer terminal state).1, finalized,
        (finalized.answer terminal state).2) := by
  rw [run, h]
  rfl

/-- Running a relation on a wrapped connection runs it on the one inside, and
hands over what was planned, if the relation could be finalized. -/
theorem run_handed
    (relation : Relation) (terminal : Terminal) (state : Handed σ) :
    ∃ sent,
      (relation.run terminal state).1 = (relation.run terminal state.connection).1 ∧
      (relation.run terminal state).2.1 =
        (relation.run terminal state.connection).2.1 ∧
      (relation.run terminal state).2.2 =
        ⟨(relation.run terminal state.connection).2.2, state.statements ++ sent⟩ ∧
      sent = match relation.finalize with
        | .ok finalized =>
          terminal.sent finalized (Adaptor.dialect state.connection)
        | .error _ => [] := by
  cases h : relation.finalize with
  | error error =>
      refine ⟨[], ?_, ?_, ?_, rfl⟩
      · rw [run_eq_of_finalize_error h, run_eq_of_finalize_error h]
      · rw [run_eq_of_finalize_error h, run_eq_of_finalize_error h]
      · rw [run_eq_of_finalize_error h, run_eq_of_finalize_error h, List.append_nil]
  | ok finalized =>
      refine ⟨_, ?_, ?_, ?_, rfl⟩
      · rw [run_eq_of_finalize_ok h, run_eq_of_finalize_ok h, answer_handed]
        rfl
      · rw [run_eq_of_finalize_ok h, run_eq_of_finalize_ok h]
      · rw [run_eq_of_finalize_ok h, run_eq_of_finalize_ok h, answer_handed]
        rfl

end Relation

end TypedQuery
