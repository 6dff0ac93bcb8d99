import TypedQuery.Adaptor.Scripted
import TypedQuery.Proofs.ClauseHistory
import TypedQuery.Proofs.Handed

/-!
# A relation runs at most once

Clauses are added to a relation and terminal operations are run on it in any
order, and other things are done with the connection in between.
-/

namespace TypedQuery

namespace Phase

theorem rank_le_rank_later (a b : Phase) : a.rank ≤ (a.later b).rank := by
  rw [later]
  split
  · assumption
  · exact Nat.le_refl _

theorem rank_le_finalized (phase : Phase) : phase.rank ≤ finalized.rank := by
  cases phase <;> decide

end Phase

namespace Relation

/-- The error that a clause leaves in a relation. -/
theorem fault_add (relation : Relation) (clause : Clause) :
    (relation.add clause).fault =
      relation.fault.or
        (if relation.phase = .finalized then some alreadyExecuted
          else clause.fault?) := by
  by_cases hphase : relation.phase = .finalized
  · rw [add, if_pos hphase, if_pos hphase]
    cases clause <;> rfl
  · rw [add, if_neg hphase, if_neg hphase]
    cases clause <;> simp [addOpen, record]

theorem phase_add_of_finalized
    {relation : Relation} (h : relation.phase = .finalized) (clause : Clause) :
    (relation.add clause).phase = .finalized := by
  rw [add, if_pos h]
  cases clause <;> exact h

theorem phase_add_of_open
    {relation : Relation} (h : relation.phase ≠ .finalized) (clause : Clause) :
    (relation.add clause).phase = relation.phase.later clause.phase := by
  rw [add, if_neg h]

/-- An error that is remembered stays. -/
theorem fault_add_of_some
    {relation : Relation} {error : Error} (h : relation.fault = some error)
    (clause : Clause) :
    (relation.add clause).fault = some error := by
  rw [fault_add, h, Option.some_or]

/-- Finalizing changes nothing in the statement. -/
theorem sent_exec_finalized
    {relation : Relation} (h : relation.fault = none) (dialect : Dialect) :
    ∃ statement, relation.toStatement dialect = .ok statement ∧
      Terminal.exec.sent { relation with phase := .finalized } dialect =
        [statement] := by
  refine ⟨(relation.selectFragment relation.shape.columnRefs).render dialect, ?_, rfl⟩
  rw [toStatement, h]

theorem finalize_cases (relation : Relation) :
    (∃ error, relation.fault = some error ∧ relation.finalize = .error error) ∨
    (relation.fault = none ∧ relation.phase = .finalized ∧
      relation.finalize = .error alreadyExecuted) ∨
    (relation.fault = none ∧ relation.phase ≠ .finalized ∧
      relation.finalize = .ok { relation with phase := .finalized }) := by
  cases hfault : relation.fault with
  | some error => exact Or.inl ⟨error, rfl, by rw [finalize, hfault]⟩
  | none =>
      refine Or.inr ?_
      by_cases hphase : relation.phase = .finalized
      · exact Or.inl ⟨rfl, hphase, by rw [finalize, hfault]; exact if_pos hphase⟩
      · exact Or.inr ⟨rfl, hphase, by rw [finalize, hfault]; exact if_neg hphase⟩

theorem finalize_of_open
    {relation : Relation} (hphase : relation.phase ≠ .finalized)
    (hfault : relation.fault = none) :
    relation.finalize = .ok { relation with phase := .finalized } := by
  rw [finalize, hfault]
  exact if_neg hphase

end Relation

/-! ## Situations -/

/-- A relation, and the connection with what was handed to it for the
relation. -/
structure Situation (σ : Type) where
  relation : Relation
  handed : Handed σ

namespace Situation

variable {σ : Type}

/-- A fresh relation over a model, for which nothing was handed over. -/
def fresh (model : Model) (connection : σ) : Situation σ :=
  ⟨.all model, ⟨connection, []⟩⟩

/-- At most one statement was handed over, and none before the relation was
executed.  An executed relation remembers at most that it was executed. -/
structure Sound (situation : Situation σ) : Prop where
  once : situation.handed.statements.length ≤ 1
  unsent : situation.relation.phase ≠ .finalized → situation.handed.statements = []
  settled : situation.relation.phase = .finalized →
    situation.relation.fault = none ∨
      situation.relation.fault = some Relation.alreadyExecuted

theorem sound_fresh (model : Model) (connection : σ) :
    (fresh model connection).Sound := by
  refine ⟨Nat.zero_le 1, fun _ => rfl, ?_⟩
  intro hphase
  exact Phase.noConfusion hphase

theorem Sound.add {situation : Situation σ} (h : situation.Sound) (clause : Clause) :
    Sound { situation with relation := situation.relation.add clause } := by
  by_cases hphase : situation.relation.phase = .finalized
  · refine ⟨h.once, ?_, ?_⟩
    · intro hopen
      exact absurd (Relation.phase_add_of_finalized hphase clause) hopen
    · intro _
      right
      rw [Relation.fault_add, if_pos hphase]
      rcases h.settled hphase with hfault | hfault <;> rw [hfault] <;> rfl
  · refine ⟨h.once, fun _ => h.unsent hphase, ?_⟩
    intro hfinalized
    rw [Relation.phase_add_of_open hphase] at hfinalized
    exact absurd hfinalized
      (Phase.later_ne_finalized hphase clause.phase_ne_finalized)

end Situation

/-! ## Moves -/

/-- What can happen to a relation and the connection that it is run on. -/
inductive Move (σ : Type) where
  /-- A clause is added to the relation. -/
  | add (clause : Clause)
  /-- An operation is run on the relation. -/
  | run (terminal : Terminal)
  /-- The connection is used for something else. -/
  | elsewhere (use : σ → σ)

namespace Situation

variable {σ : Type} [Adaptor σ]

def next (situation : Situation σ) : Move σ → Situation σ
  | .add clause => { situation with relation := situation.relation.add clause }
  | .run terminal =>
    let (_, relation, handed) := situation.relation.run terminal situation.handed
    ⟨relation, handed⟩
  | .elsewhere use =>
    { situation with handed :=
      { situation.handed with connection := use situation.handed.connection } }

def play (situation : Situation σ) (moves : List (Move σ)) : Situation σ :=
  moves.foldl next situation

/-- The situation of a fresh relation after some moves. -/
def after (model : Model) (connection : σ) (moves : List (Move σ)) : Situation σ :=
  (fresh model connection).play moves

theorem play_append (situation : Situation σ) (before after : List (Move σ)) :
    situation.play (before ++ after) = (situation.play before).play after :=
  List.foldl_append

/-- What one move can do: it may leave the relation and what was handed over as
they are, add a clause, or execute an open relation without errors. -/
theorem next_cases (situation : Situation σ) (move : Move σ) :
    ((situation.next move).relation = situation.relation ∧
      (situation.next move).handed.statements = situation.handed.statements) ∨
    (∃ clause, move = .add clause ∧
      situation.next move =
        { situation with relation := situation.relation.add clause }) ∨
    (∃ terminal, move = .run terminal ∧
      situation.relation.fault = none ∧ situation.relation.phase ≠ .finalized ∧
      (situation.next move).relation =
        { situation.relation with phase := .finalized } ∧
      (situation.next move).handed.statements =
        situation.handed.statements ++
          terminal.sent { situation.relation with phase := .finalized }
            (Adaptor.dialect situation.handed.connection)) := by
  cases move with
  | add clause => exact Or.inr (Or.inl ⟨clause, rfl, rfl⟩)
  | elsewhere use => exact Or.inl ⟨rfl, rfl⟩
  | run terminal =>
      rcases situation.relation.finalize_cases with
        ⟨error, -, h⟩ | ⟨-, -, h⟩ | ⟨hfault, hphase, h⟩
      -- An operation that is refused changes nothing, for either reason.
      · left
        rw [next, Relation.run_eq_of_finalize_error h]
        exact ⟨rfl, rfl⟩
      · left
        rw [next, Relation.run_eq_of_finalize_error h]
        exact ⟨rfl, rfl⟩
      · right; right
        refine ⟨terminal, rfl, hfault, hphase, ?_⟩
        rw [next, Relation.run_eq_of_finalize_ok h, Relation.answer_handed]
        exact ⟨rfl, rfl⟩

/-! ## Every run keeps the invariant -/

/-- Every move keeps the invariant. -/
theorem Sound.next {situation : Situation σ} (h : situation.Sound) (move : Move σ) :
    (situation.next move).Sound := by
  rcases situation.next_cases move with
    ⟨hrelation, hstatements⟩ | ⟨clause, -, hnext⟩ |
      ⟨terminal, -, hfault, hphase, hrelation, hstatements⟩
  · refine ⟨?_, ?_, ?_⟩
    · rw [hstatements]
      exact h.once
    · rw [hrelation, hstatements]
      exact h.unsent
    · rw [hrelation]
      exact h.settled
  · rw [hnext]
    exact h.add clause
  · refine ⟨?_, ?_, ?_⟩
    · rw [hstatements, h.unsent hphase]
      exact terminal.length_sent_le_one _ _
    · rw [hrelation]
      exact fun hopen => absurd rfl hopen
    · rw [hrelation]
      exact fun _ => Or.inl hfault

/-- So does every run. -/
theorem Sound.play
    {situation : Situation σ} (h : situation.Sound) (moves : List (Move σ)) :
    (situation.play moves).Sound := by
  induction moves generalizing situation with
  | nil => exact h
  | cons move moves ih => exact ih (h.next move)

/-! ## What moves cannot take back -/

theorem rank_le_rank_next (situation : Situation σ) (move : Move σ) :
    situation.relation.phase.rank ≤ (situation.next move).relation.phase.rank := by
  rcases situation.next_cases move with
    ⟨hrelation, -⟩ | ⟨clause, -, hnext⟩ | ⟨terminal, -, -, -, hrelation, -⟩
  · rw [hrelation]
  · rw [hnext]
    by_cases hphase : situation.relation.phase = .finalized
    · rw [Relation.phase_add_of_finalized hphase, hphase]
    · rw [Relation.phase_add_of_open hphase]
      exact Phase.rank_le_rank_later _ _
  · rw [hrelation]
    exact Phase.rank_le_finalized _

theorem rank_le_rank_play (situation : Situation σ) (moves : List (Move σ)) :
    situation.relation.phase.rank ≤ (situation.play moves).relation.phase.rank := by
  induction moves generalizing situation with
  | nil => exact Nat.le_refl _
  | cons move moves ih =>
      exact Nat.le_trans (situation.rank_le_rank_next move) (ih (situation.next move))

theorem fault_next
    {situation : Situation σ} {error : Error}
    (h : situation.relation.fault = some error) (move : Move σ) :
    (situation.next move).relation.fault = some error := by
  rcases situation.next_cases move with
    ⟨hrelation, -⟩ | ⟨clause, -, hnext⟩ | ⟨terminal, -, hfault, -⟩
  · rw [hrelation, h]
  · rw [hnext]
    exact Relation.fault_add_of_some h clause
  -- With an error remembered, no operation is executed.
  · rw [hfault] at h
    cases h

theorem fault_play
    {situation : Situation σ} {error : Error}
    (h : situation.relation.fault = some error) (moves : List (Move σ)) :
    (situation.play moves).relation.fault = some error := by
  induction moves generalizing situation with
  | nil => exact h
  | cons move moves ih => exact ih (fault_next h move)

/-! ## After the execution -/

/-- An executed relation refuses every operation. -/
theorem Sound.run_of_finalized
    {situation : Situation σ} (h : situation.Sound)
    (hphase : situation.relation.phase = .finalized) (terminal : Terminal) :
    situation.relation.run terminal situation.handed =
      (.error Relation.alreadyExecuted, situation.relation, situation.handed) := by
  apply Relation.run_eq_of_finalize_error
  rcases h.settled hphase with hfault | hfault
  · rw [Relation.finalize, hfault]
    exact if_pos hphase
  · rw [Relation.finalize, hfault]

/-- An executed relation that was given a clause has no statement any more. -/
theorem Sound.toStatement_of_finalized
    {situation : Situation σ} (h : situation.Sound)
    (hphase : situation.relation.phase = .finalized) (clause : Clause)
    (later : List (Move σ)) (dialect : Dialect) :
    (situation.play (.add clause :: later)).relation.toStatement dialect =
      .error Relation.alreadyExecuted := by
  have hadd : (situation.next (.add clause)).relation.fault =
      some Relation.alreadyExecuted := by
    rw [Situation.next, Relation.fault_add, if_pos hphase]
    rcases h.settled hphase with hfault | hfault <;> rw [hfault] <;> rfl
  have hfault := fault_play hadd later
  rw [Relation.toStatement]
  exact hfault ▸ rfl

/-- What `exec` hands over is the statement of the relation just before. -/
theorem next_run_exec (situation : Situation σ) :
    (situation.next (.run .exec)).handed.statements = situation.handed.statements ∨
    ∃ statement,
      situation.relation.toStatement
          (Adaptor.dialect situation.handed.connection) = .ok statement ∧
      (situation.next (.run .exec)).handed.statements =
        situation.handed.statements ++ [statement] := by
  rcases situation.next_cases (.run .exec) with
    ⟨-, hstatements⟩ | ⟨clause, hmove, -⟩ | ⟨terminal, hmove, hfault, -, -, hstatements⟩
  · exact Or.inl hstatements
  · cases hmove
  · cases hmove
    obtain ⟨statement, hstatement, hsent⟩ := Relation.sent_exec_finalized hfault
      (Adaptor.dialect situation.handed.connection)
    exact Or.inr ⟨statement, hstatement, by rw [hstatements, hsent]⟩

/-- A relation runs at most once, whatever is done to it in whatever order and
however the connection behaves.  At most one statement is handed over for it, the
phase does not go back, and the first error stays.  Once executed, it remembers no
other error than that, refuses every operation without touching the connection,
and has no statement any more after one more clause.  What `exec` hands over is
the statement that the relation had. -/
theorem after_runs_once (model : Model) (connection : σ) (moves : List (Move σ)) :
    (after model connection moves).handed.statements.length ≤ 1 ∧
    (∀ later,
      (after model connection moves).relation.phase.rank ≤
        (after model connection (moves ++ later)).relation.phase.rank) ∧
    (∀ later error,
      (after model connection moves).relation.fault = some error →
        (after model connection (moves ++ later)).relation.fault = some error) ∧
    ((after model connection moves).relation.phase = .finalized →
      ((after model connection moves).relation.fault = none ∨
        (after model connection moves).relation.fault =
          some Relation.alreadyExecuted) ∧
      (∀ terminal,
        (after model connection moves).relation.run terminal
            (after model connection moves).handed =
          (.error Relation.alreadyExecuted,
            (after model connection moves).relation,
            (after model connection moves).handed)) ∧
      (∀ clause later dialect,
        (after model connection
            (moves ++ .add clause :: later)).relation.toStatement dialect =
          .error Relation.alreadyExecuted)) ∧
    ((after model connection (moves ++ [.run .exec])).handed.statements =
        (after model connection moves).handed.statements ∨
      ∃ statement,
        (after model connection moves).relation.toStatement
            (Adaptor.dialect (after model connection moves).handed.connection) =
          .ok statement ∧
        (after model connection (moves ++ [.run .exec])).handed.statements =
          (after model connection moves).handed.statements ++ [statement]) := by
  have hsound : (after model connection moves).Sound :=
    (sound_fresh model connection).play moves
  simp only [after, play_append] at hsound ⊢
  generalize (fresh model connection).play moves = situation at hsound ⊢
  refine ⟨hsound.once, ?_, ?_, ?_, ?_⟩
  · exact fun later => situation.rank_le_rank_play later
  · exact fun later error hfault => fault_play hfault later
  · intro hphase
    refine ⟨hsound.settled hphase, hsound.run_of_finalized hphase, ?_⟩
    intro clause later dialect
    exact hsound.toStatement_of_finalized hphase clause later dialect
  · exact situation.next_run_exec

/-- A connection without prepared answers. -/
def quiet : Scripted :=
  { dialect := .sqlite }

theorem after_runs_once_user :
    (after Sample.user quiet [.run .exec]).relation.phase = .finalized ∧
    (after Sample.user quiet [.run .exec]).relation.run .count
        (after Sample.user quiet [.run .exec]).handed =
      (.error Relation.alreadyExecuted,
        (after Sample.user quiet [.run .exec]).relation,
        (after Sample.user quiet [.run .exec]).handed) ∧
    (after Sample.user quiet
        ([.run .exec] ++ [.add (.limit 1)])).relation.toStatement .sqlite =
      .error Relation.alreadyExecuted ∧
    (after Sample.user quiet
        ([.run .exec, .add (.limit 1)] ++ [.run .exec])).relation.fault =
      some Relation.alreadyExecuted := by
  have hphase : (after Sample.user quiet [.run .exec]).relation.phase = .finalized :=
    rfl
  have hfault : (after Sample.user quiet [.run .exec, .add (.limit 1)]).relation.fault =
      some Relation.alreadyExecuted := rfl
  obtain ⟨-, -, -, hexecuted, -⟩ := after_runs_once Sample.user quiet [.run .exec]
  obtain ⟨-, hrun, hclause⟩ := hexecuted hphase
  obtain ⟨-, -, hstays, -⟩ :=
    after_runs_once Sample.user quiet [.run .exec, .add (.limit 1)]
  exact ⟨hphase, hrun .count, hclause (.limit 1) [] .sqlite,
    hstays [.run .exec] Relation.alreadyExecuted hfault⟩

end Situation

end TypedQuery
