import TypedQuery.Proofs.ServerScript
import TypedQuery.Postgres.ScriptedServer

/-!
# The flag of a connection is right

A connection remembers itself whether a transaction is open.  To say when it should
be, the connection is watched: a mark is made of every beginning that succeeds, of
every attempt to end, and of every closing.  In all states that programs pass
through the flag is set exactly when the last mark is a beginning, whatever the
server answers.
-/

namespace TypedQuery.Postgres

/-- What decides on the flag of a connection. -/
inductive Mark where
  /-- A transaction was begun, with success. -/
  | begun
  /-- Ending a transaction was tried. -/
  | ended
  | closed
  deriving DecidableEq

/-- A connection with the marks that were made, in order. -/
structure Watched (ς : Type) where
  connection : Connection ς
  marks : List Mark

/-! ## Actions on a connection -/

namespace Connection

variable {ς α β : Type}

def IsSettled (connection : Connection ς) : Prop :=
  connection.server = none → connection.inTransaction = false

/-- An action neither closes the connection nor decides on the flag. -/
def Keeps (action : Action (Connection ς) α) : Prop :=
  ∀ connection, (action connection).2.inTransaction = connection.inTransaction ∧
    ((action connection).2.server = none ↔ connection.server = none)

theorem keeps_onServer (action : ServerAction ς α) : Keeps (onServer action) := by
  intro connection
  unfold onServer
  cases hserver : connection.server with
  | none => exact ⟨rfl, iff_of_true hserver rfl⟩
  | some server =>
      dsimp only
      rcases action server with ⟨result, after⟩
      have hopen : some after = none ↔ some server = none :=
        iff_of_false (Option.some_ne_none _) (Option.some_ne_none _)
      cases result with
      | ok value => exact ⟨rfl, hopen⟩
      | error fault => exact ⟨rfl, hopen⟩

theorem keeps_pure (result : Result α) : Keeps fun connection : Connection ς =>
    (result, connection) :=
  fun _ => ⟨rfl, Iff.rfl⟩

theorem Keeps.traced {action : Action (Connection ς) α} (h : Keeps action)
    (trace : Trace) : Keeps (traced trace action) :=
  fun connection => h (connection.emit trace)

theorem Keeps.bind
    {action : Action (Connection ς) α} {next : α → Action (Connection ς) β}
    (h : Keeps action) (hnext : ∀ value, Keeps (next value)) :
    Keeps (action >>= next) := by
  intro connection
  rw [Action.bind_apply]
  have hfirst := h connection
  rcases hrun : action connection with ⟨result, after⟩
  rw [hrun] at hfirst
  cases result with
  | error error => exact hfirst
  | ok value =>
      have hsecond := hnext value after
      exact ⟨hsecond.1.trans hfirst.1, hsecond.2.trans hfirst.2⟩

variable [Server ς]

theorem keeps_run (statement : Statement) :
    Keeps (run statement : Action (Connection ς) (Prepared × Response)) := by
  apply Keeps.traced
  apply (keeps_onServer _).bind
  intro prepared
  cases Parameter.encodeAll prepared.params statement.params with
  | error fault => exact keeps_pure _
  | ok bytes =>
      apply (keeps_onServer _).bind
      intro response
      exact keeps_pure _

theorem keeps_query (statement : Statement) :
    Keeps (query statement : Action (Connection ς) Rows) := by
  apply (keeps_run statement).bind
  rintro ⟨prepared, response⟩
  dsimp only
  cases response.rows.mapM (Cell.readFrom 0 (prepared.columns.map Prod.snd)) with
  | error error => exact keeps_pure _
  | ok rows => exact keeps_pure _

theorem keeps_execute (statement : Statement) :
    Keeps (execute statement : Action (Connection ς) UInt64) := by
  apply (keeps_run statement).bind
  intro answer
  exact keeps_pure _

theorem keeps_executeBatch (sql : String) :
    Keeps (executeBatch sql : Action (Connection ς) Unit) :=
  keeps_onServer _

/-! ## Beginning, ending and closing -/

theorem beginWith_of_inTransaction
    {connection : Connection ς} (h : connection.inTransaction = true) (level : Isolation) :
    beginWith level connection = (.error Adaptor.transactionOpen, connection) :=
  if_pos h

/-- What is refused by the server, or because the connection is closed, is no usage
error. -/
theorem kind_of_executeBatch_error
    {sql : String} {connection after : Connection ς} {error : Error}
    (h : executeBatch sql connection = (.error error, after)) : error.kind ≠ .usage := by
  unfold executeBatch onServer at h
  split at h
  · cases h
    exact (nofun : ErrorKind.connection ≠ .usage)
  · split at h
    · cases h
    · cases h
      exact (nofun : ErrorKind.query ≠ .usage)

/-- Where no transaction is open, beginning succeeds on an open connection and sets
the flag, or it fails and decides nothing. -/
theorem beginWith_cases
    {connection : Connection ς} (h : connection.inTransaction = false)
    (level : Isolation) :
    (∃ after, beginWith level connection = (.ok (), after) ∧
      after.inTransaction = true ∧ after.server ≠ none) ∨
    (∃ error after, beginWith level connection = (.error error, after) ∧
      error.kind ≠ .usage ∧ after.inTransaction = false ∧
      (after.server = none ↔ connection.server = none)) := by
  have hidle : ¬ connection.inTransaction = true := Bool.eq_false_iff.mp h
  have hkeeps := ((keeps_executeBatch level.beginSql).traced
    (.transaction .begin driver)) connection
  rw [beginWith, if_neg hidle]
  rcases hrun : traced (.transaction .begin driver) (executeBatch level.beginSql)
    connection with ⟨result, after⟩
  rw [hrun] at hkeeps
  cases result with
  | ok value =>
      left
      refine ⟨_, rfl, rfl, ?_⟩
      -- On a closed connection the statement would have been refused.
      intro hclosed
      have hnone := hkeeps.2.mp hclosed
      have hrefused : traced (.transaction .begin driver) (executeBatch level.beginSql)
          connection =
            (.error (Adaptor.closedConnection connection.target),
              connection.emit (.transaction .begin driver)) := by
        rw [traced, executeBatch, onServer, emit, hnone]
      rw [hrefused] at hrun
      cases hrun
  | error error =>
      right
      exact ⟨error, after, rfl, kind_of_executeBatch_error hrun, hkeeps.1.trans h, hkeeps.2⟩

theorem finish_inTransaction
    {connection : Connection ς} (h : connection.IsSettled) (sql : String) :
    (finish sql connection).2.inTransaction = false ∧
      ((finish sql connection).2.server = none ↔ connection.server = none) := by
  have hkeeps := keeps_executeBatch sql connection
  unfold finish
  split
  · rename_i hclosed
    exact ⟨hkeeps.1.trans (h (Option.isNone_iff_eq_none.mp hclosed)), hkeeps.2⟩
  · exact ⟨rfl, hkeeps.2⟩

theorem close_inTransaction {connection : Connection ς} (h : connection.IsSettled) :
    (close connection).2.inTransaction = false ∧ (close connection).2.server = none := by
  unfold close
  split
  · rename_i hclosed
    exact ⟨h hclosed, hclosed⟩
  · exact ⟨rfl, rfl⟩

end Connection

/-! ## Watched connections -/

namespace Watched

variable {ς α : Type}

/-- An action on the connection inside, with the marks that its result makes. -/
def marking (marks : Result α → List Mark) (action : Action (Connection ς) α) :
    Action (Watched ς) α := fun state =>
  ((action state.connection).1,
    ⟨(action state.connection).2, state.marks ++ marks (action state.connection).1⟩)

def beginMarks : Result Unit → List Mark
  | .ok () => [.begun]
  | .error _ => []

instance [Server ς] : Leveled (Watched ς) where
  dialect state := Adaptor.dialect state.connection
  query statement := marking (fun _ => []) (Adaptor.query statement)
  execute statement := marking (fun _ => []) (Adaptor.execute statement)
  executeBatch sql := marking (fun _ => []) (Adaptor.executeBatch sql)
  begin := marking beginMarks Adaptor.begin
  commit := marking (fun _ => [.ended]) Adaptor.commit
  rollback := marking (fun _ => [.ended]) Adaptor.rollback
  inTransaction state := Adaptor.inTransaction state.connection
  close := marking (fun _ => [.closed]) Adaptor.close
  isClosed state := Adaptor.isClosed state.connection
  serverVersion := marking (fun _ => []) Adaptor.serverVersion
  versionNumber := marking (fun _ => []) Adaptor.versionNumber
  tableExists table := marking (fun _ => []) (Adaptor.tableExists table)
  emit trace state := { state with connection := Adaptor.emit trace state.connection }
  beginWith level := marking beginMarks (Connection.beginWith level)

/-- A connection as it is opened, without a mark. -/
def opened (server : ς) (target : String) : Watched ς :=
  ⟨.ofServer server target, []⟩

/-- Between two beginnings there is something else. -/
def Apart (marks : List Mark) : Prop :=
  ∀ before between after, marks = before ++ .begun :: (between ++ .begun :: after) →
    ∃ mark ∈ between, mark ≠ .begun

theorem apart_append {marks : List Mark} {mark : Mark} (h : Apart marks)
    (hmark : mark = .begun → marks.getLast? ≠ some .begun) : Apart (marks ++ [mark]) := by
  intro before between after heq
  -- Either the new mark is the later beginning, or both were there before.
  rcases after.eq_nil_or_concat with rfl | ⟨rest, last, rfl⟩
  · have hsplit : marks ++ [mark] = (before ++ .begun :: between) ++ [.begun] := by
      rw [heq, List.append_assoc, List.cons_append]
    obtain ⟨hmarks, hlast⟩ := List.append_inj' hsplit rfl
    have hbegun := hmark (List.cons.inj hlast).1
    rcases between.eq_nil_or_concat with rfl | ⟨rest, last, rfl⟩
    · rw [hmarks, List.getLast?_concat] at hbegun
      exact absurd rfl hbegun
    · rw [List.concat_eq_append] at hmarks ⊢
      refine ⟨last, List.mem_concat_self, ?_⟩
      rintro rfl
      apply hbegun
      rw [hmarks, ← List.cons_append, ← List.append_assoc, List.getLast?_concat]
  · apply h before between rest
    have hsplit : marks ++ [mark] =
        (before ++ .begun :: (between ++ .begun :: rest)) ++ [last] := by
      rw [heq]
      simp
    exact (List.append_inj' hsplit rfl).1

/-- The flag agrees with the marks, and the marks are such as a connection makes. -/
structure IsSound (state : Watched ς) : Prop where
  settled : state.connection.IsSettled
  flag : state.connection.inTransaction = true ↔ state.marks.getLast? = some .begun
  apart : Apart state.marks

theorem isSound_opened (server : ς) (target : String) : (opened server target).IsSound := by
  refine ⟨fun _ => rfl, ?_, ?_⟩
  · exact iff_of_false Bool.false_ne_true nofun
  · intro before between after heq
    have hlength := congrArg List.length heq
    simp [opened] at hlength

theorem IsSound.emit [Server ς] {state : Watched ς} (h : state.IsSound) (trace : Trace) :
    (Adaptor.emit trace state).IsSound :=
  ⟨h.settled, h.flag, h.apart⟩

/-- An action that keeps the flag makes no mark. -/
theorem IsSound.keep
    {state : Watched ς} (h : state.IsSound) {action : Action (Connection ς) α}
    (hkeeps : Connection.Keeps action) :
    (marking (fun _ => []) action state).2.IsSound := by
  obtain ⟨hflag, hserver⟩ := hkeeps state.connection
  have hmarks : (marking (fun _ => []) action state).2.marks = state.marks :=
    List.append_nil _
  refine ⟨?_, ?_, ?_⟩
  · intro hclosed
    exact hflag.trans (h.settled (hserver.mp hclosed))
  · rw [hmarks]
    exact (iff_of_eq (congrArg (· = true) hflag)).trans h.flag
  · rw [hmarks]
    exact h.apart

/-- An action that clears the flag makes a mark that is no beginning. -/
theorem IsSound.clear
    {state : Watched ς} (h : state.IsSound) {action : Action (Connection ς) α} {mark : Mark}
    (hmark : mark ≠ .begun)
    (hclear : (action state.connection).2.inTransaction = false) :
    (marking (fun _ => [mark]) action state).2.IsSound := by
  refine ⟨fun _ => hclear, ?_, ?_⟩
  · apply iff_of_false
    · exact Bool.eq_false_iff.mp hclear
    · intro hlast
      have hconcat : (state.marks ++ [mark]).getLast? = some mark := List.getLast?_concat
      exact hmark (Option.some.inj (hconcat.symm.trans hlast))
  · exact apart_append h.apart fun hbegun => absurd hbegun hmark

variable [Server ς]

theorem beginBy_eq (level : Option Isolation) :
    (Leveled.beginBy level : Action (Watched ς) Unit) =
      marking beginMarks (Connection.beginWith (level.getD default)) := by
  cases level <;> rfl

theorem IsSound.beginBy {state : Watched ς} (h : state.IsSound) (level : Option Isolation) :
    (Leveled.beginBy level state).2.IsSound := by
  rw [beginBy_eq]
  cases hflag : state.connection.inTransaction with
  | true =>
      have hrefused := Connection.beginWith_of_inTransaction hflag (level.getD default)
      have hsame : (marking beginMarks (Connection.beginWith (level.getD default)) state).2 =
          state := by
        rw [marking, hrefused, beginMarks, List.append_nil]
      rw [hsame]
      exact h
  | false =>
      rcases Connection.beginWith_cases hflag (level.getD default) with
        ⟨after, hbegin, hset, hopen⟩ | ⟨error, after, hbegin, -, hclear, hserver⟩
      · rw [marking, hbegin]
        refine ⟨fun hclosed => absurd hclosed hopen, ?_, ?_⟩
        · exact iff_of_true hset List.getLast?_concat
        · apply apart_append h.apart
          intro _ hlast
          exact Bool.false_ne_true (hflag.symm.trans (h.flag.mpr hlast))
      · rw [marking, hbegin, beginMarks, List.append_nil]
        refine ⟨fun _ => hclear, ?_, h.apart⟩
        rw [← h.flag, hflag]
        exact iff_of_eq (congrArg (· = true) hclear)

/-- Trying to end a transaction clears the flag, also when the server refuses. -/
theorem IsSound.finish
    {state : Watched ς} (h : state.IsSound) (event : TransactionEvent) (sql : String) :
    let ended := marking (fun _ => [.ended])
      (Connection.traced (.transaction event Connection.driver) (Connection.finish sql)) state
    ended.2.IsSound ∧ ended.2.connection.inTransaction = false := by
  have hsettled : (state.connection.emit
      (.transaction event Connection.driver)).IsSettled := h.settled
  have hclear := (Connection.finish_inTransaction hsettled sql).1
  exact ⟨h.clear nofun hclear, hclear⟩

theorem IsSound.commit {state : Watched ς} (h : state.IsSound) :
    (Adaptor.commit state).2.IsSound ∧
      (Adaptor.commit state).2.connection.inTransaction = false :=
  h.finish .commit "COMMIT"

theorem IsSound.rollback {state : Watched ς} (h : state.IsSound) :
    (Adaptor.rollback state).2.IsSound ∧
      (Adaptor.rollback state).2.connection.inTransaction = false :=
  h.finish .rollback "ROLLBACK"

/-- One request keeps a watched connection sound. -/
theorem IsSound.perform {state : Watched ς} (h : state.IsSound) (request : Request) :
    (request.perform state).2.IsSound := by
  cases request with
  | begin level =>
      rw [Request.perform, Action.map_apply]
      exact h.beginBy level
  | commit =>
      rw [Request.perform, Action.map_apply]
      exact h.commit.1
  | rollback =>
      rw [Request.perform, Action.map_apply]
      exact h.rollback.1
  | close =>
      rw [Request.perform, Action.map_apply]
      exact h.clear nofun (Connection.close_inTransaction h.settled).1
  | query statement =>
      rw [Request.perform, Action.map_apply]
      exact h.keep (Connection.keeps_query statement)
  | execute statement =>
      rw [Request.perform, Action.map_apply]
      exact h.keep (Connection.keeps_execute statement)
  | batch sql =>
      rw [Request.perform, Action.map_apply]
      exact h.keep (Connection.keeps_executeBatch sql)

theorem IsSound.abandon {state : Watched ς} (h : state.IsSound) :
    (Adaptor.abandon state).IsSound ∧
      (Adaptor.abandon state).connection.inTransaction = false := by
  have hrollback := h.rollback
  unfold Adaptor.abandon
  rcases hrun : Adaptor.rollback state with ⟨result, after⟩
  rw [hrun] at hrollback
  cases result with
  | ok value => exact hrollback
  | error error => exact ⟨hrollback.1.emit _, hrollback.2⟩

/-- However a body ends, the transaction that it ran in leaves the flag clear. -/
theorem IsSound.runInTransaction
    {φ : Type} {state : Watched ς} (lift : Error → φ) (body : Body (Watched ς) φ α)
    (hbody : (body state).2.IsSound) :
    (Adaptor.runInTransaction lift body state).2.IsSound ∧
      (Adaptor.runInTransaction lift body state).2.connection.inTransaction = false := by
  unfold Adaptor.runInTransaction
  rcases hrun : body state with ⟨outcome, ended⟩
  rw [hrun] at hbody
  cases outcome with
  | done value =>
      have hcommit := hbody.commit
      dsimp only
      rcases hrun : Adaptor.commit ended with ⟨result, after⟩
      rw [hrun] at hcommit
      cases result with
      | ok value => exact hcommit
      | error error =>
          -- The flag is clear, but what a rollback would do need not be excluded.
          dsimp only
          split
          · exact hcommit.1.abandon
          · exact hcommit
  | failed error => exact hbody.abandon
  | panicked message => exact hbody.abandon

theorem IsSound.transactionBy
    {φ : Type} {state : Watched ς} (h : state.IsSound) (level : Option Isolation)
    (lift : Error → φ) {body : Body (Watched ς) φ α}
    (hbody : ∀ started : Watched ς, started.IsSound → (body started).2.IsSound) :
    (Leveled.transactionBy level lift body state).2.IsSound ∧
      ∀ started, Leveled.beginBy level state = (.ok (), started) →
        (Leveled.transactionBy level lift body state).2.connection.inTransaction = false := by
  have hbegin := h.beginBy level
  unfold Leveled.transactionBy Adaptor.transactionFrom
  rcases hrun : Leveled.beginBy level state with ⟨result, started⟩
  rw [hrun] at hbegin
  cases result with
  | ok value =>
      have hended := IsSound.runInTransaction lift body (hbody started hbegin)
      exact ⟨hended.1, fun _ _ => hended.2⟩
  | error error =>
      refine ⟨hbegin, ?_⟩
      rintro _ ⟨⟩

theorem IsSound.run {φ : Type} (script : Script φ α) {state : Watched ς} (h : state.IsSound) :
    (script.run state).2.IsSound := by
  induction script generalizing state with
  | finish outcome => exact h
  | ask request next ih => exact ih _ (h.perform request)
  | transaction level lift body next ihbody ih =>
      exact ih _ (h.transactionBy level lift fun _ => ihbody).1

theorem IsSound.visited
    {φ : Type} {script : Script φ α} {state visited : Watched ς}
    (hvisits : script.Visits state visited) (h : state.IsSound) : visited.IsSound := by
  induction hvisits with
  | here => exact h
  | ask _ ih => exact ih (h.perform _)
  | inside hbegin _ ih =>
      have hstarted := h.beginBy ‹_›
      rw [hbegin] at hstarted
      exact ih hstarted
  | after _ ih => exact ih (h.transactionBy _ _ fun _ => IsSound.run _).1

/-! ## Watching changes nothing -/

/-- On a watched connection something is done as it is done on the connection. -/
def Mirrors {β : Type} (outer : Watched ς → β × Watched ς)
    (inner : Connection ς → β × Connection ς) : Prop :=
  ∀ state, (outer state).1 = (inner state.connection).1 ∧
    (outer state).2.connection = (inner state.connection).2

omit [Server ς] in
theorem mirrors_marking (marks : Result α → List Mark) (action : Action (Connection ς) α) :
    Mirrors (marking marks action) action :=
  fun _ => ⟨rfl, rfl⟩

omit [Server ς] in
theorem Mirrors.map
    {β : Type} {outer : Action (Watched ς) α} {inner : Action (Connection ς) α}
    (h : Mirrors outer inner) (f : α → β) : Mirrors (f <$> outer) (f <$> inner) := by
  intro state
  obtain ⟨hresult, hstate⟩ := h state
  rw [Action.map_apply, Action.map_apply, hresult]
  exact ⟨rfl, hstate⟩

theorem mirrors_perform (request : Request) :
    Mirrors (ς := ς) request.perform request.perform := by
  cases request with
  | begin level => cases level <;> exact (mirrors_marking _ _).map _
  | commit | rollback | close | query | execute | batch => exact (mirrors_marking _ _).map _

theorem mirrors_abandon (state : Watched ς) :
    (Adaptor.abandon state).connection = Adaptor.abandon state.connection := by
  have hrollback : Adaptor.rollback state =
      marking (fun _ => [.ended]) Adaptor.rollback state := rfl
  unfold Adaptor.abandon
  rw [hrollback, marking]
  rcases Adaptor.rollback state.connection with ⟨result, after⟩
  cases result with
  | ok value => rfl
  | error error => rfl

theorem mirrors_closing (state : Watched ς) :
    (if Adaptor.inTransaction state then Adaptor.abandon state else state).connection =
      if Adaptor.inTransaction state.connection then Adaptor.abandon state.connection
      else state.connection := by
  have hflag : Adaptor.inTransaction state = Adaptor.inTransaction state.connection := rfl
  rw [hflag]
  split
  · exact mirrors_abandon state
  · rfl

theorem Mirrors.runInTransaction
    {φ : Type} {outer : Body (Watched ς) φ α} {inner : Body (Connection ς) φ α}
    (h : Mirrors outer inner) (lift : Error → φ) :
    Mirrors (Adaptor.runInTransaction lift outer) (Adaptor.runInTransaction lift inner) := by
  intro state
  obtain ⟨hresult, hstate⟩ := h state
  unfold Adaptor.runInTransaction
  rcases houter : outer state with ⟨outcome, ended⟩
  rcases hinner : inner state.connection with ⟨outcome', ended'⟩
  rw [houter, hinner] at hresult hstate
  obtain rfl : outcome = outcome' := hresult
  obtain rfl : ended.connection = ended' := hstate
  cases outcome with
  | done value =>
      have hcommit : Adaptor.commit ended =
          marking (fun _ => [.ended]) Adaptor.commit ended := rfl
      dsimp only
      rw [hcommit, marking]
      rcases Adaptor.commit ended.connection with ⟨result, after⟩
      cases result with
      | ok value => exact ⟨rfl, rfl⟩
      | error error => exact ⟨rfl, mirrors_closing ⟨after, _⟩⟩
  | failed error => exact ⟨rfl, mirrors_abandon ended⟩
  | panicked message => exact ⟨rfl, mirrors_abandon ended⟩

theorem Mirrors.transactionBy
    {φ : Type} {outer : Body (Watched ς) φ α} {inner : Body (Connection ς) φ α}
    (h : Mirrors outer inner) (level : Option Isolation) (lift : Error → φ) :
    Mirrors (Leveled.transactionBy level lift outer)
      (Leveled.transactionBy level lift inner) := by
  intro state
  have hbegin : Leveled.beginBy level state =
      marking beginMarks (Leveled.beginBy level) state := by
    cases level <;> rfl
  unfold Leveled.transactionBy Adaptor.transactionFrom
  rw [hbegin, marking]
  rcases Leveled.beginBy level state.connection with ⟨result, started⟩
  cases result with
  | error error => exact ⟨rfl, rfl⟩
  | ok value => exact h.runInTransaction lift ⟨started, _⟩

theorem mirrors_run {φ : Type} (script : Script φ α) :
    Mirrors (ς := ς) script.run script.run := by
  induction script with
  | finish outcome => exact fun _ => ⟨rfl, rfl⟩
  | ask request next ih =>
      intro state
      obtain ⟨hreply, hstate⟩ := mirrors_perform request state
      unfold Script.run
      rw [← hreply, ← hstate]
      exact ih _ _
  | transaction level lift body next ihbody ih =>
      intro state
      obtain ⟨hreply, hstate⟩ := ihbody.transactionBy level lift state
      unfold Script.run
      rw [← hreply, ← hstate]
      exact ih _ _

/-- In every state that a program passes through the flag of the connection is right,
and watching the program has changed neither its outcome nor its connection.  A
closed connection has no transaction.  The flag is set exactly when the last mark is
a beginning.  Exactly then another beginning is a usage error, with nothing sent or
reported, so between two beginnings there is an attempt to end or a closing.  After a
transaction that was begun the flag is clear, however its body ended and whatever
the body did to the connection. -/
theorem flag_of_visits
    (server : ς) (target : String) {φ α : Type} (script : Script φ α) :
    (script.run (opened server target)).1 =
      (script.run (Connection.ofServer server target)).1 ∧
    (script.run (opened server target)).2.connection =
      (script.run (Connection.ofServer server target)).2 ∧
    ∀ state, script.Visits (opened server target) state →
      (state.connection.server = none → state.connection.inTransaction = false) ∧
      (state.connection.inTransaction = true ↔ state.marks.getLast? = some .begun) ∧
      (∀ level : Option Isolation,
        ((∃ error, (Leveled.beginBy level state).1 = .error error ∧ error.kind = .usage) ↔
          state.connection.inTransaction = true) ∧
        (state.connection.inTransaction = true →
          Leveled.beginBy level state = (.error Adaptor.transactionOpen, state))) ∧
      Apart state.marks ∧
      ∀ (ψ β : Type) (level : Option Isolation) (lift : Error → ψ) (body : Script ψ β)
        (started : Watched ς),
        Leveled.beginBy level state = (.ok (), started) →
          (Leveled.transactionBy level lift body.run state).2.connection.inTransaction =
            false := by
  obtain ⟨houtcome, hconnection⟩ := mirrors_run script (opened server target)
  refine ⟨houtcome, hconnection, ?_⟩
  intro state hvisits
  have hsound := (isSound_opened server target).visited hvisits
  have hrefused : ∀ level : Option Isolation, state.connection.inTransaction = true →
      Leveled.beginBy level state = (.error Adaptor.transactionOpen, state) := by
    intro level hopen
    rw [beginBy_eq, marking, Connection.beginWith_of_inTransaction hopen, beginMarks,
      List.append_nil]
  refine ⟨hsound.settled, hsound.flag, ?_, hsound.apart, ?_⟩
  · intro level
    refine ⟨⟨?_, ?_⟩, hrefused level⟩
    · rintro ⟨error, herror, husage⟩
      apply Bool.not_eq_false _ |>.mp
      intro hidle
      rw [beginBy_eq, marking] at herror
      rcases Connection.beginWith_cases hidle (level.getD default) with
        ⟨after, hbegin, -⟩ | ⟨error', after, hbegin, hkind, -⟩
      · rw [hbegin] at herror
        cases herror
      · rw [hbegin] at herror
        cases herror
        exact hkind husage
    · intro hopen
      rw [hrefused level hopen]
      exact ⟨Adaptor.transactionOpen, rfl, rfl⟩
  · intro ψ β level lift body started hbegin
    exact (hsound.transactionBy level lift fun _ => IsSound.run body).2 started hbegin

/-! ## A commit that the server refuses -/

/-- A server that begins a transaction and refuses to commit it. -/
def refusing : ScriptedServer :=
  { batches := [none, some ⟨"40001", "could not serialize access"⟩] }

/-- Begins twice and commits, whatever is answered. -/
def beginningTwice : Script Error Unit :=
  .ask (.begin none) fun _ =>
    .ask (.begin (some .serializable)) fun _ =>
      .ask .commit fun _ => .finish (.done ())

theorem flag_of_visits_beginningTwice :
    ∃ state : Watched ScriptedServer,
      beginningTwice.Visits (opened refusing "db") state ∧
      state.marks.getLast? = some .begun ∧
      Leveled.beginBy (some .serializable) state =
        (.error Adaptor.transactionOpen, state) := by
  have hvisits : beginningTwice.Visits (opened refusing "db")
      ((Request.begin none).perform (opened refusing "db")).2 :=
    .ask (.here _ _)
  obtain ⟨-, -, hstates⟩ := flag_of_visits refusing "db" beginningTwice
  obtain ⟨-, hflag, hbegin, -⟩ := hstates _ hvisits
  exact ⟨_, hvisits, hflag.mp rfl, (hbegin (some .serializable)).2 rfl⟩

end Watched

end TypedQuery.Postgres
