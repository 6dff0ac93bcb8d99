import TypedQuery.Proofs.Ledger
import TypedQuery.Proofs.ServerScript

/-!
# What a transaction on a server keeps

The body of a transaction is a program that runs statements and ends no transaction
by itself.  If the server refuses none of its statements and the transaction ends
with a value, then exactly the work of the body is published.  If the server refuses
one, nothing is published, however the body goes on: the end of the transaction is
reported as a success all the same.
-/

namespace TypedQuery.Postgres

open Sqlite (Steps)

/-- What became of a request on the server. -/
inductive Served where
  /-- A statement was run with the bytes of its values. -/
  | statement (sql : String) (values : List (Option Bytes))
  | text (sql : String)
  /-- The server refused the request. -/
  | refused
  /-- The values of the statement could not be sent. -/
  | unsent
  deriving DecidableEq

namespace Served

def IsRun : Served → Prop
  | statement .. | text _ => True
  | refused | unsent => False

end Served

/-- What the server answered to a statement, what became of it, and the server
afterwards. -/
structure Exchange (ς α : Type) where
  result : Result α
  served : Served
  server : ς

variable {ς φ α S : Type} [Server ς]

/-- A statement is prepared, and it is run if its values can be sent. -/
def exchange (statement : Statement) (server : ς) : Exchange ς (Prepared × Response) :=
  match Server.prepare statement.sql server with
  | (.error fault, after) => ⟨.error fault.toError, .refused, after⟩
  | (.ok prepared, ready) =>
    match Parameter.encodeAll prepared.params statement.params with
    | .error fault => ⟨.error ⟨.query, fault.message⟩, .unsent, ready⟩
    | .ok values =>
      match Server.run prepared values ready with
      | (.error fault, after) => ⟨.error fault.toError, .refused, after⟩
      | (.ok response, after) =>
        ⟨.ok (prepared, response), .statement statement.sql values, after⟩

def exchangeText (sql : String) (server : ς) : Exchange ς Unit :=
  match Server.simple sql server with
  | (.error fault, after) => ⟨.error fault.toError, .refused, after⟩
  | (.ok (), after) => ⟨.ok (), .text sql, after⟩

theorem isOk_map {β : Type} (f : α → β) (result : Result α) :
    (result.map f).isOk = result.isOk := by
  cases result <;> rfl

/-- An action that ends by reading its answer succeeds only if it was answered. -/
theorem bind_of_reading
    {β σ : Type} {action : Action σ α} {read : α → Action σ β}
    (hread : ∀ value state, (read value state).2 = state) (state : σ) :
    ((action >>= read) state).2 = (action state).2 ∧
      (((action >>= read) state).1.isOk = true → (action state).1.isOk = true) := by
  rw [Action.bind_apply]
  rcases action state with ⟨result, after⟩
  cases result with
  | ok value => exact ⟨hread value after, fun _ => rfl⟩
  | error error => exact ⟨rfl, id⟩

namespace Connection

theorem perform_query (statement : Statement) (connection : Connection ς) :
    ((Request.query statement).perform connection).2 = (run statement connection).2 ∧
      (((Request.query statement).perform connection).1.isOk = true →
        (run statement connection).1.isOk = true) := by
  have hquery : Adaptor.query statement connection =
      (Connection.query statement : Action (Connection ς) Rows) connection := rfl
  rw [Request.perform, Action.map_apply, isOk_map, hquery]
  apply bind_of_reading
  rintro ⟨prepared, response⟩ state
  dsimp only
  cases response.rows.mapM (Cell.readFrom 0 (prepared.columns.map Prod.snd)) <;> rfl

theorem perform_execute (statement : Statement) (connection : Connection ς) :
    ((Request.execute statement).perform connection).2 = (run statement connection).2 ∧
      (((Request.execute statement).perform connection).1.isOk = true →
        (run statement connection).1.isOk = true) := by
  have hexecute : Adaptor.execute statement connection =
      (Connection.execute statement : Action (Connection ς) UInt64) connection := rfl
  rw [Request.perform, Action.map_apply, isOk_map, hexecute]
  exact bind_of_reading (fun _ _ => rfl) connection

theorem run_eq_exchange
    {connection : Connection ς} {server : ς} (h : connection.server = some server)
    (statement : Statement) :
    run statement connection =
      ((exchange statement server).result,
        { connection.emit (.statement statement.sql statement.params.length) with
          server := some (exchange statement server).server }) := by
  have hemit : (connection.emit
      (.statement statement.sql statement.params.length)).server = some server := h
  rw [run, traced, Action.bind_apply, onServer, hemit, exchange]
  dsimp only
  rcases Server.prepare statement.sql server with ⟨result, ready⟩
  cases result with
  | error fault => rfl
  | ok prepared =>
      dsimp only
      cases Parameter.encodeAll prepared.params statement.params with
      | error fault => rfl
      | ok values =>
          dsimp only
          rw [Action.bind_apply, onServer]
          dsimp only
          rcases Server.run prepared values ready with ⟨result, after⟩
          cases result with
          | error fault => rfl
          | ok response => rfl

theorem executeBatch_eq
    {connection : Connection ς} {server after : ς} {result : Except ServerFault Unit}
    (h : connection.server = some server) {sql : String}
    (hrun : Server.simple sql server = (result, after)) :
    executeBatch sql connection =
      (result.mapError ServerFault.toError, { connection with server := some after }) := by
  rw [executeBatch, onServer, h]
  dsimp only
  rw [hrun]
  cases result with
  | ok value => rfl
  | error fault => rfl

theorem executeBatch_eq_exchange
    {connection : Connection ς} {server : ς} (h : connection.server = some server)
    (sql : String) :
    executeBatch sql connection =
      ((exchangeText sql server).result,
        { connection with server := some (exchangeText sql server).server }) := by
  rcases hrun : Server.simple sql server with ⟨result, after⟩
  rw [executeBatch_eq h hrun, exchangeText, hrun]
  cases result with
  | ok value => rfl
  | error fault => rfl

/-- An attempt to end a transaction is reported, and afterwards the connection takes
it for ended. -/
theorem traced_finish_eq
    {connection : Connection ς} {server after : ς} {result : Except ServerFault Unit}
    (h : connection.server = some server) {sql : String}
    (hrun : Server.simple sql server = (result, after)) (trace : Trace) :
    traced trace (finish sql) connection =
      (result.mapError ServerFault.toError,
        { connection.emit trace with server := some after, inTransaction := false }) := by
  have hemit : (connection.emit trace).server = some server := h
  have hsome : (connection.emit trace).server.isNone = false := by
    rw [hemit]
    rfl
  rw [traced, finish, hsome, if_neg Bool.false_ne_true, executeBatch_eq hemit hrun]

end Connection

namespace Request

/-- What becomes of a request that controls no transactions. -/
def servedBy (server : ς) : Request → Served
  | query statement | execute statement => (exchange statement server).served
  | batch sql => (exchangeText sql server).served
  | begin _ | commit | rollback | close => .unsent

def served (connection : Connection ς) (request : Request) : Served :=
  match connection.server with
  | none => .unsent
  | some server => request.servedBy server

/-- The request runs statements, none of which begins or ends a transaction. -/
def IsOrdinary (controls : String → Prop) : Request → Prop
  | query statement | execute statement => ¬ controls statement.sql
  | batch sql => ¬ controls sql
  | begin _ | commit | rollback | close => False

end Request

/-- A request that was made in a run. -/
structure Entry where
  request : Request
  succeeded : Bool
  served : Served

namespace Script

/-- All requests are ordinary, and no transaction is started. -/
def IsOrdinary (controls : String → Prop) : Script φ α → Prop
  | finish _ => True
  | ask request next => request.IsOrdinary controls ∧ ∀ reply, (next reply).IsOrdinary controls
  | transaction .. => False

/-- The requests that are made in a run.  The bodies of transactions are left out. -/
def history : Script φ α → Connection ς → List Entry
  | finish _ => fun _ => []
  | ask request next => fun connection =>
    ⟨request, (request.perform connection).1.isOk, request.served connection⟩ ::
      (next (request.perform connection).1).history (request.perform connection).2
  | transaction level lift body next => fun connection =>
    (next (Leveled.transactionBy level lift body.run connection).1).history
      (Leveled.transactionBy level lift body.run connection).2

end Script

/-! ## Statements in a transaction -/

namespace Transactional

/-- What the server has run changes the working store. -/
def Effect (laws : Transactional ς S) : Served → S → S → Prop
  | .statement sql values => laws.changes sql values
  | .text sql => laws.textChanges sql
  | .refused | .unsent => Eq

/-- What a request makes of the stores of an open transaction. -/
inductive Step (laws : Transactional ς S) (published : S) :
    Served → Block S → Block S → Prop where
  | changes {served : Served} {store changed : S} (hserved : served ≠ .refused)
      (heffect : laws.Effect served store changed) :
      Step laws published served (.working store) (.working changed)
  | aborts (store : S) : Step laws published .refused (.working store) .aborted
  | stays : Step laws published .refused .aborted .aborted

variable {laws : Transactional ς S} {published : S}

theorem Step.next_ne_idle
    {served : Served} {block next : Block S} (h : laws.Step published served block next) :
    next ≠ .idle := by
  cases h <;> nofun

theorem Step.of_aborted
    {served : Served} {next : Block S} (h : laws.Step published served .aborted next) :
    next = .aborted := by
  cases h
  rfl

theorem Step.of_refused
    {served : Served} {block next : Block S} (h : laws.Step published served block next)
    (hserved : served = .refused) : next = .aborted := by
  cases h with
  | changes hne _ => exact absurd hserved hne
  | aborts => rfl
  | stays => rfl

theorem Step.of_not_refused
    {served : Served} {store : S} {next : Block S}
    (h : laws.Step published served (.working store) next) (hserved : served ≠ .refused) :
    ∃ changed, laws.Effect served store changed ∧ next = .working changed := by
  cases h with
  | changes _ heffect => exact ⟨_, heffect, rfl⟩
  | aborts => exact absurd rfl hserved

/-- An exchange in an open transaction makes a step, and it answers with a value only
if the server ran something. -/
def Follows (laws : Transactional ς S) (published : S) (block : Block S)
    (exchange : Exchange ς α) : Prop :=
  (exchange.result.isOk = true → exchange.served.IsRun) ∧
    ∃ next, laws.Step published exchange.served block next ∧
      laws.stores exchange.server = ⟨published, next⟩

theorem follows_exchange
    {statement : Statement} (hsql : ¬ laws.controls statement.sql) {server : ς}
    {block : Block S} (h : laws.stores server = ⟨published, block⟩) (hopen : block ≠ .idle) :
    laws.Follows published block (exchange statement server) := by
  cases block with
  | idle => exact absurd rfl hopen
  | aborted =>
      obtain ⟨fault, after, hprepare, hafter⟩ :=
        laws.prepare_aborted statement.sql hsql server published h
      rw [exchange, hprepare]
      exact ⟨nofun, _, .stays, hafter⟩
  | working store =>
      rcases laws.prepare statement.sql hsql server published store h with
        ⟨prepared, ready, _, hprepare, rfl, hready⟩ | ⟨fault, after, hprepare, hafter⟩
      · rw [exchange, hprepare]
        dsimp only
        cases Parameter.encodeAll prepared.params statement.params with
        | error fault =>
            -- The server never hears of the values, so its transaction goes on.
            exact ⟨nofun, _, .changes nofun rfl, hready⟩
        | ok values =>
            have hrun := laws.run statement.sql values hsql server published store h
            rw [ServerAction.bind_of_ok hprepare] at hrun
            rcases hrun with
              ⟨response, after, changed, hrun, heffect, hafter⟩ |
              ⟨fault, after, hrun, hafter⟩
            · dsimp only
              rw [hrun]
              exact ⟨fun _ => trivial, _, .changes nofun heffect, hafter⟩
            · dsimp only
              rw [hrun]
              exact ⟨nofun, _, .aborts store, hafter⟩
      · rw [exchange, hprepare]
        exact ⟨nofun, _, .aborts store, hafter⟩

theorem follows_exchangeText
    {sql : String} (hsql : ¬ laws.controls sql) {server : ς} {block : Block S}
    (h : laws.stores server = ⟨published, block⟩) (hopen : block ≠ .idle) :
    laws.Follows published block (exchangeText sql server) := by
  cases block with
  | idle => exact absurd rfl hopen
  | aborted =>
      obtain ⟨fault, after, hrun, hafter⟩ := laws.text_aborted sql hsql server published h
      rw [exchangeText, hrun]
      exact ⟨nofun, _, .stays, hafter⟩
  | working store =>
      rcases laws.text sql hsql server published store h with
        ⟨_, after, changed, hrun, heffect, hafter⟩ | ⟨fault, after, hrun, hafter⟩
      · rw [exchangeText, hrun]
        exact ⟨fun _ => trivial, _, .changes nofun heffect, hafter⟩
      · rw [exchangeText, hrun]
        exact ⟨nofun, _, .aborts store, hafter⟩

/-- The stores behind a connection that has not been closed. -/
def storesOf (laws : Transactional ς S) (connection : Connection ς) : Option (Stores S) :=
  connection.server.map laws.stores

theorem storesOf_eq_some
    {connection : Connection ς} {stores : Stores S}
    (h : laws.storesOf connection = some stores) :
    ∃ server, connection.server = some server ∧ laws.stores server = stores :=
  Option.map_eq_some_iff.mp h

theorem step_perform
    {request : Request} (hrequest : request.IsOrdinary laws.controls)
    {connection : Connection ς} {block : Block S}
    (h : laws.storesOf connection = some ⟨published, block⟩) (hopen : block ≠ .idle) :
    ((request.perform connection).1.isOk = true → (request.served connection).IsRun) ∧
      ∃ next, laws.Step published (request.served connection) block next ∧
        laws.storesOf (request.perform connection).2 = some ⟨published, next⟩ := by
  obtain ⟨server, hserver, hstores⟩ := storesOf_eq_some h
  have hstatement : ∀ statement : Statement, ¬ laws.controls statement.sql →
      ((Connection.run statement connection).1.isOk = true →
        (exchange statement server).served.IsRun) ∧
      ∃ next, laws.Step published (exchange statement server).served block next ∧
        laws.storesOf (Connection.run statement connection).2 = some ⟨published, next⟩ := by
    intro statement hsql
    obtain ⟨hran, next, hstep, hnext⟩ := follows_exchange hsql hstores hopen
    rw [Connection.run_eq_exchange hserver]
    exact ⟨hran, next, hstep, congrArg some hnext⟩
  have hserved : request.served connection = request.servedBy server := by
    rw [Request.served, hserver]
  rw [hserved]
  cases request with
  | begin | commit | rollback | close => exact absurd hrequest id
  | query statement =>
      obtain ⟨hran, hstep⟩ := hstatement statement hrequest
      obtain ⟨hstate, hok⟩ := Connection.perform_query statement connection
      rw [hstate]
      exact ⟨fun hdone => hran (hok hdone), hstep⟩
  | execute statement =>
      obtain ⟨hran, hstep⟩ := hstatement statement hrequest
      obtain ⟨hstate, hok⟩ := Connection.perform_execute statement connection
      rw [hstate]
      exact ⟨fun hdone => hran (hok hdone), hstep⟩
  | batch sql =>
      obtain ⟨hran, next, hstep, hnext⟩ := follows_exchangeText hrequest hstores hopen
      have hbatch : Adaptor.executeBatch sql connection =
          ((exchangeText sql server).result,
            { connection with server := some (exchangeText sql server).server }) :=
        Connection.executeBatch_eq_exchange hserver sql
      rw [Request.perform, Action.map_apply, hbatch, isOk_map]
      exact ⟨hran, next, hstep, congrArg some hnext⟩

/-! ## Programs in a transaction -/

/-- What the requests of a history do to the working store, one after the other. -/
def Effects (laws : Transactional ς S) (history : List Entry) : S → S → Prop :=
  Steps (fun entry => laws.Effect entry.served) history

/-- In a transaction a program makes the steps of its requests. -/
theorem steps_run
    {script : Script φ α} (hscript : script.IsOrdinary laws.controls)
    {connection : Connection ς} {block : Block S}
    (h : laws.storesOf connection = some ⟨published, block⟩) (hopen : block ≠ .idle) :
    (∀ entry ∈ script.history connection, entry.succeeded = true → entry.served.IsRun) ∧
      ∃ last, Steps (fun entry : Entry => laws.Step published entry.served)
          (script.history connection) block last ∧
        laws.storesOf (script.run connection).2 = some ⟨published, last⟩ := by
  -- The transaction stays open, so every request meets it working or aborted.
  induction script generalizing connection block with
  | finish outcome => exact ⟨nofun, block, .nil block, h⟩
  | ask request next ih =>
      obtain ⟨hran, following, hstep, hfollowing⟩ := step_perform hscript.1 h hopen
      obtain ⟨hrest, last, hsteps, hlast⟩ :=
        ih _ (hscript.2 _) hfollowing hstep.next_ne_idle
      refine ⟨?_, last, .cons hstep hsteps, hlast⟩
      intro entry hentry
      rcases List.mem_cons.mp hentry with rfl | hmem
      · exact hran
      · exact hrest entry hmem
  | transaction => exact absurd hscript id

/-- Nothing more happens in an aborted transaction. -/
theorem aborted_of_steps
    {history : List Entry} {block last : Block S}
    (h : Steps (fun entry : Entry => laws.Step published entry.served) history block last)
    (hblock : block = .aborted) : last = .aborted := by
  induction h with
  | nil => exact hblock
  | cons hstep _ ih =>
      subst hblock
      exact ih hstep.of_aborted

theorem aborted_of_refused
    {history : List Entry} {block last : Block S}
    (h : Steps (fun entry : Entry => laws.Step published entry.served) history block last)
    (hrefused : ∃ entry ∈ history, entry.served = .refused) : last = .aborted := by
  induction h with
  | nil =>
      obtain ⟨_, hmem, -⟩ := hrefused
      cases hmem
  | cons hstep hsteps ih =>
      obtain ⟨refused, hmem, hserved⟩ := hrefused
      rcases List.mem_cons.mp hmem with rfl | hmem
      · exact aborted_of_steps hsteps (hstep.of_refused hserved)
      · exact ih ⟨refused, hmem, hserved⟩

theorem last_ne_idle
    {history : List Entry} {block last : Block S}
    (h : Steps (fun entry : Entry => laws.Step published entry.served) history block last)
    (hopen : block ≠ .idle) : last ≠ .idle := by
  induction h with
  | nil => exact hopen
  | cons hstep _ ih => exact ih hstep.next_ne_idle

theorem effects_of_steps
    {history : List Entry} {block last : Block S}
    (h : Steps (fun entry : Entry => laws.Step published entry.served) history block last)
    (hserved : ∀ entry ∈ history, entry.served ≠ .refused)
    {store : S} (hblock : block = .working store) :
    ∃ changed, laws.Effects history store changed ∧ last = .working changed := by
  induction h generalizing store with
  | nil => exact ⟨store, .nil store, hblock⟩
  | cons hstep _ ih =>
      subst hblock
      obtain ⟨following, heffect, hnext⟩ :=
        hstep.of_not_refused (hserved _ (List.mem_cons_self ..))
      obtain ⟨changed, hrest, hlast⟩ :=
        ih (fun later hlater => hserved later (List.mem_cons_of_mem _ hlater)) hnext
      exact ⟨changed, .cons heffect hrest, hlast⟩

/-! ## Beginning and ending -/

theorem beginWith_cases
    {connection : Connection ς} (h : laws.storesOf connection = some ⟨published, .idle⟩)
    (level : Isolation) :
    (∃ error after left, Connection.beginWith level connection = (.error error, after) ∧
      laws.storesOf after = some ⟨published, left⟩) ∨
    (∃ started, Connection.beginWith level connection = (.ok (), started) ∧
      laws.storesOf started = some ⟨published, .working published⟩) := by
  obtain ⟨server, hserver, hstores⟩ := storesOf_eq_some h
  unfold Connection.beginWith
  by_cases hflag : connection.inTransaction = true
  · rw [if_pos hflag]
    left
    exact ⟨_, connection, _, rfl, h⟩
  · rw [if_neg hflag]
    have hemit : (connection.emit (.transaction .begin Connection.driver)).server =
        some server := hserver
    rcases hrun : Server.simple level.beginSql server with ⟨result, after⟩
    rw [Connection.traced, Connection.executeBatch_eq hemit hrun]
    cases result with
    | ok value =>
        right
        exact ⟨_, rfl, congrArg some (laws.begin_ok level server after published hstores hrun)⟩
    | error fault =>
        left
        have hafter := laws.begin_error level server after fault published hstores hrun
        refine ⟨_, _, (laws.stores after).block, rfl, ?_⟩
        rw [← hafter]
        rfl

theorem commit_of_working
    {connection : Connection ς} {store : S}
    (h : laws.storesOf connection = some ⟨published, .working store⟩) :
    (∃ after, Connection.commit connection = (.ok (), after) ∧
      laws.storesOf after = some ⟨store, .idle⟩) ∨
    (∃ error after left, Connection.commit connection = (.error error, after) ∧
      after.inTransaction = false ∧ laws.storesOf after = some ⟨published, left⟩) := by
  obtain ⟨server, hserver, hstores⟩ := storesOf_eq_some h
  rcases hrun : Server.simple "COMMIT" server with ⟨result, after⟩
  rw [Connection.commit, Connection.traced_finish_eq hserver hrun]
  cases result with
  | ok value =>
      left
      exact ⟨_, rfl, congrArg some (laws.commit_ok server after published store hstores hrun)⟩
  | error fault =>
      right
      have hafter := laws.commit_error server after fault published store hstores hrun
      refine ⟨_, _, (laws.stores after).block, rfl, rfl, ?_⟩
      rw [← hafter]
      rfl

/-- Of an aborted transaction nothing is published, and still it is committed with
success. -/
theorem commit_of_aborted
    {connection : Connection ς}
    (h : laws.storesOf connection = some ⟨published, .aborted⟩) :
    ∃ after, Connection.commit connection = (.ok (), after) ∧
      laws.storesOf after = some ⟨published, .idle⟩ := by
  obtain ⟨server, hserver, hstores⟩ := storesOf_eq_some h
  obtain ⟨after, hrun, hafter⟩ := laws.commit_aborted server published hstores
  rw [Connection.commit, Connection.traced_finish_eq hserver hrun]
  exact ⟨_, rfl, congrArg some hafter⟩

theorem storesOf_abandon
    {connection : Connection ς} {block : Block S}
    (h : laws.storesOf connection = some ⟨published, block⟩) (hopen : block ≠ .idle) :
    ∃ left, laws.storesOf (Adaptor.abandon connection) = some ⟨published, left⟩ := by
  obtain ⟨server, hserver, hstores⟩ := storesOf_eq_some h
  have hblock : (laws.stores server).block ≠ .idle := by
    rw [hstores]
    exact hopen
  rcases hrun : Server.simple "ROLLBACK" server with ⟨result, after⟩
  have hafter : (laws.stores after).published = published := by
    rw [laws.rollback server after result hblock hrun, hstores]
  have hrollback := Connection.traced_finish_eq hserver hrun
    (.transaction .rollback Connection.driver)
  have hadaptor : Adaptor.rollback connection = Connection.rollback connection := rfl
  refine ⟨(laws.stores after).block, ?_⟩
  rw [Adaptor.abandon, hadaptor, Connection.rollback, hrollback, ← hafter]
  cases result with
  | ok value => rfl
  | error fault => rfl

/-- A transaction ends with the value of its body and publishes the working store, if
it has one still, or it publishes nothing. -/
theorem runInTransaction_publishes
    {lift : Error → φ} {body : Body (Connection ς) φ α}
    {started ended after : Connection ς} {ending outcome : Outcome φ α} {block : Block S}
    (hbody : body started = (ending, ended))
    (hended : laws.storesOf ended = some ⟨published, block⟩) (hopen : block ≠ .idle)
    (hrun : Adaptor.runInTransaction lift body started = (outcome, after)) :
    (∀ value, outcome = .done value →
      ending = .done value ∧
      (∀ store, block = .working store → laws.storesOf after = some ⟨store, .idle⟩) ∧
      (block = .aborted → laws.storesOf after = some ⟨published, .idle⟩)) ∧
    ((∀ value, outcome ≠ .done value) →
      ∃ left, laws.storesOf after = some ⟨published, left⟩) := by
  have habandoned := storesOf_abandon hended hopen
  rw [Adaptor.runInTransaction, hbody] at hrun
  cases ending with
  | failed error =>
      cases hrun
      exact ⟨nofun, fun _ => habandoned⟩
  | panicked message =>
      cases hrun
      exact ⟨nofun, fun _ => habandoned⟩
  | done value =>
      have hadaptor : Adaptor.commit ended = Connection.commit ended := rfl
      dsimp only at hrun
      rw [hadaptor] at hrun
      cases block with
      | idle => exact absurd rfl hopen
      | aborted =>
          -- The server takes the commit, so the value is answered and nothing is kept.
          obtain ⟨closed, hcommit, hclosed⟩ := commit_of_aborted hended
          rw [hcommit] at hrun
          cases hrun
          refine ⟨?_, fun hnone => absurd rfl (hnone value)⟩
          rintro _ ⟨⟩
          exact ⟨rfl, nofun, fun _ => hclosed⟩
      | working store =>
          rcases commit_of_working hended with
            ⟨closed, hcommit, hclosed⟩ | ⟨error, closed, left, hcommit, hflag, hclosed⟩
          · rw [hcommit] at hrun
            cases hrun
            refine ⟨?_, fun hnone => absurd rfl (hnone value)⟩
            rintro _ ⟨⟩
            refine ⟨rfl, ?_, nofun⟩
            rintro _ ⟨⟩
            exact hclosed
          · -- The attempt has cleared the flag, so no rollback follows.
            have hidle : Adaptor.inTransaction closed = false := hflag
            rw [hcommit] at hrun
            simp only [hidle, Bool.false_eq_true, if_false] at hrun
            cases hrun
            exact ⟨nofun, fun _ => ⟨left, hclosed⟩⟩

/-- What a transaction publishes.  If it ends with a value then the transaction was
begun and that is the value of its body.  Then all the work of the body is published
if the server has refused none of it; if the server has refused something then
nothing is published, and the value is no sign of that.  If the transaction ends
otherwise nothing is published. -/
theorem transaction_publishes
    (laws : Transactional ς S) (level : Option Isolation) (lift : Error → φ)
    {script : Script φ α} (hscript : script.IsOrdinary laws.controls)
    {connection after : Connection ς} {outcome : Outcome φ α} {published : S}
    (hidle : laws.storesOf connection = some ⟨published, .idle⟩)
    (hrun : Leveled.transactionBy level lift script.run connection = (outcome, after)) :
    (∀ value, outcome = .done value →
      ∃ started,
        Leveled.beginBy level connection = (.ok (), started) ∧
        (script.run started).1 = .done value ∧
        (∀ entry ∈ script.history started, entry.succeeded = true → entry.served.IsRun) ∧
        ((∀ entry ∈ script.history started, entry.served ≠ .refused) →
          ∃ changed, laws.Effects (script.history started) published changed ∧
            laws.storesOf after = some ⟨changed, .idle⟩) ∧
        ((∃ entry ∈ script.history started, entry.served = .refused) →
          laws.storesOf after = some ⟨published, .idle⟩)) ∧
    ((∀ value, outcome ≠ .done value) →
      ∃ left, laws.storesOf after = some ⟨published, left⟩) := by
  rw [Leveled.transactionBy, Adaptor.transactionFrom, Connection.beginBy_eq] at hrun
  rw [Connection.beginBy_eq]
  rcases beginWith_cases hidle (level.getD default) with
    ⟨error, refused, left, hbegin, hrefused⟩ | ⟨started, hbegin, hstarted⟩
  · rw [hbegin] at hrun
    cases hrun
    exact ⟨nofun, fun _ => ⟨left, hrefused⟩⟩
  · rw [hbegin] at hrun
    obtain ⟨hran, last, hsteps, hlast⟩ := steps_run hscript hstarted nofun
    have hopen : last ≠ .idle := last_ne_idle hsteps nofun
    obtain ⟨hdone, hother⟩ := runInTransaction_publishes rfl hlast hopen hrun
    refine ⟨?_, hother⟩
    intro value hvalue
    obtain ⟨hending, hworking, haborted⟩ := hdone value hvalue
    refine ⟨started, hbegin, hending, hran, ?_, ?_⟩
    · intro hserved
      obtain ⟨changed, heffects, hchanged⟩ := effects_of_steps hsteps hserved rfl
      exact ⟨changed, heffects, hworking changed hchanged⟩
    · intro hrefused
      exact haborted (aborted_of_refused hsteps hrefused)

end Transactional

/-! ## Transactions on a ledger -/

namespace Ledger

def accepted : Statement := ⟨"INSERT INTO t VALUES (1)", []⟩

def rejected : Statement := ⟨"INSERT INTO gone VALUES (1)", []⟩

/-- Runs an accepted statement and then another one, and ends with a value whatever
they answer. -/
def recording (statement : Statement) : Script Error Nat :=
  .ask (.execute accepted) fun _ => .ask (.execute statement) fun _ => .finish (.done 2)

def fresh : Connection Ledger :=
  .ofServer ⟨[], .idle, [rejected.sql], ""⟩ "db"

/-- The connection when a transaction has begun. -/
def started : Connection Ledger :=
  (Leveled.beginBy none fresh).2

theorem isOrdinary_recording {statement : Statement} (h : ¬ controls statement.sql) :
    (recording statement).IsOrdinary controls := by
  have haccepted : ¬ controls accepted.sql := by
    unfold controls
    decide +kernel
  exact ⟨haccepted, fun _ => ⟨h, fun _ => trivial⟩⟩

theorem transaction_publishes_recording :
    ∃ changed after,
      Leveled.transactionBy none id (recording accepted).run fresh = (.done 2, after) ∧
      transactional.Effects ((recording accepted).history started) [] changed ∧
      transactional.storesOf after = some ⟨changed, .idle⟩ := by
  have haccepted : ¬ controls accepted.sql := by
    unfold controls
    decide +kernel
  have hdone : (Leveled.transactionBy none id (recording accepted).run fresh).1 = .done 2 := by
    decide +kernel
  rcases hrun : Leveled.transactionBy none id (recording accepted).run fresh with
    ⟨outcome, after⟩
  rw [hrun] at hdone
  have hidle : transactional.storesOf fresh = some ⟨[], .idle⟩ := rfl
  obtain ⟨hvalue, -⟩ := Transactional.transaction_publishes transactional none id
    (isOrdinary_recording haccepted) hidle hrun
  obtain ⟨begun, hbegin, -, -, hkept, -⟩ := hvalue 2 hdone
  have hstarted : begun = started := (congrArg Prod.snd hbegin).symm
  subst hstarted
  have hserved : ∀ entry ∈ (recording accepted).history started, entry.served ≠ .refused := by
    decide +kernel
  obtain ⟨changed, heffects, hafter⟩ := hkept hserved
  exact ⟨changed, after, congrArg (·, after) hdone, heffects, hafter⟩

/-- The second statement is refused, and the program goes on.  The transaction ends
with the value of the program, but the work of the first statement, which succeeded,
is not published. -/
theorem recording_forgotten :
    (recording rejected).IsOrdinary transactional.controls ∧
    transactional.storesOf fresh = some ⟨[], .idle⟩ ∧
    (∃ entry ∈ (recording rejected).history started,
      entry.succeeded = true ∧ entry.served = .statement accepted.sql []) ∧
    ∃ after,
      Leveled.transactionBy none id (recording rejected).run fresh = (.done 2, after) ∧
      transactional.storesOf after = some ⟨[], .idle⟩ := by
  have hrejected : ¬ controls rejected.sql := by
    unfold controls
    decide +kernel
  refine ⟨isOrdinary_recording hrejected, rfl, ?_, ?_⟩
  · refine ⟨_, List.mem_cons_self .., ?_, ?_⟩
    · decide +kernel
    · decide +kernel
  · refine ⟨(Leveled.transactionBy none id (recording rejected).run fresh).2, ?_, ?_⟩
    · apply Prod.ext
      · decide +kernel
      · rfl
    · decide +kernel

end Ledger

end TypedQuery.Postgres
