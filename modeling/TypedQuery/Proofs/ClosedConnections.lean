import TypedQuery.Adaptor.Table
import TypedQuery.Proofs.TransactionFlag
import TypedQuery.Sample
import TypedQuery.Sqlite.Connection
import TypedQuery.Sqlite.Memory.Database

/-!
# A closed connection stays closed

A connection that was closed refuses whatever is asked of it, and nothing is sent any
more: all that an operation changes are the reports.  That does not depend on what came
before the closing, nor on what was tried after it.  One operation looks at something
else first.  The definition of a table is written before it is sent, so a table that
cannot be defined is refused for that, on a closed connection as on an open one.
-/

namespace TypedQuery

/-! ## Tables that can be defined -/

/-- A result is a value just when something holds, and otherwise a schema error. -/
inductive SucceedsJust {α : Type} (p : Prop) : Result α → Prop where
  | ok (h : p) (value : α) : SucceedsJust p (.ok value)
  | error (h : ¬ p) {error : Error} (hkind : error.kind = .schema) :
      SucceedsJust p (.error error)

namespace SucceedsJust

variable {α β : Type} {p : Prop}

theorem exists_ok {result : Result α} (h : SucceedsJust p result) (hp : p) :
    ∃ value, result = .ok value := by
  cases h with
  | ok h value => exact ⟨value, rfl⟩
  | error h hkind => exact absurd hp h

theorem exists_error {result : Result α} (h : SucceedsJust p result) (hp : ¬ p) :
    ∃ error, error.kind = .schema ∧ result = .error error := by
  cases h with
  | ok h value => exact absurd h hp
  | error h hkind => exact ⟨_, hkind, rfl⟩

theorem bind_ok {result : Result α} (h : SucceedsJust p result) (f : α → β) :
    SucceedsJust p (result >>= fun value => .ok (f value)) := by
  cases h with
  | ok h value => exact .ok h (f value)
  | error h hkind => exact .error h hkind

theorem mapM {p : α → Prop} {f : α → Result β}
    (h : ∀ entry, SucceedsJust (p entry) (f entry)) (entries : List α) :
    SucceedsJust (∀ entry ∈ entries, p entry) (entries.mapM f) := by
  induction entries with
  | nil => exact .ok (List.forall_mem_nil p) []
  | cons entry entries ih =>
      have hentry := h entry
      rw [List.mapM_cons, List.forall_mem_cons]
      generalize f entry = first at hentry
      generalize entries.mapM f = rest at ih
      cases hentry with
      | error hnot hkind => exact .error (fun hall => hnot hall.1) hkind
      | ok hfirst value =>
          cases ih with
          | error hnot hkind => exact .error (fun hall => hnot hall.2) hkind
          | ok hrest values => exact .ok ⟨hfirst, hrest⟩ (value :: values)

end SucceedsJust

/-- If the column refers to a table, that has a primary key. -/
def ColumnDef.IsDefinable (column : ColumnDef) : Prop :=
  ∀ target, column.type = .foreignKey target → target.key ≠ none

theorem ColumnDef.succeedsJust_referenceClauses (column : ColumnDef) :
    SucceedsJust column.IsDefinable column.referenceClauses := by
  obtain ⟨name, type, constraints⟩ := column
  cases type with
  | foreignKey target =>
      obtain ⟨table, key⟩ := target
      cases key with
      | none => exact .error (fun h => h _ rfl rfl) rfl
      | some key =>
          refine .ok ?_ _
          rintro target ⟨⟩
          exact Option.some_ne_none key
  | _ => exact .ok (fun target h => ColumnType.noConfusion h) _

theorem ColumnDef.succeedsJust_fragment (column : ColumnDef) (dialect : Dialect) :
    SucceedsJust column.IsDefinable (column.fragment dialect) :=
  (column.succeedsJust_referenceClauses.bind_ok _).bind_ok _

/-- There are columns, and each of them can be defined. -/
structure Schema.IsDefinable (schema : Schema) : Prop where
  nonempty : schema.columns ≠ []
  columns : ∀ column ∈ schema.columns, column.IsDefinable

theorem Schema.succeedsJust_createText
    (schema : Schema) (dialect : Dialect) (mode : CreateMode) :
    SucceedsJust schema.IsDefinable (schema.createText dialect mode) := by
  obtain ⟨table, columns⟩ := schema
  have hcolumns := SucceedsJust.mapM
    (fun column : ColumnDef => column.succeedsJust_fragment dialect) columns
  cases columns with
  | nil => exact .error (fun h => h.nonempty rfl) rfl
  | cons column columns =>
      have hiff : (∀ entry ∈ column :: columns, entry.IsDefinable) ↔
          IsDefinable ⟨table, column :: columns⟩ :=
        ⟨fun h => ⟨List.cons_ne_nil column columns, h⟩, IsDefinable.columns⟩
      rw [← hiff]
      exact (hcolumns.bind_ok _).bind_ok _

namespace Model

variable {σ : Type} [Adaptor σ] (model : Model)

theorem createTable_of_isDefinable
    (h : model.schema.IsDefinable) (mode : CreateMode) (state : σ) :
    ∃ sql, model.createTable mode state =
      Adaptor.mapError Error.inSchema (Adaptor.executeBatch sql) state := by
  obtain ⟨sql, hsql⟩ :=
    (model.schema.succeedsJust_createText (Adaptor.dialect state) mode).exists_ok h
  refine ⟨sql, ?_⟩
  rw [createTable, hsql]

/-- A table that cannot be defined is refused before anything is sent. -/
theorem createTable_of_not_isDefinable
    (h : ¬ model.schema.IsDefinable) (mode : CreateMode) (state : σ) :
    ∃ error, error.kind = .schema ∧ model.createTable mode state = (.error error, state) := by
  obtain ⟨error, hkind, herror⟩ :=
    (model.schema.succeedsJust_createText (Adaptor.dialect state) mode).exists_error h
  refine ⟨error, hkind, ?_⟩
  rw [createTable, herror]

end Model

/-- A connection whose transactions begin in one of several modes. -/
class Moded (σ : Type) (μ : outParam Type) extends Adaptor σ where
  beginIn : μ → Action σ Unit

instance {ε : Type} [Sqlite.Engine ε] :
    Moded (Sqlite.Connection ε) Sqlite.TransactionMode where
  beginIn := Sqlite.Connection.beginWith

instance {ς : Type} [Postgres.Server ς] :
    Moded (Postgres.Connection ς) Postgres.Isolation where
  beginIn := Postgres.Connection.beginWith

/-! ## Operations -/

/-- What every connection is asked for directly.  Where no mode is given the connection
chooses. -/
inductive Command (μ : Type) where
  | query (statement : Statement)
  | execute (statement : Statement)
  | batch (sql : String)
  | begin (mode : Option μ)
  | commit
  | rollback
  | serverVersion
  | versionNumber
  | tableExists (table : String)

/-- An operation on a connection that may fail. -/
inductive Operation (μ : Type) where
  | direct (command : Command μ)
  | createTable (model : Model) (mode : CreateMode)
  | dropTable (model : Model)
  | existsTable (model : Model)
  | close

section Operations

variable {σ μ : Type} [Moded σ μ]

def Moded.beginBy : Option μ → Action σ Unit
  | none => Adaptor.begin
  | some mode => Moded.beginIn mode

/-- Runs a body in a transaction, in a mode if one is given. -/
def Moded.transactionBy {φ α : Type} (mode : Option μ) (lift : Error → φ)
    (body : Body σ φ α) : Body σ φ α :=
  Adaptor.transactionFrom (beginBy mode) lift body

namespace Command

def Answer : Command μ → Type
  | query _ => Rows
  | execute _ => UInt64
  | batch _ | begin _ | commit | rollback => Unit
  | serverVersion => String
  | versionNumber => Int64
  | tableExists _ => Bool

def perform : (command : Command μ) → Action σ command.Answer
  | query statement => Adaptor.query statement
  | execute statement => Adaptor.execute statement
  | batch sql => Adaptor.executeBatch sql
  | begin mode => Moded.beginBy mode
  | commit => Adaptor.commit
  | rollback => Adaptor.rollback
  | serverVersion => Adaptor.serverVersion
  | versionNumber => Adaptor.versionNumber
  | tableExists table => Adaptor.tableExists table

end Command

namespace Operation

def Answer : Operation μ → Type
  | direct command => command.Answer
  | createTable _ _ | dropTable _ | close => Unit
  | existsTable _ => Bool

def perform : (operation : Operation μ) → Action σ operation.Answer
  | direct command => command.perform
  | createTable model mode => model.createTable mode
  | dropTable model => model.dropTable
  | existsTable model => model.existsTable
  | close => Adaptor.close

/-- If a table is to be created, it can be defined. -/
def IsDefinable : Operation μ → Prop
  | createTable model _ => model.schema.IsDefinable
  | _ => True

theorem perform_of_not_isDefinable (operation : Operation μ) (h : ¬ operation.IsDefinable)
    (state : σ) :
    ∃ error, error.kind = .schema ∧ operation.perform state = (.error error, state) := by
  cases operation with
  | createTable model mode => exact model.createTable_of_not_isDefinable h mode state
  | _ => exact absurd trivial h

end Operation

def report (traces : List Trace) (state : σ) : σ :=
  traces.foldl (fun state trace => Adaptor.emit trace state) state

/-! ## Runs -/

/-- One state leads to another by operations and reports, whatever comes of them. -/
inductive Reaches : σ → σ → Prop where
  | here (state : σ) : Reaches state state
  | operation {before after : σ} (h : Reaches before after) (operation : Operation μ) :
      Reaches before (operation.perform after).2
  | report {before after : σ} (h : Reaches before after) (trace : Trace) :
      Reaches before (Adaptor.emit trace after)

theorem Reaches.trans {first second third : σ} (h : Reaches first second)
    (hnext : Reaches second third) :
    Reaches first third := by
  induction hnext with
  | here => exact h
  | operation _ operation ih => exact ih.operation operation
  | report _ trace ih => exact ih.report trace

theorem Reaches.abandon {before after : σ} (h : Reaches before after) :
    Reaches before (Adaptor.abandon after) := by
  have hrollback : Reaches before (Adaptor.rollback after).2 :=
    h.operation (.direct .rollback)
  unfold Adaptor.abandon
  rcases hrun : Adaptor.rollback after with ⟨result, ended⟩
  rw [hrun] at hrollback
  cases result with
  | ok value => exact hrollback
  | error error => exact hrollback.report _

/-- A transaction is a run when its body is one, however it ends. -/
theorem Reaches.transactionBy
    {φ α : Type} {before after : σ} (h : Reaches before after) (mode : Option μ)
    (lift : Error → φ) {body : Body σ φ α} (hbody : ∀ state, Reaches state (body state).2) :
    Reaches before (Moded.transactionBy mode lift body after).2 := by
  have hbegin : Reaches before (Moded.beginBy mode after).2 :=
    h.operation (.direct (.begin mode))
  unfold Moded.transactionBy Adaptor.transactionFrom
  rcases hrun : Moded.beginBy mode after with ⟨result, started⟩
  rw [hrun] at hbegin
  cases result with
  | error error => exact hbegin
  | ok value =>
      have hended : Reaches before (body started).2 := hbegin.trans (hbody started)
      dsimp only
      unfold Adaptor.runInTransaction
      rcases hrun : body started with ⟨outcome, ended⟩
      rw [hrun] at hended
      cases outcome with
      | failed error => exact hended.abandon
      | panicked message => exact hended.abandon
      | done value =>
          have hcommit : Reaches before (Adaptor.commit ended).2 :=
            hended.operation (.direct .commit)
          dsimp only
          rcases hrun : Adaptor.commit ended with ⟨result, committed⟩
          rw [hrun] at hcommit
          cases result with
          | ok value => exact hcommit
          | error error =>
              dsimp only
              split
              · exact hcommit.abandon
              · exact hcommit

/-! ## Refusals -/

/-- An action on a connection to `target` fails because that was closed, and changes
the reports at most. -/
def Declines {α : Type} (target : String) (action : Action σ α) (state : σ) : Prop :=
  ∃ traces, action state = (.error (Adaptor.closedConnection target), report traces state)

theorem Declines.bind
    {α β : Type} {target : String} {action : Action σ α} {state : σ}
    (h : Declines target action state) (next : α → Action σ β) :
    Declines target (action >>= next) state := by
  obtain ⟨traces, haction⟩ := h
  refine ⟨traces, ?_⟩
  rw [Action.bind_apply, haction]

/-- Being refused by a closed connection is no failure of a statement. -/
theorem Declines.inSchema
    {α : Type} {target : String} {action : Action σ α} {state : σ}
    (h : Declines target action state) :
    Declines target (Adaptor.mapError Error.inSchema action) state := by
  obtain ⟨traces, haction⟩ := h
  refine ⟨traces, ?_⟩
  rw [Adaptor.mapError, haction]
  rfl

/-- A reported action is refused when the action is refused after the report. -/
theorem Declines.of_report
    {α : Type} {target : String} {action reported : Action σ α} {state : σ} {trace : Trace}
    (h : Declines target action (Adaptor.emit trace state))
    (hreported : reported state = action (Adaptor.emit trace state)) :
    Declines target reported state := by
  obtain ⟨traces, haction⟩ := h
  exact ⟨trace :: traces, hreported.trans haction⟩

/-- Connections to `target` that were released, and what that means for them. -/
structure Releasing (target : σ → String) (Released : σ → Prop) : Prop where
  emit : ∀ {state}, Released state → ∀ trace,
    Released (Adaptor.emit trace state) ∧ target (Adaptor.emit trace state) = target state
  closed : ∀ {state}, Released state → Adaptor.isClosed state = true
  idle : ∀ {state}, Released state → Adaptor.inTransaction state = false
  close : ∀ {state}, Released state → Adaptor.close state = (.ok (), state)
  declines : ∀ {state}, Released state → ∀ command : Command μ,
    Declines (target state) command.perform state

/-- A connection to `target` that is closed and refuses everything but to be closed
once more.  Bodies of transactions are not run. -/
structure IsShut (target : String) (state : σ) : Prop where
  closed : Adaptor.isClosed state = true
  idle : Adaptor.inTransaction state = false
  close : Adaptor.close state = (.ok (), state)
  declines_iff : ∀ operation : Operation μ, operation ≠ .close →
    (Declines target operation.perform state ↔ operation.IsDefinable)
  /-- Tables that cannot be defined are refused for that. -/
  undefined : ∀ operation : Operation μ, ¬ operation.IsDefinable →
    ∃ error, error.kind = .schema ∧ operation.perform state = (.error error, state)
  refusesTransaction : ∀ (φ α : Type) (mode : Option μ) (lift : Error → φ)
      (body : Body σ φ α),
    ∃ traces, Moded.transactionBy mode lift body state =
      (.failed (lift (Adaptor.closedConnection target)), report traces state)

namespace Releasing

variable {target : σ → String} {Released : σ → Prop} (releasing : Releasing target Released)

include releasing

theorem report {state : σ} (h : Released state) (traces : List Trace) :
    Released (TypedQuery.report traces state) := by
  induction traces generalizing state with
  | nil => exact h
  | cons trace traces ih => exact ih (releasing.emit h trace).1

theorem declines_perform {state : σ} (h : Released state) {operation : Operation μ}
    (hclose : operation ≠ .close) (hdefinable : operation.IsDefinable) :
    Declines (target state) operation.perform state := by
  cases operation with
  | direct command => exact releasing.declines h command
  | createTable model mode =>
      obtain ⟨sql, hcreate⟩ := model.createTable_of_isDefinable hdefinable mode state
      obtain ⟨traces, hbatch⟩ := (releasing.declines h (.batch sql)).inSchema
      exact ⟨traces, hcreate.trans hbatch⟩
  | dropTable model => exact (releasing.declines h (.batch _)).inSchema
  | existsTable model => exact (releasing.declines h (.tableExists _)).inSchema
  | close => exact absurd rfl hclose

theorem isShut {state : σ} (h : Released state) : IsShut (target state) state := by
  refine ⟨releasing.closed h, releasing.idle h, releasing.close h, ?_, ?_, ?_⟩
  · intro operation hclose
    refine ⟨?_, releasing.declines_perform h hclose⟩
    rintro ⟨traces, hperform⟩
    by_cases hdefinable : operation.IsDefinable
    · exact hdefinable
    · obtain ⟨error, hkind, herror⟩ := operation.perform_of_not_isDefinable hdefinable state
      rw [hperform] at herror
      obtain rfl := Except.error.inj (Prod.mk.inj herror).1
      cases hkind
  · exact fun operation hundefined => operation.perform_of_not_isDefinable hundefined state
  · intro φ α mode lift body
    obtain ⟨traces, hbegin⟩ := releasing.declines h (.begin mode)
    rw [Command.perform] at hbegin
    refine ⟨traces, ?_⟩
    rw [Moded.transactionBy, Adaptor.transactionFrom, hbegin]

/-- A released connection is released for good. -/
theorem of_reaches {before after : σ} (h : Released before) (hreaches : Reaches before after) :
    Released after := by
  induction hreaches with
  | here => exact h
  | report _ trace ih => exact (releasing.emit ih trace).1
  | @operation after _ operation ih =>
      by_cases hclose : operation = .close
      · subst hclose
        have hsame := releasing.close ih
        rw [Operation.perform, hsame]
        exact ih
      by_cases hdefinable : operation.IsDefinable
      · obtain ⟨traces, hdeclined⟩ := releasing.declines_perform ih hclose hdefinable
        rw [hdeclined]
        exact releasing.report ih traces
      · obtain ⟨error, -, herror⟩ := operation.perform_of_not_isDefinable hdefinable after
        rw [herror]
        exact ih

end Releasing

end Operations

/-! ## SQLite -/

namespace Sqlite.Connection

variable {ε α : Type} [Engine ε]

theorem declines_onEngine
    {connection : Connection ε} (h : connection.engine = none) (action : EngineAction ε α) :
    Declines connection.target (onEngine action) connection := by
  refine ⟨[], ?_⟩
  rw [onEngine, h]
  rfl

/-- What is done with the engine after a report is refused without an engine. -/
theorem declines_traced
    {connection : Connection ε} (h : connection.engine = none) (trace : Trace)
    (action : EngineAction ε α) :
    Declines connection.target (traced trace (onEngine action)) connection := by
  have hreported : (connection.emit trace).engine = none := h
  exact (declines_onEngine hreported action).of_report rfl

theorem declines_query
    {connection : Connection ε} (h : connection.engine = none) (statement : Statement) :
    Declines connection.target (query statement) connection := by
  have hreported : (connection.emit
      (.statement statement.sql statement.params.length)).engine = none := h
  exact ((declines_onEngine hreported _).bind _).of_report rfl

theorem declines_beginWith
    {connection : Connection ε} (h : connection.engine = none) (mode : TransactionMode) :
    Declines connection.target (beginWith mode) connection := by
  have hidle : ¬ connection.inTransaction = true := by
    rw [inTransaction, h]
    exact Bool.false_ne_true
  obtain ⟨traces, hrefused⟩ :=
    declines_traced h (.transaction .begin driver) (Engine.batch mode.beginSql)
  refine ⟨traces, ?_⟩
  rw [beginWith, if_neg hidle]
  exact hrefused

theorem releasing :
    Releasing target fun connection : Connection ε => connection.engine = none := by
  constructor
  case emit => exact fun h trace => ⟨h, rfl⟩
  case closed =>
    intro connection h
    exact Option.isNone_iff_eq_none.mpr h
  case idle =>
    intro connection h
    have hidle : connection.inTransaction = false := by rw [inTransaction, h]
    exact hidle
  case close =>
    intro connection h
    have hclose : connection.close = (.ok (), connection) := by rw [close, h]
    exact hclose
  case declines =>
    intro connection h command
    cases command with
    | query statement => exact declines_query h statement
    | execute statement => exact declines_traced h _ _
    | batch sql => exact declines_onEngine h _
    | begin mode => cases mode <;> exact declines_beginWith h _
    | commit => exact declines_traced h _ _
    | rollback => exact declines_traced h _ _
    | serverVersion => exact declines_onEngine h (pure (Engine.version ε))
    | versionNumber => exact declines_onEngine h (pure (Engine.versionNumber ε))
    | tableExists table => exact (declines_query h _).bind _

/-- Closing that succeeds releases the engine. -/
theorem engine_of_close
    {before after : Connection ε} (h : Adaptor.close before = (.ok (), after)) :
    after.engine = none := by
  have hclose : close before = (.ok (), after) := h
  unfold close at hclose
  split at hclose
  · rename_i hnone
    obtain rfl := (Prod.mk.inj hclose).2
    exact hnone
  · dsimp only at hclose
    split at hclose
    · obtain rfl := (Prod.mk.inj hclose).2
      rfl
    · cases (Prod.mk.inj hclose).1

end Sqlite.Connection

/-! ## PostgreSQL -/

namespace Postgres.Connection

variable {ς α : Type} [Server ς]

/-- The connection has neither a server nor a transaction. -/
structure IsReleased (connection : Connection ς) : Prop where
  server : connection.server = none
  idle : connection.inTransaction = false

theorem declines_onServer
    {connection : Connection ς} (h : connection.server = none) (action : ServerAction ς α) :
    Declines connection.target (onServer action) connection := by
  refine ⟨[], ?_⟩
  rw [onServer, h]
  rfl

theorem declines_run
    {connection : Connection ς} (h : connection.server = none) (statement : Statement) :
    Declines connection.target (run statement) connection := by
  have hreported : (connection.emit
      (.statement statement.sql statement.params.length)).server = none := h
  exact ((declines_onServer hreported _).bind _).of_report rfl

theorem declines_query
    {connection : Connection ς} (h : connection.server = none) (statement : Statement) :
    Declines connection.target (query statement) connection :=
  (declines_run h statement).bind _

theorem declines_showSetting
    {connection : Connection ς} (h : connection.server = none) (setting : String) :
    Declines connection.target (showSetting setting) connection :=
  (declines_query h _).bind _

theorem declines_beginWith
    {connection : Connection ς} (h : connection.IsReleased) (level : Isolation) :
    Declines connection.target (beginWith level) connection := by
  have hidle : ¬ connection.inTransaction = true := Bool.eq_false_iff.mp h.idle
  have hreported : (connection.emit (.transaction .begin driver)).server = none := h.server
  obtain ⟨traces, hrefused⟩ := declines_onServer hreported (Server.simple level.beginSql)
  refine ⟨.transaction .begin driver :: traces, ?_⟩
  rw [beginWith, if_neg hidle, traced, executeBatch, hrefused]
  rfl

/-- Without a server there is nothing to end. -/
theorem declines_finish
    {connection : Connection ς} (h : connection.server = none) (trace : Trace) (sql : String) :
    Declines connection.target (traced trace (finish sql)) connection := by
  have hreported : (connection.emit trace).server = none := h
  refine (declines_onServer hreported (Server.simple sql)).of_report ?_
  rw [traced, finish, hreported]
  rfl

theorem releasing : Releasing target (IsReleased (ς := ς)) := by
  constructor
  case emit => exact fun h trace => ⟨⟨h.server, h.idle⟩, rfl⟩
  case closed =>
    intro connection h
    have hnone : connection.server.all Server.hasEnded = true := by rw [h.server]; rfl
    exact hnone
  case idle =>
    intro connection h
    exact h.idle
  case close =>
    intro connection h
    have hclose : connection.close = (.ok (), connection) := by rw [close, h.server]
    exact hclose
  case declines =>
    intro connection h command
    cases command with
    | query statement => exact declines_query h.server statement
    | execute statement => exact (declines_run h.server statement).bind _
    | batch sql => exact declines_onServer h.server (Server.simple sql)
    | begin mode => cases mode <;> exact declines_beginWith h _
    | commit => exact declines_finish h.server _ _
    | rollback => exact declines_finish h.server _ _
    | serverVersion => exact declines_showSetting h.server _
    | versionNumber => exact (declines_showSetting h.server _).bind _
    | tableExists table => exact (declines_query h.server _).bind _

/-! ### Before the closing -/

omit [Server ς] in
theorem Keeps.isSettled
    {action : Action (Connection ς) α} (h : Keeps action) {connection : Connection ς}
    (hsettled : connection.IsSettled) :
    (action connection).2.IsSettled := by
  obtain ⟨hflag, hserver⟩ := h connection
  intro hclosed
  exact hflag.trans (hsettled (hserver.mp hclosed))

omit [Server ς] in
theorem Keeps.mapError
    {action : Action (Connection ς) α} (h : Keeps action) (f : Error → Error) :
    Keeps (Adaptor.mapError f action) := by
  intro connection
  have hkeeps := h connection
  unfold Adaptor.mapError
  rcases hrun : action connection with ⟨result, after⟩
  rw [hrun] at hkeeps
  cases result <;> exact hkeeps

theorem keeps_showSetting (setting : String) :
    Keeps (showSetting setting : Action (Connection ς) String) := by
  apply (keeps_query _).bind
  intro rows
  cases rows.scalar <;> exact keeps_pure _

theorem keeps_versionNumber : Keeps (versionNumber : Action (Connection ς) Int64) := by
  apply (keeps_showSetting _).bind
  intro text
  cases readVersionNumber? text <;> exact keeps_pure _

theorem keeps_tableExists (table : String) :
    Keeps (tableExists table : Action (Connection ς) Bool) :=
  (keeps_query _).bind fun _ => keeps_pure _

theorem IsSettled.beginWith
    {connection : Connection ς} (h : connection.IsSettled) (level : Isolation) :
    (Connection.beginWith level connection).2.IsSettled := by
  cases hflag : connection.inTransaction with
  | true =>
      rw [beginWith_of_inTransaction hflag]
      exact h
  | false =>
      rcases beginWith_cases hflag level with
        ⟨after, hbegin, -, hopen⟩ | ⟨error, after, hbegin, -, hidle, -⟩
      · rw [hbegin]
        exact fun hclosed => absurd hclosed hopen
      · rw [hbegin]
        exact fun _ => hidle

theorem IsSettled.finish
    {connection : Connection ς} (h : connection.IsSettled) (trace : Trace) (sql : String) :
    (traced trace (Connection.finish sql) connection).2.IsSettled := by
  have hreported : (connection.emit trace).IsSettled := h
  exact fun _ => (finish_inTransaction hreported sql).1

/-- No operation leaves a transaction behind on a closed connection. -/
theorem IsSettled.perform
    {connection : Connection ς} (h : connection.IsSettled) (operation : Operation Isolation) :
    (operation.perform connection).2.IsSettled := by
  cases operation with
  | direct command =>
      cases command with
      | query statement => exact (keeps_query statement).isSettled h
      | execute statement => exact (keeps_execute statement).isSettled h
      | batch sql => exact (keeps_executeBatch sql).isSettled h
      | begin mode => cases mode <;> exact h.beginWith _
      | commit => exact h.finish _ _
      | rollback => exact h.finish _ _
      | serverVersion => exact (keeps_showSetting _).isSettled h
      | versionNumber => exact keeps_versionNumber.isSettled h
      | tableExists table => exact (keeps_tableExists table).isSettled h
  | createTable model mode =>
      simp only [Operation.perform, Model.createTable]
      cases model.schema.createText (Adaptor.dialect connection) mode with
      | error error => exact h
      | ok sql => exact ((keeps_executeBatch sql).mapError _).isSettled h
  | dropTable model => exact ((keeps_executeBatch _).mapError _).isSettled h
  | existsTable model => exact ((keeps_tableExists _).mapError _).isSettled h
  | close => exact fun _ => (close_inTransaction h).1

theorem isSettled_of_reaches
    {before after : Connection ς} (h : before.IsSettled) (hreaches : Reaches before after) :
    after.IsSettled := by
  induction hreaches with
  | here => exact h
  | operation _ operation ih => exact ih.perform operation
  | report _ trace ih => exact ih

end Postgres.Connection

/-! ## Both connections -/

/-- A closed connection stays closed.  After any operations on an opened connection and a
closing that succeeds, and after any further operations, there is no engine or server
that anything could be sent to.  The connection is closed and outside of transactions,
and may be closed again.  Everything else fails and changes nothing but the reports.  It
fails as a connection error just when no table is to be created that cannot be defined.
No body of a transaction is run. -/
theorem isShut_after_close
    {ε ς : Type} [Sqlite.Engine ε] [Postgres.Server ς] (engine : ε) (server : ς)
    (target : String) :
    (∀ before after later : Sqlite.Connection ε,
      Reaches (.ofEngine engine target) before →
      Adaptor.close before = (.ok (), after) →
      Reaches after later →
        later.engine = none ∧ IsShut later.target later) ∧
    (∀ before after later : Postgres.Connection ς,
      Reaches (.ofServer server target) before →
      Adaptor.close before = (.ok (), after) →
      Reaches after later →
        later.server = none ∧ IsShut later.target later) := by
  constructor
  · intro before after later _ hclose hlater
    have hreleased : later.engine = none :=
      Sqlite.Connection.releasing.of_reaches (Sqlite.Connection.engine_of_close hclose) hlater
    exact ⟨hreleased, Sqlite.Connection.releasing.isShut hreleased⟩
  · intro before after later hbefore hclose hlater
    have hopened : (Postgres.Connection.ofServer server target).IsSettled := fun _ => rfl
    have hsettled := Postgres.Connection.isSettled_of_reaches hopened hbefore
    obtain ⟨hidle, hnone⟩ := Postgres.Connection.close_inTransaction hsettled
    have hafter : Postgres.Connection.close before = (.ok (), after) := hclose
    rw [hafter] at hidle hnone
    have hreleased : later.IsReleased :=
      Postgres.Connection.releasing.of_reaches ⟨hnone, hidle⟩ hlater
    exact ⟨hreleased.server, Postgres.Connection.releasing.isShut hreleased⟩

def openDatabase : Sqlite.Connection Sqlite.Memory.State :=
  .ofEngine .empty ":memory:"

/-- The empty database once it is closed. -/
def shutDatabase : Sqlite.Connection Sqlite.Memory.State :=
  (Adaptor.close openDatabase).2

/-- A connection to a server, with a transaction open. -/
def busyServer : Postgres.Connection Postgres.ScriptedServer :=
  (Adaptor.begin (Postgres.Connection.ofServer {} "db")).2

/-- A body of a transaction that rolls it back. -/
def undoing : Body (Sqlite.Connection Sqlite.Memory.State) Error Unit := fun state =>
  (.done (), (Adaptor.rollback state).2)

theorem isShut_after_close_samples :
    IsShut ":memory:" (Moded.transactionBy none id undoing shutDatabase).2 ∧
    (∃ traces,
      Moded.transactionBy none id undoing shutDatabase =
        (.failed (Adaptor.closedConnection ":memory:"), report traces shutDatabase)) ∧
    busyServer.inTransaction = true ∧
    IsShut "db" (Adaptor.close busyServer).2 := by
  obtain ⟨hsqlite, -⟩ :=
    isShut_after_close Sqlite.Memory.State.empty ({} : Postgres.ScriptedServer) ":memory:"
  obtain ⟨-, hpostgres⟩ :=
    isShut_after_close Sqlite.Memory.State.empty ({} : Postgres.ScriptedServer) "db"
  have hundone : Reaches shutDatabase (Moded.transactionBy none id undoing shutDatabase).2 :=
    (Reaches.here shutDatabase).transactionBy none id fun state =>
      (Reaches.here state).operation (.direct .rollback)
  have hbegin : Reaches (Postgres.Connection.ofServer {} "db") busyServer :=
    (Reaches.here _).operation (.direct (.begin none))
  obtain ⟨-, hagain⟩ := hsqlite openDatabase shutDatabase _ (.here _) rfl hundone
  obtain ⟨-, hshut⟩ := hsqlite openDatabase shutDatabase _ (.here _) rfl (.here _)
  obtain ⟨-, hserver⟩ := hpostgres busyServer _ _ hbegin rfl (.here _)
  exact ⟨hagain, hshut.refusesTransaction Error Unit none id _, rfl, hserver⟩

/-- Creating a table without columns is refused for that by a closed connection, which
is no connection error, where dropping it is one. -/
theorem createTable_blank_of_shut :
    Adaptor.close openDatabase = (.ok (), shutDatabase) ∧
    Sample.blank.createTable .abortIfExists shutDatabase =
      (.error ⟨.schema, "`empty` has no columns"⟩, shutDatabase) ∧
    Sample.blank.dropTable shutDatabase =
      (.error (Adaptor.closedConnection ":memory:"), shutDatabase) ∧
    ¬ ∃ error, (Sample.blank.createTable .abortIfExists shutDatabase).1 = .error error ∧
      error.kind = .connection := by
  have hcreate : Sample.blank.createTable .abortIfExists shutDatabase =
      (.error ⟨.schema, "`empty` has no columns"⟩, shutDatabase) := rfl
  refine ⟨rfl, hcreate, rfl, ?_⟩
  rintro ⟨error, herror, hkind⟩
  rw [hcreate] at herror
  obtain rfl := Except.error.inj herror
  cases hkind

end TypedQuery
