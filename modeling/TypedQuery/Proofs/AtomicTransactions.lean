import TypedQuery.Proofs.MemoryStores

/-!
# Transactions are atomic

The body of a transaction is a finite program: it makes calls and starts further
transactions, goes on with whatever they answer, and ends with a value, an error
or a panic.  Whichever of its steps fail, either all that it did is published or
nothing is.
-/

namespace TypedQuery.Sqlite

/-- A call that runs statements. -/
inductive Call where
  | query (statement : Statement)
  | execute (statement : Statement)
  | batch (sql : String)
  deriving DecidableEq

/-- What a call answers. -/
inductive Reply where
  | rows (rows : Rows)
  | count (n : UInt64)
  | finished

/-- A finite program of calls and transactions, with errors and values of given
types. -/
inductive Script : Type → Type → Type 1 where
  | finish {φ α : Type} (outcome : Outcome φ α) : Script φ α
  | ask {φ α : Type} (call : Call) (next : Result Reply → Script φ α) : Script φ α
  | transaction {φ α ψ β : Type} (mode : Option TransactionMode) (lift : Error → ψ)
      (body : Script ψ β) (next : Outcome ψ β → Script φ α) : Script φ α

section Running

variable {ε φ α : Type} [Engine ε]

/-- Runs a body in a transaction, in a given mode if there is one. -/
def Connection.transactionBy (mode : Option TransactionMode) (lift : Error → φ)
    (body : Body (Connection ε) φ α) : Body (Connection ε) φ α :=
  match mode with
  | none => Adaptor.transaction lift body
  | some mode => transactionWith mode lift body

theorem Connection.transactionBy_eq (mode : Option TransactionMode) (lift : Error → φ)
    (body : Body (Connection ε) φ α) :
    transactionBy mode lift body =
      Adaptor.transactionFrom (beginWith (mode.getD default)) lift body := by
  cases mode <;> rfl

namespace Call

def sql : Call → String
  | query statement | execute statement => statement.sql
  | batch sql => sql

def perform : Call → Action (Connection ε) Reply
  | query statement => .rows <$> Connection.query statement
  | execute statement => .count <$> Connection.execute statement
  | batch sql => (fun _ => .finished) <$> Connection.executeBatch sql

end Call

namespace Script

def run {φ α : Type} : Script φ α → Body (Connection ε) φ α
  | finish outcome => fun connection => (outcome, connection)
  | ask call next => fun connection =>
    (next (call.perform connection).1).run (call.perform connection).2
  | transaction mode lift body next => fun connection =>
    (next (Connection.transactionBy mode lift body.run connection).1).run
      (Connection.transactionBy mode lift body.run connection).2

/-- The calls that are made in a run, and whether they succeed. -/
def history {φ α : Type} : Script φ α → Connection ε → List (Call × Bool)
  | finish _ => fun _ => []
  | ask call next => fun connection =>
    (call, (call.perform connection).1.isOk) ::
      (next (call.perform connection).1).history (call.perform connection).2
  | transaction mode lift body next => fun connection =>
    (match Connection.beginWith (mode.getD default) connection with
      | (.ok (), started) => body.history started
      | (.error _, _) => []) ++
      (next (Connection.transactionBy mode lift body.run connection).1).history
        (Connection.transactionBy mode lift body.run connection).2

/-- The script in which every transaction is refused because one is open. -/
def refusing {φ α : Type} : Script φ α → Script φ α
  | finish outcome => finish outcome
  | ask call next => ask call fun reply => (next reply).refusing
  | transaction _ lift _ next => (next (.failed (lift Adaptor.transactionOpen))).refusing

/-- No call begins or ends a transaction.  Nothing is asked of the bodies of
transactions, since they are not run. -/
def Ordinary (controls : String → Prop) {φ α : Type} : Script φ α → Prop
  | finish _ => True
  | ask call next => ¬ controls call.sql ∧ ∀ reply, (next reply).Ordinary controls
  | transaction _ _ _ next => ∀ outcome, (next outcome).Ordinary controls

end Script

end Running

namespace Connection

variable {ε α : Type} {connection : Connection ε}

theorem onEngine_eq {action : EngineAction ε α} {engine : ε}
    (h : connection.engine = some engine) :
    onEngine action connection =
      ((action engine).1.mapError (Error.mk .query),
        { connection with engine := some (action engine).2 }) := by
  rw [onEngine, h]
  dsimp only
  rcases action engine with ⟨result, after⟩
  cases result <;> rfl

variable [Engine ε]

/-- Beginning and ending a transaction is reported, and then a text is run. -/
theorem traced_executeBatch_eq
    {sql : String} {engine after : ε} {result : Except String Unit}
    (h : connection.engine = some engine)
    (hrun : Engine.batch sql engine = (result, after)) (trace : Trace) :
    traced trace (executeBatch sql) connection =
      (result.mapError (Error.mk .query),
        { connection.emit trace with engine := some after }) := by
  have hemit : (connection.emit trace).engine = some engine := h
  rw [traced, executeBatch, onEngine_eq hemit, hrun]

theorem traced_executeBatch_of_closed
    (h : connection.engine = none) (sql : String) (trace : Trace) :
    traced trace (executeBatch sql) connection =
      (.error (Adaptor.closedConnection connection.target), connection.emit trace) := by
  rw [traced, executeBatch, onEngine, emit, h]

theorem beginWith_of_inTransaction
    (h : connection.inTransaction = true) (mode : TransactionMode) :
    beginWith mode connection = (.error Adaptor.transactionOpen, connection) :=
  if_pos h

/-- Where a transaction is open, another one is refused: its body is not run and
nothing is done. -/
theorem transactionBy_of_inTransaction {φ : Type}
    (h : connection.inTransaction = true) (mode : Option TransactionMode)
    (lift : Error → φ) (body : Body (Connection ε) φ α) :
    transactionBy mode lift body connection =
      (.failed (lift Adaptor.transactionOpen), connection) := by
  rw [transactionBy_eq, Adaptor.transactionFrom, beginWith_of_inTransaction h]

end Connection

/-! ## The stores behind a connection -/

namespace Transactional

variable {ε S : Type} [Engine ε] (laws : Transactional ε S)

/-- The stores behind a connection that has not been closed. -/
def storesOf (connection : Connection ε) : Option (Stores S) :=
  connection.engine.map laws.stores

/-- What a call does to the working store, if it succeeds or if it fails. -/
def Effect : Call → Bool → S → S → Prop
  | .query statement | .execute statement => StatementEffect laws.changes statement
  | .batch sql => TextEffect laws.changes (laws.statements sql)

/-- Inside a transaction an action keeps the published store and has an effect on
the working one. -/
def ActsInside {α : Type} (effect : Bool → S → S → Prop)
    (action : Action (Connection ε) α) : Prop :=
  ∀ connection published working,
    laws.storesOf connection = some ⟨published, some working⟩ →
      ∃ changed, effect (action connection).1.isOk working changed ∧
        laws.storesOf (action connection).2 = some ⟨published, some changed⟩

variable {laws}

theorem storesOf_eq_some {connection : Connection ε} {stores : Stores S}
    (h : laws.storesOf connection = some stores) :
    ∃ engine, connection.engine = some engine ∧ laws.stores engine = stores :=
  Option.map_eq_some_iff.mp h

theorem actsInside_onEngine
    {α : Type} {effect : Bool → S → S → Prop} {action : EngineAction ε α}
    (h : Acts laws.stores effect action) :
    laws.ActsInside effect (Connection.onEngine action) := by
  intro connection published working hstores
  obtain ⟨engine, hengine, hstores⟩ := storesOf_eq_some hstores
  rcases hrun : action engine with ⟨result, after⟩
  obtain ⟨changed, heffect, hafter⟩ := h engine working result after (by rw [hstores]) hrun
  rw [Connection.onEngine_eq hengine, hrun]
  refine ⟨changed, ?_, ?_⟩
  · cases result <;> exact heffect
  · rw [hstores] at hafter
    exact congrArg some hafter

theorem ActsInside.traced
    {α : Type} {effect : Bool → S → S → Prop} {action : Action (Connection ε) α}
    (h : laws.ActsInside effect action) (trace : Trace) :
    laws.ActsInside effect (Connection.traced trace action) :=
  fun connection => h (connection.emit trace)

theorem ActsInside.map
    {α β : Type} {effect : Bool → S → S → Prop} {action : Action (Connection ε) α}
    (h : laws.ActsInside effect action) (f : α → β) :
    laws.ActsInside effect (f <$> action) := by
  intro connection published working hstores
  obtain ⟨changed, heffect, hafter⟩ := h connection published working hstores
  rw [Action.map_apply]
  refine ⟨changed, ?_, hafter⟩
  cases hresult : (action connection).1 <;> rw [hresult] at heffect <;> exact heffect

/-- A call that controls no transactions has its effect on the working store. -/
theorem actsInside_perform {call : Call} (h : ¬ laws.controls call.sql) :
    laws.ActsInside (laws.Effect call) (call.perform : Action (Connection ε) Reply) := by
  cases call with
  | query statement =>
      have hquery : (Connection.query statement : Action (Connection ε) Rows) =
          Connection.traced (.statement statement.sql statement.params.length)
            ((fun stored => ⟨stored.columns, stored.rows.map fun row =>
                row.map Storage.toValue⟩) <$>
              Connection.onEngine
                (Engine.query statement.sql (statement.params.map Storage.ofValue))) := by
        rw [Connection.query, bind_pure_comp]
      rw [Call.perform, hquery]
      exact (((actsInside_onEngine (laws.query statement h)).map _).traced _).map _
  | execute statement =>
      exact ((actsInside_onEngine (laws.execute statement h)).traced _).map _
  | batch sql => exact (actsInside_onEngine (laws.batch sql h)).map _

/-! ## Beginning and ending -/

theorem inTransaction_eq (laws : Transactional ε S) (connection : Connection ε) :
    connection.inTransaction =
      (laws.storesOf connection).any fun stores => stores.working.isSome := by
  rw [Connection.inTransaction, storesOf]
  cases connection.engine with
  | none => rfl
  | some engine => simp [laws.autocommit_eq]

theorem inTransaction_of_working
    {connection : Connection ε} {published working : S}
    (h : laws.storesOf connection = some ⟨published, some working⟩) :
    connection.inTransaction = true := by
  rw [inTransaction_eq laws, h]
  rfl

theorem inTransaction_of_idle
    {connection : Connection ε} {published : S}
    (h : laws.storesOf connection = some ⟨published, none⟩) :
    connection.inTransaction = false := by
  rw [inTransaction_eq laws, h]
  rfl

/-- Where no transaction is open, beginning one fails and changes no store, or it
opens a transaction on what is published. -/
theorem beginWith_cases (laws : Transactional ε S)
    {connection : Connection ε} (h : connection.inTransaction = false)
    (mode : TransactionMode) :
    (∃ error after,
      Connection.beginWith mode connection = (.error error, after) ∧
      laws.storesOf after = laws.storesOf connection) ∨
    (∃ published started,
      laws.storesOf connection = some ⟨published, none⟩ ∧
      Connection.beginWith mode connection = (.ok (), started) ∧
      laws.storesOf started = some ⟨published, some published⟩) := by
  have hclosed : connection.inTransaction ≠ true := Bool.eq_false_iff.mp h
  rw [Connection.beginWith, if_neg hclosed]
  cases hengine : connection.engine with
  | none =>
      left
      exact ⟨_, _, Connection.traced_executeBatch_of_closed hengine _ _, rfl⟩
  | some engine =>
      have hidle : (laws.stores engine).working = none := by
        rw [Connection.inTransaction, hengine] at h
        simpa [laws.autocommit_eq] using h
      have hstores : laws.storesOf connection =
          some ⟨(laws.stores engine).published, none⟩ := by
        rw [storesOf, hengine, ← hidle]
        rfl
      rcases hrun : Engine.batch mode.beginSql engine with ⟨result, after⟩
      rw [Connection.traced_executeBatch_eq hengine hrun]
      cases result with
      | ok value =>
          right
          exact ⟨_, _, hstores, rfl,
            congrArg some (laws.begin_ok mode engine after hidle hrun)⟩
      | error message =>
          left
          have hafter := laws.begin_error mode engine after message hidle hrun
          refine ⟨_, _, rfl, ?_⟩
          rw [storesOf, storesOf, hengine]
          exact congrArg some hafter

/-- Committing publishes the working store, or it fails and publishes nothing. -/
theorem commit_cases
    {connection : Connection ε} {published working : S}
    (h : laws.storesOf connection = some ⟨published, some working⟩) :
    (∃ after, Connection.commit connection = (.ok (), after) ∧
      laws.storesOf after = some ⟨working, none⟩) ∨
    (∃ error after left, Connection.commit connection = (.error error, after) ∧
      laws.storesOf after = some ⟨published, left⟩) := by
  obtain ⟨engine, hengine, hstores⟩ := storesOf_eq_some h
  have hworking : (laws.stores engine).working = some working := by rw [hstores]
  rcases hrun : Engine.batch "COMMIT" engine with ⟨result, after⟩
  rw [Connection.commit, Connection.traced_executeBatch_eq hengine hrun]
  cases result with
  | ok value =>
      left
      exact ⟨_, rfl, congrArg some (laws.commit_ok engine after working hworking hrun)⟩
  | error message =>
      right
      have hpublished : (laws.stores after).published = published := by
        rw [laws.commit_error engine after working message hworking hrun, hstores]
      refine ⟨_, _, (laws.stores after).working, rfl, ?_⟩
      rw [← hpublished]
      rfl

/-- A transaction that is abandoned is closed and publishes nothing, whether
rolling back answers or fails. -/
theorem storesOf_abandon
    {connection : Connection ε} {published working : S}
    (h : laws.storesOf connection = some ⟨published, some working⟩) :
    laws.storesOf (Adaptor.abandon connection) = some ⟨published, none⟩ := by
  obtain ⟨engine, hengine, hstores⟩ := storesOf_eq_some h
  have hworking : (laws.stores engine).working = some working := by rw [hstores]
  rcases hrun : Engine.batch "ROLLBACK" engine with ⟨result, after⟩
  have hafter := laws.rollback engine after working result hworking hrun
  rw [hstores] at hafter
  have hrollback : Adaptor.rollback connection =
      (result.mapError (Error.mk .query),
        { connection.emit (.transaction .rollback Connection.driver) with
          engine := some after }) :=
    Connection.traced_executeBatch_eq hengine hrun _
  rw [Adaptor.abandon, hrollback]
  cases result with
  | ok value => exact congrArg some hafter
  | error message => exact congrArg some hafter

/-- A failed commit may leave the transaction open, and then it is abandoned. -/
theorem storesOf_closing
    {connection : Connection ε} {published : S} {left : Option S}
    (h : laws.storesOf connection = some ⟨published, left⟩) :
    laws.storesOf
        (if Adaptor.inTransaction connection then Adaptor.abandon connection
          else connection) =
      some ⟨published, none⟩ := by
  cases left with
  | none =>
      have hclosed : Adaptor.inTransaction connection = false := inTransaction_of_idle h
      rw [hclosed]
      exact h
  | some working =>
      have hopen : Adaptor.inTransaction connection = true := inTransaction_of_working h
      rw [hopen]
      exact storesOf_abandon h

/-- How a transaction with a body ends, by how the body ended: the outcome and
the stores. -/
inductive Ends {φ α S : Type} (lift : Error → φ) (published working : S) :
    Outcome φ α → Outcome φ α → Stores S → Prop where
  | committed (value : α) :
      Ends lift published working (.done value) (.done value) ⟨working, none⟩
  | commitFailed (value : α) (error : Error) :
      Ends lift published working (.done value) (.failed (lift error)) ⟨published, none⟩
  | failed (error : φ) :
      Ends lift published working (.failed error) (.failed error) ⟨published, none⟩
  | panicked (message : String) :
      Ends lift published working (.panicked message) (.panicked message)
        ⟨published, none⟩

theorem runInTransaction_ends
    {φ α : Type} {lift : Error → φ} {body : Body (Connection ε) φ α}
    {started ended after : Connection ε} {ending outcome : Outcome φ α}
    {published working : S}
    (hbody : body started = (ending, ended))
    (hended : laws.storesOf ended = some ⟨published, some working⟩)
    (hrun : Adaptor.runInTransaction lift body started = (outcome, after)) :
    ∃ stores, laws.storesOf after = some stores ∧
      Ends lift published working ending outcome stores := by
  rw [Adaptor.runInTransaction, hbody] at hrun
  cases ending with
  | done value =>
      rcases commit_cases hended with
        ⟨closed, hcommit, hclosed⟩ | ⟨error, left, working', hcommit, hleft⟩
      · have hcommit' : Adaptor.commit ended = (.ok (), closed) := hcommit
        simp only [hcommit'] at hrun
        cases hrun
        exact ⟨_, hclosed, .committed value⟩
      · have hcommit' : Adaptor.commit ended = (.error error, left) := hcommit
        simp only [hcommit'] at hrun
        cases hrun
        exact ⟨_, storesOf_closing hleft, .commitFailed value error⟩
  | failed error =>
      cases hrun
      exact ⟨_, storesOf_abandon hended, .failed error⟩
  | panicked message =>
      cases hrun
      exact ⟨_, storesOf_abandon hended, .panicked message⟩

/-! ## Running scripts -/

/-- What the calls of a history do to the working store, one after the other. -/
def Effects (laws : Transactional ε S) (history : List (Call × Bool)) : S → S → Prop :=
  Steps (fun entry => laws.Effect entry.1 entry.2) history

/-- A script that runs inside a transaction keeps the published store, changes the
working one by its calls, and is refused every transaction. -/
theorem run_inside
    {φ α : Type} {script : Script φ α} (hscript : script.Ordinary laws.controls)
    {connection : Connection ε} {published working : S}
    (h : laws.storesOf connection = some ⟨published, some working⟩) :
    (∃ changed, laws.Effects (script.history connection) working changed ∧
      laws.storesOf (script.run connection).2 = some ⟨published, some changed⟩) ∧
    script.refusing.run connection = script.run connection ∧
    script.refusing.history connection = script.history connection := by
  induction script generalizing connection working with
  | finish outcome => exact ⟨⟨working, .nil working, h⟩, rfl, rfl⟩
  | ask call next ih =>
      obtain ⟨next', hcall, hnext⟩ := actsInside_perform hscript.1 _ _ _ h
      obtain ⟨⟨changed, heffects, hafter⟩, hrun, hhistory⟩ :=
        ih _ (hscript.2 _) hnext
      refine ⟨⟨changed, .cons hcall heffects, hafter⟩, hrun, ?_⟩
      simp only [Script.refusing, Script.history, hhistory]
  | transaction mode lift body next ihbody ih =>
      have hopen := inTransaction_of_working h
      have hrefused := Connection.transactionBy_of_inTransaction hopen mode lift body.run
      have hbegin := Connection.beginWith_of_inTransaction hopen (mode.getD default)
      have hrest := ih _ (hscript (.failed (lift Adaptor.transactionOpen))) h
      simp only [Script.refusing, Script.run, Script.history, hrefused, hbegin,
        List.nil_append]
      exact hrest

/-- Transactions are atomic.  Started where none is open, a transaction ends with
none open.  If it ends with a value then that is the value of its body, and the
published store has exactly the effects of the calls of the body.  If it ends
otherwise then no store has changed.  The body decides on the outcome, but for a
begin or a commit that fails.  Inside a transaction any other one is refused, with
the connection untouched, so a body runs as if its transactions were refusals. -/
theorem transaction_atomic
    (laws : Transactional ε S) {φ α : Type}
    (mode : Option TransactionMode) (lift : Error → φ)
    {script : Script φ α} (hscript : script.Ordinary laws.controls)
    {connection after : Connection ε} {outcome : Outcome φ α}
    (hidle : connection.inTransaction = false)
    (hrun : Connection.transactionBy mode lift script.run connection = (outcome, after)) :
    after.inTransaction = false ∧
    (∀ value, outcome = .done value →
      ∃ started published changed,
        Connection.beginWith (mode.getD default) connection = (.ok (), started) ∧
        (script.run started).1 = .done value ∧
        laws.storesOf connection = some ⟨published, none⟩ ∧
        laws.Effects (script.history started) published changed ∧
        laws.storesOf after = some ⟨changed, none⟩) ∧
    ((∀ value, outcome ≠ .done value) →
      laws.storesOf after = laws.storesOf connection) ∧
    (∀ error ended,
      Connection.beginWith (mode.getD default) connection = (.error error, ended) →
        outcome = .failed (lift error)) ∧
    (∀ started,
      Connection.beginWith (mode.getD default) connection = (.ok (), started) →
        (∀ value, (script.run started).1 = .done value →
          outcome = .done value ∨ ∃ error, outcome = .failed (lift error)) ∧
        (∀ error, (script.run started).1 = .failed error → outcome = .failed error) ∧
        (∀ message, (script.run started).1 = .panicked message →
          outcome = .panicked message) ∧
        script.refusing.run started = script.run started ∧
        script.refusing.history started = script.history started) ∧
    (∀ (ψ β : Type) (inner : Option TransactionMode) (raise : Error → ψ)
        (body : Body (Connection ε) ψ β) (inside : Connection ε),
      inside.inTransaction = true →
        Connection.transactionBy inner raise body inside =
          (.failed (raise Adaptor.transactionOpen), inside)) := by
  rw [Connection.transactionBy_eq, Adaptor.transactionFrom] at hrun
  rcases beginWith_cases laws hidle (mode.getD default) with
    ⟨error, ended, hbegin, hended⟩ | ⟨published, started, hbefore, hbegin, hstarted⟩
  · rw [hbegin] at hrun
    cases hrun
    refine ⟨?_, ?_, fun _ => hended, ?_, ?_, fun _ _ inner raise body _ hopen =>
      Connection.transactionBy_of_inTransaction hopen inner raise body⟩
    · rw [inTransaction_eq laws, hended, ← inTransaction_eq, hidle]
    · intro value hvalue
      cases hvalue
    · intro error' ended' hbegin'
      rw [hbegin] at hbegin'
      cases hbegin'
      rfl
    · intro started hstarted
      rw [hbegin] at hstarted
      cases hstarted
  · rw [hbegin] at hrun
    obtain ⟨⟨changed, heffects, hchanged⟩, hrefusing⟩ := run_inside hscript hstarted
    rcases hbody : script.run started with ⟨ending, ended⟩
    rw [hbody] at hchanged
    obtain ⟨stores, hafter, hends⟩ := runInTransaction_ends hbody hchanged hrun
    refine ⟨?_, ?_, ?_, ?_, ?_, fun _ _ inner raise body _ hopen =>
      Connection.transactionBy_of_inTransaction hopen inner raise body⟩
    · cases hends <;> exact inTransaction_of_idle hafter
    · rintro value rfl
      cases hends
      exact ⟨started, published, changed, hbegin, by rw [hbody], hbefore, heffects, hafter⟩
    · intro hfailed
      rw [hbefore, hafter]
      cases hends with
      | committed value => exact absurd rfl (hfailed value)
      | commitFailed value error => rfl
      | failed error => rfl
      | panicked message => rfl
    · intro error ended' hbegin'
      rw [hbegin] at hbegin'
      cases hbegin'
    · intro started' hbegin'
      rw [hbegin] at hbegin'
      cases hbegin'
      rw [hbody]
      refine ⟨?_, ?_, ?_, by rw [hrefusing.1, hbody], hrefusing.2⟩
      · rintro value rfl
        cases hends with
        | committed => exact Or.inl rfl
        | commitFailed value error => exact Or.inr ⟨error, rfl⟩
      · rintro error rfl
        cases hends
        rfl
      · rintro message rfl
        cases hends
        rfl

end Transactional

/-! ## A body on the engine in memory -/

namespace Memory

/-- Makes a table, fills it in spite of a transaction that is refused and a
statement that fails, and ends as it is told. -/
def filling (ending : Outcome String Nat) : Script String Nat :=
  .ask (.batch "CREATE TABLE t (x)") fun _ =>
    .transaction none Error.message (.finish (.done ())) fun _ =>
      .ask (.execute ⟨"INSERT INTO t VALUES (?1)", [.integer 7]⟩) fun _ =>
        .ask (.query ⟨"SELECT x FROM gone", []⟩) fun _ => .finish ending

def fresh : Connection State :=
  .ofEngine .empty ":memory:"

theorem ordinary_filling (ending : Outcome String Nat) :
    (filling ending).Ordinary transactional.controls := by
  have hcreate : controlsAny "CREATE TABLE t (x)" = false := by decide +kernel
  have hinsert : controlsAny "INSERT INTO t VALUES (?1)" = false := by decide +kernel
  have hselect : controlsAny "SELECT x FROM gone" = false := by decide +kernel
  exact ⟨Bool.eq_false_iff.mp hcreate, fun _ _ => ⟨Bool.eq_false_iff.mp hinsert,
    fun _ => ⟨Bool.eq_false_iff.mp hselect, fun _ => trivial⟩⟩⟩

theorem transaction_atomic_filling :
    fresh.inTransaction = false ∧
    (∃ (started : Connection State) (published changed : Database) (after : Connection State),
      Connection.transactionBy none Error.message (filling (.done 3)).run fresh =
        (.done 3, after) ∧
      transactional.storesOf fresh = some ⟨published, none⟩ ∧
      transactional.Effects ((filling (.done 3)).history started) published changed ∧
      transactional.storesOf after = some ⟨changed, none⟩) ∧
    (∃ after,
      Connection.transactionBy none Error.message (filling (.failed "no")).run fresh =
        (.failed "no", after) ∧
      after.inTransaction = false ∧
      transactional.storesOf after = transactional.storesOf fresh) := by
  have hidle : fresh.inTransaction = false := rfl
  refine ⟨hidle, ?_, ?_⟩
  · have hdone : (Connection.transactionBy none Error.message
        (filling (.done 3)).run fresh).1 = .done 3 := by decide +kernel
    rcases hrun : Connection.transactionBy none Error.message
      (filling (.done 3)).run fresh with ⟨outcome, after⟩
    rw [hrun] at hdone
    obtain ⟨-, hvalue, -⟩ := Transactional.transaction_atomic transactional none
      Error.message (ordinary_filling (.done 3)) hidle hrun
    obtain ⟨started, published, changed, -, -, hbefore, heffects, hafter⟩ := hvalue 3 hdone
    exact ⟨started, published, changed, after, congrArg (·, after) hdone, hbefore,
      heffects, hafter⟩
  · have hfailed : (Connection.transactionBy none Error.message
        (filling (.failed "no")).run fresh).1 = .failed "no" := by decide +kernel
    rcases hrun : Connection.transactionBy none Error.message
      (filling (.failed "no")).run fresh with ⟨outcome, after⟩
    rw [hrun] at hfailed
    obtain ⟨hclosed, -, hkept, -⟩ := Transactional.transaction_atomic transactional none
      Error.message (ordinary_filling (.failed "no")) hidle hrun
    refine ⟨after, congrArg (·, after) hfailed, hclosed, hkept ?_⟩
    rintro value rfl
    cases hfailed

end Memory

end TypedQuery.Sqlite
