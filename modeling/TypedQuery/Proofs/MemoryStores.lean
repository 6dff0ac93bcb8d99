import TypedQuery.Proofs.EngineStores
import TypedQuery.Sqlite.Memory.Database

/-!
# Stores of the engine in memory

The engine in memory keeps the database as it was when a transaction began.  That
is what it has published, and the current database is the working one.  A
statement leaves the kept database alone unless it begins or ends a transaction.
-/

namespace TypedQuery.Sqlite.Memory

/-- The commands that begin or end transactions. -/
def Command.isControl : Command → Bool
  | begin | commit | rollback => true
  | _ => false

namespace State

/-- The published and the working database. -/
def stores (state : State) : Stores Database :=
  match state.saved with
  | none => ⟨state.current, none⟩
  | some saved => ⟨saved, some state.current⟩

theorem working_stores_eq_none_iff {state : State} :
    state.stores.working = none ↔ state.saved = none := by
  rw [stores]
  split <;> simp_all

theorem working_stores_eq_some_iff {state : State} {working : Database} :
    state.stores.working = some working ↔
      (∃ saved, state.saved = some saved) ∧ state.current = working := by
  rw [stores]
  split <;> simp_all

theorem stores_eq_of_saved {state : State} {saved : Database}
    (h : state.saved = some saved) :
    state.stores = ⟨saved, some state.current⟩ := by
  rw [stores, h]

end State

/-! ## Commands -/

/-- What running a command can do: it answers no rows and keeps the kept
database, unless it controls transactions, or it leaves everything as it is. -/
theorem runCommand_cases
    {state after : State} {source : List Char} {values : List Storage}
    {command : Command} {rows : Option StoredRows}
    (h : runCommand state source values command = .ok (rows, after)) :
    (rows = none ∧ (command.isControl = false → after.saved = state.saved)) ∨
      after = state := by
  cases command with
  | begin | commit | rollback =>
      left
      rw [runCommand] at h
      split at h
      all_goals cases h
      exact ⟨rfl, fun hcontrol => nomatch hcontrol⟩
  | createTable table =>
      obtain ⟨_, -, h⟩ := bind_eq_ok_iff.mp h
      cases h
      exact Or.inl ⟨rfl, fun _ => rfl⟩
  | dropTable name =>
      obtain ⟨_, -, h⟩ := bind_eq_ok_iff.mp h
      cases h
      exact Or.inl ⟨rfl, fun _ => rfl⟩
  | insert name rows =>
      -- The table must be there, and the rows must fit it.
      obtain ⟨_, -, h⟩ := bind_eq_ok_iff.mp h
      obtain ⟨_, -, h⟩ := bind_eq_ok_iff.mp h
      cases h
      exact Or.inl ⟨rfl, fun _ => rfl⟩
  | delete name filters =>
      obtain ⟨_, -, h⟩ := bind_eq_ok_iff.mp h
      cases h
      exact Or.inl ⟨rfl, fun _ => rfl⟩
  | select outputs table filters =>
      obtain ⟨_, -, h⟩ := bind_eq_ok_iff.mp h
      cases h
      exact Or.inr rfl

theorem saved_of_runCommand
    {state after : State} {source : List Char} {values : List Storage}
    {command : Command} {rows : Option StoredRows}
    (hcommand : command.isControl = false)
    (h : runCommand state source values command = .ok (rows, after)) :
    after.saved = state.saved := by
  rcases runCommand_cases h with ⟨-, hsaved⟩ | rfl
  · exact hsaved hcommand
  · rfl

theorem eq_of_runCommand_rows
    {state after : State} {source : List Char} {values : List Storage}
    {command : Command} {rows : StoredRows}
    (h : runCommand state source values command = .ok (some rows, after)) :
    after = state := by
  rcases runCommand_cases h with ⟨hnone, -⟩ | hsame
  · cases hnone
  · exact hsame

/-- What the first statement of a text can make of a database: a text without a
statement leaves it, and otherwise the command in it is run. -/
inductive Changed (source : List Char) (values : List Storage) :
    Database → Database → Prop where
  | nothing (h : (splitStatement source).1 = []) (database : Database) :
      Changed source values database database
  | command {command : Command} {state after : State} {rows : Option StoredRows}
      (hread : Parser.run source (splitStatement source).1 = .ok command)
      (hrun : runCommand state source values command = .ok (rows, after)) :
      Changed source values state.current after.current

/-- True when the first statement of a text begins or ends a transaction. -/
def controls (source : List Char) : Bool :=
  match Parser.run source (splitStatement source).1 with
  | .ok command => command.isControl
  | .error _ => false

theorem readStatement_eq_ok
    {state : State} {source : List Char} {statement : List Token} {command : Command}
    (h : readStatement state source statement = .ok command) :
    Parser.run source statement = .ok command := by
  rw [readStatement] at h
  split at h
  · cases h
  · rename_i read hread
    obtain ⟨_, -, hread'⟩ := bind_eq_ok_iff.mp h
    cases hread'
    exact hread

theorem isControl_eq_false
    {source : List Char} {command : Command} (hsource : controls source = false)
    (h : Parser.run source (splitStatement source).1 = .ok command) :
    command.isControl = false := by
  rw [controls, h] at hsource
  exact hsource

/-- A statement that is run is empty, or it is read to a command that is run. -/
theorem runOne_cases
    {state after : State} {source : List Char} {values : List Storage}
    {rows : Option StoredRows} (h : runOne state source values = .ok (rows, after)) :
    ((splitStatement source).1 = [] ∧ rows = none ∧ after = state) ∨
    ∃ command, Parser.run source (splitStatement source).1 = .ok command ∧
      runCommand state source (values.map intake) command = .ok (rows, after) := by
  rw [runOne] at h
  split at h
  · rename_i rest hsplit
    cases h
    exact Or.inl ⟨by rw [hsplit], rfl, rfl⟩
  · rename_i statement rest _ hsplit
    obtain ⟨command, hread, h⟩ := bind_eq_ok_iff.mp h
    refine Or.inr ⟨command, ?_, ?_⟩
    · rw [hsplit]
      exact readStatement_eq_ok hread
    · dsimp only at h
      split at h
      · obtain ⟨_, hthrow, -⟩ := bind_eq_ok_iff.mp h
        cases hthrow
      · exact h

theorem changed_of_runOne
    {state after : State} {source : List Char} {values : List Storage}
    {rows : Option StoredRows} (hsource : controls source = false)
    (h : runOne state source values = .ok (rows, after)) :
    after.saved = state.saved ∧
      Changed source (values.map intake) state.current after.current := by
  rcases runOne_cases h with ⟨hnone, -, rfl⟩ | ⟨command, hread, hrun⟩
  · exact ⟨rfl, .nothing hnone _⟩
  · exact ⟨saved_of_runCommand (isControl_eq_false hsource hread) hrun,
      .command hread hrun⟩

theorem eq_of_runOne_rows
    {state after : State} {source : List Char} {values : List Storage}
    {rows : StoredRows} (h : runOne state source values = .ok (some rows, after)) :
    after = state := by
  rcases runOne_cases h with ⟨-, -, rfl⟩ | ⟨command, -, hrun⟩
  · rfl
  · exact eq_of_runCommand_rows hrun

/-! ## Statements and texts -/

/-- The texts that start with the statements of a text, each with its statement
first; `fuel` bounds their number. -/
def textsFrom : Nat → List Char → List String
  | 0, _ => []
  | fuel + 1, source =>
    match splitStatement source with
    | ([], []) => []
    | ([], rest) => textsFrom fuel rest
    | (_, rest) => String.ofList source :: textsFrom fuel rest

/-- What a statement can make of a database. -/
def changes (statement : Statement) : Database → Database → Prop :=
  Changed statement.sql.toList ((statement.params.map Storage.ofValue).map intake)

/-- An action that keeps the kept database acts on the current one. -/
theorem acts_of_saved
    {α : Type} {effect : Bool → Database → Database → Prop}
    {action : EngineAction State α}
    (h : ∀ state result after, action state = (result, after) →
      after.saved = state.saved ∧ effect result.isOk state.current after.current) :
    Acts State.stores effect action := by
  intro state working result after hworking hrun
  obtain ⟨⟨saved, hsaved⟩, rfl⟩ := State.working_stores_eq_some_iff.mp hworking
  obtain ⟨hkept, heffect⟩ := h state result after hrun
  refine ⟨after.current, heffect, ?_⟩
  rw [State.stores_eq_of_saved hsaved, State.stores_eq_of_saved (hkept.trans hsaved)]

theorem acts_query {statement : Statement} (h : controls statement.sql.toList = false) :
    Acts State.stores (StatementEffect changes statement)
      (query statement.sql (statement.params.map Storage.ofValue)) := by
  apply acts_of_saved
  intro state result after hrun
  rw [query] at hrun
  split at hrun
  · cases hrun
    exact ⟨rfl, rfl⟩
  · rename_i hone
    cases hrun
    exact changed_of_runOne h hone
  · rename_i hone
    cases hrun
    exact changed_of_runOne h hone

theorem acts_execute {statement : Statement} (h : controls statement.sql.toList = false) :
    Acts State.stores (StatementEffect changes statement)
      (execute statement.sql (statement.params.map Storage.ofValue)) := by
  apply acts_of_saved
  intro state result after hrun
  rw [execute] at hrun
  split at hrun
  · cases hrun
    exact ⟨rfl, rfl⟩
  -- A statement that answers rows is refused after it was run.
  · rename_i hone
    cases hrun
    obtain rfl := eq_of_runOne_rows hone
    exact ⟨rfl, rfl⟩
  · rename_i hone
    cases hrun
    exact changed_of_runOne h hone

/-- Running the statements of a text changes the current database by those
before the first failure. -/
theorem runAll_effect
    {fuel : Nat} {state after : State} {source : List Char}
    {result : Except String Unit}
    (hsource : ∀ text ∈ textsFrom fuel source, controls text.toList = false)
    (h : runAll state source fuel = (result, after)) :
    after.saved = state.saved ∧
      TextEffect changes (textsFrom fuel source) result.isOk
        state.current after.current := by
  induction fuel generalizing state source with
  | zero =>
      cases h
      exact ⟨rfl, .nil _⟩
  | succ fuel ih =>
      rcases hsplit : splitStatement source with ⟨statement, rest⟩
      rw [runAll, hsplit] at h
      rw [textsFrom, hsplit] at hsource ⊢
      cases statement with
      | nil =>
          cases rest with
          | nil =>
              cases h
              exact ⟨rfl, .nil _⟩
          | cons c rest => exact ih hsource h
      | cons token statement =>
          have hfirst : controls source = false := by
            simpa using hsource (String.ofList source) List.mem_cons_self
          dsimp only at h
          split at h
          · cases h
            exact ⟨rfl, .failed _ _ _⟩
          · rename_i rows next hnext
            obtain ⟨command, hread, hrun⟩ := bind_eq_ok_iff.mp hnext
            have hparsed : Parser.run source (splitStatement source).1 = .ok command := by
              rw [hsplit]
              exact readStatement_eq_ok hread
            have hchanged : changes (.raw (String.ofList source)) state.current
                next.current := by
              rw [changes, Statement.raw, String.toList_ofList]
              exact .command hparsed hrun
            obtain ⟨hsaved, heffect⟩ :=
              ih (fun text htext => hsource text (List.mem_cons_of_mem _ htext)) h
            exact ⟨hsaved.trans
                (saved_of_runCommand (isControl_eq_false hfirst hparsed) hrun),
              .cons hchanged heffect⟩

theorem acts_batch
    {sql : String} (h : ∀ text ∈ textsFrom (sql.length + 1) sql.toList,
      controls text.toList = false) :
    Acts State.stores (TextEffect changes (textsFrom (sql.length + 1) sql.toList))
      (batch sql) := by
  apply acts_of_saved
  intro state result after hrun
  exact runAll_effect h hrun

/-! ## Beginning and ending -/

/-- The text is one command, which controls transactions. -/
def IsControl (sql : String) (command : Command) : Prop :=
  command.isControl = true ∧
    ∃ token tokens, splitStatement sql.toList = (token :: tokens, []) ∧
      Parser.run sql.toList (token :: tokens) = .ok command

theorem isControl_begin (mode : TransactionMode) : IsControl mode.beginSql .begin := by
  refine ⟨rfl, ?_⟩
  cases mode with
  | deferred =>
      exact ⟨⟨.word, "BEGIN", 0, 5⟩, [⟨.word, "DEFERRED", 6, 14⟩],
        by decide +kernel, rfl⟩
  | immediate =>
      exact ⟨⟨.word, "BEGIN", 0, 5⟩, [⟨.word, "IMMEDIATE", 6, 15⟩],
        by decide +kernel, rfl⟩
  | exclusive =>
      exact ⟨⟨.word, "BEGIN", 0, 5⟩, [⟨.word, "EXCLUSIVE", 6, 15⟩],
        by decide +kernel, rfl⟩

theorem isControl_commit : IsControl "COMMIT" .commit :=
  ⟨rfl, ⟨.word, "COMMIT", 0, 6⟩, [], by decide +kernel, rfl⟩

theorem isControl_rollback : IsControl "ROLLBACK" .rollback :=
  ⟨rfl, ⟨.word, "ROLLBACK", 0, 8⟩, [], by decide +kernel, rfl⟩

/-- Nothing is left to run after a text. -/
theorem runAll_nil (state : State) (fuel : Nat) : runAll state [] fuel = (.ok (), state) := by
  cases fuel with
  | zero => rfl
  | succ fuel =>
      have hsplit : splitStatement [] = ([], []) := by decide +kernel
      rw [runAll, hsplit]

/-- Such a text does what its command does. -/
theorem IsControl.batch_eq
    {sql : String} {command : Command} (h : IsControl sql command) (state : State) :
    batch sql state =
      match runCommand state sql.toList [] command with
      | .ok (_, after) => (.ok (), after)
      | .error message => (.error message, state) := by
  obtain ⟨hcontrol, token, tokens, hsplit, hparsed⟩ := h
  have hread : readStatement state sql.toList (token :: tokens) = .ok command := by
    rw [readStatement, hparsed]
    cases command with
    | begin | commit | rollback => rfl
    | _ => cases hcontrol
  rw [batch, runAll, hsplit]
  dsimp only
  rw [hread, ok_bind]
  cases runCommand state sql.toList [] command with
  | error message => rfl
  | ok effect => exact runAll_nil effect.2 sql.length

theorem stores_batch_begin
    {mode : TransactionMode} {state after : State} {result : Except String Unit}
    (hworking : state.stores.working = none)
    (h : batch mode.beginSql state = (result, after)) :
    result = .ok () ∧
      after.stores = ⟨state.stores.published, some state.stores.published⟩ := by
  have hsaved := State.working_stores_eq_none_iff.mp hworking
  rw [(isControl_begin mode).batch_eq, runCommand, if_neg (by simp [hsaved])] at h
  cases h
  refine ⟨rfl, ?_⟩
  rw [State.stores, State.stores, hsaved]

theorem stores_batch_commit
    {state after : State} {working : Database} {result : Except String Unit}
    (hworking : state.stores.working = some working)
    (h : batch "COMMIT" state = (result, after)) :
    result = .ok () ∧ after.stores = ⟨working, none⟩ := by
  obtain ⟨⟨saved, hsaved⟩, rfl⟩ := State.working_stores_eq_some_iff.mp hworking
  rw [isControl_commit.batch_eq, runCommand, if_neg (by simp [hsaved])] at h
  cases h
  exact ⟨rfl, rfl⟩

theorem stores_batch_rollback
    {state after : State} {working : Database} {result : Except String Unit}
    (hworking : state.stores.working = some working)
    (h : batch "ROLLBACK" state = (result, after)) :
    after.stores = ⟨state.stores.published, none⟩ := by
  obtain ⟨⟨saved, hsaved⟩, rfl⟩ := State.working_stores_eq_some_iff.mp hworking
  rw [isControl_rollback.batch_eq, runCommand, hsaved] at h
  cases h
  rw [State.stores_eq_of_saved hsaved]
  rfl

/-- The texts whose first statement is run when a text is given to the engine. -/
def texts (sql : String) : List String :=
  sql :: textsFrom (sql.length + 1) sql.toList

/-- True when one of them begins or ends a transaction. -/
def controlsAny (sql : String) : Bool :=
  (texts sql).any fun text => controls text.toList

theorem controls_eq_false_of_mem
    {sql text : String} (h : ¬ controlsAny sql = true) (htext : text ∈ texts sql) :
    controls text.toList = false :=
  Bool.eq_false_iff.mpr (List.any_eq_false.mp (Bool.eq_false_iff.mpr h) text htext)

/-- The engine in memory treats its stores as transactions need it. -/
def transactional : Transactional State Database where
  stores := State.stores
  controls sql := controlsAny sql = true
  changes := changes
  statements sql := textsFrom (sql.length + 1) sql.toList
  autocommit_eq state := by
    cases hsaved : state.saved <;> simp [Engine.autocommit, State.stores, hsaved]
  begin_ok _ _ _ hworking h := (stores_batch_begin hworking h).2
  begin_error _ _ _ _ hworking h := nomatch (stores_batch_begin hworking h).1
  commit_ok _ _ _ hworking h := (stores_batch_commit hworking h).2
  commit_error _ _ _ _ hworking h := nomatch (stores_batch_commit hworking h).1
  rollback _ _ _ _ hworking h := stores_batch_rollback hworking h
  query _ h := acts_query (controls_eq_false_of_mem h List.mem_cons_self)
  execute _ h := acts_execute (controls_eq_false_of_mem h List.mem_cons_self)
  batch _ h := acts_batch fun _ htext =>
    controls_eq_false_of_mem h (List.mem_cons_of_mem _ htext)

end TypedQuery.Sqlite.Memory
