import TypedQuery.Sqlite.Connection

/-!
# Stores of an engine

What is relied on of an engine and its transactions.  An engine has a published
store and, while a transaction is open, a working one.  Statements change the
working store only; it is published or discarded as a whole when the transaction
ends.
-/

namespace TypedQuery.Sqlite

/-- The stores of an engine. -/
structure Stores (S : Type) where
  published : S
  /-- The store of the open transaction, if one is open. -/
  working : Option S

/-- Some steps one after the other lead from one store to another. -/
inductive Steps {ι S : Type} (step : ι → S → S → Prop) : List ι → S → S → Prop where
  | nil (store : S) : Steps step [] store store
  | cons {index : ι} {rest : List ι} {store next last : S}
      (hstep : step index store next) (hrest : Steps step rest next last) :
      Steps step (index :: rest) store last

section Effects

variable {S : Type} (changes : Statement → S → S → Prop)

/-- A statement changes the store when it succeeds, and has no effect when it
fails. -/
def StatementEffect (statement : Statement) : Bool → S → S → Prop
  | true => changes statement
  | false => Eq

/-- Of the statements in a text those before the first failure change the
store. -/
def TextEffect (statements : List String) (succeeded : Bool) (before after : S) : Prop :=
  ∃ run left, statements = run ++ left ∧
    Steps (fun sql => changes (.raw sql)) run before after ∧
    (succeeded = true ↔ left = [])

variable {changes}

theorem TextEffect.nil (store : S) : TextEffect changes [] true store store :=
  ⟨[], [], rfl, .nil store, iff_of_true rfl rfl⟩

/-- A text that fails at its first statement has no effect. -/
theorem TextEffect.failed (sql : String) (rest : List String) (store : S) :
    TextEffect changes (sql :: rest) false store store :=
  ⟨[], sql :: rest, rfl, .nil store,
    iff_of_false Bool.false_ne_true (List.cons_ne_nil sql rest)⟩

theorem TextEffect.cons
    {sql : String} {rest : List String} {succeeded : Bool} {before next after : S}
    (hfirst : changes (.raw sql) before next)
    (hrest : TextEffect changes rest succeeded next after) :
    TextEffect changes (sql :: rest) succeeded before after := by
  obtain ⟨run, left, rfl, hsteps, hleft⟩ := hrest
  exact ⟨sql :: run, left, rfl, .cons hfirst hsteps, hleft⟩

end Effects

/-- Inside a transaction an action keeps the published store and has an effect
on the working one, which its success decides. -/
def Acts {ε S α : Type} (stores : ε → Stores S) (effect : Bool → S → S → Prop)
    (action : EngineAction ε α) : Prop :=
  ∀ engine working result after,
    (stores engine).working = some working →
    action engine = (result, after) →
      ∃ changed, effect result.isOk working changed ∧
        stores after = ⟨(stores engine).published, some changed⟩

/-- How the statements of an engine treat its stores.  Beginning fails or opens a
transaction on what is published.  A statement inside fails without effect or
changes the working store.  Committing publishes the working store and ends the
transaction, or fails and publishes nothing.  Rolling back discards the working
store. -/
structure Transactional (ε : Type) [Engine ε] (S : Type) where
  stores : ε → Stores S
  /-- The texts that begin or end transactions. -/
  controls : String → Prop
  /-- What a statement can make of a store. -/
  changes : Statement → S → S → Prop
  /-- The statements in a text. -/
  statements : String → List String
  autocommit_eq : ∀ engine : ε,
    Engine.autocommit engine = (stores engine).working.isNone
  begin_ok : ∀ (mode : TransactionMode) (engine after : ε),
    (stores engine).working = none →
    Engine.batch mode.beginSql engine = (.ok (), after) →
      stores after = ⟨(stores engine).published, some (stores engine).published⟩
  begin_error : ∀ (mode : TransactionMode) (engine after : ε) (message : String),
    (stores engine).working = none →
    Engine.batch mode.beginSql engine = (.error message, after) →
      stores after = stores engine
  commit_ok : ∀ (engine after : ε) (working : S),
    (stores engine).working = some working →
    Engine.batch "COMMIT" engine = (.ok (), after) →
      stores after = ⟨working, none⟩
  commit_error : ∀ (engine after : ε) (working : S) (message : String),
    (stores engine).working = some working →
    Engine.batch "COMMIT" engine = (.error message, after) →
      (stores after).published = (stores engine).published
  rollback : ∀ (engine after : ε) (working : S) (result : Except String Unit),
    (stores engine).working = some working →
    Engine.batch "ROLLBACK" engine = (result, after) →
      stores after = ⟨(stores engine).published, none⟩
  query : ∀ statement : Statement, ¬ controls statement.sql →
    Acts stores (StatementEffect changes statement)
      (Engine.query statement.sql (statement.params.map Storage.ofValue))
  execute : ∀ statement : Statement, ¬ controls statement.sql →
    Acts stores (StatementEffect changes statement)
      (Engine.execute statement.sql (statement.params.map Storage.ofValue))
  batch : ∀ sql : String, ¬ controls sql →
    Acts stores (TextEffect changes (statements sql)) (Engine.batch sql)

end TypedQuery.Sqlite
