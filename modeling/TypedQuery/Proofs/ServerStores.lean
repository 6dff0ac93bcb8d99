import TypedQuery.Postgres.Isolation
import TypedQuery.Postgres.Server
import TypedQuery.Proofs.EngineStores

/-!
# Stores of a server

What is relied on of a server and its transactions.  A server has a published store,
and an open transaction has a working one until a statement is refused.  From then
on the transaction is aborted: every statement is refused, and committing succeeds
but publishes nothing.
-/

namespace TypedQuery.Postgres

/-- The transaction of a session. -/
inductive Block (S : Type) where
  /-- No transaction is open. -/
  | idle
  /-- A transaction with its working store. -/
  | working (store : S)
  /-- A transaction in which a statement was refused. -/
  | aborted
  deriving DecidableEq

/-- The stores of a server. -/
structure Stores (S : Type) where
  published : S
  block : Block S
  deriving DecidableEq

namespace ServerAction

variable {ς α β : Type}

/-- A computation that succeeds goes on with its value. -/
theorem bind_of_ok
    {action : ServerAction ς α} {next : α → ServerAction ς β}
    {server after : ς} {value : α}
    (h : action server = (.ok value, after)) :
    (action >>= next) server = next value after := by
  have hbind : (action >>= next) server =
      ExceptT.bindCont next (action server).1 (action server).2 := rfl
  rw [hbind, h]
  rfl

end ServerAction

section

variable {ς α S : Type} (stores : ς → Stores S)

/-- In a transaction an action has its effect on the working store, or it is refused
and aborts the transaction. -/
def Acts (effect : S → S → Prop) (action : ServerAction ς α) : Prop :=
  ∀ server published store,
    stores server = ⟨published, .working store⟩ →
      (∃ value after changed, action server = (.ok value, after) ∧
        effect store changed ∧ stores after = ⟨published, .working changed⟩) ∨
      (∃ fault after, action server = (.error fault, after) ∧
        stores after = ⟨published, .aborted⟩)

/-- An aborted transaction refuses an action and stays as it is. -/
def Refuses (action : ServerAction ς α) : Prop :=
  ∀ server published, stores server = ⟨published, .aborted⟩ →
    ∃ fault after, action server = (.error fault, after) ∧
      stores after = ⟨published, .aborted⟩

end

/-- How the statements of a server treat its stores.  Beginning opens a transaction
on what is published, or fails and publishes nothing.  In a transaction statements
change the working store, until one is refused and the transaction is aborted.
Committing publishes the working store, or fails and publishes nothing; of an
aborted transaction it publishes nothing either, though it succeeds.  Rolling back
publishes nothing. -/
structure Transactional (ς : Type) [Server ς] (S : Type) where
  stores : ς → Stores S
  /-- The texts that begin or end transactions. -/
  controls : String → Prop
  /-- What a statement with the bytes of its values can make of a store. -/
  changes : String → List (Option Bytes) → S → S → Prop
  /-- What the statements in a text can make of a store. -/
  textChanges : String → S → S → Prop
  begin_ok : ∀ (level : Isolation) (server after : ς) (published : S),
    stores server = ⟨published, .idle⟩ →
    Server.simple level.beginSql server = (.ok (), after) →
      stores after = ⟨published, .working published⟩
  begin_error : ∀ (level : Isolation) (server after : ς) (fault : ServerFault) (published : S),
    stores server = ⟨published, .idle⟩ →
    Server.simple level.beginSql server = (.error fault, after) →
      (stores after).published = published
  commit_ok : ∀ (server after : ς) (published store : S),
    stores server = ⟨published, .working store⟩ →
    Server.simple "COMMIT" server = (.ok (), after) →
      stores after = ⟨store, .idle⟩
  commit_error : ∀ (server after : ς) (fault : ServerFault) (published store : S),
    stores server = ⟨published, .working store⟩ →
    Server.simple "COMMIT" server = (.error fault, after) →
      (stores after).published = published
  commit_aborted : ∀ (server : ς) (published : S),
    stores server = ⟨published, .aborted⟩ →
      ∃ after, Server.simple "COMMIT" server = (.ok (), after) ∧
        stores after = ⟨published, .idle⟩
  rollback : ∀ (server after : ς) (result : Except ServerFault Unit),
    (stores server).block ≠ .idle →
    Server.simple "ROLLBACK" server = (result, after) →
      (stores after).published = (stores server).published
  prepare : ∀ sql, ¬ controls sql → Acts stores Eq (Server.prepare sql)
  run : ∀ sql values, ¬ controls sql →
    Acts stores (changes sql values)
      (Server.prepare sql >>= fun prepared => Server.run prepared values)
  text : ∀ sql, ¬ controls sql → Acts stores (textChanges sql) (Server.simple sql)
  prepare_aborted : ∀ sql, ¬ controls sql → Refuses stores (Server.prepare sql)
  text_aborted : ∀ sql, ¬ controls sql → Refuses stores (Server.simple sql)

end TypedQuery.Postgres
