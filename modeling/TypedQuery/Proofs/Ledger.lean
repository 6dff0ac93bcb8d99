import TypedQuery.Proofs.ServerStores

/-!
# A server that keeps texts

The store of this server is the list of the statements that it has run.  It refuses
the statements that it is told to refuse, and it treats transactions as PostgreSQL
does.
-/

namespace TypedQuery.Postgres

/-- A server that keeps the statements it has run. -/
structure Ledger where
  published : List String
  block : Block (List String)
  /-- The statements that are refused. -/
  refused : List String
  /-- The statement that was prepared last. -/
  pending : String

namespace Ledger

/-- The statements that begin transactions. -/
def beginnings : List String :=
  [Isolation.readUncommitted, .readCommitted, .repeatableRead, .serializable].map
    Isolation.beginSql

def abortedFault : ServerFault :=
  ⟨"25P02", "current transaction is aborted, " ++
    "commands ignored until end of transaction block"⟩

/-- Keeps a statement, outside of transactions at once. -/
def keep (sql : String) (ledger : Ledger) : Ledger :=
  match ledger.block with
  | .idle => { ledger with published := ledger.published ++ [sql] }
  | .working store => { ledger with block := .working (store ++ [sql]) }
  | .aborted => ledger

/-- Goes on with a statement unless it is refused.  A refusal aborts a transaction. -/
def attempt {α : Type} (sql : String) (next : Ledger → α × Ledger) : ServerAction Ledger α :=
  fun ledger =>
    if ledger.block = .aborted then (.error abortedFault, ledger)
    else if sql ∈ ledger.refused then
      (.error ⟨"42601", "syntax error"⟩,
        { ledger with block := if ledger.block = .idle then .idle else .aborted })
    else (.ok (next ledger).1, (next ledger).2)

def begin : ServerAction Ledger Unit := fun ledger =>
  match ledger.block with
  | .idle => (.ok (), { ledger with block := .working ledger.published })
  | .working _ => (.ok (), ledger)
  | .aborted => (.error abortedFault, ledger)

/-- Publishes the working store, if there is one; this succeeds in any case. -/
def commit : ServerAction Ledger Unit := fun ledger =>
  match ledger.block with
  | .working store => (.ok (), { ledger with published := store, block := .idle })
  | .idle | .aborted => (.ok (), { ledger with block := .idle })

def simple (sql : String) : ServerAction Ledger Unit :=
  if sql = "COMMIT" then commit
  else if sql = "ROLLBACK" then fun ledger => (.ok (), { ledger with block := .idle })
  else if sql ∈ beginnings then begin
  else attempt sql fun ledger => ((), ledger.keep sql)

instance : Server Ledger where
  start _ ledger := (.ok (), ledger)
  prepare sql := attempt sql fun ledger => (⟨[], []⟩, { ledger with pending := sql })
  run _ _ ledger := (.ok ⟨[], 1⟩, ledger.keep ledger.pending)
  simple := simple
  stop _ := .ok ()
  hasEnded _ := false

def stores (ledger : Ledger) : Stores (List String) :=
  ⟨ledger.published, ledger.block⟩

/-- The statements that begin or end transactions. -/
def controls (sql : String) : Prop :=
  sql = "COMMIT" ∨ sql = "ROLLBACK" ∨ sql ∈ beginnings

/-- A statement is added to the store. -/
def Adds (sql : String) (store changed : List String) : Prop :=
  changed = store ++ [sql]

theorem simple_beginSql (level : Isolation) : simple level.beginSql = begin := by
  cases level <;> rfl

theorem simple_eq_attempt {sql : String} (h : ¬ controls sql) :
    simple sql = attempt sql fun ledger => ((), ledger.keep sql) := by
  unfold controls at h
  rw [simple, if_neg fun heq => h (.inl heq), if_neg fun heq => h (.inr (.inl heq)),
    if_neg fun hmem => h (.inr (.inr hmem))]

theorem stores_eq_iff {ledger : Ledger} {published : List String} {block : Block (List String)} :
    stores ledger = ⟨published, block⟩ ↔
      ledger.published = published ∧ ledger.block = block := by
  rw [stores, Stores.mk.injEq]

theorem acts_attempt
    {α : Type} {effect : List String → List String → Prop} {sql : String}
    {next : Ledger → α × Ledger}
    (hnext : ∀ ledger published store, stores ledger = ⟨published, .working store⟩ →
      ∃ changed, effect store changed ∧
        stores (next ledger).2 = ⟨published, .working changed⟩) :
    Acts stores effect (attempt sql next) := by
  intro ledger published store hstores
  obtain ⟨hpublished, hblock⟩ := stores_eq_iff.mp hstores
  have hworking : ledger.block ≠ .aborted := by
    rw [hblock]
    nofun
  have hopen : ledger.block ≠ .idle := by
    rw [hblock]
    nofun
  unfold attempt
  rw [if_neg hworking]
  by_cases hrefused : sql ∈ ledger.refused
  · right
    rw [if_pos hrefused, if_neg hopen]
    exact ⟨_, _, rfl, stores_eq_iff.mpr ⟨hpublished, rfl⟩⟩
  · left
    obtain ⟨changed, heffect, hchanged⟩ := hnext ledger published store hstores
    rw [if_neg hrefused]
    exact ⟨_, _, changed, rfl, heffect, hchanged⟩

theorem refuses_attempt {α : Type} (sql : String) (next : Ledger → α × Ledger) :
    Refuses stores (attempt sql next) := by
  intro ledger published hstores
  have hblock := (stores_eq_iff.mp hstores).2
  exact ⟨abortedFault, ledger, if_pos hblock, hstores⟩

theorem stores_keep
    {ledger : Ledger} {published store : List String}
    (h : stores ledger = ⟨published, .working store⟩) (sql : String) :
    stores (ledger.keep sql) = ⟨published, .working (store ++ [sql])⟩ := by
  obtain ⟨hpublished, hblock⟩ := stores_eq_iff.mp h
  unfold keep
  rw [hblock]
  exact stores_eq_iff.mpr ⟨hpublished, rfl⟩

theorem prepare_run (sql : String) (values : List (Option Bytes)) :
    (Server.prepare sql >>= fun prepared => Server.run prepared values :
        ServerAction Ledger Response) =
      attempt sql fun ledger => (⟨[], 1⟩, { ledger with pending := sql }.keep sql) := by
  funext ledger
  have hbind : (Server.prepare sql >>= fun prepared => Server.run prepared values :
      ServerAction Ledger Response) ledger =
        ExceptT.bindCont (fun prepared => Server.run prepared values)
          (Server.prepare sql ledger).1 (Server.prepare sql ledger).2 := rfl
  have hprepare : (Server.prepare sql ledger : Except ServerFault Prepared × Ledger) =
      attempt sql (fun ledger => (⟨[], []⟩, { ledger with pending := sql })) ledger := rfl
  rw [hbind, hprepare]
  unfold attempt
  by_cases haborted : ledger.block = .aborted
  · rw [if_pos haborted, if_pos haborted]
    rfl
  · rw [if_neg haborted, if_neg haborted]
    by_cases hrefused : sql ∈ ledger.refused
    · rw [if_pos hrefused, if_pos hrefused]
      rfl
    · rw [if_neg hrefused, if_neg hrefused]
      rfl

theorem begin_of_idle
    {ledger : Ledger} {published : List String} (h : stores ledger = ⟨published, .idle⟩) :
    ∃ after, begin ledger = (.ok (), after) ∧
      stores after = ⟨published, .working published⟩ := by
  obtain ⟨hpublished, hblock⟩ := stores_eq_iff.mp h
  unfold begin
  rw [hblock]
  exact ⟨_, rfl, stores_eq_iff.mpr ⟨hpublished, congrArg Block.working hpublished⟩⟩

theorem commit_of_working
    {ledger : Ledger} {published store : List String}
    (h : stores ledger = ⟨published, .working store⟩) :
    ∃ after, commit ledger = (.ok (), after) ∧ stores after = ⟨store, .idle⟩ := by
  have hblock := (stores_eq_iff.mp h).2
  unfold commit
  rw [hblock]
  exact ⟨_, rfl, rfl⟩

theorem commit_of_aborted
    {ledger : Ledger} {published : List String} (h : stores ledger = ⟨published, .aborted⟩) :
    ∃ after, commit ledger = (.ok (), after) ∧ stores after = ⟨published, .idle⟩ := by
  obtain ⟨hpublished, hblock⟩ := stores_eq_iff.mp h
  unfold commit
  rw [hblock]
  exact ⟨_, rfl, stores_eq_iff.mpr ⟨hpublished, rfl⟩⟩

theorem acts_keep (sql : String) :
    Acts stores (Adds sql) (attempt sql fun ledger => ((), ledger.keep sql)) :=
  acts_attempt fun _ _ _ hstores => ⟨_, rfl, stores_keep hstores sql⟩

/-- The server treats transactions as it is relied on to do. -/
def transactional : Transactional Ledger (List String) where
  stores := stores
  controls := controls
  changes sql _ := Adds sql
  textChanges := Adds
  begin_ok level ledger after published hstores hrun := by
    obtain ⟨started, hbegin, hstarted⟩ := begin_of_idle hstores
    rw [← simple_beginSql level] at hbegin
    cases hbegin.symm.trans hrun
    exact hstarted
  begin_error level ledger after fault published hstores hrun := by
    obtain ⟨started, hbegin, -⟩ := begin_of_idle hstores
    rw [← simple_beginSql level] at hbegin
    cases hbegin.symm.trans hrun
  commit_ok ledger after published store hstores hrun := by
    obtain ⟨committed, hcommit, hcommitted⟩ := commit_of_working hstores
    cases hcommit.symm.trans hrun
    exact hcommitted
  commit_error ledger after fault published store hstores hrun := by
    obtain ⟨committed, hcommit, -⟩ := commit_of_working hstores
    cases hcommit.symm.trans hrun
  commit_aborted ledger published hstores := commit_of_aborted hstores
  rollback ledger after result _ hrun := by
    have hrollback : simple "ROLLBACK" ledger = (.ok (), { ledger with block := .idle }) := rfl
    cases hrollback.symm.trans hrun
    rfl
  prepare sql _ := acts_attempt fun _ _ store hstores => ⟨store, rfl, hstores⟩
  run sql values _ := by
    rw [prepare_run]
    apply acts_attempt
    intro ledger published store hstores
    have hpending : stores { ledger with pending := sql } = ⟨published, .working store⟩ :=
      hstores
    exact ⟨_, rfl, stores_keep hpending sql⟩
  text sql hsql := by
    have hsimple : (Server.simple sql : ServerAction Ledger Unit) = _ := simple_eq_attempt hsql
    rw [hsimple]
    exact acts_keep sql
  prepare_aborted sql _ := refuses_attempt sql _
  text_aborted sql hsql := by
    have hsimple : (Server.simple sql : ServerAction Ledger Unit) = _ := simple_eq_attempt hsql
    rw [hsimple]
    exact refuses_attempt sql _

end Ledger

end TypedQuery.Postgres
