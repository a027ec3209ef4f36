import EsscherMarket.Risk.Ledger.Migrations

/-!
# The migration of the option-event journal

`OptionEventJournal._migrate` opens a transaction and then calls `executescript`, which commits it:
every statement is durable by itself.

* `migrations_recover_iff`: the same of the risk ledger and of the journal together.
-/

namespace EsscherMarket.OptionEvents.JournalSchema

open Lib.Sql

def tables : List Statement := [
  .create (.table "option_event_bindings" [
      ("session_id", "TEXT NOT NULL"), ("lifecycle_id", "TEXT NOT NULL"),
      ("account_fingerprint_sha256", "TEXT NOT NULL"),
      ("binding_sha256", "TEXT NOT NULL UNIQUE"), ("binding_json", "BLOB NOT NULL")] [
      "PRIMARY KEY (session_id, lifecycle_id)"]) false,
  .create (.table "option_event_observations" [
      ("observation_sha256", "TEXT PRIMARY KEY"),
      ("account_fingerprint_sha256", "TEXT NOT NULL"), ("observed_at", "TEXT NOT NULL"),
      ("observation_json", "BLOB NOT NULL")] []) false,
  .create (.table "option_activity_coverages" [
      ("coverage_sha256", "TEXT PRIMARY KEY"), ("account_fingerprint_sha256", "TEXT NOT NULL"),
      ("observed_at", "TEXT NOT NULL"), ("coverage_json", "BLOB NOT NULL")] []) false,
  .create (.table "normalized_option_events" [
      ("account_fingerprint_sha256", "TEXT NOT NULL"), ("activity_id", "TEXT NOT NULL"),
      ("binding_sha256", "TEXT NOT NULL"), ("event_sha256", "TEXT NOT NULL UNIQUE"),
      ("event_json", "BLOB NOT NULL")] [
      "PRIMARY KEY (account_fingerprint_sha256, activity_id)",
      "FOREIGN KEY (binding_sha256) REFERENCES option_event_bindings(binding_sha256)"]) false,
  .create (.table "option_event_receipts" [
      ("sequence", "INTEGER PRIMARY KEY AUTOINCREMENT"),
      ("receipt_sha256", "TEXT NOT NULL UNIQUE"), ("binding_sha256", "TEXT NOT NULL"),
      ("observation_sha256", "TEXT NOT NULL"), ("activity_coverage_sha256", "TEXT NOT NULL"),
      ("state", "TEXT NOT NULL"), ("observed_at", "TEXT NOT NULL"),
      ("receipt_json", "BLOB NOT NULL")] [
      "FOREIGN KEY (binding_sha256) REFERENCES option_event_bindings(binding_sha256)",
      "FOREIGN KEY (observation_sha256) REFERENCES option_event_observations(observation_sha256)",
      "FOREIGN KEY (activity_coverage_sha256) REFERENCES option_activity_coverages(coverage_sha256)"]) false]

def appendOnly : List String :=
  ["option_event_bindings", "option_event_observations", "option_activity_coverages",
    "normalized_option_events", "option_event_receipts"]

def raiseAbort : String := "SELECT RAISE(ABORT, 'append-only table')"

def triggersOf (table : String) : List Statement :=
  [.create (.trigger (table ++ "_no_update") table "BEFORE UPDATE" raiseAbort) false,
    .create (.trigger (table ++ "_no_delete") table "BEFORE DELETE" raiseAbort) false]

/-- `OPTION_EVENT_JOURNAL_SCHEMA_VERSION`. -/
def schemaVersion : Nat := 1

def creates : List Statement := tables ++ appendOnly.flatMap triggersOf

def script : List Statement := creates ++ [.setUserVersion schemaVersion]

/-- `_migrate`; `none` where it raises. -/
def migrate (db : Database) : Option Database :=
  if db.userVersion = schemaVersion then some db
  else if db.userVersion ≠ 0 then none
  else run script db

def atVersion (v : Nat) : Option Database := if v = 0 then some .empty else run script .empty

/-- What `_migrate` executes on a file. -/
def pending (db : Database) : List Statement := if db.userVersion = 0 then script else []

/-- The file at a version after `n` statements of `_migrate`. -/
def interrupted (v n : Nat) : Option Database :=
  (atVersion v).bind fun db => run ((pending db).take n) db

/-- A later `_migrate` reaches the current version, with the schema of an uninterrupted one. -/
def Recovers (v n : Nat) : Prop :=
  ∃ db final, interrupted v n = some db ∧ migrate db = some final ∧
    (atVersion v).bind migrate = some final ∧ final.userVersion = schemaVersion

/-- What `_migrate` executes of the file at a version before it is interrupted. -/
def executed (v n : Nat) : List Statement := if v = 0 then script.take n else []

/-- Something was created and the version is not set. -/
def Torn (v n : Nat) : Prop :=
  executed v n ≠ [] ∧ Statement.setUserVersion schemaVersion ∉ executed v n

instance (v n : Nat) : Decidable (Torn v n) := inferInstanceAs (Decidable (_ ∧ _))

theorem userVersion_creates : ∀ s ∈ creates, s.userVersion? = none := by decide

theorem run_script : ∃ final, run script .empty = some final ∧
    final.userVersion = schemaVersion := by
  have hsome : (run script .empty).isSome = true := by decide
  obtain ⟨final, hfinal⟩ := Option.isSome_iff_exists.mp hsome
  obtain ⟨db, -, hset⟩ := run_of_append hfinal
  refine ⟨final, hfinal, ?_⟩
  cases hset
  rfl

theorem migrate_empty : migrate .empty = run script .empty := by
  have hzero : Database.empty.userVersion = 0 := rfl
  rw [migrate, hzero, if_neg (by decide), if_neg (by simp)]

theorem script_cases (n : Nat) :
    script.take n = [] ∨ script.take n = script ∨
    ∃ o made rest, script = Statement.create o false :: made ++ rest ∧
      script.take n = Statement.create o false :: made ∧
      ∀ s ∈ Statement.create o false :: made, s ∈ creates := by
  cases n with
  | zero => exact .inl rfl
  | succ n =>
    right
    by_cases hn : n + 1 ≤ creates.length
    · have htake : script.take (n + 1) = creates.take (n + 1) := List.take_append_of_le_length hn
      right
      refine ⟨_, creates.tail.take n, script.drop (n + 1), ?_, htake, ?_⟩
      · exact (List.take_append_drop (n + 1) script).symm.trans (by rw [htake]; rfl)
      · intro s hs
        exact List.mem_of_mem_take (i := n + 1) hs
    · left
      refine List.take_of_length_le ?_
      rw [script, List.length_append, List.length_singleton]
      omega

/-- A migration that has created a table cannot be started again. -/
theorem migrate_of_created {o : SchemaObject} {made rest : List Statement} {db : Database}
    (hscript : script = Statement.create o false :: made ++ rest)
    (hcreates : ∀ s ∈ Statement.create o false :: made, s ∈ creates)
    (h : run (Statement.create o false :: made) .empty = some db) : migrate db = none := by
  have hversion : db.userVersion = 0 :=
    run_userVersion (fun s hs => userVersion_creates s (hcreates s hs)) h
  have hhas : db.has o.name = true := by
    rw [run_cons] at h
    obtain ⟨db₁, hcreate, h⟩ := Option.bind_eq_some_iff.mp h
    exact (run_grows h).has _ (Statement.has_of_create hcreate)
  rw [migrate, hversion, if_neg (by decide), if_neg (by simp), hscript, List.cons_append, run_cons,
    Statement.create_again hhas]
  rfl

/-- An interrupted `_migrate` is finished by a later one where nothing or everything of it was
executed: otherwise every later one raises. -/
theorem recovers_iff (v n : Nat) : Recovers v n ↔ ¬ Torn v n := by
  obtain ⟨final, hfinal, hversion⟩ := run_script
  have hagain : migrate final = some final := by rw [migrate, if_pos hversion]
  have hfresh : migrate .empty = some final := migrate_empty.trans hfinal
  cases v with
  | succ v =>
    have hpending : pending final = [] := by rw [pending, hversion]; rfl
    have hrun : interrupted (v + 1) n = some final := by
      rw [interrupted, atVersion, if_neg (Nat.succ_ne_zero v), hfinal, Option.bind_some, hpending,
        List.take_nil]
      rfl
    have hwhole : (atVersion (v + 1)).bind migrate = some final := by
      rw [atVersion, if_neg (Nat.succ_ne_zero v), hfinal, Option.bind_some, hagain]
    exact iff_of_true ⟨final, final, hrun, hagain, hwhole, hversion⟩ fun ⟨hne, _⟩ => hne rfl
  | zero =>
    have hpending : pending .empty = script := if_pos rfl
    have hrun : interrupted 0 n = run (script.take n) .empty := by
      rw [interrupted, atVersion, if_pos rfl, Option.bind_some, hpending]
    have hwhole : (atVersion 0).bind migrate = some final := by
      rw [atVersion, if_pos rfl, Option.bind_some, hfresh]
    have hexecuted : executed 0 n = script.take n := if_pos rfl
    rw [Torn, hexecuted]
    rcases script_cases n with hnil | hall | ⟨o, made, rest, hscript, htake, hcreates⟩
    · rw [hnil] at hrun ⊢
      exact iff_of_true ⟨.empty, final, hrun, hfresh, hwhole, hversion⟩ fun ⟨hne, _⟩ => hne rfl
    · rw [hall] at hrun ⊢
      refine iff_of_true ⟨final, final, hrun.trans hfinal, hagain, hwhole, hversion⟩
        fun ⟨_, hnot⟩ => hnot ?_
      exact List.mem_append_right _ List.mem_cons_self
    · rw [htake] at hrun ⊢
      refine iff_of_false ?_ (not_not_intro ⟨List.cons_ne_nil _ _, fun hset => ?_⟩)
      · rintro ⟨db, final', hdb, hfinal', -⟩
        rw [migrate_of_created hscript hcreates (hrun.symm.trans hdb)] at hfinal'
        cases hfinal'
      · have hnone := userVersion_creates _ (hcreates _ hset)
        cases hnone

/-- The migrations of the ledger and of the journal recover from an interruption exactly where
it does not separate a statement that cannot be executed again from the record of its version. -/
theorem migrations_recover_iff (v n : Nat) :
    (Risk.LedgerSchema.Recovers v n ↔ ¬ Risk.LedgerSchema.Torn v n) ∧
    (Recovers v n ↔ ¬ Torn v n) :=
  ⟨Risk.LedgerSchema.recovers_iff v n, recovers_iff v n⟩

/-- A ledger of version 1, interrupted right after the `ADD COLUMN`, and a new journal, interrupted
right after its first table. -/
theorem interrupted_does_not_recover :
    ¬ Risk.LedgerSchema.Recovers 1 1 ∧ ¬ Recovers 0 1 := by
  rw [Risk.LedgerSchema.recovers_iff, recovers_iff]
  decide

end EsscherMarket.OptionEvents.JournalSchema
