import EsscherMarket.Lib.SqlSchema
import Mathlib.Logic.Relation

/-!
# The migrations of the risk ledger

The five scripts of the ledger and `migrate`, whose statements are durable one by one: the
connection is in autocommit mode, and `executescript` commits what is pending.
-/

namespace EsscherMarket.Risk.LedgerSchema

open Lib.Sql

def migration1 : List Statement := [
  .create (.table "candidates" [
      ("event_id", "TEXT PRIMARY KEY"), ("candidate_id", "TEXT NOT NULL"),
      ("policy_sha256", "TEXT NOT NULL"), ("decision_sha256", "TEXT NOT NULL"),
      ("expression_sha256", "TEXT NOT NULL"), ("evidence_mode", "TEXT NOT NULL"),
      ("created_at", "TEXT NOT NULL")] []) true,
  .create (.table "reservations" [
      ("reservation_id", "TEXT PRIMARY KEY"), ("event_id", "TEXT NOT NULL UNIQUE"),
      ("amount", "TEXT NOT NULL"),
      ("state", "TEXT NOT NULL CHECK(state IN ('RESERVED','CONSUMED','RELEASED'))"),
      ("created_at", "TEXT NOT NULL"), ("updated_at", "TEXT NOT NULL")] []) true,
  .create (.table "permits" [
      ("permit_id", "TEXT PRIMARY KEY"), ("event_id", "TEXT NOT NULL"),
      ("reservation_id", "TEXT NOT NULL"), ("permit_sha256", "TEXT NOT NULL"),
      ("state", "TEXT NOT NULL CHECK(state IN ('ISSUED','SUBMITTED','FILLED','CANCELLED'))"),
      ("created_at", "TEXT NOT NULL"), ("updated_at", "TEXT NOT NULL")] []) true,
  .create (.table "fills" [
      ("fill_id", "TEXT PRIMARY KEY"), ("permit_id", "TEXT NOT NULL"),
      ("event_id", "TEXT NOT NULL"), ("quantity", "TEXT NOT NULL"), ("status", "TEXT NOT NULL"),
      ("observed_at", "TEXT NOT NULL")] []) true,
  .create (.table "positions" [
      ("underlying", "TEXT PRIMARY KEY"), ("quantity", "TEXT NOT NULL"),
      ("observed_at", "TEXT NOT NULL")] []) true,
  .create (.table "reconciliations" [
      ("reconciliation_id", "TEXT PRIMARY KEY"), ("result", "TEXT NOT NULL"), ("detail", "TEXT"),
      ("paper_pnl", "TEXT"), ("shadow_pnl", "TEXT"), ("observed_at", "TEXT NOT NULL")] []) true,
  .create (.table "account_snapshots" [
      ("seq", "INTEGER PRIMARY KEY AUTOINCREMENT"), ("equity", "TEXT NOT NULL"),
      ("observed_at", "TEXT NOT NULL")] []) true,
  .create (.table "control_state" [
      ("id", "INTEGER PRIMARY KEY CHECK(id = 1)"), ("state", "TEXT NOT NULL"),
      ("reason", "TEXT"), ("updated_at", "TEXT NOT NULL")] []) true,
  .create (.table "passport_events" [
      ("seq", "INTEGER PRIMARY KEY AUTOINCREMENT"), ("event_type", "TEXT NOT NULL"),
      ("payload", "TEXT NOT NULL"), ("prev_sha256", "TEXT NOT NULL"),
      ("event_sha256", "TEXT NOT NULL"), ("created_at", "TEXT NOT NULL")] []) true,
  .create (.table "not_run" [
      ("event_id", "TEXT PRIMARY KEY"), ("reason", "TEXT NOT NULL"),
      ("created_at", "TEXT NOT NULL")] []) true,
  .create (.table "schema_migrations" [
      ("version", "INTEGER PRIMARY KEY"), ("applied_at", "TEXT NOT NULL")] []) true]

/-- The only statement that is not a `CREATE … IF NOT EXISTS`. -/
def addUnderlying : Statement :=
  .addColumn "reservations" ("underlying", "TEXT NOT NULL DEFAULT ''")

def migration2 : List Statement := [
  addUnderlying,
  .create (.table "submissions" [
      ("permit_id", "TEXT PRIMARY KEY"), ("event_id", "TEXT NOT NULL"),
      ("broker_order_id", "TEXT NOT NULL UNIQUE"), ("submitted_at", "TEXT NOT NULL")] [
      "FOREIGN KEY(permit_id) REFERENCES permits(permit_id)"]) true,
  .create (.index "submissions_broker_order_id_idx" "submissions" ["broker_order_id"]) true]

def migration3 : List Statement := [
  .create (.table "lifecycle_intents" [
      ("permit_id", "TEXT PRIMARY KEY"),
      ("phase", "TEXT NOT NULL CHECK(phase IN ('OPEN','CLOSE'))"), ("event_id", "TEXT NOT NULL"),
      ("open_permit_id", "TEXT NOT NULL"), ("reservation_id", "TEXT NOT NULL"),
      ("correlation_sha256", "TEXT NOT NULL"), ("policy_sha256", "TEXT NOT NULL"),
      ("snapshot_sha256", "TEXT NOT NULL"), ("account_id", "TEXT NOT NULL"),
      ("account_class", "TEXT NOT NULL"), ("order_class", "TEXT NOT NULL"),
      ("client_order_id", "TEXT NOT NULL"), ("request_sha256", "TEXT NOT NULL"),
      ("request_json", "TEXT NOT NULL"), ("broker_order_id", "TEXT UNIQUE"),
      ("state", "TEXT NOT NULL CHECK(state IN ('INTENDED','SUBMITTED','RECONCILED'))"),
      ("created_at", "TEXT NOT NULL"), ("updated_at", "TEXT NOT NULL")] [
      "UNIQUE(event_id, phase)"]) true,
  .create (.index "lifecycle_intents_event_id_idx" "lifecycle_intents" ["event_id"]) true]

def migration4 : List Statement := [
  .create (.table "decision_episodes" [
      ("episode_id", "TEXT PRIMARY KEY"), ("event_id", "TEXT NOT NULL"),
      ("candidate_id", "TEXT NOT NULL"), ("symbol", "TEXT NOT NULL"),
      ("occurred_at", "TEXT NOT NULL"), ("decision_cutoff_at", "TEXT NOT NULL"),
      ("source_policy_sha256", "TEXT NOT NULL"), ("source_evidence_sha256", "TEXT NOT NULL"),
      ("source_feature_sha256", "TEXT NOT NULL"), ("source_snapshot_sha256", "TEXT NOT NULL"),
      ("prior_summary_sha256", "TEXT NOT NULL"), ("route_sha256", "TEXT NOT NULL"),
      ("prompt_sha256", "TEXT NOT NULL"), ("model_config_sha256", "TEXT NOT NULL"),
      ("exchange_sha256", "TEXT NOT NULL"), ("decision_sha256", "TEXT NOT NULL"),
      ("disposition", "TEXT NOT NULL"), ("direction", "TEXT NOT NULL"),
      ("created_at", "TEXT NOT NULL"), ("supersedes_episode_id", "TEXT"),
      ("supersedes_episode_sha256", "TEXT"), ("payload_sha256", "TEXT NOT NULL"),
      ("payload", "BLOB NOT NULL")] []) true,
  .create (.index "decision_episodes_cutoff_idx" "decision_episodes"
    ["occurred_at", "decision_cutoff_at", "episode_id"]) true,
  .create (.table "outcome_episodes" [
      ("outcome_id", "TEXT PRIMARY KEY"), ("decision_episode_id", "TEXT NOT NULL"),
      ("event_id", "TEXT NOT NULL"), ("open_permit_id", "TEXT"), ("close_permit_id", "TEXT"),
      ("open_order_id", "TEXT"), ("close_order_id", "TEXT"), ("terminal_at", "TEXT NOT NULL"),
      ("observed_at", "TEXT NOT NULL"), ("lifecycle_outcome", "TEXT NOT NULL"),
      ("pnl_classification", "TEXT NOT NULL"), ("gross_pnl", "TEXT"), ("net_pnl", "TEXT"),
      ("reconciliation_sha256", "TEXT NOT NULL"),
      ("final_flat", "INTEGER NOT NULL CHECK(final_flat IN (0, 1))"),
      ("supersedes_outcome_id", "TEXT"), ("supersedes_outcome_sha256", "TEXT"),
      ("created_at", "TEXT NOT NULL"), ("payload_sha256", "TEXT NOT NULL"),
      ("payload", "BLOB NOT NULL")] []) true,
  .create (.index "outcome_episodes_decision_idx" "outcome_episodes"
    ["decision_episode_id", "terminal_at", "outcome_id"]) true,
  .create (.table "broker_truth_snapshots" [
      ("snapshot_id", "TEXT PRIMARY KEY"), ("observed_at", "TEXT NOT NULL"),
      ("account_sha256", "TEXT NOT NULL"), ("orders_sha256", "TEXT NOT NULL"),
      ("positions_sha256", "TEXT NOT NULL"), ("equity", "TEXT NOT NULL"),
      ("open_exposure", "TEXT NOT NULL"),
      ("is_flat", "INTEGER NOT NULL CHECK(is_flat IN (0, 1))"), ("created_at", "TEXT NOT NULL"),
      ("supersedes_snapshot_id", "TEXT"), ("supersedes_snapshot_sha256", "TEXT"),
      ("payload_sha256", "TEXT NOT NULL"), ("payload", "BLOB NOT NULL")] []) true,
  .create (.index "broker_truth_snapshots_observed_idx" "broker_truth_snapshots"
    ["observed_at", "snapshot_id"]) true]

def migration5 : List Statement := [
  .create (.table "v2_reservations" [
      ("reservation_id", "TEXT PRIMARY KEY"), ("event_id", "TEXT NOT NULL UNIQUE"),
      ("candidate_id", "TEXT NOT NULL"), ("underlying", "TEXT NOT NULL"),
      ("decision_sha256", "TEXT NOT NULL"), ("expression_sha256", "TEXT NOT NULL"),
      ("opportunity_id", "TEXT NOT NULL UNIQUE"), ("opportunity_sha256", "TEXT NOT NULL"),
      ("allocation_reservation_id", "TEXT NOT NULL UNIQUE"),
      ("risk_tier", "TEXT NOT NULL CHECK(risk_tier IN ('0.05', '0.10', '0.20'))"),
      ("quantity", "INTEGER NOT NULL CHECK(quantity > 0)"), ("amount", "TEXT NOT NULL"),
      ("account_equity", "TEXT NOT NULL"), ("account_cash", "TEXT NOT NULL"),
      ("policy_sha256", "TEXT NOT NULL"), ("permit_id", "TEXT NOT NULL UNIQUE"),
      ("permit_sha256", "TEXT NOT NULL"), ("created_at", "TEXT NOT NULL")] [
      "FOREIGN KEY(reservation_id) REFERENCES reservations(reservation_id)",
      "FOREIGN KEY(permit_id) REFERENCES permits(permit_id)"]) true,
  .create (.index "v2_reservations_underlying_idx" "v2_reservations"
    ["underlying", "reservation_id"]) true]

/-- `_MIGRATIONS`. -/
def migrations : List Migration :=
  [(1, migration1), (2, migration2), (3, migration3), (4, migration4), (5, migration5)]

def migrationTable : String := "schema_migrations"

/-- `migrate`; `none` where a statement raises. -/
def migrate (db : Database) : Option Database := Lib.Sql.migrate migrationTable migrations db

def schemaVersion (db : Database) : Nat := (applied migrationTable db).max?.getD 0

def atVersion (v : Nat) : Option Database :=
  run (scriptOf migrationTable (migrations.take v)) .empty

/-- The file at a version after `n` statements of `migrate`. -/
def interrupted (v n : Nat) : Option Database :=
  (atVersion v).bind fun db => run ((pending migrationTable migrations db).take n) db

/-- A later `migrate` reaches the current version, with the schema of an uninterrupted one. -/
def Recovers (v n : Nat) : Prop :=
  ∃ db final, interrupted v n = some db ∧ migrate db = some final ∧
    (atVersion v).bind migrate = some final ∧ schemaVersion final = 5

/-- What `migrate` executes of the file at a version before it is interrupted. -/
def executed (v n : Nat) : List Statement :=
  (scriptOf migrationTable (migrations.drop v)).take n

def Torn (v n : Nat) : Prop :=
  addUnderlying ∈ executed v n ∧ Statement.insertVersion migrationTable 2 ∉ executed v n

instance (v n : Nat) : Decidable (Torn v n) := inferInstanceAs (Decidable (_ ∧ _))

/-! ### The scripts -/

theorem plain_migrations : Plain migrations := by
  intro m hm s hs
  revert s
  revert m
  decide

theorem nodup_migrations : (migrations.map Prod.fst).Nodup := by decide

/-- Only migration 2 has a statement that raises when it is executed again, its first. -/
theorem script_cases {m : Migration} (hm : m ∈ migrations) :
    (m.1 ≠ 2 ∧ ∀ s ∈ m.2, s.isReplayable = true) ∨
    (m.1 = 2 ∧ ∃ more, m.2 = addUnderlying :: more ∧ ∀ s ∈ more, s.isReplayable = true) := by
  simp only [migrations, List.mem_cons, List.not_mem_nil, or_false] at hm
  rcases hm with rfl | rfl | rfl | rfl | rfl
  · exact .inl (by decide)
  · exact .inr ⟨rfl, _, rfl, by decide⟩
  · exact .inl (by decide)
  · exact .inl (by decide)
  · exact .inl (by decide)

theorem run_migrations : ∃ final, run (scriptOf migrationTable migrations) .empty = some final ∧
    schemaVersion final = 5 := by
  have hsome : (run (scriptOf migrationTable migrations) .empty).isSome = true := by decide
  obtain ⟨final, hfinal⟩ := Option.isSome_iff_exists.mp hsome
  refine ⟨final, hfinal, ?_⟩
  rw [schemaVersion, applied_between plain_migrations hfinal]
  rfl

/-! ### Interruptions -/

section Cut

variable {v n : Nat} {done rest : List Migration} {m : Migration} {pre post : List Statement}
  {db : Database}

/-- The file at a version, and what `migrate` executes of it. -/
theorem atVersion_spec (v : Nat) : ∃ db, atVersion v = some db ∧
    pending migrationTable migrations db = scriptOf migrationTable (migrations.drop v) := by
  obtain ⟨final, hfinal, -⟩ := run_migrations
  have hnodup := nodup_migrations
  rw [← List.take_append_drop v migrations] at hfinal hnodup
  rw [scriptOf_append] at hfinal
  obtain ⟨db, hdb, -⟩ := run_of_append hfinal
  have hpending := pending_between hnodup
    (fun m hm => plain_migrations m (List.mem_of_mem_take hm)) hdb
  rw [List.take_append_drop] at hpending
  exact ⟨db, hdb, hpending⟩

/-- What was executed so far, from a new file. -/
theorem interrupted_eq (v n : Nat) :
    interrupted v n = run (scriptOf migrationTable (migrations.take v) ++ executed v n) .empty := by
  obtain ⟨db, hdb, hpending⟩ := atVersion_spec v
  rw [interrupted, hdb, Option.bind_some, hpending, run_append]
  rw [atVersion] at hdb
  rw [hdb]
  rfl

/-- `migrate` that is not interrupted. -/
theorem migrate_atVersion (v : Nat) :
    (atVersion v).bind migrate = run (scriptOf migrationTable migrations) .empty := by
  obtain ⟨db, hdb, hpending⟩ := atVersion_spec v
  have hwhole : run (scriptOf migrationTable migrations) .empty
      = run (scriptOf migrationTable (migrations.take v ++ migrations.drop v)) .empty := by
    rw [List.take_append_drop]
  rw [hwhole, hdb, Option.bind_some, migrate, Lib.Sql.migrate, hpending, scriptOf_append,
    run_append]
  rw [atVersion] at hdb
  rw [hdb]
  rfl

/-- A `migrate` after the last has nothing to do. -/
theorem migrate_again {final : Database}
    (h : run (scriptOf migrationTable migrations) .empty = some final) :
    migrate final = some final := by
  have hnodup := nodup_migrations
  rw [← List.append_nil migrations] at hnodup
  have hpending := pending_between hnodup plain_migrations h
  rw [List.append_nil] at hpending
  rw [migrate, Lib.Sql.migrate, hpending]
  rfl

/-- Of a migration that is cut, the column is added exactly where it is the second. -/
theorem replayable_or_added (hm : m ∈ migrations) (hscript : m.2 = pre ++ post) :
    (addUnderlying ∉ pre ∧ ∀ s ∈ pre, s.isReplayable = true) ∨
    (m.1 = 2 ∧ ∃ more, pre = addUnderlying :: more) := by
  rcases script_cases hm with ⟨-, hreplay⟩ | ⟨htwo, more, hmore, hreplay⟩
  · have hpre : ∀ s ∈ pre, s.isReplayable = true := fun s hs =>
      hreplay s (hscript ▸ List.mem_append_left _ hs)
    exact .inl ⟨fun hadd => Bool.false_ne_true (hpre _ hadd), hpre⟩
  · rw [hscript] at hmore
    cases pre with
    | nil => exact .inl ⟨List.not_mem_nil, by simp⟩
    | cons s pre =>
      rw [List.cons_append, List.cons_eq_cons] at hmore
      exact .inr ⟨htwo, pre, by rw [hmore.1]⟩

theorem added_mem {ms : List Migration} (hms : ∀ m ∈ ms, m ∈ migrations)
    (hadd : addUnderlying ∈ scriptOf migrationTable ms) :
    Statement.insertVersion migrationTable 2 ∈ scriptOf migrationTable ms := by
  obtain ⟨m, hm, hin | heq⟩ := mem_scriptOf.mp hadd
  · rcases script_cases (hms m hm) with ⟨-, hreplay⟩ | ⟨htwo, -⟩
    · exact absurd (hreplay _ hin) Bool.false_ne_true
    · exact mem_scriptOf.mpr ⟨m, hm, .inr (by rw [htwo])⟩
  · cases heq

theorem torn_of_cut (hms : migrations.drop v = done ++ m :: rest)
    (hscript : m.2 = pre ++ post)
    (hcut : executed v n = scriptOf migrationTable done ++ pre) :
    Torn v n ↔ addUnderlying ∈ pre := by
  have hmem : ∀ m' ∈ done ++ m :: rest, m' ∈ migrations := fun m' hm' =>
    List.mem_of_mem_drop (hms ▸ hm')
  rw [Torn, hcut, List.mem_append, List.mem_append]
  refine ⟨fun ⟨hadd, hversion⟩ => ?_, fun hadd => ⟨.inr hadd, ?_⟩⟩
  · rcases hadd with hadd | hadd
    · exact absurd (.inl (added_mem (fun m' hm' => hmem m' (List.mem_append_left _ hm')) hadd))
        hversion
    · exact hadd
  · have htwo : m.1 = 2 := by
      rcases replayable_or_added (hmem m (by simp)) hscript with ⟨hnot, -⟩ | ⟨htwo, -⟩
      · exact absurd hadd hnot
      · exact htwo
    rintro (hversion | hversion)
    · obtain ⟨m', hm', hin | heq⟩ := mem_scriptOf.mp hversion
      · exact absurd (plain_migrations m' (hmem m' (List.mem_append_left _ hm')) _ hin) (by simp [Statement.version?])
      · have hnodup := (nodup_migrations.sublist ((List.drop_sublist v _).map _))
        rw [hms, List.map_append, List.nodup_append] at hnodup
        refine hnodup.2.2 m'.1 (List.mem_map_of_mem hm') m.1 (by simp) ?_
        rw [htwo]
        injection heq with _ h
        exact h.symm
    · exact absurd (plain_migrations m (hmem m (by simp)) _ (hscript ▸ List.mem_append_left _ hversion)) (by simp [Statement.version?])

/-- An interrupted `migrate` is finished by a later one, unless the column was added and not
recorded: then each raises. -/
theorem recovers_iff (v n : Nat) : Recovers v n ↔ ¬ Torn v n := by
  obtain ⟨final, hfinal, hversion⟩ := run_migrations
  have hsplit := List.take_append_drop v migrations
  have hwhole : (atVersion v).bind migrate = some final := (migrate_atVersion v).trans hfinal
  rcases take_scriptOf migrationTable (migrations.drop v) n with
    ⟨done, m, pre, post, rest, hms, hscript, hcut⟩ | hall
  · have hmigrations : migrations = (migrations.take v ++ done) ++ m :: rest := by
      rw [List.append_assoc, ← hms, hsplit]
    have hnodup := nodup_migrations
    have hplain := plain_migrations
    have hparts := hfinal
    rw [hmigrations] at hnodup hplain hparts
    have hm : m ∈ migrations := hmigrations ▸ List.mem_append_right _ List.mem_cons_self
    have hrun : interrupted v n
        = run (scriptOf migrationTable (migrations.take v ++ done) ++ pre) .empty := by
      rw [interrupted_eq, executed, hcut, scriptOf_append, List.append_assoc]
    rw [scriptOf_append, scriptOf_cons, hscript, List.append_assoc, ← List.append_assoc] at hparts
    obtain ⟨db, hdb, -⟩ := run_of_append hparts
    rw [torn_of_cut hms hscript hcut]
    rcases replayable_or_added hm hscript with ⟨hnot, hreplay⟩ | ⟨-, more, rfl⟩
    · have hmigrate := migrate_of_replayable hnodup hplain hscript hreplay hdb
      rw [← hmigrations] at hmigrate
      exact iff_of_true ⟨db, final, hrun.trans hdb, hmigrate.trans hfinal, hwhole, hversion⟩ hnot
    · have hmigrate := migrate_of_addColumn hnodup hplain hscript hdb
      rw [← hmigrations] at hmigrate
      refine iff_of_false ?_ (not_not_intro List.mem_cons_self)
      rintro ⟨db', final', hdb', hfinal', -⟩
      rw [hrun, hdb] at hdb'
      cases hdb'
      rw [migrate, hmigrate] at hfinal'
      cases hfinal'
  · have hrun : interrupted v n = some final := by
      rw [interrupted_eq, executed, hall, ← scriptOf_append, hsplit, hfinal]
    refine iff_of_true ⟨final, final, hrun, migrate_again hfinal, hwhole, hversion⟩
      fun ⟨hadd, hnot⟩ => ?_
    rw [executed, hall] at hadd hnot
    exact hnot (added_mem (fun m hm => List.mem_of_mem_drop hm) hadd)

/-! ### Any number of interruptions -/

/-- A call of `migrate` that stops after some of its statements: it is interrupted, or a statement
raises, or none is left. -/
def Stopped (db db' : Database) : Prop :=
  ∃ n, run ((pending migrationTable migrations db).take n) db = some db'

/-- The file after the first statements of all the scripts. -/
def IsPart (db : Database) : Prop :=
  ∃ k, run ((scriptOf migrationTable migrations).take k) .empty = some db

/-- What `migrate` starts with on a part: what was executed of a migration, which does nothing any
more, or the column that was added, which raises. -/
theorem part_cases (h : IsPart db) :
    (∃ before after again, scriptOf migrationTable migrations = before ++ after ∧
      run before .empty = some db ∧ pending migrationTable migrations db = again ++ after ∧
      ∀ n, run (again.take n) db = some db) ∨
    ∃ s more, pending migrationTable migrations db = s :: more ∧ s.exec db = none := by
  obtain ⟨k, h⟩ := h
  have hnodup := nodup_migrations
  have hplain := plain_migrations
  rcases take_scriptOf migrationTable migrations k with
    ⟨done, m, pre, post, rest, hms, hscript, htake⟩ | hall
  · rw [htake] at h
    have hm : m ∈ migrations := hms ▸ List.mem_append_right _ List.mem_cons_self
    have hpre : ∀ s ∈ pre, s.version? = none := fun s hs =>
      plain_migrations m hm s (hscript ▸ List.mem_append_left _ hs)
    rw [hms] at hnodup hplain
    have hpending := pending_of_run hnodup (fun m' hm' => hplain m' (List.mem_append_left _ hm'))
      hpre h
    rw [← hms, scriptOf_cons, hscript, List.append_assoc] at hpending
    obtain ⟨db₁, -, hrun⟩ := run_of_append h
    rcases replayable_or_added hm hscript with ⟨-, hreplay⟩ | ⟨-, more, rfl⟩
    · refine .inl ⟨scriptOf migrationTable done ++ pre, _, pre, ?_, h, hpending, fun n => ?_⟩
      · rw [hms, scriptOf_append, scriptOf_cons, hscript, List.append_assoc, List.append_assoc]
      · rw [← List.take_append_drop n pre] at hrun
        obtain ⟨db₂, hfirst, hrun⟩ := run_of_append hrun
        exact run_replayed (fun s hs => hreplay s (List.mem_of_mem_take hs)) hfirst (run_grows hrun)
    · rw [run_cons] at hrun
      obtain ⟨db₂, hadd, hrun⟩ := Option.bind_eq_some_iff.mp hrun
      exact .inr ⟨_, _, hpending, Statement.addColumn_again hadd (run_grows hrun)⟩
  · rw [hall] at h
    rw [← List.append_nil migrations] at hnodup
    have hpending := pending_between hnodup hplain h
    rw [List.append_nil] at hpending
    exact .inl ⟨_, [], [], (List.append_nil _).symm, h, hpending, fun n => by
      rw [List.take_nil]
      rfl⟩

theorem isPart_stopped {db' : Database} (h : IsPart db) (hstop : Stopped db db') : IsPart db' := by
  obtain ⟨n, hstop⟩ := hstop
  rcases part_cases h with ⟨before, after, again, hscript, hbefore, hpending, hagain⟩ |
    ⟨s, more, hpending, hnone⟩
  · rw [hpending, List.take_append, run_append, hagain n, Option.bind_some] at hstop
    refine ⟨before.length + (n - again.length), ?_⟩
    rw [hscript, List.take_length_add_append, run_append, hbefore]
    exact hstop
  · rw [hpending] at hstop
    cases n with
    | zero =>
      cases hstop
      exact h
    | succ n =>
      rw [List.take_succ_cons, run_cons, hnone] at hstop
      cases hstop

/-- However often `migrate` was stopped, its file is that of one `migrate` that was stopped once,
and the next one either gives the schema of an uninterrupted one, or raises as every later one does,
which leaves the file as it is. -/
theorem stopped_migrates_or_stuck (h : Relation.ReflTransGen Stopped .empty db) :
    Stopped .empty db ∧ (migrate db = migrate .empty ∨
      migrate db = none ∧ ∀ db', Stopped db db' → db' = db) := by
  have hfresh : pending migrationTable migrations .empty = scriptOf migrationTable migrations := by
    obtain ⟨db₀, hdb₀, hpending⟩ := atVersion_spec 0
    cases hdb₀
    exact hpending
  have hpart : IsPart db := by
    induction h with
    | refl => exact ⟨0, rfl⟩
    | tail _ hstop ih => exact isPart_stopped ih hstop
  refine ⟨by rw [Stopped, hfresh]; exact hpart, ?_⟩
  rcases part_cases hpart with ⟨before, after, again, hscript, hbefore, hpending, hagain⟩ |
    ⟨s, more, hpending, hnone⟩
  · left
    have hall := hagain again.length
    rw [List.take_length] at hall
    rw [migrate, migrate, Lib.Sql.migrate, Lib.Sql.migrate, hpending, hfresh, hscript, run_append,
      run_append, hall, hbefore]
  · right
    refine ⟨?_, ?_⟩
    · rw [migrate, Lib.Sql.migrate, hpending, run_cons, hnone]
      rfl
    · rintro db' ⟨n, hstop⟩
      rw [hpending] at hstop
      cases n with
      | zero =>
        cases hstop
        rfl
      | succ n =>
        rw [List.take_succ_cons, run_cons, hnone] at hstop
        cases hstop

/-- A new ledger whose `migrate` was interrupted after one statement. -/
theorem stopped_migrates_or_stuck_once : ∃ db, interrupted 0 1 = some db ∧
    (migrate db = migrate .empty ∨ migrate db = none ∧ ∀ db', Stopped db db' → db' = db) := by
  have hsome : (interrupted 0 1).isSome = true := by decide
  obtain ⟨db, hdb⟩ := Option.isSome_iff_exists.mp hsome
  exact ⟨db, hdb, (stopped_migrates_or_stuck (.single ⟨1, hdb⟩)).2⟩

end Cut

end EsscherMarket.Risk.LedgerSchema
