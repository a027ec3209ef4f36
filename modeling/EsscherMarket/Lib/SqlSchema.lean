import EsscherMarket.Lib.Txn
import Mathlib.Tactic.SplitIfs

/-!
# Scripts that define a schema

The statements of a SQLite migration and what each does to the schema of a file, one by one, as
`executescript` runs them.  A statement that raises leaves the file as it is.
-/

namespace EsscherMarket.Lib.Sql

/-- An entry of `sqlite_master`: a table with its columns and its other constraints, an index, or a
trigger. -/
inductive SchemaObject where
  | table (name : String) (columns : List (String × String)) (constraints : List String)
  | index (name table : String) (columns : List String)
  | trigger (name table event action : String)
  deriving DecidableEq, Repr

namespace SchemaObject

def name : SchemaObject → String
  | table name _ _ => name
  | index name _ _ => name
  | trigger name _ _ _ => name

def isTable : SchemaObject → Bool
  | table _ _ _ => true
  | _ => false

def columnNames : SchemaObject → List String
  | table _ columns _ => columns.map Prod.fst
  | _ => []

def onTable : SchemaObject → Option String
  | table _ _ _ => none
  | index _ on _ => some on
  | trigger _ on _ _ => some on

def addColumn (o : SchemaObject) (column : String × String) : SchemaObject :=
  match o with
  | table name columns constraints => table name (columns ++ [column]) constraints
  | o => o

theorem name_addColumn (o : SchemaObject) (column : String × String) :
    (o.addColumn column).name = o.name := by
  cases o <;> rfl

theorem isTable_addColumn (o : SchemaObject) (column : String × String) :
    (o.addColumn column).isTable = o.isTable := by
  cases o <;> rfl

theorem mem_columnNames_addColumn {o : SchemaObject} {column : String × String} {c : String}
    (h : c ∈ o.columnNames) : c ∈ (o.addColumn column).columnNames := by
  cases o with
  | table name columns constraints =>
    rw [addColumn, columnNames, List.map_append]
    exact List.mem_append_left _ h
  | index name table columns => exact h
  | trigger name table event action => exact h

end SchemaObject

/-- A file: its schema, the rows of the table that records the migrations, and its
`user_version`. -/
structure Database where
  objects : List SchemaObject
  versions : List Nat
  userVersion : Nat
  deriving DecidableEq

namespace Database

def empty : Database := ⟨[], [], 0⟩

def find? (db : Database) (name : String) : Option SchemaObject :=
  db.objects.find? fun o => o.name == name

def has (db : Database) (name : String) : Bool := (db.find? name).isSome

def hasTable (db : Database) (name : String) : Bool := (db.find? name).any SchemaObject.isTable

def columns (db : Database) (name : String) : List String :=
  ((db.find? name).map SchemaObject.columnNames).getD []

end Database

inductive Statement where
  | create (object : SchemaObject) (ifNotExists : Bool)
  | addColumn (table : String) (column : String × String)
  /-- `INSERT` of a version into the table that records the migrations, its primary key. -/
  | insertVersion (table : String) (version : Nat)
  | setUserVersion (version : Nat)
  deriving DecidableEq

def addColumnTo (table : String) (column : String × String) (o : SchemaObject) : SchemaObject :=
  if o.name == table then o.addColumn column else o

theorem name_addColumnTo (table : String) (column : String × String) (o : SchemaObject) :
    (addColumnTo table column o).name = o.name := by
  rw [addColumnTo]
  split
  · exact o.name_addColumn column
  · rfl

namespace Statement

/-- The file after a statement; `none` where it raises. -/
def exec (db : Database) : Statement → Option Database
  | create object ifNotExists =>
    if object.onTable.all db.hasTable = false then none
    else if db.has object.name then if ifNotExists then some db else none
    else some { db with objects := db.objects ++ [object] }
  | addColumn table column =>
    if db.hasTable table = false ∨ column.1 ∈ db.columns table then none
    else some { db with
      objects := db.objects.map (addColumnTo table column) }
  | insertVersion table version =>
    if db.hasTable table = false ∨ version ∈ db.versions then none
    else some { db with versions := db.versions ++ [version] }
  | setUserVersion version => some { db with userVersion := version }

end Statement

/-- The statements one by one; `none` where one raises. -/
def run (script : List Statement) (db : Database) : Option Database :=
  script.foldlM Statement.exec db

section Run

variable {db db' : Database} {s : Statement} {script more : List Statement} {name : String}

theorem run_nil : run [] db = some db := rfl

theorem run_cons : run (s :: script) db = (s.exec db).bind (run script) := rfl

theorem run_append : run (script ++ more) db = (run script db).bind (run more) := by
  rw [run, List.foldlM_append]
  rfl

theorem run_of_append {final : Database} (h : run (script ++ more) db = some final) :
    ∃ db', run script db = some db' ∧ run more db' = some final := by
  rw [run_append] at h
  exact Option.bind_eq_some_iff.mp h

/-! ### A schema only grows -/

theorem find?_append {o : SchemaObject} (h : db.has name = true) :
    ({ db with objects := db.objects ++ [o] } : Database).find? name = db.find? name := by
  obtain ⟨found, hfound⟩ := Option.isSome_iff_exists.mp h
  rw [Database.find?] at hfound ⊢
  rw [List.find?_append, hfound, Database.find?, hfound]
  rfl

theorem find?_map {g : SchemaObject → SchemaObject} (hg : ∀ o, (g o).name = o.name) :
    ({ db with objects := db.objects.map g } : Database).find? name = (db.find? name).map g := by
  rw [Database.find?, Database.find?, List.find?_map]
  refine congrArg (Option.map g) (congrArg (fun p => db.objects.find? p) (funext fun o => ?_))
  rw [Function.comp_apply, hg]

/-- What a file has once, it has for good. -/
structure Grows (db db' : Database) : Prop where
  has : ∀ name, db.has name = true → db'.has name = true
  hasTable : ∀ name, db.hasTable name = true → db'.hasTable name = true
  columns : ∀ name c, c ∈ db.columns name → c ∈ db'.columns name

theorem Grows.refl (db : Database) : Grows db db := ⟨fun _ h => h, fun _ h => h, fun _ _ h => h⟩

theorem Grows.trans {db₁ db₂ db₃ : Database} (h : Grows db₁ db₂) (h' : Grows db₂ db₃) :
    Grows db₁ db₃ :=
  ⟨fun name hname => h'.has name (h.has name hname),
    fun name hname => h'.hasTable name (h.hasTable name hname),
    fun name c hc => h'.columns name c (h.columns name c hc)⟩

theorem has_of_hasTable (h : db.hasTable name = true) : db.has name = true := by
  rw [Database.hasTable] at h
  rw [Database.has]
  cases hfind : db.find? name with
  | none =>
    rw [hfind] at h
    cases h
  | some o => rfl

theorem has_of_mem_columns {c : String} (h : c ∈ db.columns name) : db.has name = true := by
  rw [Database.columns] at h
  rw [Database.has]
  cases hfind : db.find? name with
  | none =>
    rw [hfind] at h
    cases h
  | some o => rfl

/-- A statement only adds to the schema. -/
theorem Statement.exec_grows (h : s.exec db = some db') : Grows db db' := by
  cases s with
  | create object ifNotExists =>
    rw [Statement.exec] at h
    split_ifs at h with htable hhas hnot
    · cases h
      exact .refl db
    · cases h
      refine ⟨fun name hname => ?_, fun name hname => ?_, fun name c hc => ?_⟩
      · rw [Database.has, find?_append hname]
        exact hname
      · rw [Database.hasTable, find?_append (has_of_hasTable hname)]
        exact hname
      · rw [Database.columns, find?_append (has_of_mem_columns hc)]
        exact hc
  | addColumn table column =>
    rw [Statement.exec] at h
    split_ifs at h with hrefused
    cases h
    refine ⟨fun name hhas => ?_, fun name hhas => ?_, fun name c hc => ?_⟩
    · rw [Database.has, find?_map (name_addColumnTo table column), Option.isSome_map]
      exact hhas
    · rw [Database.hasTable] at hhas ⊢
      rw [find?_map (name_addColumnTo table column), Option.any_map]
      refine Eq.trans (congrArg (fun p => Option.any p (db.find? name)) (funext fun o => ?_)) hhas
      show (addColumnTo table column o).isTable = o.isTable
      rw [addColumnTo]
      split
      · exact o.isTable_addColumn column
      · rfl
    · rw [Database.columns] at hc ⊢
      rw [find?_map (name_addColumnTo table column)]
      cases hfind : db.find? name with
      | none =>
        rw [hfind] at hc
        cases hc
      | some o =>
        rw [hfind] at hc
        show c ∈ (addColumnTo table column o).columnNames
        rw [addColumnTo]
        split
        · exact SchemaObject.mem_columnNames_addColumn hc
        · exact hc
  | insertVersion table version =>
    rw [Statement.exec] at h
    split_ifs at h with hrefused
    cases h
    exact ⟨fun _ hname => hname, fun _ hname => hname, fun _ _ hc => hc⟩
  | setUserVersion version =>
    cases h
    exact ⟨fun _ hname => hname, fun _ hname => hname, fun _ _ hc => hc⟩

theorem run_grows (h : run script db = some db') : Grows db db' := by
  induction script generalizing db with
  | nil =>
    cases h
    exact .refl _
  | cons s script ih =>
    rw [run_cons] at h
    obtain ⟨db₁, hs, h⟩ := Option.bind_eq_some_iff.mp h
    exact (Statement.exec_grows hs).trans (ih h)

/-! ### Versions -/

def Statement.version? : Statement → Option Nat
  | insertVersion _ version => some version
  | _ => none

theorem Statement.exec_versions (h : s.exec db = some db') :
    db'.versions = db.versions ++ s.version?.toList := by
  cases s with
  | create object ifNotExists =>
    rw [Statement.exec] at h
    split_ifs at h with htable hhas hnot
    · cases h
      exact (List.append_nil _).symm
    · cases h
      exact (List.append_nil _).symm
  | addColumn table column =>
    rw [Statement.exec] at h
    split_ifs at h with hrefused
    cases h
    exact (List.append_nil _).symm
  | insertVersion table version =>
    rw [Statement.exec] at h
    split_ifs at h with hrefused
    cases h
    rfl
  | setUserVersion version =>
    cases h
    exact (List.append_nil _).symm

theorem run_versions (h : run script db = some db') :
    db'.versions = db.versions ++ script.filterMap Statement.version? := by
  induction script generalizing db with
  | nil =>
    cases h
    exact (List.append_nil _).symm
  | cons s script ih =>
    rw [run_cons] at h
    obtain ⟨db₁, hs, h⟩ := Option.bind_eq_some_iff.mp h
    rw [ih h, Statement.exec_versions hs, List.append_assoc]
    cases hversion : s.version? with
    | none => rw [List.filterMap_cons_none hversion]; rfl
    | some v => rw [List.filterMap_cons_some hversion]; rfl

/-- The `user_version` that a statement sets. -/
def Statement.userVersion? : Statement → Option Nat
  | setUserVersion version => some version
  | _ => none

theorem Statement.exec_userVersion (hset : s.userVersion? = none) (h : s.exec db = some db') :
    db'.userVersion = db.userVersion := by
  cases s with
  | create object ifNotExists =>
    rw [Statement.exec] at h
    split_ifs at h with htable hhas hnot
    all_goals cases h
    all_goals rfl
  | addColumn table column =>
    rw [Statement.exec] at h
    split_ifs at h with hrefused
    cases h
    rfl
  | insertVersion table version =>
    rw [Statement.exec] at h
    split_ifs at h with hrefused
    cases h
    rfl
  | setUserVersion version => cases hset

theorem run_userVersion (hset : ∀ s ∈ script, s.userVersion? = none)
    (h : run script db = some db') : db'.userVersion = db.userVersion := by
  induction script generalizing db with
  | nil =>
    cases h
    rfl
  | cons s script ih =>
    rw [run_cons] at h
    obtain ⟨db₁, hs, h⟩ := Option.bind_eq_some_iff.mp h
    rw [ih (fun s' hs' => hset s' (List.mem_cons_of_mem _ hs')) h,
      Statement.exec_userVersion (hset s List.mem_cons_self) hs]

/-! ### Statements executed again -/

theorem Statement.has_of_create {object : SchemaObject} {ifNotExists : Bool}
    (h : (create object ifNotExists).exec db = some db') : db'.has object.name = true := by
  rw [Statement.exec] at h
  split_ifs at h with htable hhas hnot
  · cases h
    exact hhas
  · cases h
    have hnone : db.find? object.name = none := by
      rw [Database.has, Bool.not_eq_true, Option.isSome_eq_false_iff] at hhas
      exact Option.isNone_iff_eq_none.mp hhas
    rw [Database.find?] at hnone
    rw [Database.has, Database.find?, List.find?_append, hnone, Option.none_or,
      List.find?_singleton, beq_self_eq_true]
    rfl

/-- A `CREATE … IF NOT EXISTS`. -/
def Statement.isReplayable : Statement → Bool
  | create _ ifNotExists => ifNotExists
  | _ => false

/-- A `CREATE … IF NOT EXISTS` does nothing any more once it was executed. -/
theorem Statement.exec_again (hreplay : s.isReplayable = true) (h : s.exec db = some db')
    {later : Database} (hlater : Grows db' later) : s.exec later = some later := by
  cases s with
  | create object ifNotExists =>
    have hnot : ifNotExists = true := hreplay
    subst hnot
    have hgrows := Statement.exec_grows h
    have hhas := hlater.has _ (Statement.has_of_create h)
    have hon : object.onTable.all later.hasTable = true := by
      rw [Statement.exec] at h
      cases honTable : object.onTable with
      | none => rfl
      | some table =>
        rw [honTable] at h
        by_cases htable : (some table).all db.hasTable = false
        · rw [if_pos htable] at h
          cases h
        · rw [Bool.not_eq_false] at htable
          exact hlater.hasTable table (hgrows.hasTable table htable)
    rw [Statement.exec, hon, hhas]
    rfl
  | addColumn table column => cases hreplay
  | insertVersion table version => cases hreplay
  | setUserVersion version => cases hreplay

/-- A script of `CREATE … IF NOT EXISTS` does nothing any more once it was run. -/
theorem run_replayed (hreplay : ∀ s ∈ script, s.isReplayable = true)
    (h : run script db = some db') {later : Database} (hlater : Grows db' later) :
    run script later = some later := by
  induction script generalizing db with
  | nil => rfl
  | cons s script ih =>
    rw [run_cons] at h
    obtain ⟨db₁, hs, h⟩ := Option.bind_eq_some_iff.mp h
    have hagain := Statement.exec_again (hreplay s List.mem_cons_self) hs
      ((run_grows h).trans hlater)
    rw [run_cons, hagain, Option.bind_some]
    exact ih (fun s' hs' => hreplay s' (List.mem_cons_of_mem _ hs')) h

/-- A plain `CREATE` raises once it was executed. -/
theorem Statement.create_again {object : SchemaObject} (hhas : db.has object.name = true) :
    (create object false).exec db = none := by
  rw [Statement.exec, hhas]
  by_cases htable : object.onTable.all db.hasTable = false
  · exact if_pos htable
  · rw [if_neg htable]
    rfl

/-- `ADD COLUMN` raises once it was executed. -/
theorem Statement.addColumn_again {table : String} {column : String × String}
    (h : (addColumn table column).exec db = some db') {later : Database}
    (hlater : Grows db' later) : (addColumn table column).exec later = none := by
  rw [Statement.exec] at h
  split_ifs at h with hrefused
  cases h
  rw [not_or, Bool.not_eq_false] at hrefused
  rw [Statement.exec]
  refine if_pos (.inr (hlater.columns _ _ ?_))
  obtain ⟨htable, -⟩ := hrefused
  rw [Database.hasTable] at htable
  rw [Database.columns, find?_map (name_addColumnTo table column)]
  cases hfind : db.find? table with
  | none =>
    rw [hfind] at htable
    cases htable
  | some o =>
    rw [hfind] at htable
    rw [Database.find?] at hfind
    have hname := List.find?_some hfind
    show column.1 ∈ (addColumnTo table column o).columnNames
    rw [addColumnTo, if_pos hname]
    cases o with
    | table name columns constraints =>
      rw [SchemaObject.addColumn, SchemaObject.columnNames, List.map_append]
      exact List.mem_append_right _ List.mem_cons_self
    | index name on columns => cases htable
    | trigger name on event action => cases htable

end Run

/-! ### Migrations that are recorded -/

abbrev Migration : Type := Nat × List Statement

/-- The scripts of migrations, each with the statement that records it in `table`. -/
def scriptOf (table : String) (ms : List Migration) : List Statement :=
  ms.flatMap fun m => m.2 ++ [.insertVersion table m.1]

def applied (table : String) (db : Database) : List Nat :=
  if db.hasTable table then db.versions else []

/-- What is executed of migrations on a file: those that it has not recorded. -/
def pending (table : String) (ms : List Migration) (db : Database) : List Statement :=
  scriptOf table (ms.filter fun m => !(applied table db).contains m.1)

/-- Apply every pending migration; `none` where a statement raises. -/
def migrate (table : String) (ms : List Migration) (db : Database) : Option Database :=
  run (pending table ms db) db

section Migrate

variable {table : String} {ms done rest : List Migration} {m : Migration} {db : Database}
  {pre post : List Statement}

theorem scriptOf_cons : scriptOf table (m :: ms) =
    m.2 ++ Statement.insertVersion table m.1 :: scriptOf table ms := by
  rw [scriptOf, List.flatMap_cons, List.append_assoc]
  rfl

theorem scriptOf_append : scriptOf table (done ++ rest) =
    scriptOf table done ++ scriptOf table rest := List.flatMap_append

theorem mem_scriptOf {s : Statement} :
    s ∈ scriptOf table ms ↔ ∃ m ∈ ms, s ∈ m.2 ∨ s = Statement.insertVersion table m.1 := by
  rw [scriptOf, List.mem_flatMap]
  simp only [List.mem_append, List.mem_singleton]

/-- Where a first part of the statements ends: inside a migration, or at the end. -/
theorem take_scriptOf (table : String) (ms : List Migration) (n : Nat) :
    (∃ done m pre post rest, ms = done ++ m :: rest ∧ m.2 = pre ++ post ∧
      (scriptOf table ms).take n = scriptOf table done ++ pre) ∨
    (scriptOf table ms).take n = scriptOf table ms := by
  induction ms generalizing n with
  | nil => exact .inr (List.take_nil)
  | cons m ms ih =>
    rw [scriptOf_cons]
    by_cases hn : n ≤ m.2.length
    · refine .inl ⟨[], m, m.2.take n, m.2.drop n, ms, rfl, (List.take_append_drop n m.2).symm, ?_⟩
      rw [List.take_append_of_le_length hn]
      rfl
    · obtain ⟨k, rfl⟩ : ∃ k, n = m.2.length + (k + 1) := ⟨n - m.2.length - 1, by omega⟩
      rw [List.take_length_add_append, List.take_succ_cons]
      rcases ih k with ⟨done, m', pre, post, rest, rfl, hm', htake⟩ | htake
      · refine .inl ⟨m :: done, m', pre, post, rest, rfl, hm', ?_⟩
        rw [htake, scriptOf_cons, List.append_assoc, List.cons_append]
      · rw [htake]
        exact .inr rfl

/-- Scripts that record nothing themselves. -/
def Plain (ms : List Migration) : Prop := ∀ m ∈ ms, ∀ s ∈ m.2, s.version? = none

theorem versions_scriptOf (h : Plain ms) :
    (scriptOf table ms).filterMap Statement.version? = ms.map Prod.fst := by
  induction ms with
  | nil => rfl
  | cons m ms ih =>
    have hscript : m.2.filterMap Statement.version? = [] :=
      List.filterMap_eq_nil_iff.mpr (h m List.mem_cons_self)
    rw [scriptOf_cons, List.filterMap_append, hscript, List.nil_append,
      List.filterMap_cons_some (show Statement.version? (.insertVersion table m.1) = some m.1 from rfl),
      ih fun m' hm' => h m' (List.mem_cons_of_mem _ hm'), List.map_cons]

theorem hasTable_of_insertVersion {db' : Database} {script : List Statement} {v : Nat}
    (h : run script db = some db') (hmem : Statement.insertVersion table v ∈ script) :
    db'.hasTable table = true := by
  induction script generalizing db with
  | nil => cases hmem
  | cons s script ih =>
    rw [run_cons] at h
    obtain ⟨db₁, hs, h⟩ := Option.bind_eq_some_iff.mp h
    rcases List.mem_cons.mp hmem with rfl | hmem
    · rw [Statement.exec] at hs
      split_ifs at hs with hrefused
      rw [not_or, Bool.not_eq_false] at hrefused
      cases hs
      exact (run_grows h).hasTable table hrefused.1
    · exact ih h hmem

/-- A file between two migrations, or inside one, has recorded those that are done. -/
theorem applied_of_run (hplain : Plain done) (hpre : ∀ s ∈ pre, s.version? = none)
    (h : run (scriptOf table done ++ pre) .empty = some db) :
    applied table db = done.map Prod.fst := by
  have hversions := run_versions h
  rw [List.filterMap_append, versions_scriptOf hplain, List.filterMap_eq_nil_iff.mpr hpre,
    List.append_nil] at hversions
  have hrecorded : db.versions = done.map Prod.fst := hversions
  rw [applied]
  split
  · exact hrecorded
  · rename_i htable
    cases hdone : done with
    | nil => rfl
    | cons m more =>
      refine absurd (hasTable_of_insertVersion h (v := m.1) (List.mem_append_left _ ?_)) htable
      rw [hdone, scriptOf_cons]
      exact List.mem_append_right _ List.mem_cons_self

theorem pending_of_run (hnodup : ((done ++ rest).map Prod.fst).Nodup) (hplain : Plain done)
    (hpre : ∀ s ∈ pre, s.version? = none)
    (h : run (scriptOf table done ++ pre) .empty = some db) :
    pending table (done ++ rest) db = scriptOf table rest := by
  rw [pending, applied_of_run hplain hpre h]
  rw [List.map_append, List.nodup_append] at hnodup
  have hdone : done.filter (fun m => !(done.map Prod.fst).contains m.1) = [] := by
    rw [List.filter_eq_nil_iff]
    intro m hm
    simpa using ⟨m.2, hm⟩
  have hrest : rest.filter (fun m => !(done.map Prod.fst).contains m.1) = rest := by
    rw [List.filter_eq_self]
    intro m hm
    have hnew : m.1 ∉ done.map Prod.fst :=
      fun hmem => hnodup.2.2 _ hmem _ (List.mem_map_of_mem hm) rfl
    rw [List.contains_eq_mem, decide_eq_false hnew, Bool.not_false]
  rw [List.filter_append, hdone, hrest, List.nil_append]

theorem pending_between (hnodup : ((done ++ rest).map Prod.fst).Nodup) (hplain : Plain done)
    (h : run (scriptOf table done) .empty = some db) :
    pending table (done ++ rest) db = scriptOf table rest :=
  pending_of_run hnodup hplain (fun _ hs => absurd hs List.not_mem_nil)
    (by rw [List.append_nil]; exact h)

theorem applied_between (hplain : Plain done) (h : run (scriptOf table done) .empty = some db) :
    applied table db = done.map Prod.fst :=
  applied_of_run hplain (fun _ hs => absurd hs List.not_mem_nil)
    (by rw [List.append_nil]; exact h)

/-- A migration goes on where what was executed of it does nothing when executed again. -/
theorem migrate_of_replayable (hnodup : ((done ++ m :: rest).map Prod.fst).Nodup)
    (hplain : Plain (done ++ m :: rest)) (hm : m.2 = pre ++ post)
    (hreplay : ∀ s ∈ pre, s.isReplayable = true)
    (h : run (scriptOf table done ++ pre) .empty = some db) :
    migrate table (done ++ m :: rest) db = run (scriptOf table (done ++ m :: rest)) .empty := by
  have hpre : ∀ s ∈ pre, s.version? = none := fun s hs =>
    hplain m (List.mem_append_right _ List.mem_cons_self) s (hm ▸ List.mem_append_left _ hs)
  have hdone : Plain done := fun m' hm' => hplain m' (List.mem_append_left _ hm')
  have hsame : run pre db = some db := by
    rw [run_append] at h
    obtain ⟨db₁, -, h⟩ := Option.bind_eq_some_iff.mp h
    exact run_replayed hreplay h (.refl db)
  have hleft : run (scriptOf table (m :: rest)) db
      = run (post ++ Statement.insertVersion table m.1 :: scriptOf table rest) db := by
    rw [scriptOf_cons, hm, List.append_assoc, run_append, hsame, Option.bind_some]
  have hright : run (scriptOf table (done ++ m :: rest)) .empty
      = run (post ++ Statement.insertVersion table m.1 :: scriptOf table rest) db := by
    rw [scriptOf_append, scriptOf_cons, hm, List.append_assoc, ← List.append_assoc, run_append,
      h, Option.bind_some]
  rw [migrate, pending_of_run hnodup hdone hpre h, hleft, hright]

/-- A migration raises where it has added its column. -/
theorem migrate_of_addColumn {column : String × String} {on : String} {more : List Statement}
    (hnodup : ((done ++ m :: rest).map Prod.fst).Nodup) (hplain : Plain (done ++ m :: rest))
    (hm : m.2 = Statement.addColumn on column :: more ++ post)
    (h : run (scriptOf table done ++ Statement.addColumn on column :: more) .empty = some db) :
    migrate table (done ++ m :: rest) db = none := by
  have hpre : ∀ s ∈ Statement.addColumn on column :: more, s.version? = none := fun s hs =>
    hplain m (List.mem_append_right _ List.mem_cons_self) s (hm ▸ List.mem_append_left _ hs)
  have hdone : Plain done := fun m' hm' => hplain m' (List.mem_append_left _ hm')
  have hagain : (Statement.addColumn on column).exec db = none := by
    rw [run_append] at h
    obtain ⟨db₁, -, h⟩ := Option.bind_eq_some_iff.mp h
    rw [run_cons] at h
    obtain ⟨db₂, hadd, h⟩ := Option.bind_eq_some_iff.mp h
    exact Statement.addColumn_again hadd (run_grows h)
  rw [migrate, pending_of_run hnodup hdone hpre h, scriptOf_cons, hm, List.cons_append,
    List.cons_append, run_cons, hagain]
  rfl

end Migrate

end EsscherMarket.Lib.Sql
