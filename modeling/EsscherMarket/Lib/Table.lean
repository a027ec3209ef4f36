import Mathlib.Data.List.Basic
import Mathlib.Data.List.Nodup

/-!
# Tables with unique columns

A table is the list of its rows in the order of insertion.  `Table.insert` is an `INSERT` under the
table's uniqueness constraints, `Table.setWhere` an `UPDATE … WHERE`, and a `SELECT … WHERE` of one
row is `List.find?`.
-/

namespace EsscherMarket.Lib

/-- A uniqueness constraint: the message of its violation, and when two rows violate it. -/
structure UniqueConstraint (ρ : Type) where
  message : String
  clash : ρ → ρ → Bool

/-- `UNIQUE` on the column `key`. -/
def uniqueOn {ρ κ : Type} [DecidableEq κ] (message : String) (key : ρ → κ) : UniqueConstraint ρ where
  message := message
  clash r r' := key r = key r'

namespace Table

variable {ρ κ : Type} {rows rows' : List ρ} {row r : ρ}

/-- Append a row, or name the first constraint it violates. -/
def insert (constraints : List (UniqueConstraint ρ)) (row : ρ) (rows : List ρ) :
    Except String (List ρ) :=
  match constraints.find? fun c => rows.any fun r => c.clash r row with
  | some c => .error c.message
  | none => .ok (rows ++ [row])

def setWhere (p : ρ → Bool) (f : ρ → ρ) (rows : List ρ) : List ρ :=
  rows.map fun r => if p r then f r else r

theorem insert_eq_ok {constraints : List (UniqueConstraint ρ)} :
    insert constraints row rows = .ok rows' ↔
      (∀ c ∈ constraints, ∀ r ∈ rows, c.clash r row = false) ∧ rows' = rows ++ [row] := by
  unfold insert
  cases h : constraints.find? fun c => rows.any fun r => c.clash r row with
  | none =>
    rw [List.find?_eq_none] at h
    constructor
    · intro heq
      cases heq
      refine ⟨fun c hc r hr => ?_, rfl⟩
      have := h c hc
      simp only [List.any_eq_true, not_exists, not_and, Bool.not_eq_true] at this
      exact this r hr
    · rintro ⟨-, rfl⟩
      rfl
  | some c =>
    constructor
    · intro heq
      cases heq
    · rintro ⟨hc, -⟩
      have hmem := List.mem_of_find?_eq_some h
      have hany := List.find?_some h
      simp only [List.any_eq_true] at hany
      obtain ⟨r, hr, hclash⟩ := hany
      rw [hc c hmem r hr] at hclash
      cases hclash

theorem uniqueOn_clash [DecidableEq κ] {message : String} {key : ρ → κ} {r r' : ρ} :
    (uniqueOn message key).clash r r' = false ↔ key r ≠ key r' := by
  simp [uniqueOn]

theorem mem_setWhere {p : ρ → Bool} {f : ρ → ρ} :
    r ∈ setWhere p f rows ↔ ∃ r₀ ∈ rows, r = if p r₀ then f r₀ else r₀ := by
  simp only [setWhere, List.mem_map, eq_comm]

/-- A column that the update does not change keeps its list of values. -/
theorem map_setWhere {p : ρ → Bool} {f : ρ → ρ} {key : ρ → κ} (h : ∀ r, key (f r) = key r) :
    (setWhere p f rows).map key = rows.map key := by
  rw [setWhere, List.map_map]
  apply List.map_congr_left
  intro r _
  by_cases hp : p r <;> simp [hp, h]

/-- A unique column stays unique when a row with a new value is appended. -/
theorem nodup_map_concat {key : ρ → κ} (h : (rows.map key).Nodup)
    (hnew : ∀ r ∈ rows, key r ≠ key row) : ((rows ++ [row]).map key).Nodup := by
  rw [List.map_append, List.nodup_append]
  refine ⟨h, by simp, ?_⟩
  intro k hk k' hk'
  obtain ⟨r, hr, rfl⟩ := List.mem_map.mp hk
  simp only [List.map_cons, List.map_nil, List.mem_singleton] at hk'
  subst hk'
  exact hnew r hr

/-- On a unique column two rows with the same value are the same row. -/
theorem eq_of_key {key : ρ → κ} (h : (rows.map key).Nodup) {r r' : ρ} (hr : r ∈ rows)
    (hr' : r' ∈ rows) (heq : key r = key r') : r = r' :=
  List.inj_on_of_nodup_map h hr hr' heq

/-- At most one row has a given value in a unique column. -/
theorem length_filter_le_one [DecidableEq κ] {key : ρ → κ} (h : (rows.map key).Nodup) (k : κ) :
    (rows.filter fun r => key r = k).length ≤ 1 := by
  calc (rows.filter fun r => key r = k).length
      = (rows.map key).count k := by
        rw [← List.countP_eq_length_filter, List.count, List.countP_map]
        rfl
    _ ≤ 1 := List.nodup_iff_count_le_one.mp h k

/-- An update that finds only the last row. -/
theorem setWhere_concat (rows : List ρ) (row : ρ) {p : ρ → Bool} {f : ρ → ρ}
    (hrows : ∀ r ∈ rows, p r = false) (hrow : p row = true) : setWhere p f (rows ++ [row]) = rows ++ [f row] := by
  have hfirst : rows.map (fun r => if p r then f r else r) = rows := by
    refine (List.map_congr_left fun r hr => ?_).trans (List.map_id rows)
    simp [hrows r hr]
  rw [setWhere, List.map_append, hfirst]
  simp [hrow]

/-- An update that the condition does not see changes the row that is found. -/
theorem find?_setWhere (rows : List ρ) {p q : ρ → Bool} {f : ρ → ρ} (h : ∀ r, q (f r) = q r) :
    (setWhere p f rows).find? q = (rows.find? q).map fun r => if p r then f r else r := by
  rw [setWhere, List.find?_map]
  congr 2
  funext r
  by_cases hp : p r <;> simp [hp, h]

end Table

end EsscherMarket.Lib
