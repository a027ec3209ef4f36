import Mathlib.Data.List.AList
import Mathlib.Order.Lattice
import EsscherMarket.Lib.Txn

/-!
# Dictionaries filled by a loop

`lookup_foldlM_insert` says what a loop leaves in a dictionary that sets an item for every element
of a list; `lastPair_spec` which two elements of a sorted list are the last neighbours before a key.
-/

namespace EsscherMarket.Lib

abbrev Dict (κ α : Type) := AList fun _ : κ => α

def lastWith {β : Type} (p : β → Bool) : List β → Option β
  | [] => none
  | x :: xs => (lastWith p xs).or (if p x then some x else none)

theorem lastWith_eq_none {β : Type} {p : β → Bool} {xs : List β} :
    lastWith p xs = none ↔ ∀ x ∈ xs, p x = false := by
  induction xs with
  | nil => simp [lastWith]
  | cons y ys ih => simp [lastWith, ih, and_comm]

section Loop

variable {κ α β ε : Type} [DecidableEq κ] {f : β → Except ε α} {key : β → κ}

/-- A loop that sets an item for every element leaves at each key the value of the last element
with that key. -/
theorem lookup_foldlM_insert {xs : List β} : ∀ {start final : Dict κ α},
    xs.foldlM (fun items x => do let v ← f x; return items.insert (key x) v) start = .ok final →
    ∀ k, (∀ x ∈ xs, ∃ v, f x = .ok v) ∧
      match lastWith (fun x => key x = k) xs with
      | some x => ∃ v, f x = .ok v ∧ final.lookup k = some v
      | none => final.lookup k = start.lookup k := by
  induction xs with
  | nil =>
    intro start final h k
    injection h with hfinal
    subst hfinal
    exact ⟨fun x hx => absurd hx List.not_mem_nil, rfl⟩
  | cons x xs ih =>
    intro start final h k
    rw [List.foldlM_cons, except_bind_eq_ok] at h
    obtain ⟨next, hnext, hrest⟩ := h
    rw [except_bind_eq_ok] at hnext
    obtain ⟨v, hv, hinsert⟩ := hnext
    injection hinsert with hinsert
    subst hinsert
    obtain ⟨hall, hlast⟩ := ih hrest k
    refine ⟨?_, ?_⟩
    · intro y hy
      rcases List.mem_cons.mp hy with rfl | hy
      · exact ⟨v, hv⟩
      · exact hall y hy
    · rw [lastWith]
      cases hxs : lastWith (fun x => decide (key x = k)) xs with
      | some y =>
        rw [hxs] at hlast
        simpa using hlast
      | none =>
        rw [hxs] at hlast
        by_cases hkey : key x = k
        · subst hkey
          simp only [Option.none_or, decide_true, if_true]
          exact ⟨v, hv, by rw [hlast, AList.lookup_insert]⟩
        · simp only [Option.none_or, decide_eq_false hkey, Bool.false_eq_true, if_false]
          rw [hlast, AList.lookup_insert_ne (Ne.symm hkey)]

/-- Such a loop ends without an error when none of its elements makes one. -/
theorem foldlM_insert_isOk {xs : List β} (h : ∀ x ∈ xs, ∃ v, f x = .ok v) :
    ∀ start : Dict κ α, ∃ final,
      xs.foldlM (fun items x => do let v ← f x; return items.insert (key x) v) start =
        .ok final := by
  induction xs with
  | nil => exact fun start => ⟨start, rfl⟩
  | cons x xs ih =>
    intro start
    obtain ⟨v, hv⟩ := h x List.mem_cons_self
    obtain ⟨final, hfinal⟩ := ih (fun y hy => h y (List.mem_cons_of_mem x hy))
      (start.insert (key x) v)
    refine ⟨final, ?_⟩
    rw [List.foldlM_cons, hv]
    exact hfinal

end Loop

/-! ### Neighbours -/

/-- `itertools.pairwise`. -/
def pairwise {β : Type} : List β → List (β × β)
  | a :: b :: rest => (a, b) :: pairwise (b :: rest)
  | _ => []

theorem map_snd_pairwise {β : Type} (a : β) (xs : List β) :
    (pairwise (a :: xs)).map Prod.snd = xs := by
  induction xs generalizing a with
  | nil => rfl
  | cons b rest ih => rw [pairwise, List.map_cons, ih]

theorem mem_of_mem_pairwise {β : Type} {xs : List β} {p : β × β} (h : p ∈ pairwise xs) :
    p.1 ∈ xs ∧ p.2 ∈ xs := by
  induction xs with
  | nil => cases h
  | cons a xs ih =>
    cases xs with
    | nil => cases h
    | cons b rest =>
      rcases List.mem_cons.mp h with rfl | hrest
      · exact ⟨List.mem_cons_self, List.mem_cons_of_mem _ List.mem_cons_self⟩
      · exact ⟨List.mem_cons_of_mem _ (ih hrest).1, List.mem_cons_of_mem _ (ih hrest).2⟩

/-- Every element of a list of at least two has a neighbour. -/
theorem exists_mem_pairwise {β : Type} {xs : List β} (hlen : 2 ≤ xs.length) {x : β} (hx : x ∈ xs) :
    ∃ p ∈ pairwise xs, p.1 = x ∨ p.2 = x := by
  induction xs with
  | nil => cases hx
  | cons a xs ih =>
    cases xs with
    | nil => simp at hlen
    | cons b rest =>
      rcases List.mem_cons.mp hx with rfl | hx
      · exact ⟨(x, b), List.mem_cons_self, .inl rfl⟩
      · cases rest with
        | nil =>
          rw [List.mem_singleton] at hx
          exact ⟨(a, b), List.mem_cons_self, .inr hx.symm⟩
        | cons c rest =>
          obtain ⟨p, hp, hpx⟩ := ih (by simp) hx
          exact ⟨p, List.mem_cons_of_mem _ hp, hpx⟩

section Sorted

variable {β δ : Type} [LinearOrder δ] {key : β → δ}

def lastPair (key : β → δ) (xs : List β) (k : δ) : Option (β × β) :=
  lastWith (fun p => key p.2 = k) (pairwise xs)

/-- In a sorted list the last neighbours that end at `k` start at `k` when two elements have that
key, and at the largest smaller key otherwise. -/
structure IsLastPair (key : β → δ) (xs : List β) (k : δ) (p : β × β) : Prop where
  mem : p ∈ pairwise xs
  end_eq : key p.2 = k
  start_le : key p.1 ≤ k
  start_eq : key p.1 = k ↔ 2 ≤ (xs.map key).count k
  start_max : ∀ x ∈ xs, key x < k → key x ≤ key p.1

theorem lastPair_spec {xs : List β} (hsorted : xs.Pairwise fun a b => key a ≤ key b) {k : δ}
    {p : β × β} (h : lastPair key xs k = some p) : IsLastPair key xs k p := by
  induction xs with
  | nil => cases h
  | cons a xs ih =>
    cases xs with
    | nil => cases h
    | cons b rest =>
      have hab : key a ≤ key b := (List.pairwise_cons.mp hsorted).1 b List.mem_cons_self
      have hrest := (List.pairwise_cons.mp hsorted).2
      have hb : ∀ x ∈ b :: rest, key b ≤ key x := by
        intro x hx
        rcases List.mem_cons.mp hx with rfl | hx
        · exact le_rfl
        · exact (List.pairwise_cons.mp hrest).1 x hx
      rw [lastPair, pairwise, lastWith, Option.or_eq_some_iff] at h
      rcases h with hlast | ⟨hnone, hfirst⟩
      · have hp := ih hrest hlast
        have hmem := (mem_of_mem_pairwise hp.mem).1
        refine ⟨List.mem_cons_of_mem _ hp.mem, hp.end_eq, hp.start_le, ?_, ?_⟩
        · rw [List.map_cons, List.count_cons]
          by_cases hak : key a = k
          · have hstart : key p.1 = k :=
              le_antisymm hp.start_le (hak ▸ le_trans hab (hb _ hmem))
            have hcount := hp.start_eq.mp hstart
            simp only [hak, hstart, BEq.rfl, if_true, true_iff]
            omega
          · simpa [hak] using hp.start_eq
        · intro x hx hlt
          rcases List.mem_cons.mp hx with rfl | hx
          · exact le_trans hab (hb _ hmem)
          · exact hp.start_max x hx hlt
      · -- no later neighbours end at `k`, so `b` is the only element of the rest with that key
        split at hfirst
        · rename_i hkey
          injection hfirst with hpair
          subst hpair
          rw [decide_eq_true_eq] at hkey
          have hcount : (rest.map key).count k = 0 := by
            rw [List.count_eq_zero, ← map_snd_pairwise b rest]
            intro hmem
            rw [List.map_map, List.mem_map] at hmem
            obtain ⟨q, hq, hqk⟩ := hmem
            have := lastWith_eq_none.mp hnone q hq
            simp only [Function.comp_apply] at hqk
            simp [hqk] at this
          refine ⟨List.mem_cons_self, hkey, hkey ▸ hab, ?_, ?_⟩
          · rw [List.map_cons, List.count_cons, List.map_cons, List.count_cons, hcount]
            by_cases hak : key a = k <;> simp [hak, hkey]
          · intro x hx hlt
            rcases List.mem_cons.mp hx with rfl | hx
            · exact le_rfl
            · exact absurd (hb x hx) (not_le.mpr (hkey ▸ hlt))
        · cases hfirst

/-- Some neighbours end at `k` exactly when an element with that key is not the first. -/
theorem lastPair_isSome {xs : List β} (hsorted : xs.Pairwise fun a b => key a ≤ key b) {k : δ} :
    (lastPair key xs k).isSome ↔
      k ∈ xs.map key ∧ (2 ≤ (xs.map key).count k ∨ ∃ x ∈ xs, key x < k) := by
  constructor
  · intro h
    obtain ⟨p, hp⟩ := Option.isSome_iff_exists.mp h
    have hspec := lastPair_spec hsorted hp
    obtain ⟨hfirst, hsecond⟩ := mem_of_mem_pairwise hspec.mem
    refine ⟨List.mem_map.mpr ⟨p.2, hsecond, hspec.end_eq⟩, ?_⟩
    rcases lt_or_eq_of_le hspec.start_le with hlt | heq
    · exact .inr ⟨p.1, hfirst, hlt⟩
    · exact .inl (hspec.start_eq.mp heq)
  · rintro ⟨hmem, hmore⟩
    by_contra hnone
    rw [Option.not_isSome_iff_eq_none, lastPair, lastWith_eq_none] at hnone
    cases xs with
    | nil => cases hmem
    | cons a xs =>
      have hcount : (xs.map key).count k = 0 := by
        rw [List.count_eq_zero, ← map_snd_pairwise a xs]
        intro hin
        rw [List.map_map, List.mem_map] at hin
        obtain ⟨q, hq, hqk⟩ := hin
        have := hnone q hq
        simp only [Function.comp_apply] at hqk
        simp [hqk] at this
      have hak : key a = k := by
        rcases List.mem_cons.mp hmem with heq | hin
        · exact heq.symm
        · exact absurd (List.count_eq_zero.mp hcount) (not_not.mpr hin)
      rcases hmore with htwo | ⟨x, hx, hlt⟩
      · rw [List.map_cons, List.count_cons, hcount] at htwo
        split at htwo <;> omega
      · rcases List.mem_cons.mp hx with rfl | hx
        · exact absurd hak (ne_of_lt hlt)
        · exact absurd ((List.pairwise_cons.mp hsorted).1 x hx) (not_le.mpr (hak ▸ hlt))

end Sorted

end EsscherMarket.Lib
