import Mathlib.Algebra.BigOperators.Group.List.Basic
import Mathlib.Algebra.Order.Field.Basic
import Mathlib.Algebra.Order.BigOperators.Group.List
import Mathlib.Data.List.Forall2
import Mathlib.Data.List.GetD
import Mathlib.Data.List.MinMax
import Mathlib.Data.List.Sort
import Mathlib.Tactic

/-!
# Means, medians and the best value of a list

What statistics of a list do when the list is permuted and when its values are raised one by one.
-/

namespace EsscherMarket.Lib

/-! ### Sorting keeps the pointwise order -/

section Sorting

variable {α : Type*} [LinearOrder α]

theorem orderedInsert_mono {l m : List α} {x y : α} (hl : l.Pairwise (· ≤ ·))
    (hm : m.Pairwise (· ≤ ·)) (hxy : x ≤ y) (h : List.Forall₂ (· ≤ ·) l m) :
    List.Forall₂ (· ≤ ·) (l.orderedInsert (· ≤ ·) x) (m.orderedInsert (· ≤ ·) y) := by
  induction h generalizing x y with
  | nil => exact .cons hxy .nil
  | @cons a b l m hab hrest ih =>
    obtain ⟨hal, hl⟩ := List.pairwise_cons.mp hl
    obtain ⟨hbm, hm⟩ := List.pairwise_cons.mp hm
    -- a value in front of a sorted list is inserted there
    have hkeepL : l.orderedInsert (· ≤ ·) a = a :: l := by
      cases l with
      | nil => rfl
      | cons c l => exact List.orderedInsert_cons_of_le _ l (hal c List.mem_cons_self)
    have hkeepM : m.orderedInsert (· ≤ ·) b = b :: m := by
      cases m with
      | nil => rfl
      | cons c m => exact List.orderedInsert_cons_of_le _ m (hbm c List.mem_cons_self)
    rw [List.orderedInsert_cons, List.orderedInsert_cons]
    by_cases hxa : x ≤ a
    · rw [if_pos hxa]
      by_cases hyb : y ≤ b
      · rw [if_pos hyb]
        exact .cons hxy (.cons hab hrest)
      · rw [if_neg hyb, ← hkeepL]
        exact .cons (hxa.trans hab) (ih hl hm (hab.trans (not_le.mp hyb).le))
    · rw [if_neg hxa]
      by_cases hyb : y ≤ b
      · rw [if_pos hyb, ← hkeepM]
        exact .cons ((not_le.mp hxa).le.trans hxy) (ih hl hm (hxy.trans hyb))
      · rw [if_neg hyb]
        exact .cons hab (ih hl hm hxy)

/-- The values of the sorted lists are in order place by place. -/
theorem insertionSort_mono {l m : List α} (h : List.Forall₂ (· ≤ ·) l m) :
    List.Forall₂ (· ≤ ·) (l.insertionSort (· ≤ ·)) (m.insertionSort (· ≤ ·)) := by
  induction h with
  | nil => exact .nil
  | cons hab _ ih =>
    rw [List.insertionSort_cons, List.insertionSort_cons]
    exact orderedInsert_mono (List.pairwise_insertionSort _ _) (List.pairwise_insertionSort _ _) hab ih

theorem insertionSort_perm {l m : List α} (h : l.Perm m) :
    l.insertionSort (· ≤ ·) = m.insertionSort (· ≤ ·) :=
  (((List.perm_insertionSort _ l).trans h).trans (List.perm_insertionSort _ m).symm).eq_of_pairwise
    (fun _ _ _ _ hab hba => le_antisymm hab hba)
    (List.pairwise_insertionSort _ l) (List.pairwise_insertionSort _ m)

theorem getD_mono {l m : List α} (h : List.Forall₂ (· ≤ ·) l m) (i : ℕ) (d : α) :
    l.getD i d ≤ m.getD i d := by
  induction h generalizing i with
  | nil => exact le_rfl
  | cons hab _ ih =>
    cases i with
    | zero => exact hab
    | succ i => exact ih i

end Sorting

/-! ### Means and medians -/

def mean {α : Type*} [Field α] (l : List α) : α := l.sum / l.length

/-- The middle value, or the mean of the two middle ones. -/
def median {α : Type*} [Field α] [LinearOrder α] (l : List α) : α :=
  let data := l.insertionSort (· ≤ ·)
  if data.length % 2 = 1 then data.getD (data.length / 2) 0
  else (data.getD (data.length / 2 - 1) 0 + data.getD (data.length / 2) 0) / 2

/-- The first place of the greatest value. -/
def bestIndex {α : Type*} [Zero α] [LinearOrder α] (l : List α) : ℕ :=
  ((List.range l.length).argmax fun i => l.getD i 0).getD 0

def leaveBestOut {α : Type*} [Zero α] [LinearOrder α] (l : List α) : List α :=
  l.eraseIdx (bestIndex l)

theorem mean_perm {α : Type*} [Field α] {l m : List α} (h : l.Perm m) : mean l = mean m := by
  rw [mean, mean, h.sum_eq, h.length_eq]

theorem median_perm {α : Type*} [Field α] [LinearOrder α] {l m : List α} (h : l.Perm m) :
    median l = median m := by
  rw [median, median, insertionSort_perm h]

theorem bestIndex_spec {α : Type*} [Zero α] [LinearOrder α] {l : List α} (h : l ≠ []) :
    bestIndex l < l.length ∧ ∀ x ∈ l, x ≤ l.getD (bestIndex l) 0 := by
  have hlength : 0 < l.length := List.length_pos_iff.mpr h
  cases hbest : (List.range l.length).argmax fun i => l.getD i 0 with
  | none =>
    rw [List.argmax_eq_none, List.range_eq_nil] at hbest
    omega
  | some i =>
    have hi : bestIndex l = i := by rw [bestIndex, hbest, Option.getD_some]
    rw [hi]
    refine ⟨List.mem_range.mp (List.argmax_mem hbest), fun x hx => ?_⟩
    obtain ⟨j, hj, rfl⟩ := List.getElem_of_mem hx
    have hle := List.le_of_mem_argmax (List.mem_range.mpr hj) hbest
    rwa [List.getD_eq_getElem l 0 hj] at hle

theorem length_leaveBestOut {α : Type*} [Zero α] [LinearOrder α] (l : List α) :
    (leaveBestOut l).length = l.length - 1 := by
  rcases eq_or_ne l [] with rfl | hne
  · rfl
  · rw [leaveBestOut, List.length_eraseIdx_of_lt (bestIndex_spec hne).1]

theorem sum_eraseIdx {α : Type*} [Field α] {l : List α} {i : ℕ} (h : i < l.length) :
    (l.eraseIdx i).sum = l.sum - l.getD i 0 := by
  induction l generalizing i with
  | nil => exact absurd h (Nat.not_lt_zero i)
  | cons a l ih =>
    cases i with
    | zero => simp
    | succ i =>
      rw [List.eraseIdx_cons_succ, List.sum_cons, ih (Nat.lt_of_succ_lt_succ h), List.sum_cons,
        List.getD_cons_succ]
      ring

section Means

variable {α : Type*} [Field α] [LinearOrder α] {l m : List α}

/-- Without its best value a list sums up to the rest. -/
theorem sum_leaveBestOut (h : l ≠ []) :
    ∃ best ∈ l, (∀ x ∈ l, x ≤ best) ∧ (leaveBestOut l).sum = l.sum - best := by
  obtain ⟨hlt, hbest⟩ := bestIndex_spec h
  refine ⟨l.getD (bestIndex l) 0, ?_, hbest, sum_eraseIdx hlt⟩
  rw [List.getD_eq_getElem l 0 hlt]
  exact List.getElem_mem hlt

theorem mean_leaveBestOut_perm (h : l.Perm m) : mean (leaveBestOut l) = mean (leaveBestOut m) := by
  rcases eq_or_ne l [] with rfl | hne
  · rw [List.nil_perm.mp h]
  · have hne' : m ≠ [] := fun heq => hne (List.perm_nil.mp (heq ▸ h))
    obtain ⟨best, hmem, hle, hsum⟩ := sum_leaveBestOut hne
    obtain ⟨best', hmem', hle', hsum'⟩ := sum_leaveBestOut hne'
    have heq : best = best' :=
      le_antisymm (hle' best (h.mem_iff.mp hmem)) (hle best' (h.mem_iff.mpr hmem'))
    rw [mean, mean, hsum, hsum', length_leaveBestOut, length_leaveBestOut, h.sum_eq, h.length_eq, heq]

variable [IsStrictOrderedRing α]

theorem sum_mono (h : List.Forall₂ (· ≤ ·) l m) : l.sum ≤ m.sum := List.Forall₂.sum_le_sum h

theorem mean_mono (h : List.Forall₂ (· ≤ ·) l m) : mean l ≤ mean m := by
  rw [mean, mean, h.length_eq]
  exact div_le_div_of_nonneg_right (sum_mono h) (Nat.cast_nonneg _)

theorem median_mono (h : List.Forall₂ (· ≤ ·) l m) : median l ≤ median m := by
  have hsort := insertionSort_mono h
  simp only [median, hsort.length_eq]
  split
  · exact getD_mono hsort _ 0
  · exact div_le_div_of_nonneg_right (add_le_add (getD_mono hsort _ 0) (getD_mono hsort _ 0))
      zero_le_two

/-- No value is raised by more than the sum. -/
theorem sub_le_sum_sub (h : List.Forall₂ (· ≤ ·) l m) (i : ℕ) :
    m.getD i 0 - l.getD i 0 ≤ m.sum - l.sum := by
  induction h generalizing i with
  | nil => simp
  | @cons a b l m hab hrest ih =>
    have hsum := sum_mono hrest
    rw [List.sum_cons, List.sum_cons]
    cases i with
    | zero =>
      rw [List.getD_cons_zero, List.getD_cons_zero]
      linarith
    | succ i =>
      have hstep := ih i
      rw [List.getD_cons_succ, List.getD_cons_succ]
      linarith

theorem mean_leaveBestOut_mono (h : List.Forall₂ (· ≤ ·) l m) :
    mean (leaveBestOut l) ≤ mean (leaveBestOut m) := by
  rcases eq_or_ne m [] with rfl | hne
  · rw [List.forall₂_nil_right_iff.mp h]
  · have hne' : l ≠ [] := by
      rintro rfl
      exact hne (List.forall₂_nil_left_iff.mp h)
    obtain ⟨best, -, hle, hsum⟩ := sum_leaveBestOut hne'
    obtain ⟨hlt, -⟩ := bestIndex_spec hne
    -- what is left out of the raised list stood at most as high before as the best value
    have hold : l.getD (bestIndex m) 0 ≤ best := by
      have hlt' : bestIndex m < l.length := h.length_eq ▸ hlt
      rw [List.getD_eq_getElem l 0 hlt']
      exact hle _ (List.getElem_mem hlt')
    have hraised := sub_le_sum_sub h (bestIndex m)
    have hsum' : (leaveBestOut m).sum = m.sum - m.getD (bestIndex m) 0 := sum_eraseIdx hlt
    rw [mean, mean, hsum, hsum', length_leaveBestOut, length_leaveBestOut, h.length_eq]
    exact div_le_div_of_nonneg_right (by linarith) (Nat.cast_nonneg _)

end Means

end EsscherMarket.Lib
