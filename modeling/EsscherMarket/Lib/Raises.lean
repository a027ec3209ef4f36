import EsscherMarket.Lib.Txn

/-!
# What a computation raises

`RaisesOnly P x`: whatever `x` raises is a `P`.  The rules go through a body statement by statement.
-/

namespace EsscherMarket.Lib

section Raises

variable {ε ε' α β : Type} {P : ε → Prop} {x : Except ε α}

def RaisesOnly (P : ε → Prop) (x : Except ε α) : Prop := ∀ e, x = .error e → P e

theorem raisesOnly_ok (a : α) : RaisesOnly P (.ok a) := fun _ h => by cases h

theorem raisesOnly_error {e : ε} (h : P e) : RaisesOnly P (.error e : Except ε α) := by
  rintro e' h'
  cases h'
  exact h

theorem RaisesOnly.bind {g : α → Except ε β} (hx : RaisesOnly P x)
    (hg : ∀ a, x = .ok a → RaisesOnly P (g a)) : RaisesOnly P (x >>= g) := by
  intro e h
  cases hcase : x with
  | ok a =>
    rw [hcase] at h
    exact hg a hcase e h
  | error e' =>
    rw [hcase] at h
    cases h
    exact hx _ hcase

theorem raisesOnly_throwIf {c : Prop} [Decidable c] {e : ε} (h : P e) :
    RaisesOnly P (throwIf c e) := by
  rw [throwIf]
  split
  · exact raisesOnly_error h
  · exact raisesOnly_ok ()

/-- A statement that raises nothing where it stands. -/
theorem raisesOnly_throwIf_of_not {c : Prop} [Decidable c] {e : ε} (h : ¬ c) :
    RaisesOnly P (throwIf c e) := by
  rw [throwIf, if_neg h]
  exact raisesOnly_ok ()

theorem raisesOnly_mapError {g : ε' → ε} {y : Except ε' α} (h : ∀ e, P (g e)) :
    RaisesOnly P (y.mapError g) := by
  cases y with
  | ok a => exact raisesOnly_ok a
  | error e => exact raisesOnly_error (h e)

theorem raisesOnly_mapM {f : α → Except ε β} {xs : List α} (h : ∀ a ∈ xs, RaisesOnly P (f a)) :
    RaisesOnly P (xs.mapM f) := by
  induction xs with
  | nil => exact raisesOnly_ok []
  | cons a rest ih =>
    rw [List.mapM_cons]
    exact (h a List.mem_cons_self).bind fun _ _ =>
      (ih fun b hb => h b (List.mem_cons_of_mem a hb)).bind fun _ _ => raisesOnly_ok _

end Raises

end EsscherMarket.Lib
