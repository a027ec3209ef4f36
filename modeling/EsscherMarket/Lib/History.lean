import Mathlib.Data.List.Induction
import EsscherMarket.Lib.Prog

/-!
# Programs with their histories

A monitor that remembers every call with its answer.  What is safe under it is known of the calls
of every run (`Safe.ok_of_trace`) and of what a run that returns was told (`Safe.of_trace`).  Where
a kind of call is allowed only in a history without one, a run makes at most one of them
(`Safe.countP_le_one`).
-/

namespace EsscherMarket.Lib

namespace Prog

variable {S : Signature} {ε α β σ : Type}

/-- The calls so far, with their answers; `allowed` says which call may come next. -/
def history (allowed : List ((op : S.Op) × S.Res op) → S.Op → Prop) :
    Monitor S (List ((op : S.Op) × S.Res op)) where
  next calls op answer := calls ++ [⟨op, answer⟩]
  ok := allowed

section History

variable {allowed : List ((op : S.Op) × S.Res op) → S.Op → Prop}
  {answer : (op : S.Op) → σ → S.Res op × σ} {p : Prog S ε α} {s : σ}
  {R : List ((op : S.Op) × S.Res op) → α → Prop} {calls : List ((op : S.Op) × S.Res op)}

theorem Safe.ok_of_trace (h : Safe (history allowed) calls p R) :
    ∀ before c after, trace answer p s = before ++ c :: after → allowed (calls ++ before) c.1 := by
  induction p generalizing calls s with
  | done a =>
    intro before c after htrace
    exact absurd htrace.symm (by simp [trace])
  | raise e =>
    intro before c after htrace
    exact absurd htrace.symm (by simp [trace])
  | call op k ih =>
    intro before c after htrace
    rw [trace] at htrace
    cases before with
    | nil =>
      rw [List.nil_append, List.cons.injEq] at htrace
      rw [← htrace.1, List.append_nil]
      exact h.ok_of_call
    | cons b before =>
      rw [List.cons_append, List.cons.injEq] at htrace
      have hrest := ih _ (h.of_call _) before c after htrace.2
      rw [← htrace.1]
      simpa [history] using hrest

theorem Safe.of_trace (h : Safe (history allowed) calls p R) {a : α}
    (hrun : (run answer p s).1 = .ok a) : R (calls ++ trace answer p s) a := by
  induction p generalizing calls s with
  | done b =>
    cases hrun
    rw [trace, List.append_nil]
    with_unfolding_all exact h
  | raise e => cases hrun
  | call op k ih =>
    have hrest := ih _ (h.of_call _) hrun
    rw [trace]
    simpa [history] using hrest

/-- At most once. -/
theorem Safe.countP_le_one {P : S.Op → Bool}
    (hallowed : ∀ calls op, allowed calls op → P op = true → (calls.countP fun c => P c.1) = 0)
    (h : Safe (history allowed) [] p R) : ((trace answer p s).countP fun c => P c.1) ≤ 1 := by
  have hclean : ∀ before c after, trace answer p s = before ++ c :: after →
      allowed ([] ++ before) c.1 := h.ok_of_trace
  generalize trace answer p s = tr at hclean
  induction tr using List.reverseRecOn with
  | nil => exact Nat.zero_le 1
  | append_singleton before c ih =>
    rw [List.countP_append, List.countP_singleton]
    by_cases hc : P c.1 = true
    · have hzero := hallowed _ c.1 (hclean before c [] rfl) hc
      rw [List.nil_append] at hzero
      exact Nat.le_of_eq (by rw [hzero, if_pos hc])
    · rw [if_neg hc]
      refine ih fun before' c' after htrace => hclean before' c' (after ++ [c]) ?_
      rw [htrace]
      simp

theorem safe_raiseIf {T : Type} {M : Monitor S T} {t : T} {R : T → Unit → Prop} {c : Prop}
    [Decidable c] {e : ε} (h : ¬ c → R t ()) : Safe M t (raiseIf c e) R := by
  by_cases hc : c
  · rw [raiseIf, if_pos hc]
    exact safe_raise e
  · rw [raiseIf, if_neg hc]
    exact safe_pure (h hc)

theorem safe_history_perform {op : S.Op} (h : allowed calls op) :
    Safe (history allowed) calls (perform op : Prog S ε (S.Res op)) fun calls' answer =>
      calls' = calls ++ [⟨op, answer⟩] :=
  safe_perform h fun _ => rfl

end History

end Prog

end EsscherMarket.Lib
