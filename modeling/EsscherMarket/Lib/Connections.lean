import Mathlib.Logic.Relation
import EsscherMarket.Lib.Prog

/-!
# Calls over a shared store

Connections that share a store.  Each makes one call after the other; a call is a program, and
between two of its operations the other connections may change the store.
-/

namespace EsscherMarket.Lib

/-- A store that programs share: they use the allowed operations, which keep the invariant and
change it as `later` says. -/
structure Shared (S : Signature) (σ : Type) where
  effect : (op : S.Op) → σ → S.Res op → σ → Prop
  allowed : S.Op → Prop
  invariant : σ → Prop
  later : σ → σ → Prop
  refl : ∀ s, later s s
  trans : ∀ {s s' s''}, later s s' → later s' s'' → later s s''
  keeps : ∀ {op s r s'}, allowed op → invariant s → effect op s r s' → invariant s' ∧ later s s'

/-- A call under way: the store when it began, whether an operation of it has changed the store, and
the rest of its program. -/
structure Call (S : Signature) (ε α σ κ : Type) where
  request : κ
  started : σ
  changed : Bool
  rest : Prog S ε α

/-- The store, and the latest call of every connection. -/
structure Connections (S : Signature) (ε α σ κ ι : Type) where
  store : σ
  call : ι → Option (Call S ε α σ κ)

namespace Shared

variable {S : Signature} {ε α β σ κ ι : Type} [DecidableEq σ] (D : Shared S σ)

/-! ### One call -/

/-- Begun in `s`, the program uses allowed operations only and ends as `post` says of the last
store, of whether it was changed and of the result. -/
def Meets (post : σ → Bool → Except ε α → Prop) : Prog S ε α → σ → Bool → Prop
  | .done a, s, changed => post s changed (.ok a)
  | .raise e, s, changed => post s changed (.error e)
  | .call op k, s, changed => D.allowed op ∧ ∀ s₁ r s₂, D.later s s₁ → D.invariant s₁ →
      D.effect op s₁ r s₂ → Meets post (k r) s₂ (changed || decide (s₂ ≠ s₁))

variable {D} {post : σ → Bool → Except ε β → Prop} {p : Prog S ε α} {f : α → Prog S ε β}
  {s : σ} {changed : Bool}

theorem meets_pure {post : σ → Bool → Except ε α → Prop} {a : α} (h : post s changed (.ok a)) :
    D.Meets post (pure a) s changed := h

theorem meets_raise {post : σ → Bool → Except ε α → Prop} {e : ε}
    (h : post s changed (.error e)) : D.Meets post (.raise e) s changed := h

theorem meets_ofExcept_bind {x : Except ε α} (herror : ∀ e, x = .error e → post s changed (.error e))
    (hok : ∀ a, x = .ok a → D.Meets post (f a) s changed) :
    D.Meets post (Prog.ofExcept x >>= f) s changed := by
  cases x with
  | error e => exact herror e rfl
  | ok a => exact hok a rfl

theorem meets_raiseIf_bind {c : Prop} [Decidable c] {e : ε} {k : Unit → Prog S ε β}
    (herror : c → post s changed (.error e)) (hok : ¬c → D.Meets post (k ()) s changed) :
    D.Meets post (Prog.raiseIf c e >>= k) s changed := by
  rw [Prog.raiseIf]
  by_cases hc : c
  · rw [if_pos hc]
    exact herror hc
  · rw [if_neg hc]
    exact hok hc

theorem Meets.run {post : σ → Bool → Except ε α → Prop} {answer : (op : S.Op) → σ → S.Res op × σ}
    (h : D.Meets post p s changed)
    (hanswer : ∀ op s, D.effect op s (answer op s).1 (answer op s).2) (hs : D.invariant s) :
    ∃ changed', post (p.run answer s).2 changed' (p.run answer s).1 := by
  induction p generalizing s changed with
  | done a => exact ⟨changed, h⟩
  | raise e => exact ⟨changed, h⟩
  | call op k ih =>
    have heffect := hanswer op s
    exact ih _ (h.2 s _ _ (D.refl s) hs heffect) (D.keeps h.1 hs heffect).1

/-! ### Runs -/

variable [DecidableEq ι] (D) (program : κ → Prog S ε α)

/-- A connection begins a call, or the store answers the next operation of its call, which may be
the last. -/
inductive Step (p : Connections S ε α σ κ ι) : Connections S ε α σ κ ι → Prop where
  | begin (i : ι) (request : κ) : Step p
      ⟨p.store, Function.update p.call i (some ⟨request, p.store, false, program request⟩)⟩
  | answer {i : ι} {c : Call S ε α σ κ} {op : S.Op} {k : S.Res op → Prog S ε α} {r : S.Res op}
      {s : σ} (hcall : p.call i = some c) (hrest : c.rest = .call op k)
      (heffect : D.effect op p.store r s) : Step p
      ⟨s, Function.update p.call i
        (some ⟨c.request, c.started, c.changed || decide (s ≠ p.store), k r⟩)⟩

abbrev Runs : Connections S ε α σ κ ι → Connections S ε α σ κ ι → Prop :=
  Relation.ReflTransGen (D.Step program)

def Connections.idle (s : σ) : Connections S ε α σ κ ι := ⟨s, fun _ => none⟩

variable {program} {D} {p q : Connections S ε α σ κ ι} {post : κ → σ → σ → Bool → Except ε α → Prop}

/-- The store is as it should be, and so is the rest of every call, from a store that the call has
seen. -/
structure Good (D : Shared S σ) (post : κ → σ → σ → Bool → Except ε α → Prop)
    (p : Connections S ε α σ κ ι) : Prop where
  invariant : D.invariant p.store
  call : ∀ i c, p.call i = some c → D.later c.started p.store ∧ ∃ s, D.later s p.store ∧
    D.Meets (post c.request c.started) c.rest s c.changed

omit [DecidableEq ι] in
theorem good_idle {s : σ} (h : D.invariant s) : 
    Good D post (Connections.idle s : Connections S ε α σ κ ι) :=
  ⟨h, fun _ _ hcall => nomatch hcall⟩

theorem Step.good (h : Step D program p q) (hp : Good D post p)
    (hprogram : ∀ request s, D.invariant s →
      D.Meets (post request s) (program request) s false) :
    Good D post q ∧ D.later p.store q.store := by
  cases h with
  | begin i request =>
    refine ⟨⟨hp.invariant, ?_⟩, D.refl _⟩
    intro j c hc
    dsimp only at hc ⊢
    by_cases hj : j = i
    · subst hj
      rw [Function.update_self, Option.some_inj] at hc
      subst hc
      exact ⟨D.refl _, p.store, D.refl _, hprogram request p.store hp.invariant⟩
    · rw [Function.update_of_ne hj] at hc
      exact hp.call j c hc
  | @answer i c op k r s hcall hrest heffect =>
    obtain ⟨hstarted, s₀, hlater, hmeets⟩ := hp.call i c hcall
    rw [hrest] at hmeets
    obtain ⟨hallowed, hnext⟩ := hmeets
    obtain ⟨hinv, hstep⟩ := D.keeps hallowed hp.invariant heffect
    refine ⟨⟨hinv, ?_⟩, hstep⟩
    intro j c' hc'
    dsimp only at hc' ⊢
    by_cases hj : j = i
    · subst hj
      rw [Function.update_self, Option.some_inj] at hc'
      subst hc'
      exact ⟨D.trans hstarted hstep, s, D.refl _, hnext _ _ _ hlater hp.invariant heffect⟩
    · rw [Function.update_of_ne hj] at hc'
      obtain ⟨hstarted', s₁, hlater', hmeets'⟩ := hp.call j c' hc'
      exact ⟨D.trans hstarted' hstep, s₁, D.trans hlater' hstep, hmeets'⟩

/-- Where every call alone ends as it should, so does every call of every run. -/
theorem Runs.good (h : Runs D program p q) (hp : Good D post p)
    (hprogram : ∀ request s, D.invariant s →
      D.Meets (post request s) (program request) s false) :
    Good D post q ∧ D.later p.store q.store := by
  induction h with
  | refl => exact ⟨hp, D.refl _⟩
  | tail hruns hstep ih =>
    obtain ⟨hgood, hlater⟩ := ih
    obtain ⟨hgood', hlater'⟩ := Step.good hstep hgood hprogram
    exact ⟨hgood', D.trans hlater hlater'⟩

omit [DecidableEq ι] in
theorem Good.ended (h : Good D post p) {i : ι} {c : Call S ε α σ κ} (hcall : p.call i = some c)
    {r : Except ε α} (hended : c.rest = Prog.ofExcept r) :
    ∃ s, D.later s p.store ∧ post c.request c.started s c.changed r := by
  obtain ⟨-, s, hlater, hmeets⟩ := h.call i c hcall
  rw [hended] at hmeets
  cases r with
  | ok a => exact ⟨s, hlater, hmeets⟩
  | error e => exact ⟨s, hlater, hmeets⟩

end Shared

end EsscherMarket.Lib
