import Mathlib.Logic.Function.Basic

/-!
# Programs that call a shared store, and their interleavings

A program is a tree of calls of atomic operations.  `Pool.Step` and `Pool.Reach` run it as one of any
number of threads that share a store, in any order; one that is not scheduled again has crashed.

The state of a `Monitor` is what one program has been told so far, and `ok` says which calls are
allowed then.  `Prog.Safe` says that a program makes those only, and `Pool.Reach.obeys` carries it to
every interleaving.
-/

namespace EsscherMarket.Lib

/-- Operations and the type of each one's response. -/
structure Signature where
  Op : Type
  Res : Op → Type

/-- A program over the operations of `S` that may raise `ε`. -/
inductive Prog (S : Signature) (ε α : Type) : Type where
  | done (a : α)
  | raise (e : ε)
  | call (op : S.Op) (k : S.Res op → Prog S ε α)

namespace Prog

variable {S : Signature} {ε α β σ T : Type}

def bind : Prog S ε α → (α → Prog S ε β) → Prog S ε β
  | done a, f => f a
  | raise e, _ => raise e
  | call op k, f => call op fun r => (k r).bind f

instance : Monad (Prog S ε) where
  pure := done
  bind := bind

theorem bind_done (p : Prog S ε α) : p >>= done = p := by
  induction p with
  | done a => rfl
  | raise e => rfl
  | call op k ih => exact congrArg (call op) (funext ih)

theorem bind_assoc {γ : Type} (p : Prog S ε α) (f : α → Prog S ε β) (g : β → Prog S ε γ) :
    p >>= f >>= g = p >>= fun a => f a >>= g := by
  induction p with
  | done a => rfl
  | raise e => rfl
  | call op k ih => exact congrArg (call op) (funext ih)

def perform (op : S.Op) : Prog S ε (S.Res op) := call op done

def raiseIf (c : Prop) [Decidable c] (e : ε) : Prog S ε Unit := if c then raise e else done ()

def ofExcept : Except ε α → Prog S ε α
  | .ok a => done a
  | .error e => raise e

/-- `try p except e: handler e`. -/
def tryCatch : Prog S ε α → (ε → Prog S ε α) → Prog S ε α
  | done a, _ => done a
  | raise e, handler => handler e
  | call op k, handler => call op fun r => (k r).tryCatch handler

/-- The outcome of a program that may raise, as a value. -/
def attempt {ε' : Type} : Prog S ε α → Prog S ε' (Except ε α)
  | done a => done (.ok a)
  | raise e => done (.error e)
  | call op k => call op fun r => (k r).attempt

/-- A program whose exceptions are translated. -/
def mapError {ε' : Type} (f : ε → ε') (p : Prog S ε α) : Prog S ε' α := do
  match ← p.attempt with
  | .ok a => done a
  | .error e => raise (f e)

/-- Run alone against a store that answers by a function. -/
def run (answer : (op : S.Op) → σ → S.Res op × σ) : Prog S ε α → σ → Except ε α × σ
  | done a, s => (.ok a, s)
  | raise e, s => (.error e, s)
  | call op k, s => run answer (k (answer op s).1) (answer op s).2

/-! ### Running a program alone -/

section Run

variable {answer : (op : S.Op) → σ → S.Res op × σ} {s s' : σ} {a : α} {f : α → Prog S ε β}
  {y : Except ε β × σ}

theorem run_perform_bind {op : S.Op} {k : S.Res op → Prog S ε β}
    (h : run answer (k (answer op s).1) (answer op s).2 = y) :
    run answer (perform op >>= k) s = y := h

theorem run_ofExcept_bind {x : Except ε α} (hx : x = .ok a) (h : run answer (f a) s = y) :
    run answer (ofExcept x >>= f) s = y := by
  subst hx
  exact h

theorem run_ofExcept (x : Except ε α) : run answer (ofExcept x) s = (x, s) := by
  cases x with
  | ok a => rfl
  | error e => rfl

theorem run_raiseIf_bind {c : Prop} [Decidable c] {e : ε} {k : Unit → Prog S ε β} (hc : ¬ c)
    (h : run answer (k ()) s = y) : run answer (raiseIf c e >>= k) s = y := by
  rw [raiseIf, if_neg hc]
  exact h

/-- A first part that returns. -/
theorem run_bind {p : Prog S ε α} (hp : run answer p s = (.ok a, s'))
    (h : run answer (f a) s' = y) : run answer (p >>= f) s = y := by
  induction p generalizing s with
  | done b =>
    cases hp
    exact h
  | raise e => cases hp
  | call op k ih => exact ih (answer op s).1 hp

theorem run_tryCatch {p : Prog S ε α} {handler : ε → Prog S ε α}
    (hp : run answer p s = (.ok a, s')) : run answer (p.tryCatch handler) s = (.ok a, s') := by
  induction p generalizing s with
  | done b => exact hp
  | raise e => cases hp
  | call op k ih => exact ih (answer op s).1 hp

theorem run_attempt {ε' : Type} (p : Prog S ε α) :
    run answer (p.attempt : Prog S ε' (Except ε α)) s =
      (.ok (run answer p s).1, (run answer p s).2) := by
  induction p generalizing s with
  | done a => rfl
  | raise e => rfl
  | call op k ih => exact ih (answer op s).1

theorem run_attempt_of {δ : Type} {p : Prog S ε α} {r : Except ε α}
    (hp : run answer p s = (r, s')) :
    run answer (p.attempt : Prog S δ (Except ε α)) s = (.ok r, s') := by
  rw [run_attempt, hp]

theorem run_mapError {ε' : Type} {g : ε → ε'} {p : Prog S ε α}
    (hp : run answer p s = (.ok a, s')) : run answer (p.mapError g) s = (.ok a, s') := by
  induction p generalizing s with
  | done b =>
    cases hp
    rfl
  | raise e => cases hp
  | call op k ih => exact ih (answer op s).1 hp

/-! What a program that returned has gone through. -/

theorem run_mapError_ok {ε' : Type} {g : ε → ε'} {p : Prog S ε α}
    (h : run answer (p.mapError g) s = (.ok a, s')) : run answer p s = (.ok a, s') := by
  induction p generalizing s with
  | done b =>
    cases h
    rfl
  | raise e => cases h
  | call op k ih => exact ih (answer op s).1 h

theorem run_ofExcept_ok {x : Except ε α} (h : run answer (ofExcept x) s = (.ok a, s')) :
    x = .ok a := by
  cases x with
  | ok b =>
    cases h
    rfl
  | error e => cases h

theorem run_ofExcept_bind_ok {x : Except ε α} {b : β}
    (h : run answer (ofExcept x >>= f) s = (.ok b, s')) :
    ∃ a, x = .ok a ∧ run answer (f a) s = (.ok b, s') := by
  cases x with
  | ok a => exact ⟨a, rfl, h⟩
  | error e => cases h

theorem run_raiseIf_bind_ok {c : Prop} [Decidable c] {e : ε} {k : Unit → Prog S ε β} {b : β}
    (h : run answer (raiseIf c e >>= k) s = (.ok b, s')) :
    ¬ c ∧ run answer (k ()) s = (.ok b, s') := by
  by_cases hc : c
  · rw [raiseIf, if_pos hc] at h
    cases h
  · rw [raiseIf, if_neg hc] at h
    exact ⟨hc, h⟩

theorem run_bind_ok {p : Prog S ε α} {b : β} (h : run answer (p >>= f) s = (.ok b, s')) :
    ∃ a s₁, run answer p s = (.ok a, s₁) ∧ run answer (f a) s₁ = (.ok b, s') := by
  induction p generalizing s with
  | done a => exact ⟨a, s, rfl, h⟩
  | raise e => cases h
  | call op k ih => exact ih (answer op s).1 h

/-- A `try` that returned did so in its body, or in its handler. -/
theorem run_tryCatch_ok {p : Prog S ε α} {handler : ε → Prog S ε α}
    (h : run answer (p.tryCatch handler) s = (.ok a, s')) :
    run answer p s = (.ok a, s') ∨ ∃ e s₁, run answer (handler e) s₁ = (.ok a, s') := by
  induction p generalizing s with
  | done b => exact .inl h
  | raise e => exact .inr ⟨e, s, h⟩
  | call op k ih => exact ih (answer op s).1 h

/-! The calls of a program that returned, with the answers it got. -/

def trace (answer : (op : S.Op) → σ → S.Res op × σ) :
    Prog S ε α → σ → List ((op : S.Op) × S.Res op)
  | done _, _ => []
  | raise _, _ => []
  | call op k, s => ⟨op, (answer op s).1⟩ :: trace answer (k (answer op s).1) (answer op s).2

/-- Every answer of a run is one that the store gives in some state. -/
theorem exists_of_mem_trace {p : Prog S ε α} {c : (op : S.Op) × S.Res op}
    (hc : c ∈ trace answer p s) : ∃ s₁, c.2 = (answer c.1 s₁).1 := by
  induction p generalizing s with
  | done a => cases hc
  | raise e => cases hc
  | call op k ih =>
    rcases List.mem_cons.mp hc with rfl | hc
    · exact ⟨s, rfl⟩
    · exact ih (answer op s).1 hc

/-- The program returned `a` after the calls `tr`. -/
structure Ran (answer : (op : S.Op) → σ → S.Res op × σ) (p : Prog S ε α) (s : σ) (a : α) (s' : σ)
    (tr : List ((op : S.Op) × S.Res op)) : Prop where
  result : run answer p s = (.ok a, s')
  calls : trace answer p s = tr

section Ran

variable {p : Prog S ε α} {b : β} {tr : List ((op : S.Op) × S.Res op)}

theorem ran_of_run (h : run answer p s = (.ok a, s')) : Ran answer p s a s' (trace answer p s) :=
  ⟨h, rfl⟩

theorem Ran.of_bind (h : Ran answer (p >>= f) s b s' tr) :
    ∃ a s₁ tr₁ tr₂, Ran answer p s a s₁ tr₁ ∧ Ran answer (f a) s₁ b s' tr₂ ∧ tr = tr₁ ++ tr₂ := by
  obtain ⟨hrun, rfl⟩ := h
  induction p generalizing s with
  | done a => exact ⟨a, s, [], _, ⟨rfl, rfl⟩, ⟨hrun, rfl⟩, rfl⟩
  | raise e => cases hrun
  | call op k ih =>
    obtain ⟨a, s₁, tr₁, tr₂, hp, hf, htr⟩ := ih (answer op s).1 hrun
    exact ⟨a, s₁, _ :: tr₁, tr₂, ⟨hp.result, congrArg _ hp.calls⟩, hf, congrArg _ htr⟩

theorem Ran.of_perform_bind {op : S.Op} {k : S.Res op → Prog S ε β}
    (h : Ran answer (perform op >>= k) s b s' tr) :
    ∃ tr', Ran answer (k (answer op s).1) (answer op s).2 b s' tr' ∧
      tr = ⟨op, (answer op s).1⟩ :: tr' :=
  ⟨_, ⟨h.result, rfl⟩, h.calls.symm⟩

theorem Ran.of_ofExcept_bind {x : Except ε α} (h : Ran answer (ofExcept x >>= f) s b s' tr) :
    ∃ a, x = .ok a ∧ Ran answer (f a) s b s' tr := by
  cases x with
  | ok a => exact ⟨a, rfl, h⟩
  | error e => cases h.result

theorem Ran.of_raiseIf_bind {c : Prop} [Decidable c] {e : ε} {k : Unit → Prog S ε β}
    (h : Ran answer (raiseIf c e >>= k) s b s' tr) : ¬ c ∧ Ran answer (k ()) s b s' tr := by
  by_cases hc : c
  · rw [raiseIf, if_pos hc] at h
    cases h.result
  · rw [raiseIf, if_neg hc] at h
    exact ⟨hc, h⟩

theorem Ran.of_ofExcept {x : Except ε α} (h : Ran answer (ofExcept x) s a s' tr) : x = .ok a :=
  run_ofExcept_ok h.result

theorem Ran.of_raiseIf {c : Prop} [Decidable c] {e : ε} {u : Unit}
    (h : Ran answer (raiseIf c e) s u s' tr) : ¬ c ∧ s' = s := by
  by_cases hc : c
  · rw [raiseIf, if_pos hc] at h
    cases h.result
  · rw [raiseIf, if_neg hc] at h
    cases h.result
    exact ⟨hc, rfl⟩

end Ran

/-! Where a program that runs alone ends, whether it returns or raises. -/

def Ends (answer : (op : S.Op) → σ → S.Res op × σ) (p : Prog S ε α) (s : σ)
    (Q : Except ε α → σ → Prop) : Prop :=
  Q (run answer p s).1 (run answer p s).2

section Ends

variable {p : Prog S ε α} {Q Q' : Except ε α → σ → Prop} {R : Except ε β → σ → Prop}

theorem ends_of_run {r : Except ε α} (hp : run answer p s = (r, s')) (h : Q r s') :
    Ends answer p s Q := by
  unfold Ends
  rw [hp]
  exact h

theorem Ends.of_run {r : Except ε α} (h : Ends answer p s Q) (hp : run answer p s = (r, s')) :
    Q r s' := by
  unfold Ends at h
  rw [hp] at h
  exact h

theorem ends_pure (h : Q (.ok a) s) : Ends answer (pure a) s Q := h

theorem Ends.mono (h : Ends answer p s Q) (hQ : ∀ r s', Q r s' → Q' r s') :
    Ends answer p s Q' :=
  hQ _ _ h

/-- Sequencing, in a run that may raise. -/
theorem ends_bind (hp : Ends answer p s Q)
    (hf : ∀ a s', Q (.ok a) s' → Ends answer (f a) s' R)
    (he : ∀ e s', Q (.error e) s' → R (.error e) s') : Ends answer (p >>= f) s R := by
  induction p generalizing s with
  | done b => exact hf b s hp
  | raise e => exact he e s hp
  | call op k ih => exact ih (answer op s).1 hp

theorem ends_perform_bind {op : S.Op} {k : S.Res op → Prog S ε β}
    (h : Ends answer (k (answer op s).1) (answer op s).2 R) :
    Ends answer (perform op >>= k) s R := h

theorem ends_ofExcept_bind {x : Except ε α} (hok : ∀ a, x = .ok a → Ends answer (f a) s R)
    (herr : ∀ e, x = .error e → R (.error e) s) : Ends answer (ofExcept x >>= f) s R := by
  cases x with
  | ok a => exact hok a rfl
  | error e => exact herr e rfl

theorem ends_ofExcept_bind_ok {x : Except ε α} (hx : x = .ok a) (h : Ends answer (f a) s R) :
    Ends answer (ofExcept x >>= f) s R := by
  subst hx
  exact h

end Ends

def EndsAfter (answer : (op : S.Op) → σ → S.Res op × σ) (p : Prog S ε α) (s : σ)
    (Q : Except ε α → σ → List ((op : S.Op) × S.Res op) → Prop) : Prop :=
  Q (run answer p s).1 (run answer p s).2 (trace answer p s)

section EndsAfter

variable {p : Prog S ε α} {Q Q' : Except ε α → σ → List ((op : S.Op) × S.Res op) → Prop}
  {R : Except ε β → σ → List ((op : S.Op) × S.Res op) → Prop}

theorem EndsAfter.mono (h : EndsAfter answer p s Q) (hQ : ∀ r s' tr, Q r s' tr → Q' r s' tr) :
    EndsAfter answer p s Q' :=
  hQ _ _ _ h

/-- A program that returns has made its calls. -/
theorem EndsAfter.ran (h : EndsAfter answer p s Q) : EndsAfter answer p s fun r s' tr =>
    Q r s' tr ∧ ∀ a, r = .ok a → Ran answer p s a s' tr :=
  ⟨h, fun _ ha => ⟨Prod.ext ha rfl, rfl⟩⟩

/-- Sequencing, with the calls of both parts. -/
theorem endsAfter_bind (hp : EndsAfter answer p s Q)
    (hf : ∀ a s' tr, Q (.ok a) s' tr →
      EndsAfter answer (f a) s' fun r s'' tr' => R r s'' (tr ++ tr'))
    (he : ∀ e s' tr, Q (.error e) s' tr → R (.error e) s' tr) :
    EndsAfter answer (p >>= f) s R := by
  induction p generalizing s Q R with
  | done b => exact hf b s [] hp
  | raise e => exact he e s [] hp
  | call op k ih =>
    exact ih (answer op s).1 (s := (answer op s).2)
      (Q := fun r s' tr => Q r s' (⟨op, (answer op s).1⟩ :: tr))
      (R := fun r s' tr => R r s' (⟨op, (answer op s).1⟩ :: tr)) hp
      (fun a s' tr h => hf a s' (_ :: tr) h) fun e s' tr h => he e s' (_ :: tr) h

theorem endsAfter_ofExcept_bind {x : Except ε α}
    (hok : ∀ a, x = .ok a → EndsAfter answer (f a) s R)
    (herr : ∀ e, x = .error e → R (.error e) s []) :
    EndsAfter answer (ofExcept x >>= f) s R := by
  cases x with
  | ok a => exact hok a rfl
  | error e => exact herr e rfl

end EndsAfter

end Run

/-! ### The operations a program uses -/

/-- Every call of the program satisfies `A`, whatever the responses. -/
def Uses (A : S.Op → Prop) : Prog S ε α → Prop
  | done _ => True
  | raise _ => True
  | call op k => A op ∧ ∀ r, Uses A (k r)

section Uses

variable {A : S.Op → Prop} {f : α → Prog S ε β}

theorem uses_pure (a : α) : Uses A (pure a : Prog S ε α) := trivial

theorem uses_raise (e : ε) : Uses A (raise e : Prog S ε α) := trivial

theorem uses_ofExcept (x : Except ε α) : Uses A (ofExcept x) := by
  cases x with
  | ok a => exact uses_pure a
  | error e => exact uses_raise e

theorem uses_raiseIf (c : Prop) [Decidable c] (e : ε) : Uses A (raiseIf c e : Prog S ε Unit) := by
  by_cases hc : c
  · rw [raiseIf, if_pos hc]
    trivial
  · rw [raiseIf, if_neg hc]
    trivial

theorem uses_perform {op : S.Op} (h : A op) : Uses A (perform op : Prog S ε (S.Res op)) :=
  ⟨h, fun r => uses_pure r⟩

theorem Uses.bind {p : Prog S ε α} (hp : Uses A p) (hf : ∀ a, Uses A (f a)) :
    Uses A (p >>= f) := by
  induction p with
  | done a => exact hf a
  | raise e => trivial
  | call op k ih => exact ⟨hp.1, fun r => ih r (hp.2 r)⟩

theorem Uses.tryCatch {p : Prog S ε α} {handler : ε → Prog S ε α} (hp : Uses A p)
    (hhandler : ∀ e, Uses A (handler e)) : Uses A (p.tryCatch handler) := by
  induction p with
  | done a => trivial
  | raise e => exact hhandler e
  | call op k ih => exact ⟨hp.1, fun r => ih r (hp.2 r)⟩

theorem Uses.mono {B : S.Op → Prop} {p : Prog S ε α} (hp : Uses A p) (h : ∀ op, A op → B op) :
    Uses B p := by
  induction p with
  | done a => trivial
  | raise e => trivial
  | call op k ih => exact ⟨h op hp.1, fun r => ih r (hp.2 r)⟩

theorem Uses.mem_trace {answer : (op : S.Op) → σ → S.Res op × σ} {p : Prog S ε α} {s : σ}
    {c : (op : S.Op) × S.Res op} (hp : Uses A p) (hc : c ∈ trace answer p s) : A c.1 := by
  induction p generalizing s with
  | done a => cases hc
  | raise e => cases hc
  | call op k ih =>
    rcases List.mem_cons.mp hc with rfl | hc
    · exact hp.1
    · exact ih (answer op s).1 (hp.2 _) hc

theorem uses_true (p : Prog S ε α) : Uses (fun _ => True) p := by
  induction p with
  | done a => trivial
  | raise e => trivial
  | call op k ih => exact ⟨trivial, ih⟩

/-- What every operation of a program keeps, the program keeps. -/
theorem Uses.run_inv {answer : (op : S.Op) → σ → S.Res op × σ} {J : σ → Prop} {p : Prog S ε α}
    {s : σ} (hp : Uses A p) (hkeep : ∀ op s, A op → J s → J (answer op s).2) (hs : J s) :
    J (run answer p s).2 := by
  induction p generalizing s with
  | done a => exact hs
  | raise e => exact hs
  | call op k ih => exact ih _ (hp.2 _) (hkeep op s hp.1 hs)

/-- What every operation of a program keeps, the program keeps; and it calls nothing else. -/
theorem Uses.endsAfter {answer : (op : S.Op) → σ → S.Res op × σ} {J : σ → Prop} {p : Prog S ε α}
    {s : σ} (hp : Uses A p) (hkeep : ∀ op s, A op → J s → J (answer op s).2) (hs : J s) :
    EndsAfter answer p s fun _ s' tr => J s' ∧ ∀ c ∈ tr, A c.1 :=
  ⟨hp.run_inv hkeep hs, fun _ hc => hp.mem_trace hc⟩

end Uses

/-! ### Runs whose calls are allowed -/

/-- Every call of the run satisfies `C` in the state in which it is made. -/
def Along (answer : (op : S.Op) → σ → S.Res op × σ) (C : S.Op → σ → Prop) :
    Prog S ε α → σ → Prop
  | done _, _ => True
  | raise _, _ => True
  | call op k, s => C op s ∧ Along answer C (k (answer op s).1) (answer op s).2

/-- A run whose calls satisfy `C` keeps `J`. -/
def Keeps (answer : (op : S.Op) → σ → S.Res op × σ) (C : S.Op → σ → Prop) (J : σ → Prop)
    (p : Prog S ε α) : Prop :=
  ∀ s, J s → Along answer C p s → J (run answer p s).2

section Along

variable {answer : (op : S.Op) → σ → S.Res op × σ} {C : S.Op → σ → Prop} {J : σ → Prop} {s s' : σ}
  {p : Prog S ε α} {f : α → Prog S ε β} {a : α}

theorem Along.left (h : Along answer C (p >>= f) s) : Along answer C p s := by
  induction p generalizing s with
  | done a => trivial
  | raise e => trivial
  | call op k ih => exact ⟨h.1, ih _ h.2⟩

theorem Along.right (h : Along answer C (p >>= f) s) (hp : run answer p s = (.ok a, s')) :
    Along answer C (f a) s' := by
  induction p generalizing s with
  | done b =>
    cases hp
    exact h
  | raise e => cases hp
  | call op k ih => exact ih _ h.2 hp

theorem along_bind (hp : Along answer C p s)
    (hf : ∀ a s', run answer p s = (.ok a, s') → Along answer C (f a) s') :
    Along answer C (p >>= f) s := by
  induction p generalizing s with
  | done a => exact hf a s rfl
  | raise e => trivial
  | call op k ih => exact ⟨hp.1, ih _ hp.2 hf⟩

theorem along_mapError {ε' : Type} {g : ε → ε'} (h : Along answer C p s) :
    Along answer C (p.mapError g) s := by
  induction p generalizing s with
  | done a => trivial
  | raise e => trivial
  | call op k ih => exact ⟨h.1, ih _ h.2⟩

theorem Along.of_perform_bind {op : S.Op} {k : S.Res op → Prog S ε β}
    (h : Along answer C (perform op >>= k) s) :
    C op s ∧ Along answer C (k (answer op s).1) (answer op s).2 := h

theorem Along.of_attempt {ε' : Type}
    (h : Along answer C (p.attempt : Prog S ε' (Except ε α)) s) : Along answer C p s := by
  induction p generalizing s with
  | done a => trivial
  | raise e => trivial
  | call op k ih => exact ⟨h.1, ih _ h.2⟩

theorem Along.of_mapError {ε' : Type} {g : ε → ε'} (h : Along answer C (p.mapError g) s) :
    Along answer C p s :=
  h.left.of_attempt

/-- The calls of a program without demands on them are allowed. -/
theorem Uses.along {A : S.Op → Prop} (hp : Uses A p) (h : ∀ op s, A op → C op s) :
    Along answer C p s := by
  induction p generalizing s with
  | done a => trivial
  | raise e => trivial
  | call op k ih => exact ⟨h op s hp.1, ih _ (hp.2 _)⟩

theorem keeps_pure (a : α) : Keeps answer C J (pure a : Prog S ε α) := fun _ hs _ => hs

theorem keeps_ofExcept (x : Except ε α) : Keeps answer C J (ofExcept x) := by
  cases x with
  | ok a => exact fun _ hs _ => hs
  | error e => exact fun _ hs _ => hs

theorem Uses.keeps {A : S.Op → Prop} (hp : Uses A p)
    (h : ∀ op s, A op → J s → J (answer op s).2) : Keeps answer C J p :=
  fun _ hs _ => hp.run_inv h hs

theorem Keeps.bind (hp : Keeps answer C J p) (hf : ∀ a, Keeps answer C J (f a)) :
    Keeps answer C J (p >>= f) := by
  intro s hs hcalls
  refine ends_bind (Q := fun r s' => J s' ∧ ∀ a, r = .ok a → Along answer C (f a) s')
    (R := fun _ s' => J s') ⟨hp s hs hcalls.left, ?_⟩ ?_ ?_
  · intro a ha
    exact hcalls.right (Prod.ext ha rfl)
  · rintro a s' ⟨hs', hcalls'⟩
    exact hf a s' hs' (hcalls' a rfl)
  · rintro e s' ⟨hs', -⟩
    exact hs'

theorem Keeps.perform_bind {op : S.Op} {k : S.Res op → Prog S ε β}
    (hop : ∀ s, J s → J (answer op s).2)
    (hk : ∀ s, J s → C op s → Keeps answer C J (k (answer op s).1)) :
    Keeps answer C J (perform op >>= k) := by
  intro s hs hcalls
  obtain ⟨hop', hcalls⟩ := hcalls.of_perform_bind
  exact hk s hs hop' _ (hop s hs) hcalls

theorem Keeps.attempt {ε' : Type} (hp : Keeps answer C J p) :
    Keeps answer C J (p.attempt : Prog S ε' (Except ε α)) := by
  intro s hs hcalls
  rw [run_attempt]
  exact hp s hs hcalls.of_attempt

end Along

end Prog

/-! ### Larger signatures -/

namespace Prog

variable {S S' : Signature} {ε α : Type}

end Prog

/-! ### Monitors -/

/-- What a program has been told (`T`), and which calls that allows. -/
structure Monitor (S : Signature) (T : Type) where
  next : T → (op : S.Op) → S.Res op → T
  ok : T → S.Op → Prop

namespace Prog

variable {S : Signature} {ε α β T : Type} (M : Monitor S T)

/-- Every call of the program is allowed when it is made, and where it returns `a` in `t'`, `R t' a`
holds. -/
def Safe : T → Prog S ε α → (T → α → Prop) → Prop
  | t, done a, R => R t a
  | _, raise _, _ => True
  | t, call op k, R => M.ok t op ∧ ∀ r, Safe (M.next t op r) (k r) R

variable {M} {t : T} {R R' : T → α → Prop} {f : α → Prog S ε β} {R₂ : T → β → Prop}

theorem Safe.mono {p : Prog S ε α} (h : Safe M t p R) (hR : ∀ t a, R t a → R' t a) :
    Safe M t p R' := by
  induction p generalizing t with
  | done a => exact hR _ _ h
  | raise e => trivial
  | call op k ih => exact ⟨h.1, fun r => ih r (h.2 r)⟩

theorem safe_pure {a : α} (h : R t a) : Safe M t (pure a : Prog S ε α) R := h

theorem safe_raise (e : ε) : Safe M t (raise e : Prog S ε α) R := trivial

theorem safe_ofExcept {x : Except ε α} (h : ∀ a, x = .ok a → R t a) :
    Safe M t (ofExcept x) R := by
  cases x with
  | ok a => exact h a rfl
  | error e => trivial

/-- The rule for sequencing. -/
theorem Safe.bind {p : Prog S ε α} (h : Safe M t p R)
    (hf : ∀ t' a, R t' a → Safe M t' (f a) R₂) : Safe M t (p >>= f) R₂ := by
  induction p generalizing t with
  | done a => exact hf t a h
  | raise e => trivial
  | call op k ih => exact ⟨h.1, fun r => ih r (h.2 r)⟩

theorem safe_ofExcept_bind {x : Except ε α} (h : ∀ a, x = .ok a → Safe M t (f a) R₂) :
    Safe M t (ofExcept x >>= f) R₂ :=
  (safe_ofExcept (R := fun t' a => t' = t ∧ x = .ok a) fun _ ha => ⟨rfl, ha⟩).bind fun _ a ha =>
    ha.1 ▸ h a ha.2

theorem safe_raiseIf_bind {c : Prop} [Decidable c] {e : ε} {k : Unit → Prog S ε β}
    (h : ¬ c → Safe M t (k ()) R₂) : Safe M t (raiseIf c e >>= k) R₂ := by
  by_cases hc : c
  · rw [raiseIf, if_pos hc]
    trivial
  · rw [raiseIf, if_neg hc]
    exact h hc

theorem safe_perform_bind {op : S.Op} {k : S.Res op → Prog S ε β} (hok : M.ok t op)
    (h : ∀ r, Safe M (M.next t op r) (k r) R₂) : Safe M t (perform op >>= k) R₂ :=
  ⟨hok, h⟩

theorem safe_tryCatch {p : Prog S ε α} {handler : ε → Prog S ε α} (h : Safe M t p R)
    (hh : ∀ t' e, Safe M t' (handler e) R) : Safe M t (p.tryCatch handler) R := by
  induction p generalizing t with
  | done a => exact h
  | raise e => exact hh t e
  | call op k ih => exact ⟨h.1, fun r => ih r (h.2 r)⟩

theorem safe_perform {op : S.Op} {R : T → S.Res op → Prop} (hok : M.ok t op)
    (h : ∀ r, R (M.next t op r) r) : Safe M t (perform op : Prog S ε (S.Res op)) R :=
  ⟨hok, h⟩

/-- An attempt is as safe as its program. -/
theorem Safe.attempt {ε' : Type} {p : Prog S ε α} (h : Safe M t p R) : Safe M t
    (p.attempt : Prog S ε' (Except ε α)) fun t' r => ∀ a, r = .ok a → R t' a := by
  induction p generalizing t with
  | done a =>
    rintro b hb
    cases hb
    exact h
  | raise e =>
    rintro b hb
    cases hb
  | call op k ih => exact ⟨h.1, fun r => ih r (h.2 r)⟩

/-- A program whose calls the monitor allows and does not remember. -/
theorem Uses.safe {A : S.Op → Prop} {p : Prog S ε α} (hp : Uses A p)
    (hA : ∀ op, A op → M.ok t op ∧ ∀ r, M.next t op r = t) : Safe M t p fun t' _ => t' = t := by
  induction p with
  | done a => rfl
  | raise e => trivial
  | call op k ih =>
    obtain ⟨hok, hnext⟩ := hA op hp.1
    refine ⟨hok, fun r => ?_⟩
    rw [hnext r]
    exact ih r (hp.2 r)

theorem Safe.ok_of_call {op : S.Op} {k : S.Res op → Prog S ε α} (h : Safe M t (.call op k) R) :
    M.ok t op := h.1

theorem Safe.of_call {op : S.Op} {k : S.Res op → Prog S ε α} (h : Safe M t (.call op k) R)
    (r : S.Res op) : Safe M (M.next t op r) (k r) R := h.2 r

-- From here on the rules above stand for the definitions: unfolding them would run the program.
attribute [irreducible] Uses Safe

end Prog

/-! ### Pools of threads -/

/-- Threads over a shared store; `seen i` is the monitor's state for thread `i`. -/
structure Pool (S : Signature) (ε α σ T ι : Type) where
  store : σ
  thread : ι → Prog S ε α
  seen : ι → T

namespace Pool

variable {S : Signature} {ε α σ T ι : Type} [DecidableEq ι]

/-- The pool after thread `i` was told `r` and the store became `s`. -/
def advance (M : Monitor S T) (p : Pool S ε α σ T ι) (i : ι) (op : S.Op)
    (k : S.Res op → Prog S ε α) (r : S.Res op) (s : σ) : Pool S ε α σ T ι where
  store := s
  thread := Function.update p.thread i (k r)
  seen := Function.update p.seen i (M.next (p.seen i) op r)

/-- Thread `i` makes its next call `op`, which the store answers with `r`. -/
inductive Step (M : Monitor S T) (H : (op : S.Op) → σ → S.Res op → σ → Prop) :
    Pool S ε α σ T ι → ι → S.Op → Pool S ε α σ T ι → Prop where
  | call {p : Pool S ε α σ T ι} {i : ι} {op : S.Op} {k : S.Res op → Prog S ε α} {r : S.Res op}
      {s : σ} (hthread : p.thread i = .call op k) (hstore : H op p.store r s) :
      Step M H p i op (p.advance M i op k r s)

/-- The pools reached from `p₀` by steps that all meet the condition `C`. -/
inductive Reach (M : Monitor S T) (H : (op : S.Op) → σ → S.Res op → σ → Prop)
    (C : Pool S ε α σ T ι → ι → S.Op → Prop) (p₀ : Pool S ε α σ T ι) :
    Pool S ε α σ T ι → Prop where
  | init : Reach M H C p₀ p₀
  | step {p p' : Pool S ε α σ T ι} {i : ι} {op : S.Op} (hreach : Reach M H C p₀ p)
      (hstep : Step M H p i op p') (hcond : C p i op) : Reach M H C p₀ p'

variable {M : Monitor S T} {H : (op : S.Op) → σ → S.Res op → σ → Prop}
  {C : Pool S ε α σ T ι → ι → S.Op → Prop} {p₀ p p' : Pool S ε α σ T ι} {i : ι} {op : S.Op}

def Obeys (M : Monitor S T) (p : Pool S ε α σ T ι) : Prop :=
  ∀ i, (p.thread i).Safe M (p.seen i) fun _ _ => True

theorem Obeys.ok (hp : p.Obeys M) (h : Step M H p i op p') : M.ok (p.seen i) op := by
  cases h with
  | call hthread hstore =>
    have hi := hp i
    rw [hthread] at hi
    exact hi.ok_of_call

theorem Obeys.step (hp : p.Obeys M) (h : Step M H p i op p') : p'.Obeys M := by
  cases h with
  | call hthread hstore =>
    intro j
    by_cases hj : j = i
    · subst hj
      have hi := hp j
      rw [hthread] at hi
      simpa [advance] using hi.of_call _
    · simpa [advance, hj] using hp j

/-- Threads that obey the monitor alone obey it in every interleaving. -/
theorem Reach.obeys (h : Reach M H C p₀ p) (h₀ : p₀.Obeys M) : p.Obeys M := by
  induction h with
  | init => exact h₀
  | step hreach hstep hcond ih => exact ih.step hstep

/-- The invariant rule. What holds of the first pool and is kept by every step of obedient
threads holds of every pool reached. -/
theorem Reach.inv {I : Pool S ε α σ T ι → Prop} (h : Reach M H C p₀ p) (h₀ : p₀.Obeys M)
    (hinit : I p₀)
    (hkeep : ∀ {p p' i op}, I p → p.Obeys M → Step M H p i op p' → C p i op → I p') : I p := by
  induction h with
  | init => exact hinit
  | step hreach hstep hcond ih => exact hkeep ih (hreach.obeys h₀) hstep hcond

/-! ### Running one thread for a while -/

/-- Thread `i` may run a first part of its program without a break, against a store that answers by
a function. -/
theorem Reach.run_bind {β : Type} {answer : (op : S.Op) → σ → S.Res op × σ} {x : Prog S ε β}
    {f : β → Prog S ε α} {b : β} {s : σ}
    (h : Reach M (fun op s r s' => answer op s = (r, s')) (fun _ _ _ => True) p₀ p)
    (hthread : p.thread i = x >>= f) (hrun : x.run answer p.store = (.ok b, s)) :
    ∃ p', Reach M (fun op s r s' => answer op s = (r, s')) (fun _ _ _ => True) p₀ p' ∧
      p'.store = s ∧ p'.thread = Function.update p.thread i (f b) := by
  induction x generalizing p with
  | done a =>
    cases hrun
    refine ⟨p, h, rfl, ?_⟩
    have hf : p.thread i = f b := hthread
    rw [← hf, Function.update_eq_self]
  | raise e => cases hrun
  | call op k ih =>
    have hcall : p.thread i = .call op fun r => k r >>= f := hthread
    have hreach := h.step (Step.call hcall rfl) trivial
    obtain ⟨p', hp', hs, ht⟩ := ih _ hreach (by simp [advance]) hrun
    refine ⟨p', hp', hs, ?_⟩
    rw [ht]
    simp [advance]

theorem Reach.run {answer : (op : S.Op) → σ → S.Res op × σ} {a : α} {s : σ}
    (h : Reach M (fun op s r s' => answer op s = (r, s')) (fun _ _ _ => True) p₀ p)
    (hrun : (p.thread i).run answer p.store = (.ok a, s)) :
    ∃ p', Reach M (fun op s r s' => answer op s = (r, s')) (fun _ _ _ => True) p₀ p' ∧
      p'.store = s ∧ p'.thread = Function.update p.thread i (.done a) :=
  h.run_bind (f := .done) (Prog.bind_done (p.thread i)).symm hrun

end Pool

end EsscherMarket.Lib
