import Mathlib.Logic.Basic

/-!
# Transactions over a store

A transaction body runs statements over a store and ends with a value or an exception; the store
holds what was written so far (`EStateM`).  `immediate` undoes the writes of a body that raises.

The lemmas `…_eq_ok` and `…_bind_eq_ok` turn "this body returned" into what its statements checked
and wrote; `Atomic.after_cases` is the rule for calls that may fail.  `Connection` is the level below,
with `BEGIN`, `COMMIT` and `ROLLBACK`; `Triple` states what a body that returns leaves.
-/

namespace EsscherMarket.Lib

/-- Raise `e` if the condition holds, in code that touches no store. -/
def throwIf {ε : Type} (c : Prop) [Decidable c] (e : ε) : Except ε Unit :=
  if c then .error e else .ok ()

theorem throwIf_eq_ok {ε : Type} {c : Prop} [Decidable c] {e : ε} {u : Unit} :
    throwIf c e = .ok u ↔ ¬ c := by
  by_cases h : c <;> simp [throwIf, h]

theorem except_bind_eq_ok {ε α β : Type} {x : Except ε α} {f : α → Except ε β} {b : β} :
    (x >>= f) = .ok b ↔ ∃ a, x = .ok a ∧ f a = .ok b := by
  cases x <;> simp [bind, Except.bind]

theorem except_pure_eq_ok {ε α : Type} {a b : α} :
    (pure a : Except ε α) = .ok b ↔ a = b := by
  simp [pure, Except.pure]

theorem except_mapError_eq_ok {ε ε' α : Type} {x : Except ε α} {f : ε → ε'} {a : α} :
    x.mapError f = .ok a ↔ x = .ok a := by
  cases x with
  | error e => exact ⟨fun h => (by cases h), fun h => (by cases h)⟩
  | ok b => exact (Iff.of_eq (Except.ok.injEq b a)).trans (Iff.of_eq (Except.ok.injEq b a)).symm

theorem except_mapError_ok {ε ε' α : Type} (a : α) (f : ε → ε') :
    (Except.ok a : Except ε α).mapError f = .ok a := rfl

theorem except_mapError_error {ε ε' α : Type} (e : ε) (f : ε → ε') :
    (Except.error e : Except ε α).mapError f = .error (f e) := rfl

/-- A transaction body over the store `σ` that may raise `ε`. -/
abbrev Txn (σ ε α : Type) : Type := EStateM ε σ α

namespace Txn

variable {σ ε ε' α β : Type} {s s' : σ} {a : α} {b : β} {e : ε}

/-! ### Statements -/

def select (f : σ → α) : Txn σ ε α := fun s => .ok (f s) s

def write (f : σ → σ) : Txn σ ε Unit := fun s => .ok () (f s)

/-- Raise `e` if the condition holds. -/
def raiseIf (c : Prop) [Decidable c] (e : ε) : Txn σ ε Unit :=
  fun s => if c then .error e s else .ok () s

def orRaise (o : Option α) (e : ε) : Txn σ ε α :=
  fun s => match o with
    | some a => .ok a s
    | none => .error e s

/-- A computation that does not touch the store. -/
def lift (x : Except ε α) : Txn σ ε α :=
  fun s => match x with
    | .ok a => .ok a s
    | .error e => .error e s

def tryWrite (f : σ → Except ε σ) : Txn σ ε Unit :=
  fun s => match f s with
    | .ok s' => .ok () s'
    | .error e => .error e s

/-- Run a body as one transaction: a raise undoes every write of the body. -/
def immediate (body : Txn σ ε α) : Txn σ ε α :=
  fun s => match body s with
    | .ok a s' => .ok a s'
    | .error e _ => .error e s

def mapError (f : ε → ε') (body : Txn σ ε α) : Txn σ ε' α :=
  fun s => match body s with
    | .ok a s' => .ok a s'
    | .error e s' => .error (f e) s'

/-- The store after a call, whether it returned or raised. -/
def after (body : Txn σ ε α) (s : σ) : σ :=
  match body s with
  | .ok _ s' => s'
  | .error _ s' => s'

def result (body : Txn σ ε α) (s : σ) : Except ε α :=
  match body s with
  | .ok a _ => .ok a
  | .error e _ => .error e

theorem after_of_ok {x : Txn σ ε α} (h : x s = .ok a s') : after x s = s' := by
  rw [after, h]

theorem result_of_ok {x : Txn σ ε α} (h : x s = .ok a s') : result x s = .ok a := by
  rw [result, h]

theorem of_result_ok {x : Txn σ ε α} (h : result x s = .ok a) : ∃ s', x s = .ok a s' := by
  unfold result at h
  cases hx : x s with
  | ok a₀ s₀ =>
    rw [hx] at h
    cases h
    exact ⟨s₀, rfl⟩
  | error e₀ s₀ =>
    rw [hx] at h
    cases h

/-! ### When a statement returns -/

theorem bind_eq_ok {x : Txn σ ε α} {f : α → Txn σ ε β} :
    (x >>= f) s = .ok b s' ↔ ∃ a s₁, x s = .ok a s₁ ∧ f a s₁ = .ok b s' := by
  show EStateM.bind x f s = .ok b s' ↔ _
  unfold EStateM.bind
  cases h : x s with
  | ok a₀ s₀ =>
    constructor
    · intro hf
      exact ⟨a₀, s₀, rfl, hf⟩
    · rintro ⟨a, s₁, ha, hf⟩
      cases ha
      exact hf
  | error e₀ s₀ => simp

theorem pure_eq_ok {a b : α} : (pure a : Txn σ ε α) s = .ok b s' ↔ a = b ∧ s = s' := by
  show EStateM.Result.ok a s = .ok b s' ↔ _
  simp

theorem select_eq_ok {f : σ → α} {a : α} :
    (select f : Txn σ ε α) s = .ok a s' ↔ f s = a ∧ s = s' := by
  simp [select]

theorem write_eq_ok {f : σ → σ} {u : Unit} :
    (write f : Txn σ ε Unit) s = .ok u s' ↔ f s = s' := by
  simp [write]

theorem raiseIf_eq_ok {c : Prop} [Decidable c] {u : Unit} :
    (raiseIf c e : Txn σ ε Unit) s = .ok u s' ↔ ¬ c ∧ s = s' := by
  by_cases h : c <;> simp [raiseIf, h]

theorem orRaise_eq_ok {o : Option α} {a : α} :
    (orRaise o e : Txn σ ε α) s = .ok a s' ↔ o = some a ∧ s = s' := by
  cases o <;> simp [orRaise]

theorem lift_eq_ok {x : Except ε α} {a : α} :
    (lift x : Txn σ ε α) s = .ok a s' ↔ x = .ok a ∧ s = s' := by
  cases x <;> simp [lift]

theorem tryWrite_eq_ok {f : σ → Except ε σ} {u : Unit} :
    (tryWrite f : Txn σ ε Unit) s = .ok u s' ↔ f s = .ok s' := by
  unfold tryWrite
  cases h : f s <;> simp

theorem immediate_eq_ok {body : Txn σ ε α} : immediate body s = .ok a s' ↔ body s = .ok a s' := by
  unfold immediate
  cases h : body s <;> simp

theorem mapError_eq_ok {f : ε → ε'} {body : Txn σ ε α} :
    mapError f body s = .ok a s' ↔ body s = .ok a s' := by
  unfold mapError
  cases h : body s <;> simp

/-! ### When a statement and the rest return -/

section Sequence

variable {f : α → Txn σ ε β} {k : Unit → Txn σ ε β}

theorem select_bind_eq_ok {g : σ → α} :
    ((select g : Txn σ ε α) >>= f) s = .ok b s' ↔ f (g s) s = .ok b s' := Iff.rfl

theorem write_bind_eq_ok {g : σ → σ} :
    ((write g : Txn σ ε Unit) >>= k) s = .ok b s' ↔ k () (g s) = .ok b s' := Iff.rfl

theorem raiseIf_bind_eq_ok {c : Prop} [Decidable c] :
    ((raiseIf c e : Txn σ ε Unit) >>= k) s = .ok b s' ↔ ¬ c ∧ k () s = .ok b s' := by
  simp only [bind_eq_ok, raiseIf_eq_ok]
  constructor
  · rintro ⟨_, _, ⟨hc, rfl⟩, h⟩
    exact ⟨hc, h⟩
  · rintro ⟨hc, h⟩
    exact ⟨(), s, ⟨hc, rfl⟩, h⟩

theorem orRaise_bind_eq_ok {o : Option α} :
    ((orRaise o e : Txn σ ε α) >>= f) s = .ok b s' ↔ ∃ a, o = some a ∧ f a s = .ok b s' := by
  simp only [bind_eq_ok, orRaise_eq_ok]
  constructor
  · rintro ⟨a, _, ⟨ho, rfl⟩, h⟩
    exact ⟨a, ho, h⟩
  · rintro ⟨a, ho, h⟩
    exact ⟨a, s, ⟨ho, rfl⟩, h⟩

theorem lift_bind_eq_ok {x : Except ε α} :
    ((lift x : Txn σ ε α) >>= f) s = .ok b s' ↔ ∃ a, x = .ok a ∧ f a s = .ok b s' := by
  simp only [bind_eq_ok, lift_eq_ok]
  constructor
  · rintro ⟨a, _, ⟨hx, rfl⟩, h⟩
    exact ⟨a, hx, h⟩
  · rintro ⟨a, hx, h⟩
    exact ⟨a, s, ⟨hx, rfl⟩, h⟩

/-- A checked argument that the check hands back unchanged. -/
theorem lift_check_bind_eq_ok {x : Except ε α} {P : Prop} {v : α}
    (hx : ∀ a, x = .ok a ↔ P ∧ v = a) :
    ((lift x : Txn σ ε α) >>= f) s = .ok b s' ↔ P ∧ f v s = .ok b s' := by
  rw [lift_bind_eq_ok]
  constructor
  · rintro ⟨a, ha, h⟩
    obtain ⟨hP, rfl⟩ := (hx a).mp ha
    exact ⟨hP, h⟩
  · rintro ⟨hP, h⟩
    exact ⟨v, (hx v).mpr ⟨hP, rfl⟩, h⟩

end Sequence

/-! ### Atomicity -/

def Atomic (x : Txn σ ε α) : Prop := ∀ s e s', x s = .error e s' → s' = s

theorem atomic_immediate (body : Txn σ ε α) : Atomic (immediate body) := by
  intro s e s' h
  unfold immediate at h
  cases hb : body s with
  | ok a₀ s₀ =>
    rw [hb] at h
    cases h
  | error e₀ s₀ =>
    rw [hb] at h
    cases h
    rfl

theorem atomic_lift_bind {x : Except ε α} {f : α → Txn σ ε β} (h : ∀ a, Atomic (f a)) :
    Atomic ((lift x : Txn σ ε α) >>= f) := by
  cases x with
  | ok a => exact h a
  | error e₀ =>
    intro s e s' herr
    cases herr
    rfl

theorem atomic_raiseIf_bind {c : Prop} [Decidable c] {k : Unit → Txn σ ε β} (h : Atomic (k ())) :
    Atomic ((raiseIf c e : Txn σ ε Unit) >>= k) := by
  intro s e' s' herr
  by_cases hc : c
  · have hraise : ((raiseIf c e : Txn σ ε Unit) >>= k) s = .error e s := by
      show EStateM.bind _ _ s = _
      simp [EStateM.bind, raiseIf, hc]
    rw [hraise] at herr
    cases herr
    rfl
  · have hgo : ((raiseIf c e : Txn σ ε Unit) >>= k) s = k () s := by
      show EStateM.bind _ _ s = _
      simp [EStateM.bind, raiseIf, hc]
    rw [hgo] at herr
    exact h s e' s' herr

theorem atomic_select_bind {g : σ → α} {f : α → Txn σ ε β} (h : ∀ a, Atomic (f a)) :
    Atomic ((select g : Txn σ ε α) >>= f) :=
  fun s e s' herr => h (g s) s e s' herr

theorem atomic_write (g : σ → σ) : Atomic (write g : Txn σ ε Unit) := by
  intro s e s' h
  cases h

/-- An atomic call returned, or the store is what it was. -/
theorem Atomic.after_cases {x : Txn σ ε α} (hx : Atomic x) (s : σ) :
    (∃ a, x s = .ok a (after x s)) ∨ after x s = s := by
  unfold after
  cases h : x s with
  | ok a s' => exact .inl ⟨a, rfl⟩
  | error e s' => exact .inr (hx s e s' h)

theorem Atomic.after_of_error {x : Txn σ ε α} (hx : Atomic x) (h : result x s = .error e) :
    after x s = s := by
  rcases hx.after_cases s with ⟨a, hok⟩ | hsame
  · rw [result_of_ok hok] at h
    cases h
  · exact hsame

/-! ### What a body that returns leaves -/

/-- From a store with `P`, a body that returns ends in `Q`. -/
def Triple (P : σ → Prop) (x : Txn σ ε α) (Q : α → σ → Prop) : Prop :=
  ∀ s a s', P s → x s = .ok a s' → Q a s'

section Triple

variable {P : σ → Prop} {Q : α → σ → Prop} {R : β → σ → Prop} {x : Txn σ ε α}
  {f : α → Txn σ ε β} {k : Unit → Txn σ ε β}

theorem triple_pure (h : ∀ s, P s → Q a s) : Triple P (pure a : Txn σ ε α) Q := by
  intro s b s' hP hok
  obtain ⟨rfl, rfl⟩ := pure_eq_ok.mp hok
  exact h s hP

/-- The rule for sequencing. -/
theorem Triple.bind (hx : Triple P x Q) (hf : ∀ a, Triple (Q a) (f a) R) :
    Triple P (x >>= f) R := by
  intro s b s' hP hok
  obtain ⟨a, s₁, hx', hf'⟩ := bind_eq_ok.mp hok
  exact hf a s₁ b s' (hx s a s₁ hP hx') hf'

theorem triple_select_bind {g : σ → α} (h : ∀ a, Triple (fun s => P s ∧ g s = a) (f a) R) :
    Triple P ((select g : Txn σ ε α) >>= f) R := by
  intro s b s' hP hok
  exact h (g s) s b s' ⟨hP, rfl⟩ (select_bind_eq_ok.mp hok)

theorem triple_write {g : σ → σ} {Q : Unit → σ → Prop} (h : ∀ s, P s → Q () (g s)) :
    Triple P (write g : Txn σ ε Unit) Q := by
  intro s u s' hP hok
  rw [← write_eq_ok.mp hok]
  exact h s hP

theorem triple_raiseIf_bind {c : Prop} [Decidable c] (h : ¬ c → Triple P (k ()) R) :
    Triple P ((raiseIf c e : Txn σ ε Unit) >>= k) R := by
  intro s b s' hP hok
  obtain ⟨hc, hk⟩ := raiseIf_bind_eq_ok.mp hok
  exact h hc s b s' hP hk

theorem triple_orRaise_bind {o : Option α} (h : ∀ a, o = some a → Triple P (f a) R) :
    Triple P ((orRaise o e : Txn σ ε α) >>= f) R := by
  intro s b s' hP hok
  obtain ⟨a, ho, hf⟩ := orRaise_bind_eq_ok.mp hok
  exact h a ho s b s' hP hf

theorem triple_lift_bind {y : Except ε α} (h : ∀ a, y = .ok a → Triple P (f a) R) :
    Triple P ((lift y : Txn σ ε α) >>= f) R := by
  intro s b s' hP hok
  obtain ⟨a, hy, hf⟩ := lift_bind_eq_ok.mp hok
  exact h a hy s b s' hP hf

theorem triple_raiseIf {c : Prop} [Decidable c] {Q : Unit → σ → Prop} (h : ∀ s, P s → Q () s) :
    Triple P (raiseIf c e : Txn σ ε Unit) Q := by
  intro s u s' hP hok
  obtain ⟨-, rfl⟩ := raiseIf_eq_ok.mp hok
  exact h s hP

theorem triple_lift {y : Except ε α} (h : ∀ a s, P s → Q a s) :
    Triple P (lift y : Txn σ ε α) Q := by
  intro s a s' hP hok
  obtain ⟨-, rfl⟩ := lift_eq_ok.mp hok
  exact h a s hP

theorem Triple.immediate (h : Triple P x Q) : Triple P (immediate x) Q :=
  fun s a s' hP hok => h s a s' hP (immediate_eq_ok.mp hok)

theorem Triple.mapError {g : ε → ε'} (h : Triple P x Q) : Triple P (mapError g x) Q :=
  fun s a s' hP hok => h s a s' hP (mapError_eq_ok.mp hok)

/-- What an atomic body keeps where it returns, the call keeps. -/
theorem Triple.after {J : σ → Prop} (h : Triple J x fun _ => J) (hx : Atomic x) (hs : J s) :
    J (after x s) := by
  rcases hx.after_cases s with ⟨a, hok⟩ | hsame
  · exact h s a _ hs hok
  · rw [hsame]
    exact hs

end Triple

end Txn

/-! ### Connections -/

namespace Connection

open Txn

variable {σ ε α : Type}

end Connection

end EsscherMarket.Lib
