import EsscherMarket.Runtime.HardFlat

/-!
# Coordinators that share one store

Any number of coordinator runs, each a thread, interleaved at their transactions and port calls.  A
monitor keeps the claim that a run holds: the candidate processor is called only for the opportunity
whose claim the run has just been granted, and the store grants a claim once.
-/

namespace EsscherMarket.Runtime

open Lib Prog

/-! ### The monitor -/

abbrev OpportunityKey : Type := String × String

def CandidateProcessingRequest.key (r : CandidateProcessingRequest) : OpportunityKey :=
  (r.arm.sessionId, r.opportunity.opportunityId)

def claimAnswer (held : Option OpportunityKey) (key : OpportunityKey) :
    Except SessionError AutonomousClaimState → Option OpportunityKey
  | .ok .claimed => some key
  | _ => held

/-- The claim that a run holds: granted by the store, and given up with the call of the
processor. -/
def claimMonitor : Monitor coordinatorSig (Option OpportunityKey) where
  next
    | held, .store (.claim arm o _), r => claimAnswer held (arm.sessionId, o.opportunityId) r
    | _, .process _, _ => none
    | held, _, _ => held
  ok
    | held, .process r => held = some r.key
    | _, _ => True

def Plain : CoordinatorOp → Prop
  | .store (.claim ..) | .process _ => False
  | _ => True

theorem Plain.ignored {op : CoordinatorOp} (h : Plain op) (held : Option OpportunityKey) :
    claimMonitor.ok held op ∧ ∀ r, claimMonitor.next held op r = held := by
  cases op with
  | store op =>
    cases op with
    | claim arm o t => exact h.elim
    | _ => exact ⟨trivial, fun _ => rfl⟩
  | process r => exact h.elim
  | _ => exact ⟨trivial, fun _ => rfl⟩

theorem Quiet.plain {arm : AutonomousSessionArm} {op : CoordinatorOp} (h : Quiet arm op) :
    Plain op := by
  cases op with
  | store op =>
    cases op with
    | claim arm o t => cases h.1
    | _ => trivial
  | process r => exact h
  | _ => trivial

section Safe

variable {arm : AutonomousSessionArm} {t : DateTime} {held : Option OpportunityKey}

theorem safe_plain {α : Type} {p : CoordinatorProg α} (hp : Uses (S := coordinatorSig) Plain p) :
    Safe claimMonitor held p fun held' _ => held' = held :=
  hp.safe fun _ h => h.ignored held

theorem plain_markManual (reason : ReasonCode) (oid lid : Option String) :
    Uses (S := coordinatorSig) Plain (markManual arm reason t oid lid) :=
  (quiet_markManual reason oid lid).mono fun _ h => h.plain

theorem plain_fromStore (processed : List String) :
    Uses (S := coordinatorSig) Plain (fromStore arm t processed) :=
  (quiet_fromStore processed).mono fun _ h => h.plain

theorem plain_recordResult (o : AutonomousOpportunity) (result : CandidateProcessingResult) :
    Uses (S := coordinatorSig) Plain (recordResult arm o t result) := by
  unfold recordResult
  split
  · exact (uses_transact trivial).bind fun _ => uses_transact trivial
  · split
    · exact uses_raise _
    · exact (uses_transact trivial).bind fun _ => uses_transact trivial
  · exact (uses_ofExcept _).bind fun _ => (uses_transact trivial).bind fun _ =>
      uses_transact trivial

theorem safe_claimOpportunity (o : AutonomousOpportunity) :
    Safe claimMonitor none (claimOpportunity arm o t) fun held claim =>
      if claim = .claimed then held = some (arm.sessionId, o.opportunityId) else held = none := by
  have hensure : Uses (S := coordinatorSig) Plain (transact (.ensureArm arm)) :=
    uses_transact trivial
  refine (safe_plain hensure).bind ?_
  rintro _ _ rfl
  refine safe_perform_bind trivial fun r => safe_ofExcept fun claim hclaim => ?_
  show if claim = .claimed then claimAnswer none _ r = some _ else claimAnswer none _ r = none
  have hr : r = .ok claim := hclaim
  rw [hr]
  cases claim with
  | claimed => simp [claimAnswer]
  | inProgress => simp [claimAnswer]
  | alreadyRecorded => simp [claimAnswer]

/-- The processor is called only for the claim in hand. -/
theorem safe_processOpportunity (processed : List String) (o : AutonomousOpportunity) :
    Safe claimMonitor none (processOpportunity arm t processed o) fun held _ => held = none := by
  refine (safe_claimOpportunity o).bind ?_
  intro held claim hheld
  split
  · rename_i hclaim
    rw [if_neg hclaim] at hheld
    exact safe_pure hheld
  rename_i hclaim
  rw [if_pos (not_not.mp hclaim)] at hheld
  refine safe_perform_bind hheld fun answer => ?_
  -- the claim is given up: what follows is ignored by the monitor
  show Safe claimMonitor none _ _
  refine safe_plain ?_
  cases accepted (validateProcessingResult · ⟨arm, o, t⟩) answer with
  | none => exact (plain_markManual _ _ _).bind fun _ => uses_pure _
  | some result =>
    refine (plain_recordResult o result).bind fun _ => ?_
    dsimp only
    split
    · exact (plain_markManual _ _ _).bind fun _ => uses_pure _
    · split
      · exact (plain_markManual _ _ _).bind fun _ => uses_pure _
      · exact uses_pure _

theorem safe_processOpportunities (os : List AutonomousOpportunity) (processed : List String) :
    Safe claimMonitor none (processOpportunities arm t os processed) fun held _ => held = none := by
  induction os generalizing processed with
  | nil => exact safe_pure rfl
  | cons o rest ih =>
    refine (safe_processOpportunity processed o).bind ?_
    rintro _ flow rfl
    cases flow with
    | next processed => exact ih processed
    | stop processed => exact safe_pure rfl

theorem safe_processWindows (K : Contracts) (ws : List AutonomousWindow) (processed : List String) :
    Safe claimMonitor none (processWindows K arm t ws processed) fun held _ => held = none := by
  induction ws generalizing processed with
  | nil => exact safe_pure rfl
  | cons w rest ih =>
    refine safe_perform_bind trivial fun answer => safe_ofExcept_bind fun collected _ =>
      safe_ofExcept_bind fun unique _ => (safe_processOpportunities _ processed).bind ?_
    rintro _ flow rfl
    cases flow with
    | next processed => exact ih processed
    | stop processed => exact safe_pure rfl

theorem safe_runDue (K : Contracts) :
    Safe claimMonitor none (runDue K arm t) fun _ _ => True := by
  refine (safe_plain (uses_readStore trivial)).bind ?_
  rintro _ active rfl
  refine safe_perform_bind trivial fun answer => ?_
  show Safe claimMonitor none _ _
  cases accepted (validateReconciliation · (startupRequest arm t active)) answer with
  | none =>
    refine (safe_plain ?_).mono fun _ _ _ => trivial
    exact (plain_markManual _ _ _).bind fun _ => plain_fromStore _
  | some _ =>
    refine (safe_processWindows K _ _).bind ?_
    rintro _ flow rfl
    exact (safe_plain (plain_fromStore _)).mono fun _ _ _ => trivial

/-- Every run keeps to the monitor. -/
theorem run_safe (K : Contracts) (c : Coordinator) (t : DateTime) :
    Safe claimMonitor none (c.run K t) fun _ _ => True := by
  have hensure : Uses (S := coordinatorSig) Plain (transact (.ensureArm c.arm)) :=
    uses_transact trivial
  refine safe_ofExcept_bind fun _ _ => safe_ofExcept_bind fun t' _ => ?_
  refine (safe_plain hensure).bind ?_
  rintro _ _ rfl
  refine (safe_plain (uses_readStore trivial)).bind ?_
  rintro _ claimed rfl
  split
  · refine (safe_plain ?_).mono fun _ _ _ => trivial
    exact (plain_markManual _ _ _).bind fun _ => plain_fromStore _
  split
  · exact (safe_plain (quiet_runHardFlat.mono fun _ h => h.plain)).mono fun _ _ _ => trivial
  refine (safe_plain (uses_readStore trivial)).bind ?_
  rintro _ state rfl
  split
  · exact (safe_plain (plain_fromStore _)).mono fun _ _ _ => trivial
  · exact safe_runDue K

end Safe

/-! ### Pools -/

/-- What the threads share: the store, and the opportunities that were handed to the processor. -/
structure Shared where
  store : SessionStore
  processed : List OpportunityKey

/-- How an operation may be answered: the store answers for itself, a port in any way. -/
def Shared.Answers (K : Contracts) : (op : CoordinatorOp) → Shared → op.Res → Shared → Prop
  | .store op, x, r, x' =>
    (op.txn K).result x.store = r ∧ x' = { x with store := op.exec K x.store }
  | .read, x, r, x' => x.store = r ∧ x' = x
  | .process r, x, _, x' => x' = { x with processed := x.processed ++ [r.key] }
  | .reconcile _, x, _, x' | .collectDue _, x, _, x' | .closeAndReconcile _, x, _, x' => x' = x

abbrev CoordinatorPool (ι : Type) : Type :=
  Pool coordinatorSig SessionError AutonomousRunResult Shared (Option OpportunityKey) ι

section Pools

variable {ι : Type} {K : Contracts}

def coordinatorPool (K : Contracts) (s : SessionStore) (c : ι → Coordinator) (t : ι → DateTime) :
    CoordinatorPool ι where
  store := ⟨s, []⟩
  thread i := (c i).run K (t i)
  seen _ := none

def SessionStore.holds (s : SessionStore) (key : OpportunityKey) : Prop :=
  s.opportunityState key.1 key.2 ≠ none

/-- What is processed, or in the hand of a run, is in the store; and nothing is so twice. -/
structure OnceInv (p : CoordinatorPool ι) : Prop where
  inv : StoreInv p.store.store
  nodup : p.store.processed.Nodup
  processed : ∀ key ∈ p.store.processed, p.store.store.holds key
  held : ∀ i key, p.seen i = some key → p.store.store.holds key ∧ key ∉ p.store.processed
  alone : ∀ i j key, p.seen i = some key → p.seen j = some key → i = j

/-- The store changed, and what the runs hold did not. -/
theorem OnceInv.kept {p p' : CoordinatorPool ι} (h : OnceInv p) (hinv : StoreInv p'.store.store)
    (hkept : Kept p.store.store p'.store.store) (hprocessed : p'.store.processed = p.store.processed)
    (hseen : p'.seen = p.seen) : OnceInv p' := by
  have hholds : ∀ key, p.store.store.holds key → p'.store.store.holds key :=
    fun key hkey => (hkept.opportunity key.1 key.2).ne_none hkey
  refine ⟨hinv, ?_, ?_, ?_, ?_⟩
  · rw [hprocessed]
    exact h.nodup
  · intro key hkey
    rw [hprocessed] at hkey
    exact hholds key (h.processed key hkey)
  · intro i key hi
    rw [hseen] at hi
    rw [hprocessed]
    exact ⟨hholds key (h.held i key hi).1, (h.held i key hi).2⟩
  · intro i j key hi hj
    rw [hseen] at hi hj
    exact h.alone i j key hi hj

variable [DecidableEq ι]

theorem OnceInv.granted {p p' : CoordinatorPool ι} (h : OnceInv p) {i : ι} {key : OpportunityKey}
    (hinv : StoreInv p'.store.store) (hkept : Kept p.store.store p'.store.store)
    (hprocessed : p'.store.processed = p.store.processed)
    (hseen : p'.seen = Function.update p.seen i (some key)) (hfresh : ¬ p.store.store.holds key)
    (hnow : p'.store.store.holds key) : OnceInv p' := by
  have hholds : ∀ key, p.store.store.holds key → p'.store.store.holds key :=
    fun key hkey => (hkept.opportunity key.1 key.2).ne_none hkey
  -- nobody else can hold a key that the store did not
  have hothers : ∀ j key', p'.seen j = some key' → j = i ∧ key' = key ∨
      p.seen j = some key' ∧ key' ≠ key := by
    intro j key' hj
    rw [hseen] at hj
    by_cases hji : j = i
    · subst hji
      rw [Function.update_self] at hj
      exact .inl ⟨rfl, (Option.some.inj hj).symm⟩
    · rw [Function.update_of_ne hji] at hj
      refine .inr ⟨hj, ?_⟩
      rintro rfl
      exact hfresh (h.held j key' hj).1
  refine ⟨hinv, ?_, ?_, ?_, ?_⟩
  · rw [hprocessed]
    exact h.nodup
  · intro key' hkey'
    rw [hprocessed] at hkey'
    exact hholds key' (h.processed key' hkey')
  · intro j key' hj
    rw [hprocessed]
    rcases hothers j key' hj with ⟨-, rfl⟩ | ⟨hold, -⟩
    · exact ⟨hnow, fun hmem => hfresh (h.processed key' hmem)⟩
    · exact ⟨hholds key' (h.held j key' hold).1, (h.held j key' hold).2⟩
  · intro j j' key' hj hj'
    rcases hothers j key' hj with ⟨rfl, rfl⟩ | ⟨hold, hne⟩
    · rcases hothers j' key' hj' with ⟨rfl, -⟩ | ⟨-, hne'⟩
      · rfl
      · exact absurd rfl hne'
    · rcases hothers j' key' hj' with ⟨-, heq⟩ | ⟨hold', -⟩
      · exact absurd heq hne
      · exact h.alone j j' key' hold hold'

/-- The processor was called for the claim of a run, which gives it up. -/
theorem OnceInv.process {p p' : CoordinatorPool ι} (h : OnceInv p) {i : ι} {key : OpportunityKey}
    (hi : p.seen i = some key) (hstore : p'.store = ⟨p.store.store, p.store.processed ++ [key]⟩)
    (hseen : p'.seen = Function.update p.seen i none) : OnceInv p' := by
  obtain ⟨hholds, hfresh⟩ := h.held i key hi
  have hothers : ∀ j key', p'.seen j = some key' → p.seen j = some key' ∧ key' ≠ key := by
    intro j key' hj
    rw [hseen] at hj
    by_cases hji : j = i
    · subst hji
      rw [Function.update_self] at hj
      cases hj
    · rw [Function.update_of_ne hji] at hj
      refine ⟨hj, ?_⟩
      rintro rfl
      exact hji (h.alone j i key' hj hi)
  refine ⟨?_, ?_, ?_, ?_, ?_⟩
  · rw [hstore]
    exact h.inv
  · rw [hstore, List.nodup_append]
    refine ⟨h.nodup, by simp, ?_⟩
    intro key' hkey' key'' hkey''
    rw [List.mem_singleton.mp hkey'']
    rintro rfl
    exact hfresh hkey'
  · intro key' hkey'
    rw [hstore] at hkey' ⊢
    rcases List.mem_append.mp hkey' with hkey' | hkey'
    · exact h.processed key' hkey'
    · rw [List.mem_singleton.mp hkey']
      exact hholds
  · intro j key' hj
    obtain ⟨hold, hne⟩ := hothers j key' hj
    rw [hstore]
    refine ⟨(h.held j key' hold).1, ?_⟩
    intro hmem
    rcases List.mem_append.mp hmem with hmem | hmem
    · exact (h.held j key' hold).2 hmem
    · exact hne (List.mem_singleton.mp hmem)
  · intro j j' key' hj hj'
    exact h.alone j j' key' (hothers j key' hj).1 (hothers j' key' hj').1

theorem OnceInv.ignored {p : CoordinatorPool ι} (h : OnceInv p) {i : ι} {op : CoordinatorOp}
    {k : op.Res → CoordinatorProg AutonomousRunResult} {r : op.Res} {x : Shared}
    (hnext : claimMonitor.next (p.seen i) op r = p.seen i) (hinv : StoreInv x.store)
    (hkept : Kept p.store.store x.store) (hprocessed : x.processed = p.store.processed) :
    OnceInv (p.advance claimMonitor i op k r x) := by
  refine h.kept hinv hkept hprocessed ?_
  show Function.update p.seen i (claimMonitor.next (p.seen i) op r) = p.seen
  rw [hnext, Function.update_eq_self]

theorem OnceInv.claim {p : CoordinatorPool ι} (h : OnceInv p) {i : ι} {arm : AutonomousSessionArm}
    {o : AutonomousOpportunity} {t : DateTime}
    {k : Except SessionError AutonomousClaimState → CoordinatorProg AutonomousRunResult}
    {r : Except SessionError AutonomousClaimState}
    (hr : (claimPart K arm o t).result p.store.store = r) :
    OnceInv (p.advance claimMonitor i (.store (.claim arm o t)) k r
      { p.store with store := (StoreOp.claim arm o t).exec K p.store.store }) := by
  have hinv := (StoreOp.claim arm o t).exec_inv K h.inv
  have hkept := (StoreOp.claim arm o t).exec_kept K h.inv
  by_cases hclaimed : r = .ok .claimed
  · subst hclaimed
    obtain ⟨s', hok⟩ := Txn.of_result_ok hr
    have hexec : (StoreOp.claim arm o t).exec K p.store.store = s' := Txn.after_of_ok hok
    rcases claimPart_ok hok with ⟨_, -, hne, -⟩ | ⟨hnone, -, -⟩
    · exact absurd rfl hne
    · have hsettled : Settled (.claim arm o t) s' := StoreOp.settled_of_ok h.inv hok
      refine h.granted hinv hkept rfl rfl ?_ ?_
      · intro hholds
        exact hholds (by rw [SessionStore.opportunityState, hnone]; rfl)
      · show SessionStore.holds ((StoreOp.claim arm o t).exec K p.store.store) _
        rw [hexec]
        exact hsettled
  · refine h.ignored ?_ hinv hkept rfl
    show claimAnswer (p.seen i) _ r = p.seen i
    rcases r with e | claim
    · rfl
    · cases claim with
      | claimed => exact absurd rfl hclaimed
      | inProgress => rfl
      | alreadyRecorded => rfl

/-- One step. -/
theorem OnceInv.step {p p' : CoordinatorPool ι} {i : ι} {op : CoordinatorOp} (h : OnceInv p)
    (hobeys : p.Obeys claimMonitor)
    (hstep : Pool.Step claimMonitor (Shared.Answers K) p i op p') : OnceInv p' := by
  have hok := hobeys.ok hstep
  cases hstep with
  | call hthread hstore =>
    cases op with
    | store op =>
      obtain ⟨hr, rfl⟩ := hstore
      cases op with
      | claim arm o t => exact h.claim hr
      | _ => exact h.ignored rfl (StoreOp.exec_inv K _ h.inv) (StoreOp.exec_kept K _ h.inv) rfl
    | process r =>
      cases hstore
      exact h.process hok rfl rfl
    | read =>
      obtain ⟨-, rfl⟩ := hstore
      exact h.ignored rfl h.inv (.refl _) rfl
    | reconcile r =>
      cases hstore
      exact h.ignored rfl h.inv (.refl _) rfl
    | collectDue r =>
      cases hstore
      exact h.ignored rfl h.inv (.refl _) rfl
    | closeAndReconcile r =>
      cases hstore
      exact h.ignored rfl h.inv (.refl _) rfl

end Pools

namespace July

def twoRuns : CoordinatorPool Bool :=
  coordinatorPool contracts .empty (fun _ => coordinator) fun _ => at_ 845

end July

end EsscherMarket.Runtime
