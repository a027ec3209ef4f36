import EsscherMarket.Risk.Kernel.Alone

/-!
# The control state under every interleaving

A kernel reads the control state in one statement and acts on it in a later one: a reservation
after a read of `ACTIVE`, and a trigger's transition after a read of the state it leaves.
-/

namespace EsscherMarket.Risk

open Lib Execution Prog

/-- The calls that reserve exposure and issue a permit. -/
def LedgerOp.reserves : LedgerOp → Bool
  | .write (.reserveAndIssuePermit _) | .write (.reserveV2AndIssuePermit _) => true
  | _ => false

/-- The calls that store a control state. -/
def LedgerOp.transitions : LedgerOp → Bool
  | .write (.setControlStateWithPassport _ _ _ _) => true
  | _ => false

section Runs

variable {ι : Type} [DecidableEq ι] {p p' : KernelPool ι} {i : ι} {op : LedgerOp}

/-- A reservation or transition commits while the state that its call last read is still stored. -/
def CommitsOnState (p : KernelPool ι) (i : ι) (op : LedgerOp) : Prop :=
  op.reserves ∨ op.transitions → (p.seen i).control = some p.store.getControlState.1

theorem getControlState_congr {s s' : Ledger} (h : s'.controlState = s.controlState) :
    s'.getControlState = s.getControlState := by
  rw [Ledger.getControlState, h, Ledger.getControlState]

theorem controlState_of_after {α : Type} {x : LedgerTxn α} {s : Ledger} (hx : Txn.Atomic x)
    (hok : ∀ {a s'}, x s = .ok a s' → s'.controlState = s.controlState) :
    (Txn.after x s).controlState = s.controlState := by
  rcases hx.after_cases s with ⟨a, ha⟩ | hs
  · exact hok ha
  · rw [hs]

theorem controlState_exec {t : Seen} {c : LedgerCall} (s : Ledger) (hallows : t.allows c)
    (hc : (LedgerOp.write c).transitions = false) : (c.exec s).controlState = s.controlState := by
  cases c with
  | freezeCandidate a =>
    refine controlState_of_after (atomic_freezeCandidate a) fun hok => ?_
    obtain ⟨rows, events, rfl⟩ := freezeCandidate_ok hok
    rfl
  | markNotRun eventId reason now =>
    refine controlState_of_after (atomic_recordNotRunWith true eventId reason now) fun hok => ?_
    obtain ⟨-, events, rfl⟩ := recordNotRunWith_ok hok
    rfl
  | recordAccountSnapshot equity now =>
    refine controlState_of_after (atomic_recordAccountSnapshot equity now) fun hok => ?_
    obtain ⟨rows, rfl⟩ := recordAccountSnapshot_ok hok
    rfl
  | recordSubmission a =>
    refine controlState_of_after (atomic_recordSubmission a) fun hok => ?_
    obtain ⟨_, _, events, -, -, -, -, -, -, -, rfl⟩ := recordSubmission_ok hok
    rfl
  | reconcileObservedOrder a =>
    refine controlState_of_after (atomic_reconcileObservedOrder a) fun hok => ?_
    obtain ⟨_, _, _, _, fills, events, -, -, -, -, -, -, -, rfl⟩ := reconcileObservedOrder_ok hok
    rfl
  | releaseConsumedAfterFlat eventId permitId now =>
    refine controlState_of_after (atomic_releaseConsumedAfterFlat eventId permitId now)
      fun hok => ?_
    obtain ⟨_, _, events, -, -, -, -, -, -, rfl⟩ := releaseConsumedAfterFlat_ok hok
    rfl
  | reserveAndIssuePermit a =>
    refine controlState_of_after (atomic_reserveAndIssuePermit a) fun hok => ?_
    obtain ⟨-, -, -, -, -, rfl⟩ := reserveAndIssuePermit_eq_ok.mp hok
    rfl
  | reserveV2AndIssuePermit a =>
    refine controlState_of_after (atomic_reserveV2AndIssuePermit a) fun hok => ?_
    rcases reserveV2AndIssuePermit_ok hok with rfl | ⟨tier, -, rfl⟩ <;> rfl
  | setControlStateWithPassport state reason payload now => cases hc
  | _ => exact hallows.elim

/-- What a step does to the control state: a transition that its call was allowed stores its
successor, and every other step keeps the state. -/
theorem kernelStep_controlState (hobeys : p.Obeys kernelMonitor) (hstep : KernelStep p i op p') :
    p'.store.getControlState = p.store.getControlState ∨
      ∃ state reason payload now current,
        op = .write (.setControlStateWithPassport state reason payload now) ∧
        (p.seen i).control = some current ∧ (current = .kill → state = .kill) ∧
        p'.store.getControlState.1 = state := by
  rcases kernelStep_store hstep with ⟨c, rfl, hstore⟩ | ⟨-, hstore⟩
  · have hallows : (p.seen i).allows c := hobeys.ok hstep
    cases hc : (LedgerOp.write c).transitions with
    | false =>
      rw [hstore]
      exact .inl (getControlState_congr (controlState_exec p.store hallows hc))
    | true =>
      cases c with
      | setControlStateWithPassport state reason payload now =>
        rcases (atomic_setControlStateWithPassport state reason payload now).after_cases p.store with
          ⟨u, hok⟩ | hs
        · obtain ⟨current, hcurrent, hkill⟩ := hallows
          obtain ⟨events, hs⟩ := setControlStateWithPassport_ok hok
          refine .inr ⟨state, reason, payload, now, current, rfl, hcurrent, hkill, ?_⟩
          rw [hstore.trans hs]
          rfl
        · rw [hstore.trans hs]
          exact .inl rfl
      | _ => cases hc
  · rw [hstore]
    exact .inl rfl

/-- `KILL` survives a step that commits on the stored state. -/
theorem kernelStep_kill (hobeys : p.Obeys kernelMonitor) (hstep : KernelStep p i op p')
    (hcond : CommitsOnState p i op) (hkill : p.store.getControlState.1 = .kill) :
    p'.store.getControlState.1 = .kill := by
  rcases kernelStep_controlState hobeys hstep with
    hsame | ⟨state, reason, payload, now, current, rfl, hcurrent, hnext, hstate⟩
  · rw [hsame, hkill]
  · have hread := hcond (.inr rfl)
    rw [hcurrent, hkill] at hread
    rw [hstate]
    exact hnext (Option.some.inj hread)

/-- Control-state safety where reservations and transitions commit on the stored state: entries only
while it allows them, and no `KILL` is replaced. -/
theorem controlState_safe {policy : ι → KernelPolicy} {call : ι → KernelCall} {s : Ledger}
    {p : KernelPool ι} (h : KernelReachIf CommitsOnState (kernelPool policy call s) p) :
    (∀ i op p', KernelStep p i op p' → CommitsOnState p i op → op.reserves →
      entryAllowed p.store.getControlState.1 = true) ∧
    (p.store.getControlState.1 = .kill → ∀ p', KernelReachIf CommitsOnState p p' →
      p'.store.getControlState.1 = .kill) := by
  have hobeys := h.obeys (kernelPool_obeys policy call s)
  refine ⟨?_, ?_⟩
  · intro i op p' hstep hcond hreserves
    have hread := hcond (.inl hreserves)
    have hactive : (p.seen i).control = some .active := by
      have hok : kernelMonitor.ok (p.seen i) op := hobeys.ok hstep
      unfold LedgerOp.reserves at hreserves
      split at hreserves
      · exact hok.control
      · exact hok.1
      · cases hreserves
    rw [hread] at hactive
    exact entryAllowed_iff.mpr (Option.some.inj hactive)
  · intro hkill p' hreach
    refine hreach.inv (I := fun q => q.store.getControlState.1 = .kill) hobeys hkill ?_
    intro q q' i op hq hobeysq hstep hcond
    exact kernelStep_kill hobeysq hstep hcond hq

end Runs

/-! ### The desk, disabled and killed in between -/

/-- The reconciliation on a stale clock comes down to one trigger. -/
theorem desk_recheck : desk.thread .recheck =
    perform (S := ledgerSig) .getControlState >>= fun r =>
      storeTransition r.1 .staleTruth (.utc 1000) >>= fun _ => pure () := rfl

theorem desk_kill : desk.thread .kill = applyTrigger .killRequest (.utc 1000) >>= fun _ => pure () :=
  rfl

/-- A kill request on the desk commits on the state that it read, and `KILL` stays from there. -/
theorem controlState_safe_kill : ∃ p, KernelReachIf CommitsOnState desk p ∧
    p.store.getControlState.1 = .kill ∧
    ∀ p', KernelReachIf CommitsOnState p p' → p'.store.getControlState.1 = .kill := by
  have hread : CommitsOnState desk .kill .getControlState := by
    rintro (h | h) <;> cases h
  obtain ⟨p₁, hstep₁, hs₁, ht₁, hseen₁⟩ : ∃ p₁, KernelStep desk .kill .getControlState p₁ ∧
      p₁.store = Ledger.empty ∧ p₁.thread .kill = storeTransition .entryDisabled .killRequest
        (.utc 1000) >>= (fun _ => pure ()) ∧
      (p₁.seen .kill).control = some .entryDisabled :=
    ⟨_, .call desk_kill rfl, rfl, by simp [Pool.advance]; rfl, by simp [Pool.advance]; rfl⟩
  obtain ⟨p₂, hstep₂, hs₂⟩ := kernelStep_write ht₁
  have hwrite : ∀ op, CommitsOnState p₁ .kill op := by
    intro op _
    rw [hseen₁, hs₁]
    rfl
  have hreach : KernelReachIf CommitsOnState desk p₂ :=
    (Pool.Reach.init.step hstep₁ hread).step hstep₂ (hwrite _)
  have hkill : p₂.store.getControlState.1 = .kill := by
    rw [hs₂, hs₁]
    rfl
  exact ⟨p₂, hreach, hkill, (controlState_safe hreach).2 hkill⟩

/-- Two commits that are not on the state that their call read: an entry after a reconciliation, and
a reconciliation that replaces a `KILL`. -/
theorem controlState_race :
    (∃ p p' a, KernelReach desk p ∧ entryAllowed p.store.getControlState.1 = false ∧
      KernelStep p (.entry false) (.write (.reserveAndIssuePermit a)) p' ∧
      p.store.openReservationCount = 0 ∧ p'.store.openReservationCount = 1) ∧
    ∃ p p', KernelReach desk p ∧ p.store.getControlState.1 = .kill ∧ KernelReach p p' ∧
      p'.store.getControlState.1 = .entryDisabled := by
  refine ⟨?_, ?_⟩
  · obtain ⟨p₀, events, h₀, hs₀, hentry, hrecheck⟩ := desk_plans
    have hactive : p₀.store.getControlState.1 = .active := by
      rw [hs₀]
      rfl
    -- the reconciliation runs between the checks of the entry and its transaction
    obtain ⟨p₁, h₁, hs₁, ht₁⟩ := h₀.run_bind (hrecheck.trans desk_recheck) rfl
    obtain ⟨e₂, hrun₂⟩ := run_storeTransition p₁.store _ .staleTruth (.utc 1000)
      (congrArg (nextControlState · .staleTruth) hactive) rfl
    have hthread₁ : p₁.thread .recheck = storeTransition p₀.store.getControlState.1 .staleTruth
        (.utc 1000) >>= fun _ => pure () := by
      rw [ht₁, Function.update_self]
      rfl
    obtain ⟨p₂, h₂, hs₂, ht₂⟩ := h₁.run_bind hthread₁ hrun₂
    have hthread₂ : p₂.thread (.entry false) =
        entryCommit .active (spyReserve false) >>= fun _ => pure () := by
      rw [ht₂, Function.update_of_ne (by decide), ht₁, Function.update_of_ne (by decide), hentry]
    have hstore : p₂.store = ((plannedDesk events).withControlState (some ⟨.entryDisabled,
        some ControlTrigger.staleTruth.value, .utc 1000⟩)).withPassportEvents e₂ := by
      rw [hs₂, hs₁, ← hs₀]
      rfl
    have hcommit : reserveAndIssuePermit (spyReserve false) p₂.store =
        .ok (spyIds false) (p₂.store.held (spyReserve false)) := by
      rw [hstore]
      exact firstCommit rfl rfl rfl rfl
    obtain ⟨p₃, hstep, hs₃⟩ := kernelStep_write
      (c := .reserveAndIssuePermit (spyReserve false)) hthread₂
    refine ⟨p₂, p₃, spyReserve false, h₂, ?_, hstep, ?_, ?_⟩
    · rw [hstore]
      rfl
    · rw [hstore]
      rfl
    · rw [hs₃.trans (Txn.after_of_ok hcommit), hstore]
      rfl
  · obtain ⟨p₀, events, h₀, hs₀, -, hrecheck, hkill⟩ := desk_opens
    have hactive : p₀.store.getControlState.1 = .active := by
      rw [hs₀]
      rfl
    -- the request runs between the two statements of the trigger
    obtain ⟨p₁, h₁, hs₁, ht₁⟩ := h₀.run_bind (hrecheck.trans desk_recheck) rfl
    have hthread₁ : p₁.thread .kill = applyTrigger .killRequest (.utc 1000) >>= fun _ => pure () := by
      rw [ht₁, Function.update_of_ne (by decide), hkill, desk_kill]
    obtain ⟨e₂, hrun₂⟩ := run_applyTrigger p₁.store .killRequest (.utc 1000) rfl rfl
    obtain ⟨p₂, h₂, hs₂, ht₂⟩ := h₁.run_bind hthread₁ hrun₂
    have hthread₂ : p₂.thread .recheck = storeTransition p₀.store.getControlState.1 .staleTruth
        (.utc 1000) >>= fun _ => pure () := by
      rw [ht₂, Function.update_of_ne (by decide), ht₁, Function.update_self]
      rfl
    obtain ⟨e₃, hrun₃⟩ := run_storeTransition p₂.store _ .staleTruth (.utc 1000)
      (congrArg (nextControlState · .staleTruth) hactive) rfl
    obtain ⟨p₃, h₃, hs₃, -⟩ := (Pool.Reach.init : KernelReach p₂ p₂).run_bind hthread₂ hrun₃
    refine ⟨p₂, p₃, h₂, ?_, h₃, ?_⟩
    · rw [hs₂]
      rfl
    · rw [hs₃]
      rfl

end EsscherMarket.Risk
