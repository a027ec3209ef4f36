import EsscherMarket.Risk.Kernel.ProgramV2

/-!
# Kernels that share one ledger

Any number of kernel calls, each through its own connection, interleaved at the ledger methods they
call.  By the monitor, a reservation follows a read of `ACTIVE`, and in V1 a read of the open exposure
that leaves room for it; a control state is written as the successor of one that was read.
-/

namespace EsscherMarket.Risk

open Lib Execution Autonomy Prog

/-! ### Calls -/

/-- A call of a kernel method, with what it reads from its truth source. -/
inductive KernelCall where
  | applyTrigger (trigger : ControlTrigger) (now : DateTime)
  | startupReconciliation (truth : Truth) (now : DateTime)
  | freezeCandidate (eventId candidateId : String) (compiled : CompiledExpression)
      (evidenceMode : String) (now : DateTime)
  | markNotRun (eventId reason : String) (now : DateTime)
  | authorizeEntry (a : EntryArgs)
  | previewAllocationV2 (o : DefinedRiskOpportunity) (compiled : CompiledExpression)
      (truth : Truth) (now : DateTime)
  | authorizeEntryV2 (a : EntryV2Args)
  | recordSubmission (eventId permitId brokerOrderId : String) (now : DateTime)
  | reconcileFill (eventId permitId : String) (fill : OrderSnapshot) (truth : Truth)
      (now : DateTime)
  | reconcileFlat (eventId permitId : String) (truth : Truth) (now : DateTime)

/-- The program of a call under a policy, without its result. -/
def KernelCall.prog (policy : KernelPolicy) : KernelCall → KernelProg Unit
  | applyTrigger trigger now => do
    let _ ← Risk.applyTrigger trigger now
    return ()
  | startupReconciliation truth now => do
    let _ ← Risk.startupReconciliation policy truth now
    return ()
  | freezeCandidate eventId candidateId compiled evidenceMode now =>
    kernelFreezeCandidate policy eventId candidateId compiled evidenceMode now
  | markNotRun eventId reason now => kernelMarkNotRun eventId reason now
  | authorizeEntry a => do
    let _ ← Risk.authorizeEntry policy a
    return ()
  | previewAllocationV2 o compiled truth now => do
    let _ ← Risk.previewAllocationV2 policy o compiled truth now
    return ()
  | authorizeEntryV2 a => do
    let _ ← Risk.authorizeEntryV2 policy a
    return ()
  | recordSubmission eventId permitId brokerOrderId now =>
    kernelRecordSubmission eventId permitId brokerOrderId now
  | reconcileFill eventId permitId fill truth now =>
    Risk.reconcileFill policy eventId permitId fill truth now
  | reconcileFlat eventId permitId truth now => Risk.reconcileFlat policy eventId permitId truth now

/-! ### The monitor -/

/-- What a call works under and what it has read. -/
structure Seen where
  policy : KernelPolicy
  /-- the control state it last read -/
  control : Option ControlState
  /-- the underlying whose open exposure it last read, and that exposure -/
  held : Option (String × ℚ)

/-- A V1 reservation carries the policy's limits, and was checked against what was read. -/
structure ReserveSeen (t : Seen) (r : ReserveArgs) : Prop where
  control : t.control = some .active
  limits : ∃ p, t.policy = .v1 p ∧ r.aggregateLimit = p.aggregateExposureLimit ∧
    r.maxOpenExpressions = p.maxOpenExpressions ∧ r.maxEntriesPerDay = p.maxEntriesPerDay ∧
    ∃ held, t.held = some (r.underlying, held) ∧
      held + r.amount.toRat ≤ p.concentrationLimit.toRat

def Seen.allows (t : Seen) : LedgerCall → Prop
  | .reserveAndIssuePermit r => ReserveSeen t r
  | .reserveV2AndIssuePermit _ => t.control = some .active ∧ ∃ p, t.policy = .v2 p
  | .setControlStateWithPassport state _ _ _ =>
      ∃ current, t.control = some current ∧ (current = .kill → state = .kill)
  | .freezeCandidate _ | .markNotRun _ _ _ | .recordAccountSnapshot _ _ | .recordSubmission _
  | .reconcileObservedOrder _ | .releaseConsumedAfterFlat _ _ _ => True
  | _ => False

def kernelMonitor : Monitor ledgerSig Seen where
  next
    | t, .getControlState, r => { t with control := some r.1 }
    | t, .openReservationTotalForUnderlying u, .ok held => { t with held := some (u, held) }
    | t, _, _ => t
  ok
    | t, .write c => t.allows c
    | _, _ => True

/-! ### The methods keep to the monitor -/

variable {t : Seen} {α : Type} {R : Seen → α → Prop}

/-- A ledger method that writes leaves what has been read as it is. -/
theorem safe_ledgerWrite {c : LedgerCall} {R : Seen → c.Res → Prop} (hok : t.allows c)
    (h : ∀ r, R t r) : Safe kernelMonitor t (ledgerWrite c) R :=
  safe_perform_bind hok fun _ => safe_ofExcept fun r _ => h r

theorem safe_applyTrigger {R : Seen → ControlState → Prop} (trigger : ControlTrigger)
    (now : DateTime) (h : ∀ t' s, t'.policy = t.policy → R t' s) :
    Safe kernelMonitor t (applyTrigger trigger now) R := by
  refine safe_perform_bind trivial fun r => ?_
  obtain ⟨current, reason⟩ := r
  refine safe_ofExcept_bind fun updated hupdated => ?_
  have hkill : current = .kill → updated = .kill := by
    rintro rfl
    cases hnext : nextControlState .kill trigger with
    | error e =>
      rw [hnext] at hupdated
      cases hupdated
    | ok next =>
      rw [hnext] at hupdated
      cases hupdated
      exact nextControlState_kill hnext
  refine Safe.bind (R := fun t' _ => t'.policy = t.policy) (safe_ledgerWrite ⟨current, rfl, hkill⟩
    fun _ => rfl) fun t' _ ht' => ?_
  exact safe_pure (h t' updated ht')

theorem safe_failClosed (trigger : ControlTrigger) (now : DateTime) (e : LedgerError) :
    Safe kernelMonitor t (failClosed trigger now e : KernelProg α) R :=
  (safe_applyTrigger (R := fun _ _ => True) trigger now fun _ _ _ => trivial).bind
    fun _ _ _ => safe_raise e

theorem safe_failClosedIf {c : Prop} [Decidable c] {R : Seen → Unit → Prop}
    {trigger : ControlTrigger} {now : DateTime} {e : LedgerError} (h : ¬ c → R t ()) :
    Safe kernelMonitor t (failClosedIf c trigger now e) R := by
  unfold failClosedIf
  split
  · exact safe_failClosed trigger now e
  · exact safe_pure (h ‹_›)

theorem safe_orFailClosed {x : TruthRead α} {now : DateTime} (h : ∀ a, x = .ok a → R t a) :
    Safe kernelMonitor t (orFailClosed x now) R := by
  unfold orFailClosed
  split
  · exact safe_pure (h _ rfl)
  · exact safe_failClosed _ _ _
  · exact safe_failClosed _ _ _

theorem safe_orFailRejected {x : TruthRead α} {now : DateTime} (h : ∀ a, x = .ok a → R t a) :
    Safe kernelMonitor t (orFailRejected x now) R := by
  unfold orFailRejected
  split
  · exact safe_pure (h _ rfl)
  · exact safe_failClosed _ _ _
  · exact safe_raise _

theorem safe_startupReconciliation (policy : KernelPolicy) (truth : Truth) (now : DateTime) :
    Safe kernelMonitor t (startupReconciliation policy truth now) fun _ _ => True := by
  have htrigger : ∀ {t' : Seen} (trigger : ControlTrigger) (now : DateTime),
      Safe kernelMonitor t' (applyTrigger trigger now) fun _ _ => True := by
    intro t' trigger now
    exact safe_applyTrigger trigger now fun _ _ _ => trivial
  refine safe_ofExcept_bind fun current _ => ?_
  split
  · exact htrigger _ _
  · exact htrigger _ _
  · split
    · exact htrigger _ _
    · split
      · exact htrigger _ _
      · refine safe_perform_bind trivial fun r => ?_
        obtain ⟨state, reason⟩ := r
        dsimp only
        split
        · exact safe_pure trivial
        · exact htrigger _ _

/-- The candidate checks read, and leave what has been seen as it is. -/
theorem safe_validateCandidateBinding {policy : KernelPolicy}
    {eventId underlying candidateId : String} {compiled : CompiledExpression} :
    Safe kernelMonitor t (validateCandidateBinding policy eventId underlying candidateId compiled)
      fun t' x => t' = t ∧ x = (eventId, underlying, policy.policySha256) := by
  refine safe_ofExcept_bind fun event hevent => ?_
  refine safe_ofExcept_bind fun symbol hsymbol => ?_
  refine safe_ofExcept_bind fun candidate _ => ?_
  refine safe_ofExcept_bind fun compiledEvent _ => ?_
  refine safe_raiseIf_bind fun _ => ?_
  refine safe_ofExcept_bind fun compiledSymbol _ => ?_
  refine safe_raiseIf_bind fun _ => ?_
  refine safe_perform_bind trivial fun notRun => ?_
  refine safe_raiseIf_bind fun _ => ?_
  refine safe_perform_bind trivial fun found => ?_
  split
  · exact safe_raise _
  · refine safe_raiseIf_bind fun _ => ?_
    refine safe_ofExcept_bind fun decision _ => ?_
    refine safe_raiseIf_bind fun _ => ?_
    refine safe_raiseIf_bind fun _ => ?_
    refine safe_raiseIf_bind fun _ => ?_
    refine safe_pure ⟨rfl, ?_⟩
    rw [(identifier_eq_ok.mp hevent).2, (underlyingText_eq_ok.mp hsymbol).2]

/-- The control state that was read is `ACTIVE`. -/
theorem safe_requireEntryAllowed :
    Safe kernelMonitor t requireEntryAllowed fun t' state =>
      t' = { t with control := some .active } ∧ state = .active := by
  refine safe_perform_bind trivial fun r => ?_
  obtain ⟨state, reason⟩ := r
  refine safe_raiseIf_bind fun hallowed => ?_
  have hactive : state = .active := entryAllowed_iff.mp (by simpa using hallowed)
  subst hactive
  exact safe_pure ⟨rfl, rfl⟩

theorem safe_checkEntryLosses (policy : RiskPolicy) (account : AccountSnapshot) (now : DateTime) :
    Safe kernelMonitor t (checkEntryLosses policy account now) fun t' _ => t' = t := by
  refine Safe.bind (R := fun t' _ => t' = t) (safe_ledgerWrite trivial fun _ => rfl) ?_
  rintro t _ rfl
  refine safe_perform_bind trivial fun peak => ?_
  refine Safe.bind (R := fun t' _ => t' = t) (safe_failClosedIf fun _ => rfl) ?_
  rintro t _ rfl
  refine Safe.bind (R := fun t' _ => t' = t) (safe_failClosedIf fun _ => rfl) ?_
  rintro t _ rfl
  exact safe_failClosedIf fun _ => rfl

theorem grossExisting_nonneg (positions : List PositionSnapshot) (symbol : String) :
    0 ≤ grossExisting positions symbol := by
  apply List.sum_nonneg
  intro x hx
  obtain ⟨p, -, rfl⟩ := List.mem_map.mp hx
  exact abs_nonneg _

/-- After the concentration check, the exposure that was read leaves room for the new one. -/
theorem safe_checkConcentration (policy : RiskPolicy) (positions : List PositionSnapshot)
    (symbol : String) (exposure : Decimal) (now : DateTime) :
    Safe kernelMonitor t (checkConcentration policy positions symbol exposure now) fun t' _ =>
      ∃ held, t' = { t with held := some (symbol, held) } ∧
        held + exposure.toRat ≤ policy.concentrationLimit.toRat := by
  refine safe_perform_bind trivial fun read => ?_
  refine safe_ofExcept_bind fun held hheld => ?_
  subst hheld
  refine safe_failClosedIf fun hle => ⟨held, rfl, ?_⟩
  have hgross := grossExisting_nonneg positions symbol
  linarith [not_lt.mp hle]

/-- What the V1 entry has seen when it reserves. -/
theorem safe_entryPlan {policy : KernelPolicy} {a : EntryArgs} (ht : t.policy = policy) :
    Safe kernelMonitor t (entryPlan policy a) fun t' x => ReserveSeen t' x.2 := by
  refine safe_ofExcept_bind fun current _ => ?_
  cases policy with
  | v2 p => exact safe_raise _
  | v1 p =>
    refine safe_raiseIf_bind fun _ => ?_
    refine safe_raiseIf_bind fun _ => ?_
    refine safe_requireEntryAllowed.bind ?_
    rintro _ _ ⟨rfl, rfl⟩
    refine safe_validateCandidateBinding.bind ?_
    rintro _ _ ⟨rfl, rfl⟩
    refine safe_ofExcept_bind fun _ _ => ?_
    refine Safe.bind (R := fun t' _ => t' = { t with control := some .active })
      (safe_orFailClosed fun _ _ => rfl) ?_
    rintro _ ⟨account, positions, orders⟩ rfl
    refine Safe.bind (R := fun t' _ => t' = { t with control := some .active })
      (safe_failClosedIf fun _ => rfl) ?_
    rintro _ _ rfl
    refine safe_ofExcept_bind fun exposure _ => ?_
    refine safe_ofExcept_bind fun _ _ => ?_
    refine (safe_checkEntryLosses p account current).bind ?_
    rintro _ _ rfl
    refine (safe_checkConcentration p positions a.underlying exposure current).bind ?_
    rintro _ _ ⟨held, rfl, hle⟩
    refine safe_ofExcept_bind fun _ _ => ?_
    exact safe_pure ⟨rfl, p, ht, rfl, rfl, rfl, held, rfl, hle⟩

theorem safe_authorizeEntry {policy : KernelPolicy} {a : EntryArgs} (ht : t.policy = policy) :
    Safe kernelMonitor t (authorizeEntry policy a) fun _ _ => True := by
  refine (safe_entryPlan ht).bind ?_
  rintro t' ⟨state, r⟩ hr
  refine Safe.bind (R := fun _ _ => True) (safe_ledgerWrite hr fun _ => trivial) ?_
  rintro _ ⟨reservationId, issuedPermitId, permitSha256⟩ -
  exact safe_raiseIf_bind fun _ => safe_pure trivial

/-! ### The V2 methods -/

theorem safe_v2Portfolio (v : V2Truth) (policySha256 : String) :
    Safe kernelMonitor t (v2Portfolio v policySha256) fun t' _ => t' = t := by
  refine safe_perform_bind trivial fun nonV2 : Bool => ?_
  refine safe_raiseIf_bind fun _ => ?_
  refine safe_perform_bind trivial fun rows => ?_
  refine safe_ofExcept_bind fun book _ => ?_
  refine safe_raiseIf_bind fun _ => ?_
  refine safe_perform_bind trivial fun known => ?_
  refine safe_ofExcept_bind fun _ _ => ?_
  refine safe_ofExcept_bind fun portfolio _ => ?_
  exact safe_pure rfl

theorem safe_v2PortfolioOrFail (v : V2Truth) (policySha256 : String) (now : DateTime) :
    Safe kernelMonitor t (v2PortfolioOrFail v policySha256 now) fun t' _ => t' = t := by
  refine safe_tryCatch (safe_v2Portfolio v policySha256) fun t' e => ?_
  split
  · exact safe_failClosed _ _ _
  · exact safe_failClosed _ _ _
  · exact safe_raise _

theorem safe_previewAllocationV2 (policy : KernelPolicy) (o : DefinedRiskOpportunity)
    (compiled : CompiledExpression) (truth : Truth) (now : DateTime) :
    Safe kernelMonitor t (previewAllocationV2 policy o compiled truth now) fun _ _ => True := by
  refine safe_ofExcept_bind fun current _ => ?_
  refine safe_ofExcept_bind fun p _ => ?_
  refine safe_ofExcept_bind fun _ _ => ?_
  refine safe_requireEntryAllowed.bind fun t' state _ => ?_
  refine safe_ofExcept_bind fun _ _ => ?_
  refine safe_ofExcept_bind fun symbol _ => ?_
  refine safe_ofExcept_bind fun _ _ => ?_
  refine Safe.bind (R := fun _ _ => True) (safe_orFailClosed fun _ _ => trivial) fun t' v _ => ?_
  refine Safe.bind (R := fun _ _ => True) (safe_failClosedIf fun _ => trivial) fun t' _ _ => ?_
  refine (safe_v2PortfolioOrFail v policy.policySha256 current).bind ?_
  rintro t' ⟨portfolio, existing⟩ -
  refine safe_ofExcept_bind fun d _ => ?_
  exact safe_pure trivial

theorem safe_entryPlanV2 {policy : KernelPolicy} {a : EntryV2Args} (ht : t.policy = policy) :
    Safe kernelMonitor t (entryPlanV2 policy a) fun t' _ =>
      t'.control = some .active ∧ ∃ p, t'.policy = .v2 p := by
  refine safe_ofExcept_bind fun current _ => ?_
  refine safe_ofExcept_bind fun p hp => ?_
  have hv2 : ∃ p, t.policy = .v2 p := by
    cases policy with
    | v1 p => cases hp
    | v2 p => exact ⟨p, ht⟩
  refine safe_ofExcept_bind fun _ _ => ?_
  refine safe_requireEntryAllowed.bind ?_
  rintro _ _ ⟨rfl, rfl⟩
  refine safe_ofExcept_bind fun _ _ => ?_
  refine safe_ofExcept_bind fun event _ => ?_
  refine safe_ofExcept_bind fun candidate _ => ?_
  refine safe_ofExcept_bind fun symbol _ => ?_
  refine safe_ofExcept_bind fun compiledEvent _ => ?_
  refine safe_raiseIf_bind fun _ => ?_
  refine safe_ofExcept_bind fun _ _ => ?_
  refine safe_validateCandidateBinding.bind ?_
  rintro _ _ ⟨rfl, rfl⟩
  refine safe_ofExcept_bind fun _ _ => ?_
  refine safe_ofExcept_bind fun terms _ => ?_
  obtain ⟨quantity, maxLoss⟩ := terms
  refine Safe.bind (R := fun t' _ => t' = { t with control := some .active })
    (safe_orFailClosed fun _ _ => rfl) ?_
  rintro _ v rfl
  refine Safe.bind (R := fun t' _ => t' = { t with control := some .active })
    (safe_failClosedIf fun _ => rfl) ?_
  rintro _ _ rfl
  refine (safe_v2PortfolioOrFail v policy.policySha256 current).bind ?_
  rintro _ ⟨portfolio, existing⟩ rfl
  refine safe_ofExcept_bind fun d _ => ?_
  exact safe_ofExcept fun _ _ => ⟨rfl, hv2⟩

theorem safe_authorizeEntryV2 {policy : KernelPolicy} {a : EntryV2Args} (ht : t.policy = policy) :
    Safe kernelMonitor t (authorizeEntryV2 policy a) fun _ _ => True := by
  refine (safe_entryPlanV2 ht).bind fun t' plan hplan => ?_
  cases plan with
  | abstain a => exact safe_pure trivial
  | reserve state tier r =>
    refine Safe.bind (R := fun _ _ => True) (safe_ledgerWrite hplan fun _ => trivial) ?_
    intro _ receipt _
    exact safe_raiseIf_bind fun _ => safe_pure trivial

/-! ### Reconciliation -/

theorem safe_reconcileFill (policy : KernelPolicy) (eventId permitId : String)
    (fill : OrderSnapshot) (truth : Truth) (now : DateTime) :
    Safe kernelMonitor t (reconcileFill policy eventId permitId fill truth now)
      fun _ _ => True := by
  refine safe_ofExcept_bind fun current _ => ?_
  refine Safe.bind (R := fun _ _ => True) (safe_orFailRejected fun _ _ => trivial) ?_
  intro _ observed _
  refine Safe.bind (R := fun _ _ => True) (safe_failClosedIf fun _ => trivial) ?_
  intro _ _ _
  refine safe_tryCatch (safe_ledgerWrite trivial fun _ => trivial) fun t' e => ?_
  split
  · exact safe_failClosed _ _ _
  · exact safe_raise _

theorem safe_reconcileFlat (policy : KernelPolicy) (eventId permitId : String) (truth : Truth)
    (now : DateTime) :
    Safe kernelMonitor t (reconcileFlat policy eventId permitId truth now) fun _ _ => True := by
  refine safe_ofExcept_bind fun current _ => ?_
  refine safe_perform_bind trivial fun found => ?_
  split
  · exact safe_raise _
  · refine safe_ofExcept_bind fun symbol _ => ?_
    refine Safe.bind (R := fun _ _ => True) (safe_orFailRejected fun _ _ => trivial) ?_
    rintro _ ⟨positions, orders⟩ -
    refine Safe.bind (R := fun _ _ => True) (safe_failClosedIf fun _ => trivial) ?_
    intro _ _ _
    refine Safe.bind (R := fun _ _ => True) (safe_failClosedIf fun _ => trivial) ?_
    intro _ _ _
    exact safe_ledgerWrite trivial fun _ => trivial

/-- Every kernel method keeps to the monitor, whatever the ledger answers. -/
theorem kernelCall_safe (policy : KernelPolicy) (c : KernelCall) (ht : t.policy = policy) :
    Safe kernelMonitor t (c.prog policy) fun _ _ => True := by
  cases c with
  | applyTrigger trigger now =>
    exact (safe_applyTrigger (R := fun _ _ => True) trigger now fun _ _ _ => trivial).bind
      fun _ _ _ => safe_pure trivial
  | startupReconciliation truth now =>
    exact (safe_startupReconciliation policy truth now).bind fun _ _ _ => safe_pure trivial
  | freezeCandidate eventId candidateId compiled evidenceMode now =>
    refine safe_ofExcept_bind fun current _ => ?_
    refine safe_ofExcept_bind fun event _ => ?_
    refine safe_ofExcept_bind fun candidate _ => ?_
    refine safe_ofExcept_bind fun compiledEvent _ => ?_
    refine safe_raiseIf_bind fun _ => ?_
    refine safe_ofExcept_bind fun decision _ => ?_
    refine safe_ofExcept_bind fun mode _ => ?_
    exact safe_ledgerWrite trivial fun _ => trivial
  | markNotRun eventId reason now =>
    refine safe_ofExcept_bind fun event _ => ?_
    refine safe_ofExcept_bind fun why _ => ?_
    refine safe_ofExcept_bind fun current _ => ?_
    exact safe_ledgerWrite trivial fun _ => trivial
  | authorizeEntry a => exact (safe_authorizeEntry ht).bind fun _ _ _ => safe_pure trivial
  | previewAllocationV2 o compiled truth now =>
    exact (safe_previewAllocationV2 policy o compiled truth now).bind fun _ _ _ => safe_pure trivial
  | authorizeEntryV2 a => exact (safe_authorizeEntryV2 ht).bind fun _ _ _ => safe_pure trivial
  | recordSubmission eventId permitId brokerOrderId now =>
    refine safe_ofExcept_bind fun current _ => ?_
    exact safe_ledgerWrite trivial fun _ => trivial
  | reconcileFill eventId permitId fill truth now =>
    exact safe_reconcileFill policy eventId permitId fill truth now
  | reconcileFlat eventId permitId truth now =>
    exact safe_reconcileFlat policy eventId permitId truth now

/-! ### Interleavings -/

section Pools

variable {ι : Type} [DecidableEq ι]

abbrev KernelPool (ι : Type) : Type := Pool ledgerSig LedgerError Unit Ledger Seen ι

def kernelPool (policy : ι → KernelPolicy) (call : ι → KernelCall) (s : Ledger) : KernelPool ι where
  store := s
  thread i := (call i).prog (policy i)
  seen i := ⟨policy i, none, none⟩

abbrev KernelStep : KernelPool ι → ι → LedgerOp → KernelPool ι → Prop :=
  Pool.Step kernelMonitor fun op s r s' => ledgerAnswer op s = (r, s')

/-- What the interleaved calls can reach by steps that meet a condition. -/
abbrev KernelReachIf (C : KernelPool ι → ι → LedgerOp → Prop) : KernelPool ι → KernelPool ι → Prop :=
  Pool.Reach kernelMonitor (fun op s r s' => ledgerAnswer op s = (r, s')) C

abbrev KernelReach : KernelPool ι → KernelPool ι → Prop := KernelReachIf fun _ _ _ => True

omit [DecidableEq ι] in
theorem kernelPool_obeys (policy : ι → KernelPolicy) (call : ι → KernelCall) (s : Ledger) :
    (kernelPool policy call s).Obeys kernelMonitor :=
  fun i => kernelCall_safe (policy i) (call i) rfl

theorem kernelStep_store {p p' : KernelPool ι} {i : ι} {op : LedgerOp} (h : KernelStep p i op p') :
    (∃ c, op = .write c ∧ p'.store = c.exec p.store) ∨
      ((∀ c, op ≠ .write c) ∧ p'.store = p.store) := by
  cases h with
  | call hthread hstore =>
    cases op with
    | write c =>
      cases hstore
      exact .inl ⟨c, rfl, rfl⟩
    | _ =>
      cases hstore
      exact .inr ⟨by simp, rfl⟩

/-- A call that is about to write can do so. -/
theorem kernelStep_write {p : KernelPool ι} {i : ι} {c : LedgerCall}
    {k : Except LedgerError c.Res → KernelProg Unit} (hthread : p.thread i = .call (.write c) k) :
    ∃ p', KernelStep p i (.write c) p' ∧ p'.store = c.exec p.store :=
  ⟨_, .call hthread rfl, rfl⟩

/-- A step leaves every call's policy as it is. -/
theorem kernelStep_policy {p p' : KernelPool ι} {i : ι} {op : LedgerOp} (h : KernelStep p i op p')
    (j : ι) : (p'.seen j).policy = (p.seen j).policy := by
  cases h with
  | @call k r s hthread hstore =>
    by_cases hj : j = i
    · subst hj
      simp only [Pool.advance, Function.update_self, kernelMonitor]
      split <;> rfl
    · simp [Pool.advance, hj]

/-- What a call has read of an underlying's exposure is what it had read, or the ledger's answer. -/
theorem kernelStep_held {p p' : KernelPool ι} {i : ι} {op : LedgerOp} (h : KernelStep p i op p')
    (j : ι) : (p'.seen j).held = (p.seen j).held ∨ ∃ underlying held,
      p.store.openReservationTotalForUnderlying underlying = .ok held ∧
        (p'.seen j).held = some (underlying, held) := by
  cases h with
  | @call k r s hthread hstore =>
    by_cases hj : j = i
    · subst hj
      simp only [Pool.advance, Function.update_self, kernelMonitor]
      split
      · exact .inl rfl
      · rename_i u held
        exact .inr ⟨u, held, congrArg Prod.fst hstore, rfl⟩
      · exact .inl rfl
    · simp [Pool.advance, hj]

end Pools

end EsscherMarket.Risk
