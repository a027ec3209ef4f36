import EsscherMarket.Lib.Sha256Eval
import EsscherMarket.Risk.Kernel.Interleaving

/-!
# Kernel calls that run alone

What a kernel method returns and leaves behind when no other connection commits between its ledger
calls.  The passport grows with every write; what it holds is not followed here.
-/

namespace EsscherMarket.Risk

open Lib Execution Autonomy Prog

variable {s s' : Ledger} {now : DateTime}

theorem run_ledgerWrite {c : LedgerCall} {r : c.Res} (h : c.txn s = .ok r s') :
    (ledgerWrite c).run ledgerAnswer s = (.ok r, s') := by
  have hresult : c.txn.result s = .ok r := Txn.result_of_ok h
  have hexec : c.exec s = s' := Txn.after_of_ok h
  refine run_perform_bind ?_
  simp only [ledgerAnswer, hresult, hexec]
  rfl

theorem run_failClosedIf {c : Prop} [Decidable c] {trigger : ControlTrigger} {e : LedgerError}
    (hc : ¬ c) : (failClosedIf c trigger now e).run ledgerAnswer s = (.ok (), s) := by
  rw [failClosedIf, if_neg hc]
  rfl

/-! ### Control state and candidates -/

theorem setControlStateWithPassport_of_utc (state : ControlState) (reason : Option String)
    (payload : Json) (hnow : now.tzinfo = .utc) :
    ∃ events, setControlStateWithPassport state reason payload now s =
      .ok () ((s.withControlState (some ⟨state, reason, now⟩)).withPassportEvents events) := by
  have hset : setControlState state reason now s =
      .ok () (s.withControlState (some ⟨state, reason, now⟩)) :=
    timestamp_bind_eq_ok.mpr ⟨hnow, rfl⟩
  set s₁ := s.withControlState (some ⟨state, reason, now⟩) with hs₁
  have hpassport : appendPassport .controlStateChanged payload now s₁ =
      .ok () (s₁.withPassportEvents (s₁.passportEvents ++
        [passportRow s₁ PassportEventType.controlStateChanged.value payload now])) :=
    appendPassport_eq_ok.mpr ⟨hnow, rfl⟩
  exact ⟨_, Txn.immediate_eq_ok.mpr (Txn.bind_eq_ok.mpr ⟨(), _, hset, hpassport⟩)⟩

def storeTransition (current : ControlState) (trigger : ControlTrigger) (now : DateTime) :
    KernelProg ControlState := do
  let updated ← ofExcept ((nextControlState current trigger).mapError .rejected)
  ledgerWrite (.setControlStateWithPassport updated (some trigger.value)
    (.obj [("from", .str current.value), ("to", .str updated.value),
      ("trigger", .str trigger.value)]) now)
  return updated

/-- The second statement stores the successor of what was read, whatever is stored by then. -/
theorem run_storeTransition (s : Ledger) (current : ControlState) (trigger : ControlTrigger)
    (now : DateTime) {updated : ControlState}
    (hnext : nextControlState current trigger = .ok updated) (hnow : now.tzinfo = .utc) :
    ∃ events, (storeTransition current trigger now).run ledgerAnswer s = (.ok updated,
      (s.withControlState (some ⟨updated, some trigger.value, now⟩)).withPassportEvents events) := by
  obtain ⟨events, hwrite⟩ := setControlStateWithPassport_of_utc (s := s) updated
    (some trigger.value) (.obj [("from", .str current.value), ("to", .str updated.value),
      ("trigger", .str trigger.value)]) hnow
  refine ⟨events, run_ofExcept_bind (a := updated)
    (congrArg (Except.mapError LedgerError.rejected) hnext) ?_⟩
  exact run_bind (run_ledgerWrite hwrite) rfl

/-- A trigger alone replaces the control state by its successor. -/
theorem run_applyTrigger (s : Ledger) (trigger : ControlTrigger) (now : DateTime)
    {updated : ControlState}
    (hnext : nextControlState s.getControlState.1 trigger = .ok updated)
    (hnow : now.tzinfo = .utc) :
    ∃ events, (applyTrigger trigger now).run ledgerAnswer s = (.ok updated,
      (s.withControlState (some ⟨updated, some trigger.value, now⟩)).withPassportEvents events) := by
  obtain ⟨events, hrun⟩ := run_storeTransition s _ trigger now hnext hnow
  exact ⟨events, run_perform_bind hrun⟩

theorem storeCandidate_new {row : CandidateRow} (hfree : s.candidateForEvent row.eventId = none)
    (hnotRun : s.notRunExists row.eventId = false) :
    storeCandidate row s = .ok () (s.withCandidates (s.candidates ++ [row])) := by
  simp only [storeCandidate, Txn.select_bind_eq_ok, Txn.raiseIf_bind_eq_ok,
    insertCandidate_eq_ok, id, hfree, hnotRun]
  refine ⟨by simp, by simp, ?_, trivial⟩
  simpa [Ledger.candidateForEvent] using hfree

theorem freezeCandidate_new {a : CandidateArgs} {row : CandidateRow}
    (hrow : validatedCandidate a = .ok row) (hfree : s.candidateForEvent row.eventId = none)
    (hnotRun : s.notRunExists row.eventId = false) (hnow : row.createdAt.tzinfo = .utc) :
    ∃ events, freezeCandidate a s =
      .ok () ((s.withCandidates (s.candidates ++ [row])).withPassportEvents events) := by
  have hstore := storeCandidate_new hfree hnotRun
  set s₁ := s.withCandidates (s.candidates ++ [row]) with hs₁
  have hpassport : ∀ payload, appendPassport .candidateFrozen payload row.createdAt s₁ =
      .ok () (s₁.withPassportEvents (s₁.passportEvents ++
        [passportRow s₁ PassportEventType.candidateFrozen.value payload row.createdAt])) :=
    fun _ => appendPassport_eq_ok.mpr ⟨hnow, rfl⟩
  exact ⟨_, Txn.lift_bind_eq_ok.mpr ⟨row, hrow, Txn.immediate_eq_ok.mpr
    (Txn.bind_eq_ok.mpr ⟨(), s₁, hstore, hpassport _⟩)⟩⟩

/-- A candidate of a fresh event is frozen under the active policy. -/
theorem run_kernelFreezeCandidate (s : Ledger) (policy : KernelPolicy)
    (compiled : CompiledExpression) (now : DateTime) {candidateId evidenceMode : String}
    (hnow : now.tzinfo = .utc)
    (hevent : isExactText compiled.eventId) (hcandidate : isExactText candidateId)
    (hdecision : isLowerHex 64 compiled.decisionSha256)
    (hdecisionText : isExactText compiled.decisionSha256) (hmode : isExactText evidenceMode)
    (hfree : s.candidateForEvent compiled.eventId = none)
    (hnotRun : s.notRunExists compiled.eventId = false) :
    ∃ events, (kernelFreezeCandidate policy compiled.eventId candidateId compiled evidenceMode
        now).run ledgerAnswer s =
      (.ok (), (s.withCandidates (s.candidates ++ [⟨compiled.eventId, candidateId,
        policy.policySha256, compiled.decisionSha256, compiledExpressionSha256 compiled,
        evidenceMode, now⟩])).withPassportEvents events) := by
  have hrow : validatedCandidate ⟨compiled.eventId, candidateId, policy.policySha256,
      compiled.decisionSha256, compiledExpressionSha256 compiled, evidenceMode, now⟩ =
      .ok ⟨compiled.eventId, candidateId, policy.policySha256, compiled.decisionSha256,
        compiledExpressionSha256 compiled, evidenceMode, now⟩ := by
    have hexpression : isLowerHex 64 (compiledExpressionSha256 compiled) :=
      Json.isLowerHex_sha256 _
    simp only [validatedCandidate, except_bind_eq_ok, except_pure_eq_ok, identifier_eq_ok,
      sha256Text_eq_ok, timestamp_eq_ok]
    exact ⟨_, ⟨hevent, rfl⟩, _, ⟨hcandidate, rfl⟩, _, ⟨policy.isLowerHex_policySha256, rfl⟩, _,
      ⟨hdecision, rfl⟩, _, ⟨hexpression, rfl⟩, _, ⟨hmode, rfl⟩, _, ⟨hnow, rfl⟩, rfl⟩
  obtain ⟨events, hwrite⟩ := freezeCandidate_new hrow hfree hnotRun hnow
  refine ⟨events, ?_⟩
  refine run_ofExcept_bind (a := now) (if_pos hnow) ?_
  refine run_ofExcept_bind (identifier_eq_ok.mpr ⟨hevent, rfl⟩) ?_
  refine run_ofExcept_bind (identifier_eq_ok.mpr ⟨hcandidate, rfl⟩) ?_
  refine run_ofExcept_bind (identifier_eq_ok.mpr ⟨hevent, rfl⟩) ?_
  refine run_raiseIf_bind (by simp) ?_
  refine run_ofExcept_bind (identifier_eq_ok.mpr ⟨hdecisionText, rfl⟩) ?_
  refine run_ofExcept_bind (identifier_eq_ok.mpr ⟨hmode, rfl⟩) ?_
  exact run_ledgerWrite hwrite

/-- Fresh truth without positions and partial fills resolves a blocked desk. -/
theorem run_startupReconciliation (s : Ledger) (policy : KernelPolicy) (truth : Truth)
    (now : DateTime) {account : AccountSnapshot} {orders : List OrderSnapshot} (hnow : now.tzinfo = .utc)
    (htruth : readTruth truth now policy.truthMaxAgeSeconds = .ok (account, [], orders))
    (hpart : orders.any (·.isPartialFill) = false) (hkill : s.getControlState.1 ≠ .kill)
    (hactive : s.getControlState.1 ≠ .active)
    (hnext : nextControlState s.getControlState.1 .resolved = .ok .active) :
    ∃ events, (startupReconciliation policy truth now).run ledgerAnswer s = (.ok .active,
      (s.withControlState
        (some ⟨.active, some ControlTrigger.resolved.value, now⟩)).withPassportEvents events) := by
  obtain ⟨events, hrun⟩ := run_applyTrigger s .resolved now hnext hnow
  refine ⟨events, ?_⟩
  refine run_ofExcept_bind (a := now) (if_pos hnow) ?_
  rw [htruth]
  simp only [hpart, List.any_nil, Bool.false_eq_true, if_false]
  refine run_perform_bind ?_
  simp only [ledgerAnswer, hkill, hactive, or_self, if_false]
  exact hrun

/-! ### The immutable candidate chain -/

/-- The caller names the compiled expression and its frozen candidate, which may still run. -/
structure Bound (policy : KernelPolicy) (s : Ledger) (eventId underlying candidateId : String)
    (compiled : CompiledExpression) : Prop where
  eventOk : isExactText eventId
  underlyingOk : isExactText underlying ∧ isUpper underlying
  candidateOk : isExactText candidateId
  sameEvent : compiled.eventId = eventId
  sameUnderlying : compiledUnderlying compiled = .ok underlying
  mayRun : s.notRunReason eventId = none
  frozen : Frozen s eventId candidateId policy.policySha256 compiled.decisionSha256
    (compiledExpressionSha256 compiled)
  decisionOk : isExactText compiled.decisionSha256

theorem run_validateCandidateBinding {policy : KernelPolicy}
    {eventId underlying candidateId : String} {compiled : CompiledExpression}
    (h : Bound policy s eventId underlying candidateId compiled) :
    (validateCandidateBinding policy eventId underlying candidateId compiled).run ledgerAnswer s =
      (.ok (eventId, underlying, policy.policySha256), s) := by
  obtain ⟨c, hc, hpolicy, hcandidate, hdecision, hexpression⟩ := h.frozen
  refine run_ofExcept_bind (identifier_eq_ok.mpr ⟨h.eventOk, rfl⟩) ?_
  refine run_ofExcept_bind (underlyingText_eq_ok.mpr ⟨h.underlyingOk, rfl⟩) ?_
  refine run_ofExcept_bind (identifier_eq_ok.mpr ⟨h.candidateOk, rfl⟩) ?_
  refine run_ofExcept_bind (identifier_eq_ok.mpr ⟨h.sameEvent ▸ h.eventOk, rfl⟩) ?_
  refine run_raiseIf_bind (not_not.mpr h.sameEvent.symm) ?_
  refine run_ofExcept_bind h.sameUnderlying ?_
  refine run_raiseIf_bind (not_not.mpr rfl) ?_
  refine run_perform_bind ?_
  refine run_raiseIf_bind (by simp [ledgerAnswer, h.mayRun]) ?_
  refine run_perform_bind ?_
  simp only [ledgerAnswer, hc]
  refine run_raiseIf_bind (not_not.mpr hpolicy) ?_
  refine run_ofExcept_bind (identifier_eq_ok.mpr ⟨h.decisionOk, rfl⟩) ?_
  refine run_raiseIf_bind (not_not.mpr hcandidate) ?_
  refine run_raiseIf_bind (not_not.mpr hdecision) ?_
  refine run_raiseIf_bind (not_not.mpr hexpression) ?_
  rfl

theorem run_requireEntryAllowed (h : s.getControlState.1 = .active) :
    requireEntryAllowed.run ledgerAnswer s = (.ok .active, s) := by
  have hallowed : ¬ entryAllowed s.getControlState.1 = false := by
    rw [h]
    decide
  refine run_perform_bind (run_raiseIf_bind hallowed ?_)
  exact congrArg (fun state => (Except.ok state, s)) h

/-! ### The V1 entry -/

def Ledger.withSnapshot (s : Ledger) (equity : Decimal) (now : DateTime) : Ledger :=
  s.withAccountSnapshots (s.accountSnapshots ++ [⟨equity, now⟩])

theorem run_checkEntryLosses {policy : RiskPolicy} {account : AccountSnapshot}
    (hnow : now.tzinfo = .utc)
    (hdaily : ((s.withSnapshot account.equity now).intradayPeakEquity now).toRat -
      account.equity.toRat ≤ policy.dailyLossLimit.toRat)
    (hdrawdown : policy.accountCapital.toRat - account.equity.toRat ≤ policy.drawdownLimit.toRat)
    (hclose : policy.closeOnlyEquityThreshold.toRat < account.equity.toRat) :
    (checkEntryLosses policy account now).run ledgerAnswer s =
      (.ok (), s.withSnapshot account.equity now) := by
  have hequity : account.equity.isFinite = true := by
    have h := account.accepted
    simp only [AccountSnapshotFields.check, Bool.and_eq_true] at h
    exact h.1.1.1.1
  have hwrite : recordAccountSnapshot account.equity now s =
      .ok () (s.withSnapshot account.equity now) :=
    Txn.lift_bind_eq_ok.mpr ⟨_, finiteDecimal_eq_ok.mpr ⟨hequity, rfl⟩,
      timestamp_bind_eq_ok.mpr ⟨hnow, rfl⟩⟩
  refine run_bind (run_ledgerWrite hwrite) ?_
  refine run_perform_bind ?_
  refine run_bind (run_failClosedIf (not_lt.mpr hdaily)) ?_
  refine run_bind (run_failClosedIf (not_lt.mpr hdrawdown)) ?_
  exact run_failClosedIf (not_le.mpr hclose)

/-- Without positions the exposure that was read and the new one must fit the limit. -/
theorem run_checkConcentration {policy : RiskPolicy} {symbol : String} {exposure : Decimal}
    {held : ℚ} (hheld : s.openReservationTotalForUnderlying symbol = .ok held)
    (hle : held + exposure.toRat ≤ policy.concentrationLimit.toRat) :
    (checkConcentration policy [] symbol exposure now).run ledgerAnswer s = (.ok (), s) := by
  have hroom : ¬ policy.concentrationLimit.toRat <
      grossExisting [] symbol + held + exposure.toRat := by
    simpa [grossExisting] using hle
  refine run_perform_bind ?_
  simp only [ledgerAnswer, hheld]
  refine run_ofExcept_bind rfl ?_
  exact run_failClosedIf hroom

/-- What a V1 entry on a flat account needs to reach its reservation transaction. -/
structure EntryReady (policy : RiskPolicy) (a : EntryArgs) (account : AccountSnapshot)
    (exposure : Decimal) (s : Ledger) : Prop where
  nowUtc : a.now.tzinfo = .utc
  constants : policy.constantsVerified = true
  active : s.getControlState.1 = .active
  bound : Bound (.v1 policy) s a.eventId a.underlying a.candidateId a.compiled
  permit : validatePermitBinding a.permit a.compiled (riskPolicySha256 policy) a.now = .ok ()
  flat : readTruth a.truth a.now policy.truthMaxAgeSeconds = .ok (account, [], [])
  exposureOk : expressionExposure a.compiled = .ok exposure
  budget : checkEntryBudget policy a.eventId exposure account = .ok ()
  daily : ((s.withSnapshot account.equity a.now).intradayPeakEquity a.now).toRat -
    account.equity.toRat ≤ policy.dailyLossLimit.toRat
  drawdown : policy.accountCapital.toRat - account.equity.toRat ≤ policy.drawdownLimit.toRat
  closeOnly : policy.closeOnlyEquityThreshold.toRat < account.equity.toRat
  concentration : ∃ held, s.openReservationTotalForUnderlying a.underlying = .ok held ∧
    held + exposure.toRat ≤ policy.concentrationLimit.toRat

/-- A ready entry plans the reservation of its exposure. -/
theorem run_entryPlan {policy : RiskPolicy} {a : EntryArgs} {account : AccountSnapshot}
    {exposure : Decimal} (h : EntryReady policy a account exposure s) :
    (entryPlan (.v1 policy) a).run ledgerAnswer s =
      (.ok (.active, entryReserveArgs policy a a.eventId a.underlying (riskPolicySha256 policy)
        exposure), s.withSnapshot account.equity a.now) := by
  have hpaper : policy.runMode = "PAPER" := by
    have haccepted := policy.accepted
    simp only [RiskPolicyFields.check, Bool.and_eq_true, beq_iff_eq] at haccepted
    tauto
  obtain ⟨held, hheld, hroom⟩ := h.concentration
  refine run_ofExcept_bind (a := a.now) (if_pos h.nowUtc) ?_
  refine run_raiseIf_bind (by simp [h.constants]) ?_
  refine run_raiseIf_bind (not_not.mpr hpaper) ?_
  refine run_bind (run_requireEntryAllowed h.active) ?_
  refine run_bind (run_validateCandidateBinding h.bound) ?_
  refine run_ofExcept_bind h.permit ?_
  rw [h.flat]
  have hread : (orFailClosed (.ok (account, [], [])) a.now : KernelProg (AccountSnapshot ×
      List PositionSnapshot × List OrderSnapshot)).run ledgerAnswer s =
      (.ok (account, [], []), s) := rfl
  refine run_bind hread ?_
  refine run_bind (run_failClosedIf (by simp)) ?_
  refine run_ofExcept_bind h.exposureOk ?_
  refine run_ofExcept_bind h.budget ?_
  refine run_bind (run_checkEntryLosses h.nowUtc h.daily h.drawdown h.closeOnly) ?_
  refine run_bind (run_checkConcentration hheld hroom) ?_
  refine run_ofExcept_bind (identifier_eq_ok.mpr ⟨h.bound.decisionOk, rfl⟩) ?_
  rfl

/-- An entry whose reservation transaction returns is approved. -/
theorem run_entryCommit {state : ControlState} {r : ReserveArgs} {ids : String × String × String}
    (h : reserveAndIssuePermit r s = .ok ids s') :
    (entryCommit state r).run ledgerAnswer s =
      (.ok ⟨r.eventId, r.candidateId, "rsv-" ++ r.eventId, r.permit.permitId,
        debitVerticalPermitSha256 r.permit, r.amount, state⟩, s') := by
  obtain ⟨-, -, -, -, rfl, -⟩ := reserveAndIssuePermit_eq_ok.mp h
  refine run_bind (run_ledgerWrite h) ?_
  refine run_raiseIf_bind (by simp) ?_
  rfl

/-! ### A desk with two candidates

Concrete calls under one V1 policy: two candidates are frozen, the startup reconciliation opens the
desk, and an entry is made for each candidate.  A reconciliation on a stale broker clock and a kill
request may come in between. -/

/-- A V1 policy whose concentration limit holds one of the concrete spreads, but not two. -/
def spyPolicy : RiskPolicy where
  policyId := "PAPER_ACCOUNT_RISK_POLICY_V1"
  version := "v1"
  runMode := "PAPER"
  accountCapital := .ofNat 10000
  perEventLossBudget := .ofNat 500
  aggregateExposureLimit := .ofNat 5000
  dailyLossLimit := .ofNat 1000
  drawdownLimit := .ofNat 5000
  concentrationLimit := .ofNat 400
  maxEntriesPerDay := 10
  maxOpenExpressions := 10
  closeOnlyEquityThreshold := .ofNat 100
  truthMaxAgeSeconds := 30
  constantsSourceSha256 := digestA
  accepted := by decide +kernel

def spyAccount : AccountSnapshot :=
  ⟨⟨.ofNat 10000, .ofNat 10000, "USD", .utc 1000, some (.ofNat 10000)⟩, by decide +kernel⟩

def flatTruth : Truth := ⟨.ok (.utc 1000), .ok (some spyAccount), .ok [], .ok []⟩

def spyEvent (second : Bool) : String := if second then "e2" else "e1"

theorem strip_spyEvent (second : Bool) : (strip (spyEvent second) != "") = true := by
  cases second <;> decide

theorem spyEvent_ne_empty (second : Bool) : (spyEvent second != "") = true := by
  cases second <;> decide

theorem isExactText_spyEvent (second : Bool) : isExactText (spyEvent second) = true := by
  cases second <;> decide

def spyCompiled (second : Bool) : CompiledExpression :=
  spyExpression (spyEvent second) (riskPolicySha256 spyPolicy) (spyEvent_ne_empty second)
    (Json.length_sha256 _)

def spyEntry (second : Bool) : EntryArgs where
  eventId := spyEvent second
  underlying := "SPY"
  candidateId := "c1"
  compiled := spyCompiled second
  permit := spyPermit (spyEvent second) (riskPolicySha256 spyPolicy) (strip_spyEvent second)
    (Json.isLowerHex_sha256 _)
  truth := flatTruth
  now := .utc 1000

/-- Truth of a broker clock that is an hour off. -/
def staleTruth : Truth := ⟨.ok (.utc 3600001000), .ok (some spyAccount), .ok [], .ok []⟩

inductive DeskCall where
  | freeze (second : Bool)
  | boot
  | entry (second : Bool)
  | recheck
  | kill
  deriving DecidableEq

def DeskCall.call : DeskCall → KernelCall
  | freeze second =>
    .freezeCandidate (spyEvent second) "c1" (spyCompiled second) "REPLAY" (.utc 1000)
  | boot => .startupReconciliation flatTruth (.utc 1000)
  | entry second => .authorizeEntry (spyEntry second)
  | recheck => .startupReconciliation staleTruth (.utc 1000)
  | kill => .applyTrigger .killRequest (.utc 1000)

def desk : KernelPool DeskCall := kernelPool (fun _ => .v1 spyPolicy) DeskCall.call Ledger.empty

def spyCandidate (second : Bool) : CandidateRow :=
  ⟨spyEvent second, "c1", riskPolicySha256 spyPolicy, digestA,
    compiledExpressionSha256 (spyCompiled second), "REPLAY", .utc 1000⟩

def openDesk : Ledger :=
  (Ledger.empty.withCandidates [spyCandidate false, spyCandidate true]).withControlState
    (some ⟨.active, some ControlTrigger.resolved.value, .utc 1000⟩)

theorem desk_freeze (second : Bool) : desk.thread (.freeze second) =
    kernelFreezeCandidate (.v1 spyPolicy) (spyCompiled second).eventId "c1" (spyCompiled second)
      "REPLAY" (.utc 1000) := rfl

/-- The desk opens: both candidates are frozen and the startup reconciliation resolves. -/
theorem desk_opens : ∃ p events, KernelReach desk p ∧
    p.store = openDesk.withPassportEvents events ∧
    (∀ second, p.thread (.entry second) = desk.thread (.entry second)) ∧
    p.thread .recheck = desk.thread .recheck ∧ p.thread .kill = desk.thread .kill := by
  have hmode : isExactText "REPLAY" = true := by decide
  have hid : isExactText "c1" = true := by decide
  have hdigest : isExactText digestA = true := by decide
  obtain ⟨e₁, hrun₁⟩ := run_kernelFreezeCandidate Ledger.empty (.v1 spyPolicy) (spyCompiled false)
    (.utc 1000) rfl (isExactText_spyEvent false) hid isLowerHex_digestA hdigest hmode rfl rfl
  obtain ⟨p₁, h₁, hs₁, ht₁⟩ := (Pool.Reach.init : KernelReach desk desk).run (i := .freeze false)
    (by rw [desk_freeze]; exact hrun₁)
  obtain ⟨e₂, hrun₂⟩ := run_kernelFreezeCandidate p₁.store (.v1 spyPolicy) (spyCompiled true)
    (.utc 1000) rfl (isExactText_spyEvent true) hid isLowerHex_digestA hdigest hmode
    (by rw [hs₁]; rfl) (by rw [hs₁]; rfl)
  obtain ⟨p₂, h₂, hs₂, ht₂⟩ := h₁.run (i := .freeze true) (by rw [ht₁, Function.update_of_ne (by decide), desk_freeze]; exact hrun₂)
  have hclosed : p₂.store.getControlState.1 = .entryDisabled := by
    rw [hs₂, hs₁]
    rfl
  have hflat : readTruth flatTruth (.utc 1000) 30 = .ok (spyAccount, [], []) := rfl
  obtain ⟨e₃, hrun₃⟩ := run_startupReconciliation p₂.store (.v1 spyPolicy) flatTruth (.utc 1000)
    rfl hflat rfl (by rw [hclosed]; decide) (by rw [hclosed]; decide) (by rw [hclosed]; decide)
  obtain ⟨p₃, h₃, hs₃, ht₃⟩ := h₂.run_bind (i := .boot) (f := fun _ => pure ()) (by rw [ht₂, ht₁]; rfl) hrun₃
  refine ⟨p₃, e₃, h₃, ?_, ?_, ?_, ?_⟩
  · rw [hs₃, hs₂, hs₁]
    rfl
  · intro second
    simp [ht₃, ht₂, ht₁]
  · simp [ht₃, ht₂, ht₁]
  · simp [ht₃, ht₂, ht₁]

section SpyPermit

variable {event policy : String} (he : (strip event != "") = true)
  (hp : isLowerHex 64 policy = true)

theorem spyPermit_longLeg : (spyPermit event policy he hp).longLeg =
    (spyTerms "" "").longLeg := rfl

theorem spyPermit_shortLeg : (spyPermit event policy he hp).shortLeg =
    (spyTerms "" "").shortLeg := rfl

theorem spyPermit_terms : (spyPermit event policy he hp).verticalType = .bullCall ∧
    (spyPermit event policy he hp).quantity = 1 ∧
    (spyPermit event policy he hp).limitPrice = .cents 250 := ⟨rfl, rfl, rfl⟩

theorem bindsBlock_spyPermit : bindsBlock (spyPermit event policy he hp) spyBlock = true := by
  obtain ⟨htype, hquantity, hprice⟩ := spyPermit_terms he hp
  simp only [bindsBlock, DebitVerticalPermit.underlying, spyPermit_longLeg, spyPermit_shortLeg,
    htype, hquantity, hprice]
  decide

theorem spyExpression_exposure (he' : (event != "") = true) (hp' : policy.length = 64) :
    expressionExposure (spyExpression event policy he' hp') = .ok (.cents 25000) := by
  have h : blockExposure (some spyBlock) "maximum_loss" "debit_vertical" =
      .ok (.cents 25000) := by decide +kernel
  exact h

theorem spyPermit_binds (he' : (event != "") = true) (hp' : policy.length = 64) :
    validatePermitBinding (spyPermit event policy he hp) (spyExpression event policy he' hp') policy
      (.utc 1000) = .ok () := by
  simp only [validatePermitBinding, except_bind_eq_ok, throwIf_eq_ok]
  refine ⟨(), ?_, (), ?_, (), ?_, (), ?_, ?_⟩
  · exact not_not.mpr rfl
  · exact not_not.mpr rfl
  · rintro (h | h)
    · exact absurd h (lt_irrefl (DateTime.utc 1000).micros)
    · exact absurd h (by decide : ¬ (DateTime.utc 2000).micros ≤ (DateTime.utc 1000).micros)
  · rintro (h | h | h | h) <;> exact h rfl
  · have hloss : ¬ (Decimal.mul (.cents 250) (.ofNat 100)).toRat ≠ (Decimal.cents 25000).toRat := by
      norm_num [Decimal.mul, Decimal.cents, Decimal.ofNat, Decimal.toRat_finite]
    have hblock : (spyExpression event policy he' hp').debitVertical = some spyBlock := rfl
    simp only [hblock, except_bind_eq_ok, throwIf_eq_ok]
    refine ⟨(), ?_, .cents 25000, spyExpression_exposure he' hp', hloss⟩
    exact ne_of_eq_of_ne (bindsBlock_spyPermit he hp) (by decide)

end SpyPermit

/-- Both entries are ready on the open desk, also when the other has recorded its account. -/
theorem spyEntry_ready (events : List PassportRow) {snapshots : List AccountSnapshotRow}
    (hsnapshots : snapshots = [] ∨ snapshots = [⟨.ofNat 10000, .utc 1000⟩]) (second : Bool) :
    EntryReady spyPolicy (spyEntry second) spyAccount (.cents 25000)
      ((openDesk.withPassportEvents events).withAccountSnapshots snapshots) := by
  have hunderlying : isExactText "SPY" ∧ isUpper "SPY" := by decide
  have hcandidate : isExactText "c1" := by decide
  have hdecision : isExactText digestA := by decide
  have hpeak : ∀ rows, rows = [] ∨ rows = [⟨.ofNat 10000, .utc 1000⟩] →
     (((Ledger.empty.withAccountSnapshots rows).withSnapshot
      (.ofNat 10000) (.utc 1000)).intradayPeakEquity (.utc 1000)).toRat -
        (Decimal.ofNat 10000).toRat ≤ (Decimal.ofNat 1000).toRat := by
    rintro _ (rfl | rfl) <;>
      norm_num [Ledger.intradayPeakEquity, Ledger.withSnapshot, peakStep, Decimal.ofNat,
        Decimal.toRat_finite]
  have hfrozen : Frozen openDesk (spyEvent second) "c1" (riskPolicySha256 spyPolicy) digestA
      (compiledExpressionSha256 (spyCompiled second)) := by
    cases second
    · exact ⟨spyCandidate false, rfl, rfl, rfl, rfl, rfl⟩
    · exact ⟨spyCandidate true, rfl, rfl, rfl, rfl, rfl⟩
  have hbudget : checkEntryBudget spyPolicy (spyEvent second) (.cents 25000) spyAccount = .ok () := by
    simp only [checkEntryBudget, except_bind_eq_ok, throwIf_eq_ok]
    have hfinite : (Decimal.cents 25000).isFinite = true := rfl
    refine ⟨(), ?_, (), ?_, ?_⟩ <;>
      norm_num [hfinite, spyPolicy, spyAccount, Decimal.ofNat, Decimal.toRat_finite, Decimal.toRat_cents]
  have hheld : openDesk.openReservationTotalForUnderlying "SPY" = .ok 0 := by
    decide
  exact {
    nowUtc := rfl
    constants := isLowerHex_digestA
    active := rfl
    bound := ⟨isExactText_spyEvent second, hunderlying, hcandidate, rfl, rfl, rfl, hfrozen, hdecision⟩
    permit := spyPermit_binds (strip_spyEvent second) (Json.isLowerHex_sha256 _)
      (spyEvent_ne_empty second) (Json.length_sha256 _)
    flat := rfl
    exposureOk := spyExpression_exposure (spyEvent_ne_empty second) (Json.length_sha256 _)
    budget := hbudget
    daily := hpeak _ hsnapshots
    drawdown := by norm_num [spyPolicy, spyAccount, Decimal.ofNat, Decimal.toRat_finite]
    closeOnly := by norm_num [spyPolicy, spyAccount, Decimal.ofNat, Decimal.toRat_finite]
    concentration := ⟨0, hheld, by
      norm_num [spyPolicy, Decimal.ofNat, Decimal.toRat_finite, Decimal.toRat_cents]⟩ }

def spyReserve (second : Bool) : ReserveArgs :=
  entryReserveArgs spyPolicy (spyEntry second) (spyEvent second) "SPY"
    (riskPolicySha256 spyPolicy) (.cents 25000)

theorem spyReserve_argsOk (second : Bool) : ReserveArgsOk (spyReserve second) where
  eventOk := isExactText_spyEvent second
  underlyingOk := (by decide : isExactText "SPY" ∧ isUpper "SPY")
  candidateOk := (by decide : isExactText "c1")
  policyOk := Json.isLowerHex_sha256 _
  decisionOk := isLowerHex_digestA
  expressionOk := Json.isLowerHex_sha256 _
  amountNonneg := (⟨rfl, by norm_num [Decimal.toRat_cents]⟩ :
    (Decimal.cents 25000).isFinite ∧ 0 ≤ (Decimal.cents 25000).toRat)
  aggregatePos := (⟨rfl, by norm_num [Decimal.ofNat, Decimal.toRat_finite]⟩ :
    (Decimal.ofNat 5000).isFinite ∧ 0 < (Decimal.ofNat 5000).toRat)
  expressionsPos := (by decide : (0 : Int) < 10)
  entriesPos := (by decide : (0 : Int) < 10)
  permitId := rfl
  nowUtc := rfl

theorem desk_entry (second : Bool) : desk.thread (.entry second) =
    entryPlan (.v1 spyPolicy) (spyEntry second) >>= fun x =>
      entryCommit x.1 x.2 >>= fun _ => pure () :=
  bind_assoc _ _ _

/-- The open desk after its entries have recorded the account. -/
def plannedDesk (events : List PassportRow) : Ledger :=
  (openDesk.withPassportEvents events).withAccountSnapshots
    [⟨.ofNat 10000, .utc 1000⟩, ⟨.ofNat 10000, .utc 1000⟩]

/-- Both entries pass all their checks before either of them commits. -/
theorem desk_plans : ∃ p events, KernelReach desk p ∧ p.store = plannedDesk events ∧
    (∀ second, p.thread (.entry second) =
      entryCommit .active (spyReserve second) >>= fun _ => pure ()) ∧
    p.thread .recheck = desk.thread .recheck := by
  obtain ⟨p₀, events, h₀, hs₀, hentry, hrecheck, -⟩ := desk_opens
  have hready₀ : EntryReady spyPolicy (spyEntry false) spyAccount (.cents 25000) p₀.store := by
    rw [hs₀]
    exact spyEntry_ready events (.inl rfl) false
  obtain ⟨p₁, h₁, hs₁, ht₁⟩ := h₀.run_bind (i := .entry false)
    ((hentry false).trans (desk_entry false)) (run_entryPlan hready₀)
  have hready₁ : EntryReady spyPolicy (spyEntry true) spyAccount (.cents 25000) p₁.store := by
    rw [hs₁, hs₀]
    exact spyEntry_ready events (.inr rfl) true
  have hthread₁ : p₁.thread (.entry true) = desk.thread (.entry true) := by
    rw [ht₁, Function.update_of_ne (by decide), hentry]
  obtain ⟨p₂, h₂, hs₂, ht₂⟩ := h₁.run_bind (i := .entry true)
    (hthread₁.trans (desk_entry true)) (run_entryPlan hready₁)
  refine ⟨p₂, events, h₂, ?_, ?_, ?_⟩
  · rw [hs₂, hs₁, hs₀]
    rfl
  · intro second
    cases second with
    | false =>
      rw [ht₂, Function.update_of_ne (by decide), ht₁, Function.update_self]
      rfl
    | true =>
      rw [ht₂, Function.update_self]
      rfl
  · rw [ht₂, Function.update_of_ne (by decide), ht₁, Function.update_of_ne (by decide), hrecheck]

theorem spyReserve_frozen (events : List PassportRow) (second : Bool) :
    Frozen (plannedDesk events) (spyEvent second) "c1" (riskPolicySha256 spyPolicy) digestA
      (compiledExpressionSha256 (spyCompiled second)) :=
  (spyEntry_ready events (.inl rfl) second).bound.frozen

/-- The digests below are given as texts, so that each is computed once and by itself. -/
def spyPolicyDigest : String := "3fbc0d857c626a5e51291cf09a97363c82f04764f9f0955231e0bb08b3a9225c"

def spyAuthorization : Bool → String
  | false => "a6048add175e2686ab5d7cc29620356569b1131c6a567d6523a20e9f33ba5f4f"
  | true => "99849e829fbf28c8021009e72e35654ed935941e1f99719124d8e8df4e42c8fe"

theorem riskPolicySha256_spyPolicy : riskPolicySha256 spyPolicy = spyPolicyDigest := by
  rw [riskPolicySha256, Json.sha256, Sha256.hexdigest_eq_strict]
  decide +kernel

theorem authorization_spyTerms (second : Bool) :
    (Json.obj (authorizationFields (spyTerms (spyEvent second) spyPolicyDigest))).sha256 =
      spyAuthorization second := by
  rw [Json.sha256, Sha256.hexdigest_eq_strict]
  revert second
  decide +kernel

theorem permitIds_ne : (spyReserve false).permit.permitId ≠ (spyReserve true).permit.permitId := by
  have hid : ∀ second, (spyReserve second).permit.permitId =
      paperExecutionPermitId (spyAuthorization second) := by
    intro second
    rw [← authorization_spyTerms, ← riskPolicySha256_spyPolicy]
    rfl
  rw [hid, hid]
  simp only [paperExecutionPermitId, Json.sha256, Sha256.hexdigest_eq_strict]
  decide +kernel

/-- What the reservation transaction of a concrete entry hands back. -/
def spyIds (second : Bool) : String × String × String :=
  ("rsv-" ++ spyEvent second, (spyReserve second).permit.permitId,
    debitVerticalPermitSha256 (spyReserve second).permit)

/-- The first entry commits on an empty book, whatever the control state has become. -/
theorem firstCommit {s : Ledger} (hcandidates : s.candidates = openDesk.candidates)
    (hreservations : s.reservations = []) (hpermits : s.permits = []) (hnotRun : s.notRun = []) :
    reserveAndIssuePermit (spyReserve false) s =
      .ok (spyIds false) (s.held (spyReserve false)) := by
  have hopen : s.openReservations = [] := by
    rw [Ledger.openReservations, hreservations]
    rfl
  have hfrozen : Frozen s "e1" "c1" (riskPolicySha256 spyPolicy) digestA
      (compiledExpressionSha256 (spyCompiled false)) := by
    refine ⟨spyCandidate false, ?_, rfl, rfl, rfl, rfl⟩
    rw [Ledger.candidateForEvent, hcandidates]
    rfl
  have hbudgets : BudgetsOk s (spyReserve false) := by
    refine ⟨?_, ?_, 0, ?_, (by norm_num [Decimal.ofNat, Decimal.toRat_finite, Decimal.toRat_cents] :
      0 + (Decimal.cents 25000).toRat ≤ (Decimal.ofNat 5000).toRat)⟩
    · rw [Ledger.entriesToday, hreservations]
      exact (by decide : (0 : Int) < 10)
    · rw [Ledger.openReservationCount, hopen]
      exact (by decide : (0 : Int) < 10)
    · rw [Ledger.openReservationTotal, hopen]
      rfl
  have hfree : V1Free s (spyReserve false) := by
    refine ⟨?_, ?_, ?_, ?_⟩
    · rw [Ledger.notRunExists, hnotRun]
      rfl
    · simp [hreservations]
    · simp [hreservations]
    · simp [hpermits]
  exact reserveAndIssuePermit_eq_ok.mpr ⟨spyReserve_argsOk false, hfrozen, hbudgets, hfree, rfl,
    rfl⟩

/-- The second entry commits as well: its transaction rechecks the aggregate budgets only. -/
theorem secondCommit (events : List PassportRow) :
    reserveAndIssuePermit (spyReserve true) ((plannedDesk events).held (spyReserve false)) =
      .ok (spyIds true) (((plannedDesk events).held (spyReserve false)).held (spyReserve true)) := by
  have hbudgets : BudgetsOk ((plannedDesk events).held (spyReserve false)) (spyReserve true) := by
    have hsum : (Decimal.cents 25000).toRat + 0 + (Decimal.cents 25000).toRat ≤
        (Decimal.ofNat 5000).toRat := by
      norm_num [Decimal.ofNat, Decimal.toRat_finite, Decimal.toRat_cents]
    have hopen : ((plannedDesk events).held (spyReserve false)).openReservations =
        [newReservation "rsv-e1" "e1" (.ofStr (.cents 25000)) "SPY" (.utc 1000)] := rfl
    refine ⟨(by decide : (1 : Int) < 10), (by decide : (1 : Int) < 10), _, ?_, hsum⟩
    rw [Ledger.openReservationTotal, hopen]
    decide +kernel
  have hfree : V1Free ((plannedDesk events).held (spyReserve false)) (spyReserve true) := by
    refine ⟨rfl, ?_, ?_, ?_⟩
    · intro r hr
      rw [List.mem_singleton.mp hr]
      exact (by decide : "rsv-" ++ "e1" ≠ "rsv-" ++ "e2")
    · intro r hr
      rw [List.mem_singleton.mp hr]
      exact (by decide : "e1" ≠ "e2")
    · intro r hr
      rw [List.mem_singleton.mp hr]
      exact permitIds_ne
  exact reserveAndIssuePermit_eq_ok.mpr ⟨spyReserve_argsOk true, spyReserve_frozen events true,
    hbudgets, hfree, rfl, rfl⟩

/-- The desk where both entries have committed. -/
theorem desk_commits : ∃ p events, KernelReach desk p ∧
    p.store = ((plannedDesk events).held (spyReserve false)).held (spyReserve true) := by
  obtain ⟨p₀, events, h₀, hs₀, hthread, -⟩ := desk_plans
  have hfirst : reserveAndIssuePermit (spyReserve false) (plannedDesk events) =
      .ok (spyIds false) ((plannedDesk events).held (spyReserve false)) :=
    firstCommit rfl rfl rfl rfl
  rw [← hs₀] at hfirst
  obtain ⟨p₁, h₁, hs₁, ht₁⟩ := h₀.run_bind (hthread false) (run_entryCommit hfirst)
  have hthread₁ : p₁.thread (.entry true) =
      entryCommit .active (spyReserve true) >>= fun _ => pure () := by
    rw [ht₁, Function.update_of_ne (by decide), hthread]
  have hsecond := secondCommit events
  rw [← hs₀, ← hs₁] at hsecond
  obtain ⟨p₂, h₂, hs₂, -⟩ := h₁.run_bind hthread₁ (run_entryCommit hsecond)
  exact ⟨p₂, events, h₂, by rw [hs₂, hs₁, hs₀]⟩

end EsscherMarket.Risk
