import EsscherMarket.Risk.Kernel.Allocation

/-!
# The V2 preview and the V2 entry

`preview_allocation_v2` and `authorize_entry_v2` make the same checks on policy, opportunity and
truth, build the same portfolio and call the same allocator.  The entry then compares the allocation
with the compiled expression and its permit, and a permit is for exactly one spread package.
-/

namespace EsscherMarket.Risk

open Lib Execution Autonomy Prog

/-! ### Parts that fail closed -/

theorem failClosed_not_ok {α : Type} {trigger : ControlTrigger} {now : DateTime} {e : LedgerError}
    {s s' : Ledger} {a : α} :
    ¬ (failClosed trigger now e : KernelProg α).run ledgerAnswer s = (.ok a, s') := by
  intro h
  obtain ⟨_, _, -, h⟩ := run_bind_ok h
  cases h

theorem orFailClosed_ok {α : Type} {x : TruthRead α} {now : DateTime} {s s' : Ledger} {a : α}
    (h : (orFailClosed x now).run ledgerAnswer s = (.ok a, s')) : x = .ok a ∧ s = s' := by
  unfold orFailClosed at h
  split at h
  · cases h
    exact ⟨rfl, rfl⟩
  · exact absurd h failClosed_not_ok
  · exact absurd h failClosed_not_ok

theorem failClosedIf_ok {c : Prop} [Decidable c] {trigger : ControlTrigger} {now : DateTime}
    {e : LedgerError} {s s' : Ledger} {u : Unit}
    (h : (failClosedIf c trigger now e).run ledgerAnswer s = (.ok u, s')) : ¬ c ∧ s = s' := by
  unfold failClosedIf at h
  split at h
  · exact absurd h failClosed_not_ok
  · rename_i hc
    cases h
    exact ⟨hc, rfl⟩

theorem v2PortfolioOrFail_ok {t : V2Truth} {policySha256 : String} {now : DateTime}
    {s s' : Ledger} {x : PortfolioState × List AllocationReservation}
    (h : (v2PortfolioOrFail t policySha256 now).run ledgerAnswer s = (.ok x, s')) :
    (v2Portfolio t policySha256).run ledgerAnswer s = (.ok x, s') := by
  rcases run_tryCatch_ok h with h | ⟨e, s₁, h⟩
  · exact h
  · split at h
    · exact absurd h failClosed_not_ok
    · exact absurd h failClosed_not_ok
    · cases h

theorem requireEntryAllowed_ok {state : ControlState} {s s' : Ledger}
    (h : requireEntryAllowed.run ledgerAnswer s = (.ok state, s')) :
    s.getControlState.1 = .active ∧ s = s' := by
  obtain ⟨hallowed, h⟩ := run_raiseIf_bind_ok (c := entryAllowed s.getControlState.1 = false) h
  cases h
  exact ⟨entryAllowed_iff.mp (by simpa using hallowed), rfl⟩

/-! ### What both methods check -/

/-- The checks that the preview and the entry share, with what they read. -/
structure V2Ready (policy : KernelPolicy) (o : DefinedRiskOpportunity)
    (compiled : CompiledExpression) (truth : Truth) (now : DateTime) (s : Ledger)
    (p : RiskPolicyV2) (symbol : String) (t : V2Truth) (portfolio : PortfolioState)
    (existing : List AllocationReservation) (d : AllocationDecision) : Prop where
  nowUtc : now.tzinfo = .utc
  policyOk : v2Policy policy = .ok p
  active : s.getControlState.1 = .active
  ready : o.1.decisionReady = true
  vertical : compiled.expressionKind = .debitVertical
  policyBound : compiled.policySha256 = policy.policySha256
  symbolOk : compiledUnderlying compiled = .ok symbol
  opportunityOk : checkV2Opportunity p o compiled symbol = .ok ()
  fresh : readV2Truth truth now p = .ok t
  notFrozen : ¬ t.account.equity.toRat ≤
    p.startingEquity.toRat * p.emergencyDrawdownFreezeFraction.toRat
  portfolioOk : (v2Portfolio t policy.policySha256).run ledgerAnswer s =
    (.ok (portfolio, existing), s)
  allocation : allocateDefinedRisk portfolio o existing = .ok d

theorem requireUtc_ok {now now' : DateTime} {path : String}
    (h : requireUtc now path = .ok now') : now.tzinfo = .utc ∧ now = now' := by
  unfold requireUtc at h
  split at h
  · rename_i hutc
    cases h
    exact ⟨hutc, rfl⟩
  · cases h

theorem checkV2Ready_eq_ok {o : DefinedRiskOpportunity} {compiled : CompiledExpression}
    {activePolicy unready kind : String} {u : Unit} :
    checkV2Ready o compiled activePolicy unready kind = .ok u ↔ o.1.decisionReady = true ∧
      compiled.expressionKind = .debitVertical ∧ compiled.policySha256 = activePolicy := by
  simp only [checkV2Ready, except_bind_eq_ok, throwIf_eq_ok, exists_const, not_not,
    Bool.not_eq_false]

theorem v2Allocate_ok {portfolio : PortfolioState} {o : DefinedRiskOpportunity}
    {existing : List AllocationReservation} {d : AllocationDecision} :
    v2Allocate portfolio o existing = .ok d ↔ allocateDefinedRisk portfolio o existing = .ok d := by
  rw [v2Allocate, except_mapError_eq_ok]

section Preview

variable {policy : KernelPolicy} {o : DefinedRiskOpportunity} {compiled : CompiledExpression}
  {truth : Truth} {now : DateTime} {s s' : Ledger}

/-- A preview that returns has made its checks and only read. -/
theorem previewAllocationV2_ok {preview : RiskAllocationPreviewV2}
    (h : (previewAllocationV2 policy o compiled truth now).run ledgerAnswer s =
      (.ok preview, s')) :
    s' = s ∧ ∃ p symbol t portfolio existing,
      V2Ready policy o compiled truth now s p symbol t portfolio existing preview.allocation := by
  obtain ⟨now', hnow, h⟩ := run_ofExcept_bind_ok h
  obtain ⟨hutc, rfl⟩ := requireUtc_ok hnow
  obtain ⟨p, hp, h⟩ := run_ofExcept_bind_ok h
  obtain ⟨_, -, h⟩ := run_ofExcept_bind_ok h
  obtain ⟨_, _, hstate, h⟩ := run_bind_ok h
  obtain ⟨hactive, rfl⟩ := requireEntryAllowed_ok hstate
  obtain ⟨_, hready, h⟩ := run_ofExcept_bind_ok h
  obtain ⟨hdecision, hvertical, hbound⟩ := checkV2Ready_eq_ok.mp hready
  obtain ⟨symbol, hsymbol, h⟩ := run_ofExcept_bind_ok h
  obtain ⟨_, hopportunity, h⟩ := run_ofExcept_bind_ok h
  obtain ⟨t, _, ht, h⟩ := run_bind_ok h
  obtain ⟨hfresh, rfl⟩ := orFailClosed_ok ht
  obtain ⟨_, _, hfreeze, h⟩ := run_bind_ok h
  obtain ⟨hnotFrozen, rfl⟩ := failClosedIf_ok hfreeze
  obtain ⟨⟨portfolio, existing⟩, _, hportfolio, h⟩ := run_bind_ok h
  have hportfolio' := v2PortfolioOrFail_ok hportfolio
  obtain rfl := (v2Portfolio_ok hportfolio').1.symm
  obtain ⟨d, hd, h⟩ := run_ofExcept_bind_ok h
  cases h
  exact ⟨rfl, p, symbol, t, portfolio, existing, hutc, hp, hactive, hdecision, hvertical, hbound,
    hsymbol, hopportunity, hfresh, hnotFrozen, hportfolio', v2Allocate_ok.mp hd⟩

/-! ### An approved entry -/

theorem validateCandidateBinding_ok {eventId underlying candidateId event symbol active : String}
    (h : (validateCandidateBinding policy eventId underlying candidateId compiled).run ledgerAnswer
      s = (.ok (event, symbol, active), s')) : policy.policySha256 = active ∧ s = s' := by
  obtain ⟨_, -, h⟩ := run_ofExcept_bind_ok h
  obtain ⟨_, -, h⟩ := run_ofExcept_bind_ok h
  obtain ⟨_, -, h⟩ := run_ofExcept_bind_ok h
  obtain ⟨_, -, h⟩ := run_ofExcept_bind_ok h
  obtain ⟨-, h⟩ := run_raiseIf_bind_ok h
  obtain ⟨_, -, h⟩ := run_ofExcept_bind_ok h
  obtain ⟨-, h⟩ := run_raiseIf_bind_ok h
  obtain ⟨_, s₁, hread, h⟩ := run_bind_ok h
  cases hread
  obtain ⟨-, h⟩ := run_raiseIf_bind_ok h
  obtain ⟨_, s₂, hread, h⟩ := run_bind_ok h
  cases hread
  split at h
  · cases h
  · obtain ⟨-, h⟩ := run_raiseIf_bind_ok h
    obtain ⟨_, -, h⟩ := run_ofExcept_bind_ok h
    obtain ⟨-, h⟩ := run_raiseIf_bind_ok h
    obtain ⟨-, h⟩ := run_raiseIf_bind_ok h
    obtain ⟨-, h⟩ := run_raiseIf_bind_ok h
    cases h
    exact ⟨rfl, rfl⟩

/-- The terms bind the permit's quantity and the opportunity's debit. -/
theorem checkV2Terms_ok {permit : DebitVerticalPermit} {quantity : Int} {maxLoss : Decimal}
    (h : checkV2Terms o compiled permit = .ok (quantity, maxLoss)) :
    expressionExposure compiled = .ok maxLoss ∧
    quantity = 1 ∧ maxLoss.toRat = o.1.maxDebitPerContract.toRat ∧
    permit.maximumLoss.toRat = maxLoss.toRat := by
  simp only [checkV2Terms, except_bind_eq_ok, throwIf_eq_ok, except_pure_eq_ok, Prod.mk.injEq,
    not_or, not_not] at h
  obtain ⟨_, -, _, hexposure, _, -, _, hdebit, _, ⟨hquantity, hloss⟩, rfl, rfl⟩ := h
  rw [permit.quantity_eq_one] at hquantity
  rw [← hquantity] at hdebit
  exact ⟨hexposure, hquantity.symm, by simpa using hdebit.symm, hloss⟩

/-- A reservation is planned for an allocation of exactly the compiled quantity and loss. -/
theorem entryV2Decide_reserve {p : RiskPolicyV2} {a : EntryV2Args}
    {event candidate symbol activePolicy : String} {state state' : ControlState} {t : V2Truth}
    {quantity : Int} {maxLoss : Decimal} {d : AllocationDecision} {tier : Autonomy.RiskTier}
    {r : ReserveV2Args} (h : entryV2Decide p a event candidate symbol activePolicy state t quantity
      maxLoss d = .ok (.reserve state' tier r)) :
    d.status = .allocated ∧ d.quantity = quantity ∧ d.maxLoss.toRat = maxLoss.toRat ∧
    r.quantity = d.quantity ∧ r.amount = d.maxLoss := by
  unfold entryV2Decide at h
  split at h
  · cases h
  · rename_i hstatus
    split at h
    · cases h
    · split at h
      · cases h
      · rename_i hsame
        rw [not_or, not_not, not_not] at hsame
        cases h
        exact ⟨hstatus, hsame.1, hsame.2, rfl, rfl⟩

theorem entryV2Commit_approved {plan : EntryV2Plan} {approval : RiskApprovalV2}
    (h : (entryV2Commit plan).run ledgerAnswer s = (.ok (.approved approval), s')) :
    ∃ state tier r, plan = .reserve state tier r ∧ approval.quantity = r.quantity ∧
      approval.maxLoss.toRat = r.amount.toRat := by
  cases plan with
  | abstain _ => cases h
  | reserve state tier r =>
    obtain ⟨receipt, s₁, -, h⟩ := run_bind_ok h
    obtain ⟨hreceipt, h⟩ := run_raiseIf_bind_ok h
    simp only [receiptPreserves, Bool.not_eq_false, Bool.and_eq_true, beq_iff_eq] at hreceipt
    cases h
    exact ⟨state, tier, r, rfl, by tauto, by tauto⟩

/-- An approved entry has made the checks of the preview, and is for one contract. -/
theorem authorizeEntryV2_approved {a : EntryV2Args} {approval : RiskApprovalV2}
    (h : (authorizeEntryV2 policy a).run ledgerAnswer s = (.ok (.approved approval), s')) :
    ∃ p symbol t portfolio existing d, V2Ready policy a.opportunity a.compiled a.truth a.now s p
        symbol t portfolio existing d ∧
      d.quantity = 1 ∧ approval.quantity = 1 ∧
      approval.maxLoss.toRat = a.opportunity.1.maxDebitPerContract.toRat := by
  obtain ⟨plan, s₁, h, hcommit⟩ := run_bind_ok h
  obtain ⟨state', tier, r, rfl, hquantity, hloss⟩ := entryV2Commit_approved hcommit
  obtain ⟨_, hnow, h⟩ := run_ofExcept_bind_ok h
  obtain ⟨hutc, rfl⟩ := requireUtc_ok hnow
  obtain ⟨p, hp, h⟩ := run_ofExcept_bind_ok h
  obtain ⟨_, -, h⟩ := run_ofExcept_bind_ok h
  obtain ⟨_, _, hstate, h⟩ := run_bind_ok h
  obtain ⟨hactive, rfl⟩ := requireEntryAllowed_ok hstate
  obtain ⟨_, hready, h⟩ := run_ofExcept_bind_ok h
  obtain ⟨hdecision, hvertical, hbound⟩ := checkV2Ready_eq_ok.mp hready
  obtain ⟨_, -, h⟩ := run_ofExcept_bind_ok h
  obtain ⟨_, -, h⟩ := run_ofExcept_bind_ok h
  obtain ⟨symbol, hsymbol, h⟩ := run_ofExcept_bind_ok h
  obtain ⟨_, -, h⟩ := run_ofExcept_bind_ok h
  obtain ⟨-, h⟩ := run_raiseIf_bind_ok h
  obtain ⟨_, hopportunity, h⟩ := run_ofExcept_bind_ok h
  obtain ⟨⟨_, _, _⟩, _, hcandidate, h⟩ := run_bind_ok h
  obtain ⟨rfl, rfl⟩ := validateCandidateBinding_ok hcandidate
  obtain ⟨_, -, h⟩ := run_ofExcept_bind_ok h
  obtain ⟨⟨quantity, maxLoss⟩, hterms, h⟩ := run_ofExcept_bind_ok h
  obtain ⟨-, hone, hdebit, -⟩ := checkV2Terms_ok hterms
  obtain ⟨t, _, ht, h⟩ := run_bind_ok h
  obtain ⟨hfresh, rfl⟩ := orFailClosed_ok ht
  obtain ⟨_, _, hfreeze, h⟩ := run_bind_ok h
  obtain ⟨hnotFrozen, rfl⟩ := failClosedIf_ok hfreeze
  obtain ⟨⟨portfolio, existing⟩, _, hportfolio, h⟩ := run_bind_ok h
  have hportfolio' := v2PortfolioOrFail_ok hportfolio
  obtain rfl := (v2Portfolio_ok hportfolio').1.symm
  obtain ⟨d, hd, h⟩ := run_ofExcept_bind_ok h
  obtain ⟨-, hsame, hsameLoss, hrq, hra⟩ := entryV2Decide_reserve (run_ofExcept_ok h)
  refine ⟨p, symbol, t, portfolio, existing, d, ⟨hutc, hp, hactive, hdecision, hvertical, hbound,
    hsymbol, hopportunity, hfresh, hnotFrozen, hportfolio', v2Allocate_ok.mp hd⟩, ?_, ?_, ?_⟩
  · rw [hsame, hone]
  · rw [hquantity, hrq, hsame, hone]
  · rw [hloss, hra, hsameLoss, hdebit]

theorem V2Ready.unique {p p' : RiskPolicyV2} {symbol symbol' : String} {t t' : V2Truth}
    {portfolio portfolio' : PortfolioState} {existing existing' : List AllocationReservation}
    {d d' : AllocationDecision}
    (h : V2Ready policy o compiled truth now s p symbol t portfolio existing d)
    (h' : V2Ready policy o compiled truth now s p' symbol' t' portfolio' existing' d') : d = d' := by
  obtain rfl : p = p' := Except.ok.inj (h.policyOk.symm.trans h'.policyOk)
  obtain rfl : t = t' := Except.ok.inj (h.fresh.symm.trans h'.fresh)
  have hportfolio := h.portfolioOk.symm.trans h'.portfolioOk
  simp only [Prod.mk.injEq, Except.ok.injEq, and_true] at hportfolio
  obtain ⟨rfl, rfl⟩ := hportfolio
  exact Except.ok.inj (h.allocation.symm.trans h'.allocation)

/-! ### An entry that is approved -/

theorem readV2Truth_ok {p : RiskPolicyV2} {t : V2Truth} (h : readV2Truth truth now p = .ok t) :
    (t.account.equity.isFinite ∧ 0 < t.account.equity.toRat) ∧
    (t.cash.isFinite ∧ 0 ≤ t.cash.toRat) ∧ t.cash.toRat ≤ t.account.equity.toRat := by
  simp only [readV2Truth, except_bind_eq_ok] at h
  obtain ⟨⟨account, positions, orders⟩, -, h⟩ := h
  cases hcash : account.cash with
  | none =>
    simp only [hcash] at h
    cases h
  | some cash =>
    simp only [hcash] at h
    split at h
    · cases h
    · rename_i hsound
      cases h
      simp only [not_or, Bool.not_eq_false, not_le, not_lt] at hsound
      exact ⟨⟨hsound.1, hsound.2.1⟩, ⟨hsound.2.2.1, hsound.2.2.2.1⟩, hsound.2.2.2.2⟩

/-- What `_validate_permit_binding` has compared. -/
theorem validatePermitBinding_ok {permit : DebitVerticalPermit} {activePolicy : String}
    {u : Unit} (h : validatePermitBinding permit compiled activePolicy now = .ok u) :
    permit.permitId = debitVerticalPermitId permit.toDebitVerticalPermitFields ∧
    permit.eventRunId = compiled.eventId ∧ permit.decisionSha256 = compiled.decisionSha256 ∧
    permit.policySha256 = activePolicy ∧
    ∃ block, compiled.debitVertical = some block ∧ bindsBlock permit block = true := by
  unfold validatePermitBinding at h
  simp only [except_bind_eq_ok, throwIf_eq_ok, not_or, not_not] at h
  obtain ⟨_, -, _, hid, _, -, _, ⟨hevent, hdecision, -, hpolicy⟩, h⟩ := h
  refine ⟨hid, hevent, hdecision, hpolicy, ?_⟩
  cases hblock : compiled.debitVertical with
  | none =>
    rw [hblock] at h
    cases h
  | some block =>
    rw [hblock] at h
    simp only [except_bind_eq_ok, throwIf_eq_ok, Bool.not_eq_false] at h
    obtain ⟨_, hbinds, -⟩ := h
    exact ⟨block, rfl, hbinds⟩

theorem isText_iff {value : Option Json} {text : String} :
    isText value text = true ↔ value = some (.str text) := by
  unfold isText
  split <;> simp_all

theorem underlying_of_bindsBlock {permit : DebitVerticalPermit} {symbol : String} {block : Block}
    (hkind : compiled.expressionKind = .debitVertical) (hblock : compiled.debitVertical = some block)
    (hbinds : bindsBlock permit block = true) (hsymbol : compiledUnderlying compiled = .ok symbol) :
    permit.underlying = symbol := by
  have htext : block.get? "underlying" = some (.str permit.underlying) := by
    simp only [bindsBlock, Bool.and_eq_true] at hbinds
    exact isText_iff.mp (by tauto)
  simp only [compiledUnderlying, except_bind_eq_ok, positionBlock, hkind, hblock, blockUnderlying,
    htext, underlyingText_eq_ok] at hsymbol
  obtain ⟨_, -, -, hsame⟩ := hsymbol
  exact hsame

/-- The entry names the frozen candidate of its expression, with a permit on its exact terms. -/
structure EntryV2Binds (policy : KernelPolicy) (s : Ledger) (a : EntryV2Args) (symbol : String) :
    Prop where
  bound : Bound policy s a.eventId symbol a.candidateId a.compiled
  permit : validatePermitBinding a.permit a.compiled policy.policySha256 a.now = .ok ()
  terms : ∃ terms, checkV2Terms a.opportunity a.compiled a.permit = .ok terms

/-- No row of the ledger has an identity of the entry: its event, its opportunity, its permit, or
the identity of its allocation. -/
structure EntryV2Free (s : Ledger) (a : EntryV2Args) (reservationId : String) : Prop where
  reservations : ∀ r ∈ s.reservations, r.reservationId ≠ reservationId ∧ r.eventId ≠ a.eventId
  permits : ∀ p ∈ s.permits, p.permitId ≠ a.permit.permitId
  bindings : ∀ v ∈ s.v2Reservations, v.reservationId ≠ reservationId ∧ v.eventId ≠ a.eventId ∧
    v.opportunityId ≠ a.opportunity.1.opportunityId ∧ v.allocationReservationId ≠ reservationId ∧
    v.permitId ≠ a.permit.permitId

section Entry

variable {a : EntryV2Args} {p : RiskPolicyV2} {symbol id : String} {t : V2Truth}
  {portfolio : PortfolioState} {existing : List AllocationReservation} {d : AllocationDecision}

theorem EntryV2Free.v2Free (h : EntryV2Free s a id)
    (hbinds : EntryV2Binds policy s a symbol) : V2Free s (entryV2ReserveArgs p a a.eventId
      a.candidateId symbol policy.policySha256 id t d) where
  notRun := by
    have hmayRun := hbinds.bound.mayRun
    simp only [Ledger.notRunReason, Option.map_eq_none_iff, List.find?_eq_none] at hmayRun
    rw [Ledger.notRunExists, List.any_eq_false]
    exact hmayRun
  reservationIds := fun r hr => (h.reservations r hr).1
  events := fun r hr => (h.reservations r hr).2
  permitIds := h.permits
  bindingIds := fun v hv => (h.bindings v hv).1
  bindingEvents := fun v hv => (h.bindings v hv).2.1
  bindingOpportunities := fun v hv => (h.bindings v hv).2.2.1
  bindingAllocations := fun v hv => (h.bindings v hv).2.2.2.1
  bindingPermits := fun v hv => (h.bindings v hv).2.2.2.2

theorem EntryV2Free.v2ReservationForOpportunity (h : EntryV2Free s a id) :
    s.v2ReservationForOpportunity a.opportunity.1.opportunityId = none := by
  rw [Ledger.v2ReservationForOpportunity, List.findSome?_eq_none_iff]
  intro v hv
  rw [if_neg (h.bindings v hv).2.2.1]

theorem EntryV2Free.v2ReservationForEvent (h : EntryV2Free s a id) :
    s.v2ReservationForEvent a.eventId = none := by
  rw [Ledger.v2ReservationForEvent, List.findSome?_eq_none_iff]
  intro v hv
  rw [if_neg (h.bindings v hv).2.1]

/-- A ready entry plans the reservation of its one contract. -/
theorem run_entryPlanV2
    (h : V2Ready policy a.opportunity a.compiled a.truth a.now s p symbol t portfolio existing d)
    (hbinds : EntryV2Binds policy s a symbol) (hallocated : d.status = .allocated)
    (hid : d.reservationId = some id) (hone : d.quantity = 1)
    (hloss : d.maxLoss.toRat = a.opportunity.1.maxDebitPerContract.toRat) :
    (entryPlanV2 policy a).run ledgerAnswer s = (.ok (.reserve .active a.opportunity.1.riskTier
      (entryV2ReserveArgs p a a.eventId a.candidateId symbol policy.policySha256 id t d)), s) := by
  obtain ⟨⟨quantity, maxLoss⟩, hterms⟩ := hbinds.terms
  obtain ⟨-, hquantity, hdebit, -⟩ := checkV2Terms_ok hterms
  obtain ⟨hrunMode, hcash, hdefined, -⟩ := p.values
  have hbound := hbinds.bound
  have hdecide : entryV2Decide p a a.eventId a.candidateId symbol policy.policySha256 .active t
      quantity maxLoss d = .ok (.reserve .active a.opportunity.1.riskTier
        (entryV2ReserveArgs p a a.eventId a.candidateId symbol policy.policySha256 id t d)) := by
    have hsame : ¬ (d.quantity ≠ quantity ∨ d.maxLoss.toRat ≠ maxLoss.toRat) := by
      rw [hone, hquantity, hloss, hdebit]
      simp
    simp only [entryV2Decide, hallocated, hid, hsame, if_false]
  refine run_ofExcept_bind (a := a.now) (if_pos h.nowUtc) ?_
  refine run_ofExcept_bind h.policyOk ?_
  refine run_ofExcept_bind (a := ()) (throwIf_eq_ok.mpr (by simp [hrunMode, hcash, hdefined])) ?_
  refine run_bind (run_requireEntryAllowed h.active) ?_
  refine run_ofExcept_bind (a := ())
    (checkV2Ready_eq_ok.mpr ⟨h.ready, h.vertical, h.policyBound⟩) ?_
  refine run_ofExcept_bind (identifier_eq_ok.mpr ⟨hbound.eventOk, rfl⟩) ?_
  refine run_ofExcept_bind (identifier_eq_ok.mpr ⟨hbound.candidateOk, rfl⟩) ?_
  refine run_ofExcept_bind h.symbolOk ?_
  refine run_ofExcept_bind (identifier_eq_ok.mpr ⟨hbound.sameEvent ▸ hbound.eventOk, rfl⟩) ?_
  refine run_raiseIf_bind (not_not.mpr hbound.sameEvent.symm) ?_
  refine run_ofExcept_bind h.opportunityOk ?_
  refine run_bind (run_validateCandidateBinding hbound) ?_
  refine run_ofExcept_bind hbinds.permit ?_
  refine run_ofExcept_bind hterms ?_
  have hread : (v2FreshTruth a.truth a.now p).run ledgerAnswer s = (.ok t, s) := by
    rw [v2FreshTruth, h.fresh]
    rfl
  refine run_bind hread ?_
  refine run_bind (run_failClosedIf h.notFrozen) ?_
  refine run_bind (run_tryCatch h.portfolioOk) ?_
  refine run_ofExcept_bind (v2Allocate_ok.mpr h.allocation) ?_
  rw [hdecide]
  rfl

/-- The reservation that a ready entry plans passes the checks of its transaction. -/
theorem reserveV2ArgsOk_entry
    (h : V2Ready policy a.opportunity a.compiled a.truth a.now s p symbol t portfolio existing d)
    (hbinds : EntryV2Binds policy s a symbol) (hone : d.quantity = 1)
    (hid : isLowerHex 64 id = true) (hfinite : d.maxLoss.isFinite = true)
    (hloss : d.maxLoss.toRat = a.opportunity.1.maxDebitPerContract.toRat) {tier : RiskTier}
    (htier : v2RiskTier a.opportunity.1.riskTier.fraction "v2_authorization.risk_tier" = .ok tier) :
    ReserveV2ArgsOk (entryV2ReserveArgs p a a.eventId a.candidateId symbol policy.policySha256 id
      t d) tier := by
  obtain ⟨⟨quantity, maxLoss⟩, hterms⟩ := hbinds.terms
  obtain ⟨-, hquantity, hdebit, hpermitLoss⟩ := checkV2Terms_ok hterms
  obtain ⟨hpermitId, hevent, hdecision, hpolicy, block, hblock, hbindsBlock⟩ :=
    validatePermitBinding_ok hbinds.permit
  have hdecisionOk : isLowerHex 64 a.compiled.decisionSha256 = true := by
    rw [← hdecision]
    exact a.permit.isLowerHex_decisionSha256
  obtain ⟨hopportunity, -, -, -, -, hpos⟩ :=
    DefinedRiskOpportunityFields.check_eq_ok.mp a.opportunity.2
  obtain ⟨hequity, hcash, hcashLe⟩ := readV2Truth_ok h.fresh
  obtain ⟨-, -, -, -, -, hperUnderlying, haggregate⟩ := p.values
  obtain ⟨htierFinite, htierValue⟩ := v2RiskTier_eq_ok.mp htier
  exact {
    eventOk := hbinds.bound.eventOk
    candidateOk := hbinds.bound.candidateOk
    underlyingOk := hbinds.bound.underlyingOk
    policyOk := policy.isLowerHex_policySha256
    decisionOk := hdecisionOk
    expressionOk := Json.isLowerHex_sha256 _
    opportunityOk := isExactText_of_isIdentifier hopportunity
    opportunityDigestOk := Json.isLowerHex_sha256 _
    allocationOk := hid
    tierFinite := htierFinite
    tierValue := htierValue
    quantityPos := by
      show 0 < d.quantity
      omega
    amountPos := ⟨hfinite, hloss ▸ hpos⟩
    equityPos := hequity
    cashNonneg := hcash
    cashLe := hcashLe
    perUnderlying := hperUnderlying
    aggregate := haggregate
    permitId := hpermitId
    permitEvent := hevent.trans hbinds.bound.sameEvent
    permitDecision := hdecision
    permitPolicy := hpolicy
    permitUnderlying := underlying_of_bindsBlock h.vertical hblock hbindsBlock h.symbolOk
    permitQuantity := a.permit.quantity_eq_one.trans hone.symm
    permitLoss := hpermitLoss.trans (hdebit.trans hloss.symm)
    nowUtc := h.nowUtc }

/-- A ready entry for an unbound allocation of one contract is approved. -/
theorem run_authorizeEntryV2 (hs : V2Consistent s)
    (h : V2Ready policy a.opportunity a.compiled a.truth a.now s p symbol t portfolio existing d)
    (hbinds : EntryV2Binds policy s a symbol) (hallocated : d.status = .allocated)
    (hid : d.reservationId = some id) (hone : d.quantity = 1) (hfree : EntryV2Free s a id) :
    ∃ approval s', (authorizeEntryV2 policy a).run ledgerAnswer s =
        (.ok (.approved approval), s') ∧
      approval.quantity = 1 ∧
      approval.maxLoss.toRat = a.opportunity.1.maxDebitPerContract.toRat := by
  have hsymbol : symbol = a.opportunity.1.underlying := by
    have hopportunity := h.opportunityOk
    simp only [checkV2Opportunity, except_bind_eq_ok, throwIf_eq_ok, not_not] at hopportunity
    obtain ⟨_, -, _, -, _, hsame, -⟩ := hopportunity
    exact hsame.symm
  obtain ⟨hloss, hfinite, hreservation, -, tier, totals, htier, htotals, hcapacity⟩ :=
    allocation_capacityOk (p := p) hs h.portfolioOk h.allocation hallocated
      hfree.v2ReservationForOpportunity a.eventId a.candidateId policy.policySha256 id
  obtain rfl : reservationIdentity a.opportunity d.quantity d.maxLoss = id :=
    Option.some.inj (hreservation.symm.trans hid)
  rw [hone, Int.cast_one, one_mul] at hloss
  rw [← hsymbol] at htotals hcapacity
  set id := reservationIdentity a.opportunity d.quantity d.maxLoss
  set r := entryV2ReserveArgs p a a.eventId a.candidateId symbol policy.policySha256 id t d with hr
  have hargs : ReserveV2ArgsOk r tier := reserveV2ArgsOk_entry h hbinds hone
    (Json.isLowerHex_sha256 _) hfinite hloss htier
  have hnew : v2Existing s r = none := by
    rw [v2Existing, hr, entryV2ReserveArgs, hfree.v2ReservationForEvent,
      hfree.v2ReservationForOpportunity]
    rfl
  have hstore : reserveV2AndIssuePermit r s = .ok (v2NewReceipt r tier) (s.heldV2 r tier) :=
    (reserveV2AndIssuePermit_new hnew).mpr ⟨tier, checkReserveV2Args_eq_ok.mpr hargs,
      hbinds.bound.frozen, ⟨totals, htotals, hcapacity⟩, hfree.v2Free hbinds, h.nowUtc, rfl, rfl⟩
  have hreceipt : ¬ receiptPreserves (v2NewReceipt r tier) r = false := by
    simp [receiptPreserves, v2NewReceipt, hargs.tierValue]
  refine ⟨_, _, run_bind (run_entryPlanV2 h hbinds hallocated hid hone hloss)
    (run_bind (run_ledgerWrite hstore) (run_raiseIf_bind hreceipt rfl)), hone, hloss⟩

end Entry

/-! ### Preview and entry -/

end Preview

/-- A preview whose checks pass returns the allocation. -/
theorem run_previewAllocationV2 {policy : KernelPolicy} {o : DefinedRiskOpportunity}
    {compiled : CompiledExpression} {truth : Truth} {now : DateTime} {s : Ledger}
    {p : RiskPolicyV2} {symbol : String} {t : V2Truth} {portfolio : PortfolioState}
    {existing : List AllocationReservation} {d : AllocationDecision}
    (h : V2Ready policy o compiled truth now s p symbol t portfolio existing d) :
    ∃ preview, (previewAllocationV2 policy o compiled truth now).run ledgerAnswer s =
      (.ok preview, s) ∧ preview.allocation = d := by
  obtain ⟨hrunMode, hcash, hdefined, -⟩ := p.values
  have hread : (v2FreshTruth truth now p).run ledgerAnswer s = (.ok t, s) := by
    rw [v2FreshTruth, h.fresh]
    rfl
  refine ⟨⟨o.1.opportunityId, definedRiskOpportunitySha256 o, compiledExpressionSha256 compiled,
    policy.policySha256, t.account.equity, t.cash, .active, d⟩, ?_, rfl⟩
  refine run_ofExcept_bind (a := now) (if_pos h.nowUtc) ?_
  refine run_ofExcept_bind h.policyOk ?_
  refine run_ofExcept_bind (a := ()) (throwIf_eq_ok.mpr (by simp [hrunMode, hcash, hdefined])) ?_
  refine run_bind (run_requireEntryAllowed h.active) ?_
  refine run_ofExcept_bind (a := ())
    (checkV2Ready_eq_ok.mpr ⟨h.ready, h.vertical, h.policyBound⟩) ?_
  refine run_ofExcept_bind h.symbolOk ?_
  refine run_ofExcept_bind h.opportunityOk ?_
  refine run_bind hread ?_
  refine run_bind (run_failClosedIf h.notFrozen) ?_
  refine run_bind (run_tryCatch h.portfolioOk) ?_
  exact run_ofExcept_bind (v2Allocate_ok.mpr h.allocation) rfl

/-! ### The concrete opportunity -/

theorem deskV2_ready (ample : Bool) {d : AllocationDecision}
    (hd : allocateDefinedRisk (portfolioV2 ample) spyOpportunity [] = .ok d) :
    V2Ready (.v2 spyPolicyV2) spyOpportunity spyCompiledV2 (spyEntryV2 ample).truth (.utc 1000)
      deskV2 spyPolicyV2 "SPY" ⟨accountV2 ample, cashV2 ample, [], []⟩ (portfolioV2 ample) [] d := by
  have hverified : spyPolicyV2.constantsVerified = true := spyPolicyV2.values.2.2.2.1
  have hpolicy : v2Policy (.v2 spyPolicyV2) = .ok spyPolicyV2 :=
    except_bind_eq_ok.mpr ⟨(), throwIf_eq_ok.mpr (by simp [hverified]), rfl⟩
  have hopportunity : checkV2Opportunity spyPolicyV2 spyOpportunity spyCompiledV2 "SPY" =
      .ok () := by
    have htier : ¬ hasTier spyPolicyV2 Autonomy.RiskTier.fivePercent.fraction = false := by
      decide +kernel
    simp only [checkV2Opportunity, except_bind_eq_ok, throwIf_eq_ok, not_not]
    exact ⟨(), rfl, (), rfl, (), rfl, htier⟩
  have hfreeze : ¬ (Decimal.ofNat 100000).toRat ≤
      (Decimal.ofNat 100000).toRat * (Decimal.cents 50).toRat := by
    norm_num [Decimal.toRat_cents]
  have hfresh : readV2Truth (spyEntryV2 ample).truth (.utc 1000) spyPolicyV2 =
      .ok ⟨accountV2 ample, cashV2 ample, [], []⟩ := by
    have hsound : ¬ ((accountV2 ample).equity.isFinite = false ∨
        (accountV2 ample).equity.toRat ≤ 0 ∨ (cashV2 ample).isFinite = false ∨
        (cashV2 ample).toRat < 0 ∨ (accountV2 ample).equity.toRat < (cashV2 ample).toRat) := by
      cases ample <;> decide +kernel
    exact except_bind_eq_ok.mpr ⟨(accountV2 ample, [], []), rfl, if_neg hsound⟩
  exact ⟨rfl, hpolicy, rfl, rfl, rfl, rfl, rfl, hopportunity, hfresh, hfreeze,
    run_v2Portfolio_deskV2 ample, hd⟩

theorem spyEntryV2_binds (ample : Bool) :
    EntryV2Binds (.v2 spyPolicyV2) deskV2 (spyEntryV2 ample) "SPY" where
  bound := ⟨(by decide : isExactText "e1" = true), by decide,
    (by decide : isExactText "c1" = true), rfl, rfl, rfl,
    ⟨deskV2Candidate, rfl, rfl, rfl, rfl, rfl⟩, (by decide : isExactText digestA = true)⟩
  permit := spyPermit_binds (by decide) (Json.isLowerHex_sha256 _) (by decide)
    (Json.length_sha256 _)
  terms := by
    have hloss : (Decimal.cents 25000).isFinite = true ∧ 0 < (Decimal.cents 25000).toRat :=
      ⟨rfl, by norm_num [Decimal.toRat_cents]⟩
    have hdebit : (Decimal.cents 25000).toRat * ((1 : Int) : ℚ) = (Decimal.cents 25000).toRat := by
      simp
    have hpermit : (Decimal.mul (.cents 250) (.ofNat 100)).toRat = (Decimal.cents 25000).toRat := by
      rw [Decimal.toRat_mul rfl rfl]
      norm_num [Decimal.toRat_cents]
    refine ⟨(1, .cents 25000), ?_⟩
    simp only [checkV2Terms, except_bind_eq_ok, throwIf_eq_ok]
    refine ⟨1, rfl, .cents 25000, spyExpression_exposure (by decide) (Json.length_sha256 _), (), ?_,
      (), not_not.mpr hdebit, (), not_or.mpr ⟨not_not.mpr rfl, not_not.mpr hpermit⟩, rfl⟩
    simp [hloss]

theorem spyEntryV2_free (ample : Bool) (id : String) : EntryV2Free deskV2 (spyEntryV2 ample) id := by
  constructor <;> simp [deskV2, Ledger.empty]

end EsscherMarket.Risk
