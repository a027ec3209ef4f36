import EsscherMarket.Autonomy.Universe

/-!
# The allocator in the decimal context

`autonomy/universe.py`: `PortfolioState` and `allocate_defined_risk`, with the arithmetic of the
default context: each sum, difference and product is rounded, and a signal leaves the allocator.
-/

namespace EsscherMarket.Autonomy.Allocation

open Lib

/-! ### The portfolio -/

structure UnderlyingExposureFields where
  underlying : String
  openDebit : Decimal

def UnderlyingExposureFields.check (e : UnderlyingExposureFields) : Contract Unit := do
  symbol e.underlying "underlying"
  positiveDecimal e.openDebit "open_debit"

abbrev UnderlyingExposure : Type := { e : UnderlyingExposureFields // e.check = .ok () }

structure PortfolioStateFields where
  equity : Decimal
  cash : Decimal
  openDebit : Decimal
  exposures : List UnderlyingExposure

def PortfolioStateFields.check (p : PortfolioStateFields) : Computed Unit := do
  contract (positiveDecimal p.equity "equity")
  contract (nonnegativeDecimal p.cash "cash")
  contract (nonnegativeDecimal p.openDebit "open_debit")
  contract (throwIf (¬ (p.exposures.map (·.1.underlying)).Nodup)
    ⟨.duplicateExposure, "exposures", "each underlying may appear at most once"⟩)
  let attributed ← arithmetic (Decimal.sumFrom (.ofNat 0) (p.exposures.map (·.1.openDebit)))
  contract (throwIf (p.openDebit.toRat < attributed.toRat)
    ⟨.inconsistentState, "exposures", "per-underlying open debit exceeds aggregate open debit"⟩)
  contract (throwIf (p.equity.toRat < p.openDebit.toRat)
    ⟨.inconsistentState, "open_debit", "aggregate open debit exceeds current equity"⟩)
  contract (throwIf (p.equity.toRat < p.cash.toRat)
    ⟨.inconsistentState, "cash", "unborrowed cash exceeds current equity"⟩)

abbrev PortfolioState : Type := { p : PortfolioStateFields // p.check = .ok () }

/-! ### The allocator -/

structure AllocationDecision where
  status : AllocationStatus
  reasonCodes : List AbstainReason
  quantity : Int
  maxLoss : Decimal
  reservationId : Option String
  remainingTier : Decimal
  remainingUnderlying : Decimal
  remainingAggregate : Decimal
  remainingCash : Decimal

def underlyingOpen (portfolio : PortfolioState) (underlying : String) : Decimal :=
  match portfolio.1.exposures.find? fun e => e.1.underlying = underlying with
  | some e => e.1.openDebit
  | none => .ofNat 0

def losses (rs : List AllocationReservation) : List Decimal := rs.map (·.1.maxLoss)

def ofUnderlying (rs : List AllocationReservation) (underlying : String) :
    List AllocationReservation :=
  rs.filter fun r => r.1.underlying = underlying

/-- The four capacities before the allocation, as they are computed. -/
structure RemainingCapacities where
  tier : Decimal
  underlying : Decimal
  aggregate : Decimal
  cash : Decimal

def remaining (portfolio : PortfolioState) (o : DefinedRiskOpportunity)
    (existing : List AllocationReservation) : Except DecimalSignal RemainingCapacities := do
  let reservedTotal ← Decimal.sumFrom (.ofNat 0) (losses existing)
  let reservedUnderlying ←
    Decimal.sumFrom (.ofNat 0) (losses (ofUnderlying existing o.1.underlying))
  let tier ← Decimal.product o.1.riskTier.fraction portfolio.1.equity
  let underlyingCap ← Decimal.product maxPerUnderlyingFraction portfolio.1.equity
  let underlyingLeft ←
    Decimal.minus underlyingCap (underlyingOpen portfolio o.1.underlying)
  let underlying ← Decimal.minus underlyingLeft reservedUnderlying
  let aggregateCap ← Decimal.product maxAggregateOpenDebitFraction portfolio.1.equity
  let aggregateLeft ← Decimal.minus aggregateCap portfolio.1.openDebit
  let aggregate ← Decimal.minus aggregateLeft reservedTotal
  let cash ← Decimal.minus portfolio.1.cash reservedTotal
  return ⟨tier, underlying, aggregate, cash⟩

namespace RemainingCapacities

def values (c : RemainingCapacities) : Capacities :=
  ⟨c.tier.toRat, c.underlying.toRat, c.aggregate.toRat, c.cash.toRat⟩

/-- `min` of two decimals. -/
def lesser (x y : Decimal) : Decimal := if y.toRat < x.toRat then y else x

def least (c : RemainingCapacities) : Decimal :=
  lesser (lesser (lesser c.tier c.underlying) c.aggregate) c.cash

def abstain (c : RemainingCapacities) (reasons : List AbstainReason) : AllocationDecision :=
  ⟨.abstained, reasons, 0, .ofNat 0, none, c.tier, c.underlying, c.aggregate, c.cash⟩

def less (c : RemainingCapacities) (loss : Decimal) : Except DecimalSignal RemainingCapacities := do
  let tier ← Decimal.minus c.tier loss
  let underlying ← Decimal.minus c.underlying loss
  let aggregate ← Decimal.minus c.aggregate loss
  let cash ← Decimal.minus c.cash loss
  return ⟨tier, underlying, aggregate, cash⟩

end RemainingCapacities

def replay (o : DefinedRiskOpportunity) (c : RemainingCapacities) (r : AllocationReservation) :
    Computed AllocationDecision := do
  contract (throwIf (r.1.opportunitySha256 ≠ definedRiskOpportunitySha256 o)
    ⟨.identityConflict, "opportunity",
      "same opportunity identity carries conflicting canonical bytes"⟩)
  let tier ← arithmetic (Decimal.minus c.tier r.1.maxLoss)
  return ⟨.allocated, [], r.1.quantity, r.1.maxLoss, some r.1.reservationId, tier, c.underlying,
    c.aggregate, c.cash⟩

def size (o : DefinedRiskOpportunity) (c : RemainingCapacities) : Computed AllocationDecision :=
  if o.1.decisionReady then do
    let quantity ← arithmetic (Decimal.floorQuotient c.least o.1.maxDebitPerContract)
    if quantity < 1 then return c.abstain c.values.binding
    else
      let maxLoss ← arithmetic (Decimal.product (.ofInt quantity) o.1.maxDebitPerContract)
      let left ← arithmetic (c.less maxLoss)
      return ⟨.allocated, [], quantity, maxLoss, some (reservationIdentity o quantity maxLoss),
        left.tier, left.underlying, left.aggregate, left.cash⟩
  else return c.abstain [.opportunityNotReady]

def own (o : DefinedRiskOpportunity) (existing : List AllocationReservation) :
    Option AllocationReservation :=
  existing.find? fun r => r.1.opportunityId = o.1.opportunityId

def allocateDefinedRisk (portfolio : PortfolioState) (o : DefinedRiskOpportunity)
    (existing : List AllocationReservation) : Computed AllocationDecision := do
  contract (validateReservations [] 0 existing)
  let c ← arithmetic (remaining portfolio o existing)
  match own o existing with
  | some r => replay o c r
  | none => size o c

/-! ### Exact amounts -/

structure DecisionValues where
  status : AllocationStatus
  reasonCodes : List AbstainReason
  quantity : Int
  maxLoss : ℚ
  reservationId : Option String
  remaining : Capacities

def AllocationDecision.values (d : AllocationDecision) : DecisionValues :=
  ⟨d.status, d.reasonCodes, d.quantity, d.maxLoss.toRat, d.reservationId,
    ⟨d.remainingTier.toRat, d.remainingUnderlying.toRat, d.remainingAggregate.toRat,
      d.remainingCash.toRat⟩⟩

def pending (rs : List AllocationReservation) : ℚ := ((losses rs).map Decimal.toRat).sum

def exactCapacities (portfolio : PortfolioState) (o : DefinedRiskOpportunity)
    (existing : List AllocationReservation) : Capacities where
  tier := o.1.riskTier.fraction.toRat * portfolio.1.equity.toRat
  underlying := maxPerUnderlyingFraction.toRat * portfolio.1.equity.toRat -
    (underlyingOpen portfolio o.1.underlying).toRat - pending (ofUnderlying existing o.1.underlying)
  aggregate := maxAggregateOpenDebitFraction.toRat * portfolio.1.equity.toRat -
    portfolio.1.openDebit.toRat - pending existing
  cash := portfolio.1.cash.toRat - pending existing

def lessExactly (c : Capacities) (loss : ℚ) : Capacities :=
  ⟨c.tier - loss, c.underlying - loss, c.aggregate - loss, c.cash - loss⟩

def newIdentity (o : DefinedRiskOpportunity) (quantity : Int) : Option String :=
  match Decimal.product (.ofInt quantity) o.1.maxDebitPerContract with
  | .ok maxLoss => some (reservationIdentity o quantity maxLoss)
  | .error _ => none

def exactSize (o : DefinedRiskOpportunity) (c : Capacities) : DecisionValues :=
  if o.1.decisionReady then
    let quantity := truncDiv c.least o.1.maxDebitPerContract.toRat
    if quantity < 1 then ⟨.abstained, c.binding, 0, 0, none, c⟩
    else ⟨.allocated, [], quantity, quantity * o.1.maxDebitPerContract.toRat,
      newIdentity o quantity, lessExactly c (quantity * o.1.maxDebitPerContract.toRat)⟩
  else ⟨.abstained, [.opportunityNotReady], 0, 0, none, c⟩

/-- What the allocator is for: a reserved opportunity keeps its reservation, and any other gets the
largest quantity that fits. -/
def exactDecision (portfolio : PortfolioState) (o : DefinedRiskOpportunity)
    (existing : List AllocationReservation) : DecisionValues :=
  let c := exactCapacities portfolio o existing
  match own o existing with
  | some r => ⟨.allocated, [], r.1.quantity, r.1.maxLoss.toRat, some r.1.reservationId,
      { c with tier := c.tier - r.1.maxLoss.toRat }⟩
  | none => exactSize o c

open Decimal in
structure CapacitiesFit (portfolio : PortfolioState) (o : DefinedRiskOpportunity)
    (existing : List AllocationReservation) : Prop where
  total : SumFits 0 ((losses existing).map toRat)
  underlyingTotal : SumFits 0 ((losses (ofUnderlying existing o.1.underlying)).map toRat)
  tier : Fits (exactCapacities portfolio o existing).tier
  underlyingCap : Fits (maxPerUnderlyingFraction.toRat * portfolio.1.equity.toRat)
  underlyingLeft : Fits (maxPerUnderlyingFraction.toRat * portfolio.1.equity.toRat -
    (underlyingOpen portfolio o.1.underlying).toRat)
  underlying : Fits (exactCapacities portfolio o existing).underlying
  aggregateCap : Fits (maxAggregateOpenDebitFraction.toRat * portfolio.1.equity.toRat)
  aggregateLeft : Fits (maxAggregateOpenDebitFraction.toRat * portfolio.1.equity.toRat -
    portfolio.1.openDebit.toRat)
  aggregate : Fits (exactCapacities portfolio o existing).aggregate
  cash : Fits (exactCapacities portfolio o existing).cash

open Decimal in
structure FitEach (c : Capacities) : Prop where
  tier : Fits c.tier
  underlying : Fits c.underlying
  aggregate : Fits c.aggregate
  cash : Fits c.cash

open Decimal in
structure ExactArithmetic (portfolio : PortfolioState) (o : DefinedRiskOpportunity)
    (existing : List AllocationReservation) : Prop
    extends CapacitiesFit portfolio o existing where
  replayed : ∀ r, own o existing = some r →
    Fits ((exactCapacities portfolio o existing).tier - r.1.maxLoss.toRat)
  quotient : own o existing = none → o.1.decisionReady = true →
    (truncDiv (exactCapacities portfolio o existing).least
      o.1.maxDebitPerContract.toRat).natAbs < 10 ^ precision
  sized : own o existing = none → o.1.decisionReady = true →
    ∀ n, truncDiv (exactCapacities portfolio o existing).least o.1.maxDebitPerContract.toRat = n →
      1 ≤ n → Fits (n * o.1.maxDebitPerContract.toRat) ∧
        FitEach (lessExactly (exactCapacities portfolio o existing)
          (n * o.1.maxDebitPerContract.toRat))

/-! ### What the checks accept -/

theorem isFinite_exposure (e : UnderlyingExposure) : e.1.openDebit.isFinite = true := by
  have h := e.2
  simp only [UnderlyingExposureFields.check, except_bind_eq_ok, positiveDecimal_eq_ok] at h
  obtain ⟨_, -, hfinite, -⟩ := h
  exact hfinite

theorem isFinite_portfolio (p : PortfolioState) : p.1.equity.isFinite = true ∧
    p.1.cash.isFinite = true ∧ p.1.openDebit.isFinite = true := by
  have h := p.2
  simp only [PortfolioStateFields.check, except_bind_eq_ok, exists_const, contract_eq_ok,
    positiveDecimal_eq_ok, nonnegativeDecimal, throwIf_eq_ok, Bool.not_eq_false] at h
  exact ⟨h.1.1, h.2.1.1, h.2.2.1.1⟩

theorem isFinite_underlyingOpen (p : PortfolioState) (underlying : String) :
    (underlyingOpen p underlying).isFinite = true := by
  rw [underlyingOpen]
  split
  · exact isFinite_exposure _
  · rfl

theorem check_reservation {r : AllocationReservationFields} {u : Unit} : r.check = .ok u ↔
    isIdentifier r.opportunityId = true ∧ isLowerHex 64 r.opportunitySha256 = true ∧
      isLowerHex 64 r.reservationId = true ∧ isSymbol r.underlying = true ∧ 1 ≤ r.quantity ∧
      r.maxLoss.isFinite = true ∧ 0 < r.maxLoss.toRat := by
  simp only [AllocationReservationFields.check, identifier, sha256Text, symbol, except_bind_eq_ok,
    throwIf_eq_ok, exists_const, positiveDecimal_eq_ok, Bool.not_eq_false, not_lt]

theorem reservation_loss (r : AllocationReservation) :
    r.1.maxLoss.isFinite = true ∧ 0 < r.1.maxLoss.toRat := by
  obtain ⟨-, -, -, -, -, hloss⟩ := check_reservation.mp r.2
  exact hloss

theorem isFinite_losses (rs : List AllocationReservation) :
    ∀ x ∈ losses rs, x.isFinite = true := by
  intro x hx
  obtain ⟨r, -, rfl⟩ := List.mem_map.mp hx
  exact (reservation_loss r).1

theorem isFinite_fraction (tier : RiskTier) : tier.fraction.isFinite = true := by
  cases tier <;> rfl

theorem validateReservations_eq_ok {seen : List String} {index : Nat}
    {rs : List AllocationReservation} {u : Unit} : validateReservations seen index rs = .ok u ↔
      (rs.map (·.1.opportunityId)).Nodup ∧ ∀ r ∈ rs, r.1.opportunityId ∉ seen := by
  induction rs generalizing seen index with
  | nil => simp [validateReservations]
  | cons r rest ih =>
    rw [validateReservations]
    simp only [except_bind_eq_ok, throwIf_eq_ok, exists_const, ih, List.map_cons, List.nodup_cons,
      forall_eq_or_imp, List.mem_cons, not_or, List.mem_map, not_exists, not_and]
    constructor
    · rintro ⟨hr, hnodup, hseen⟩
      exact ⟨⟨fun s hs => (hseen s hs).1, hnodup⟩, hr, fun s hs => (hseen s hs).2⟩
    · rintro ⟨⟨hother, hnodup⟩, hr, hseen⟩
      exact ⟨hr, hnodup, fun s hs => ⟨hother s hs, hseen s hs⟩⟩

theorem validateReservations_error {seen : List String} {index : Nat}
    {rs : List AllocationReservation} {e : UniverseContractRejected}
    (h : validateReservations seen index rs = .error e) : e.reason = .duplicateReservation := by
  induction rs generalizing seen index with
  | nil => cases h
  | cons r rest ih =>
    rw [validateReservations] at h
    by_cases hseen : r.1.opportunityId ∈ seen
    · rw [throwIf, if_pos hseen] at h
      cases h
      rfl
    · rw [throwIf, if_neg hseen] at h
      exact ih h

/-! ### Refinement -/

namespace RemainingCapacities

theorem toRat_lesser (x y : Decimal) : (lesser x y).toRat = min x.toRat y.toRat := by
  rw [lesser]
  split_ifs with h
  · exact (min_eq_right h.le).symm
  · exact (min_eq_left (not_lt.mp h)).symm

theorem toRat_least (c : RemainingCapacities) : c.least.toRat = c.values.least := by
  simp only [least, toRat_lesser, values, Capacities.least]

structure Finite (c : RemainingCapacities) : Prop where
  tier : c.tier.isFinite = true
  underlying : c.underlying.isFinite = true
  aggregate : c.aggregate.isFinite = true
  cash : c.cash.isFinite = true

/-- Taking a loss off is exact where the rests are numbers of the context. -/
theorem less_exactly {c : RemainingCapacities} (hc : c.Finite) {loss : Decimal}
    (hloss : loss.isFinite = true) (h : FitEach (lessExactly c.values loss.toRat)) :
    ∃ left, c.less loss = .ok left ∧ left.values = lessExactly c.values loss.toRat := by
  obtain ⟨tier, htier, -, hv1⟩ := Decimal.minus_exactly hc.tier hloss h.tier
  obtain ⟨underlying, hunderlying, -, hv2⟩ := Decimal.minus_exactly hc.underlying hloss h.underlying
  obtain ⟨aggregate, haggregate, -, hv3⟩ := Decimal.minus_exactly hc.aggregate hloss h.aggregate
  obtain ⟨cash, hcash, -, hv4⟩ := Decimal.minus_exactly hc.cash hloss h.cash
  refine ⟨⟨tier, underlying, aggregate, cash⟩, ?_, ?_⟩
  · simp only [less, htier, hunderlying, haggregate, hcash]
    rfl
  · simp only [values, lessExactly, hv1, hv2, hv3, hv4]

end RemainingCapacities

section Exact

variable {p : PortfolioState} {o : DefinedRiskOpportunity} {existing : List AllocationReservation}

/-- The capacities are exact where no operation rounds. -/
theorem remaining_exactly (h : CapacitiesFit p o existing) :
    ∃ c, remaining p o existing = .ok c ∧ c.Finite ∧ c.values = exactCapacities p o existing := by
  obtain ⟨hequity, hcash, hopen⟩ := isFinite_portfolio p
  have hsum : ∀ rs : List AllocationReservation, Decimal.SumFits 0 ((losses rs).map Decimal.toRat) →
      Decimal.Exactly (Decimal.sumFrom (.ofNat 0) (losses rs)) (pending rs) := by
    intro rs hrs
    have hzero : (Decimal.ofNat 0).toRat = 0 := by simp
    have hexact := @Decimal.sumFrom_exactly (losses rs) (.ofNat 0) rfl (isFinite_losses rs)
      (by rw [hzero]; exact hrs)
    rw [hzero, zero_add] at hexact
    exact hexact
  obtain ⟨total, htotal, hftotal, hvtotal⟩ := hsum existing h.total
  obtain ⟨own, hown, hfown, hvown⟩ := hsum _ h.underlyingTotal
  obtain ⟨tier, htier, hftier, hvtier⟩ :=
    Decimal.product_exactly (isFinite_fraction o.1.riskTier) hequity h.tier
  obtain ⟨cap, hcap, hfcap, hvcap⟩ :=
    @Decimal.product_exactly maxPerUnderlyingFraction _ rfl hequity h.underlyingCap
  have hleft := h.underlyingLeft
  rw [← hvcap] at hleft
  obtain ⟨left, hleft, hfleft, hvleft⟩ :=
    Decimal.minus_exactly hfcap (isFinite_underlyingOpen p o.1.underlying) hleft
  have hunderlying : Decimal.Fits (left.toRat - own.toRat) := by
    rw [hvleft, hvcap, hvown]
    exact h.underlying
  obtain ⟨underlying, hunderlying, hfunderlying, hvunderlying⟩ :=
    Decimal.minus_exactly hfleft hfown hunderlying
  obtain ⟨cap', hcap', hfcap', hvcap'⟩ :=
    @Decimal.product_exactly maxAggregateOpenDebitFraction _ rfl hequity h.aggregateCap
  have hleft' := h.aggregateLeft
  rw [← hvcap'] at hleft'
  obtain ⟨left', hleft', hfleft', hvleft'⟩ := Decimal.minus_exactly hfcap' hopen hleft'
  have haggregate : Decimal.Fits (left'.toRat - total.toRat) := by
    rw [hvleft', hvcap', hvtotal]
    exact h.aggregate
  obtain ⟨aggregate, haggregate, hfaggregate, hvaggregate⟩ :=
    Decimal.minus_exactly hfleft' hftotal haggregate
  have hrest : Decimal.Fits (p.1.cash.toRat - total.toRat) := by
    rw [hvtotal]
    exact h.cash
  obtain ⟨rest, hrest, hfrest, hvrest⟩ := Decimal.minus_exactly hcash hftotal hrest
  refine ⟨⟨tier, underlying, aggregate, rest⟩, ?_, ⟨hftier, hfunderlying, hfaggregate, hfrest⟩, ?_⟩
  · simp only [remaining, except_bind_eq_ok, except_pure_eq_ok]
    exact ⟨total, htotal, own, hown, tier, htier, cap, hcap, left, hleft, underlying, hunderlying,
      cap', hcap', left', hleft', aggregate, haggregate, rest, hrest, rfl⟩
  · simp only [RemainingCapacities.values, exactCapacities, hvtier, hvunderlying, hvleft, hvcap,
      hvown, hvaggregate, hvleft', hvcap', hvtotal, hvrest]

theorem size_refines {c : RemainingCapacities} (hc : c.Finite)
    (hvalues : c.values = exactCapacities p o existing) (h : ExactArithmetic p o existing)
    (hown : own o existing = none) :
    ∃ d, size o c = .ok d ∧ d.values = exactSize o (exactCapacities p o existing) := by
  obtain ⟨-, -, -, -, hfinite, -⟩ := DefinedRiskOpportunityFields.check_eq_ok.mp o.2
  rw [size, exactSize]
  by_cases hready : o.1.decisionReady = true
  · rw [if_pos hready, if_pos hready]
    have hquotient := h.quotient hown hready
    have hsized := h.sized hown hready _ rfl
    rw [← hvalues] at hquotient hsized ⊢
    rw [← c.toRat_least] at hquotient hsized
    have hfloor : Decimal.floorQuotient c.least o.1.maxDebitPerContract =
        .ok (truncDiv c.least.toRat o.1.maxDebitPerContract.toRat) := if_pos hquotient
    rw [hfloor, c.toRat_least]
    rw [c.toRat_least] at hsized
    obtain ⟨n, hn⟩ : ∃ n, truncDiv c.values.least o.1.maxDebitPerContract.toRat = n := ⟨_, rfl⟩
    rw [hn] at hsized ⊢
    dsimp only
    by_cases hone : n < 1
    · rw [if_pos hone]
      refine ⟨c.abstain c.values.binding, if_pos hone, ?_⟩
      simp [AllocationDecision.values, RemainingCapacities.abstain, RemainingCapacities.values]
    · rw [if_neg hone]
      obtain ⟨hfits, heach⟩ := hsized (not_lt.mp hone)
      have hcast : (Decimal.ofInt n).toRat * o.1.maxDebitPerContract.toRat =
          n * o.1.maxDebitPerContract.toRat := by
        rw [Decimal.toRat_ofInt]
      have hproduct := @Decimal.product_exactly (.ofInt n) o.1.maxDebitPerContract rfl hfinite
      rw [hcast] at hproduct
      obtain ⟨loss, hloss, hlossfinite, hlossvalue⟩ := hproduct hfits
      rw [← hlossvalue] at heach
      obtain ⟨left, hleft, hleftvalues⟩ := RemainingCapacities.less_exactly hc hlossfinite heach
      refine ⟨⟨.allocated, [], n, loss, some (reservationIdentity o n loss), left.tier,
        left.underlying, left.aggregate, left.cash⟩, ?_, ?_⟩
      · show (if n < 1 then _ else _) = _
        rw [if_neg hone, hloss]
        show (do let left ← arithmetic (c.less loss); _) = _
        rw [hleft]
        rfl
      · rw [AllocationDecision.values, newIdentity, hloss, hlossvalue, ← hlossvalue, ← hleftvalues]
        rfl
  · rw [if_neg hready, if_neg hready]
    refine ⟨c.abstain [.opportunityNotReady], rfl, ?_⟩
    rw [← hvalues]
    simp [AllocationDecision.values, RemainingCapacities.abstain, RemainingCapacities.values]

/-- Where no operation rounds, the allocator decides as on exact amounts. -/
theorem allocateDefinedRisk_refines (h : ExactArithmetic p o existing)
    (hids : (existing.map (·.1.opportunityId)).Nodup)
    (hsha : ∀ r, own o existing = some r →
      r.1.opportunitySha256 = definedRiskOpportunitySha256 o) :
    ∃ d, allocateDefinedRisk p o existing = .ok d ∧ d.values = exactDecision p o existing := by
  obtain ⟨c, hc, hfinite, hvalues⟩ := remaining_exactly h.toCapacitiesFit
  have hvalid : validateReservations [] 0 existing = .ok () :=
    validateReservations_eq_ok.mpr ⟨hids, fun _ _ => List.not_mem_nil⟩
  rw [allocateDefinedRisk, hvalid, hc, exactDecision]
  show ∃ d, (match own o existing with
    | some r => replay o c r
    | none => size o c) = .ok d ∧ _
  cases hown : own o existing with
  | none => exact size_refines hfinite hvalues h hown
  | some r =>
    have htier : Decimal.Fits (c.tier.toRat - r.1.maxLoss.toRat) := by
      have := h.replayed r hown
      rw [← hvalues] at this
      exact this
    obtain ⟨tier, htier, -, hvtier⟩ := Decimal.minus_exactly hfinite.tier (reservation_loss r).1 htier
    refine ⟨⟨.allocated, [], r.1.quantity, r.1.maxLoss, some r.1.reservationId, tier, c.underlying,
      c.aggregate, c.cash⟩, ?_, ?_⟩
    · dsimp only
      rw [replay, throwIf, if_neg (not_not.mpr (hsha r hown)), htier]
      rfl
    · rw [← hvalues, AllocationDecision.values, hvtier]
      rfl

end Exact

/-! ### The quantity -/

def FitsAll (c : Capacities) (debit : ℚ) (n : Int) : Prop :=
  n * debit ≤ c.tier ∧ n * debit ≤ c.underlying ∧ n * debit ≤ c.aggregate ∧ n * debit ≤ c.cash

def namedBy (c : Capacities) : AbstainReason → Option ℚ
  | .opportunityNotReady => none
  | .tierCapacityInsufficient => some c.tier
  | .underlyingCapInsufficient => some c.underlying
  | .aggregateCapInsufficient => some c.aggregate
  | .cashInsufficient => some c.cash

/-- The decision is exact: for the greatest quantity that fits, if one contract fits, and else an
abstention that names the least capacities. -/
structure Sized (c : Capacities) (debit : ℚ) (d : AllocationDecision) : Prop where
  allocated : FitsAll c debit 1 →
    d.status = .allocated ∧ IsGreatest { n | FitsAll c debit n } d.quantity
  abstained : ¬ FitsAll c debit 1 → d.status = .abstained ∧ d.quantity = 0 ∧
    ∀ reason, reason ∈ d.reasonCodes ↔ namedBy c reason = some c.least

theorem fitsAll_iff {c : Capacities} {debit : ℚ} {n : Int} :
    FitsAll c debit n ↔ n * debit ≤ c.least := by
  simp only [FitsAll, Capacities.least, le_min_iff]
  tauto

/-- A truncated quotient of at least one is the greatest factor. -/
theorem truncDiv_isGreatest {x y : ℚ} (hy : 0 < y) (h : 1 ≤ truncDiv x y) :
    IsGreatest { n : Int | n * y ≤ x } (truncDiv x y) := by
  refine ⟨truncDiv_mul_le hy h, ?_⟩
  intro n hn
  have hquotient : (n : ℚ) ≤ x / y := (le_div_iff₀ hy).mpr hn
  rw [truncDiv]
  split_ifs with hnonneg
  · exact Int.le_floor.mpr hquotient
  · have := Int.le_ceil (x / y)
    exact_mod_cast hquotient.trans this

/-- The quotient is at least one exactly if the divisor fits. -/
theorem one_le_truncDiv {x y : ℚ} (hy : 0 < y) : 1 ≤ truncDiv x y ↔ y ≤ x := by
  rw [truncDiv]
  split_ifs with hnonneg
  · rw [Int.le_floor, Int.cast_one, le_div_iff₀ hy, one_mul]
  · refine iff_of_false ?_ ?_
    · have hceil : ⌈x / y⌉ ≤ 0 := Int.ceil_le.mpr (by push_cast; exact (not_le.mp hnonneg).le)
      omega
    · intro hle
      exact hnonneg (div_nonneg (hy.le.trans hle) hy.le)

theorem mem_binding {c : Capacities} {reason : AbstainReason} :
    reason ∈ c.binding ↔ namedBy c reason = some c.least := by
  simp only [Capacities.binding, List.mem_append]
  cases reason <;> simp [namedBy]

theorem sized_of_quantity {c : Capacities} {debit : ℚ} {d : AllocationDecision} (hdebit : 0 < debit)
    (hone : 1 ≤ truncDiv c.least debit →
      d.status = .allocated ∧ d.quantity = truncDiv c.least debit)
    (hnone : truncDiv c.least debit < 1 →
      d.status = .abstained ∧ d.quantity = 0 ∧ d.reasonCodes = c.binding) : Sized c debit d := by
  have hfits : FitsAll c debit 1 ↔ 1 ≤ truncDiv c.least debit := by
    rw [fitsAll_iff, one_le_truncDiv hdebit, Int.cast_one, one_mul]
  constructor
  · intro h
    obtain ⟨hstatus, hquantity⟩ := hone (hfits.mp h)
    refine ⟨hstatus, ?_⟩
    rw [hquantity]
    simp only [fitsAll_iff]
    exact truncDiv_isGreatest hdebit (hfits.mp h)
  · intro h
    obtain ⟨hstatus, hquantity, hreasons⟩ := hnone (not_le.mp (mt hfits.mpr h))
    refine ⟨hstatus, hquantity, fun reason => ?_⟩
    rw [hreasons]
    exact mem_binding

theorem size_sized {o : DefinedRiskOpportunity} {c : RemainingCapacities} {d : AllocationDecision}
    (hready : o.1.decisionReady = true) (h : size o c = .ok d) :
    Sized c.values o.1.maxDebitPerContract.toRat d := by
  obtain ⟨-, -, -, -, -, hpos⟩ := DefinedRiskOpportunityFields.check_eq_ok.mp o.2
  simp only [size, if_pos hready, except_bind_eq_ok, arithmetic_eq_ok] at h
  obtain ⟨quantity, hquantity, h⟩ := h
  have hq : quantity = truncDiv c.values.least o.1.maxDebitPerContract.toRat := by
    rw [Decimal.floorQuotient, c.toRat_least] at hquantity
    split_ifs at hquantity with hnonneg hdigits hdigits
    · cases hquantity
      rw [truncDiv, if_pos hnonneg]
    · cases hquantity
      rw [truncDiv, if_neg hnonneg]
  refine sized_of_quantity hpos ?_ ?_
  · intro hone
    rw [← hq] at hone ⊢
    rw [if_neg (not_lt.mpr hone)] at h
    simp only [except_bind_eq_ok, arithmetic_eq_ok, except_pure_eq_ok] at h
    obtain ⟨loss, -, left, -, rfl⟩ := h
    exact ⟨rfl, rfl⟩
  · intro hnone
    rw [← hq] at hnone
    rw [if_pos hnone] at h
    cases h
    exact ⟨rfl, rfl, rfl⟩

/-- The exact capacities decide where no operation rounds. -/
theorem exactSize_sized {o : DefinedRiskOpportunity} {c : Capacities} {d : AllocationDecision}
    (hready : o.1.decisionReady = true) (h : d.values = exactSize o c) :
    Sized c o.1.maxDebitPerContract.toRat d := by
  obtain ⟨-, -, -, -, -, hpos⟩ := DefinedRiskOpportunityFields.check_eq_ok.mp o.2
  rw [exactSize, if_pos hready] at h
  dsimp only at h
  refine sized_of_quantity hpos ?_ ?_
  · intro hone
    rw [if_neg (not_lt.mpr hone)] at h
    exact ⟨congrArg DecisionValues.status h, congrArg DecisionValues.quantity h⟩
  · intro hnone
    rw [if_pos hnone] at h
    exact ⟨congrArg DecisionValues.status h, congrArg DecisionValues.quantity h,
      congrArg DecisionValues.reasonCodes h⟩

/-! ### Amounts in cents -/

def OnGrid (x : ℚ) : Prop := ∃ m : Int, x = m / 10 ^ 4

def IsCents (x : ℚ) : Prop := ∃ m : Int, x = m / 100

theorem IsCents.onGrid {x : ℚ} (h : IsCents x) : OnGrid x := by
  obtain ⟨m, rfl⟩ := h
  exact ⟨m * 100, by push_cast; ring⟩

theorem IsCents.percent {x : ℚ} (h : IsCents x) (n : Nat) : OnGrid (n / 100 * x) := by
  obtain ⟨m, rfl⟩ := h
  exact ⟨n * m, by push_cast; ring⟩

theorem IsCents.times {x : ℚ} (h : IsCents x) (n : Int) : IsCents (n * x) := by
  obtain ⟨m, rfl⟩ := h
  exact ⟨n * m, by push_cast; ring⟩

theorem IsCents.add {x y : ℚ} (hx : IsCents x) (hy : IsCents y) : IsCents (x + y) := by
  obtain ⟨m, rfl⟩ := hx
  obtain ⟨n, rfl⟩ := hy
  exact ⟨m + n, by push_cast; ring⟩

theorem OnGrid.sub {x y : ℚ} (hx : OnGrid x) (hy : OnGrid y) : OnGrid (x - y) := by
  obtain ⟨m, rfl⟩ := hx
  obtain ⟨n, rfl⟩ := hy
  exact ⟨m - n, by push_cast; ring⟩

theorem OnGrid.fits {x : ℚ} (h : OnGrid x) (hlow : -10 ^ 22 ≤ x) (hhigh : x ≤ 10 ^ 22) :
    Decimal.Fits x := by
  obtain ⟨m, hm⟩ := h
  have habs : |(m : ℚ)| ≤ 10 ^ 26 := by
    rw [abs_le]
    constructor <;> linarith
  have hcast : (m.natAbs : ℚ) ≤ 10 ^ 26 := by
    rw [Nat.cast_natAbs, Int.cast_abs]
    exact habs
  have hnat : m.natAbs ≤ 10 ^ 26 := by exact_mod_cast hcast
  refine Decimal.fits_of_places (by norm_num) ?_ hm
  rw [Decimal.precision]
  omega

theorem pending_nonneg (rs : List AllocationReservation) : 0 ≤ pending rs := by
  apply List.sum_nonneg
  intro x hx
  obtain ⟨d, hd, rfl⟩ := List.mem_map.mp hx
  obtain ⟨r, -, rfl⟩ := List.mem_map.mp hd
  exact (reservation_loss r).2.le

theorem pending_cons (r : AllocationReservation) (rs : List AllocationReservation) :
    pending (r :: rs) = r.1.maxLoss.toRat + pending rs := rfl

/-- The partial sums of losses in cents are numbers of the context. -/
theorem sumFits_losses {rs : List AllocationReservation} (hcents : ∀ r ∈ rs, IsCents r.1.maxLoss.toRat)
    {total : ℚ} (htotal : IsCents total) (hnonneg : 0 ≤ total)
    (hbound : total + pending rs ≤ 10 ^ 20) :
    Decimal.SumFits total ((losses rs).map Decimal.toRat) := by
  induction rs generalizing total with
  | nil => exact trivial
  | cons r rest ih =>
    rw [pending_cons] at hbound
    have hloss := (reservation_loss r).2
    have hrest := pending_nonneg rest
    have hnext : IsCents (total + r.1.maxLoss.toRat) :=
      htotal.add (hcents r List.mem_cons_self)
    refine ⟨hnext.onGrid.fits (by linarith) (by linarith), ?_⟩
    exact ih (fun s hs => hcents s (List.mem_cons_of_mem r hs)) hnext (by linarith) (by linarith)

theorem pending_ofUnderlying_le (rs : List AllocationReservation) (underlying : String) :
    pending (ofUnderlying rs underlying) ≤ pending rs := by
  induction rs with
  | nil => exact le_rfl
  | cons r rest ih =>
    have hloss := (reservation_loss r).2
    rw [ofUnderlying, List.filter_cons]
    split_ifs
    · rw [pending_cons, pending_cons]
      exact add_le_add_right ih _
    · rw [pending_cons]
      rw [ofUnderlying] at ih
      linarith

theorem abs_truncDiv_le (x y : ℚ) : |(truncDiv x y : ℚ)| ≤ |x / y| := by
  rw [truncDiv]
  split_ifs with h
  · rw [abs_of_nonneg (by exact_mod_cast Int.floor_nonneg.mpr h), abs_of_nonneg h]
    exact Int.floor_le _
  · have hneg := not_le.mp h
    have hceil : ⌈x / y⌉ ≤ 0 := Int.ceil_le.mpr (by push_cast; exact hneg.le)
    rw [abs_of_nonpos (by exact_mod_cast hceil), abs_of_neg hneg]
    have := Int.le_ceil (x / y)
    linarith

/-- The amounts are numbers of cents, and not too large. -/
structure InCents (p : PortfolioState) (o : DefinedRiskOpportunity)
    (existing : List AllocationReservation) : Prop where
  equity : IsCents p.1.equity.toRat
  cash : IsCents p.1.cash.toRat
  openDebit : IsCents p.1.openDebit.toRat
  underlyingOpen : IsCents (underlyingOpen p o.1.underlying).toRat
  debit : IsCents o.1.maxDebitPerContract.toRat
  losses : ∀ r ∈ existing, IsCents r.1.maxLoss.toRat
  equity_le : p.1.equity.toRat ≤ 10 ^ 20
  open_le : (Allocation.underlyingOpen p o.1.underlying).toRat ≤ 10 ^ 20
  pending_le : pending existing ≤ 10 ^ 20

theorem portfolio_bounds (p : PortfolioState) : 0 < p.1.equity.toRat ∧ 0 ≤ p.1.cash.toRat ∧
    0 ≤ p.1.openDebit.toRat ∧ p.1.openDebit.toRat ≤ p.1.equity.toRat ∧
    p.1.cash.toRat ≤ p.1.equity.toRat := by
  have h := p.2
  simp only [PortfolioStateFields.check, except_bind_eq_ok, exists_const, contract_eq_ok,
    positiveDecimal_eq_ok, nonnegativeDecimal, throwIf_eq_ok, not_lt] at h
  obtain ⟨⟨-, hequity⟩, ⟨-, hcash⟩, ⟨-, hopen⟩, -, _, -, -, hle, hle'⟩ := h
  exact ⟨hequity, hcash, hopen, hle, hle'⟩

theorem underlyingOpen_nonneg (p : PortfolioState) (underlying : String) :
    0 ≤ (underlyingOpen p underlying).toRat := by
  rw [underlyingOpen]
  split
  · rename_i e _
    have h := e.2
    simp only [UnderlyingExposureFields.check, except_bind_eq_ok, positiveDecimal_eq_ok] at h
    obtain ⟨_, -, -, hpos⟩ := h
    exact hpos.le
  · simp

theorem exists_fraction (tier : RiskTier) :
    ∃ n : Nat, n ≤ 20 ∧ tier.fraction.toRat = n / 100 := by
  cases tier with
  | fivePercent => exact ⟨5, by omega, Decimal.toRat_cents 5⟩
  | tenPercent => exact ⟨10, by omega, Decimal.toRat_cents 10⟩
  | twentyPercent => exact ⟨20, by omega, Decimal.toRat_cents 20⟩

/-- No operation rounds on amounts in cents. -/
theorem InCents.exactArithmetic {p : PortfolioState} {o : DefinedRiskOpportunity}
    {existing : List AllocationReservation} (h : InCents p o existing) :
    ExactArithmetic p o existing := by
  obtain ⟨hequity, hcash, hopen, hopen', hcash'⟩ := portfolio_bounds p
  have hunderlyingOpen := underlyingOpen_nonneg p o.1.underlying
  have hpending := pending_nonneg existing
  have hpending' := pending_nonneg (ofUnderlying existing o.1.underlying)
  have hpending'' := pending_ofUnderlying_le existing o.1.underlying
  obtain ⟨-, -, -, -, -, hpos⟩ := DefinedRiskOpportunityFields.check_eq_ok.mp o.2
  obtain ⟨hequity_le, hopen_le, hpending_le⟩ :=
    And.intro h.equity_le (And.intro h.open_le h.pending_le)
  have hzero : IsCents 0 := ⟨0, by simp⟩
  have hsum : ∀ rs : List AllocationReservation, (∀ r ∈ rs, IsCents r.1.maxLoss.toRat) →
      IsCents (pending rs) := by
    intro rs
    induction rs with
    | nil => intro _; exact hzero
    | cons r rest ih =>
      intro hrs
      rw [pending_cons]
      exact (hrs r List.mem_cons_self).add (ih fun s hs => hrs s (List.mem_cons_of_mem r hs))
  have hof : ∀ r ∈ ofUnderlying existing o.1.underlying, IsCents r.1.maxLoss.toRat :=
    fun r hr => h.losses r (List.mem_filter.mp hr).1
  obtain ⟨n, hn, hfraction⟩ := exists_fraction o.1.riskTier
  have htwenty : maxPerUnderlyingFraction.toRat = (20 : Nat) / 100 := Decimal.toRat_cents 20
  have hfifty : maxAggregateOpenDebitFraction.toRat = (50 : Nat) / 100 := Decimal.toRat_cents 50
  -- each capacity is on the grid, and not too large
  have hn' : (n : ℚ) ≤ 20 := by exact_mod_cast hn
  have hn0 : (0 : ℚ) ≤ n := Nat.cast_nonneg n
  have hscaled : 0 ≤ (n : ℚ) / 100 * p.1.equity.toRat ∧
      (n : ℚ) / 100 * p.1.equity.toRat ≤ 20 / 100 * p.1.equity.toRat := by
    constructor
    · positivity
    · apply mul_le_mul_of_nonneg_right _ hequity.le
      linarith
  have hcap20 : OnGrid ((20 : Nat) / 100 * p.1.equity.toRat) := h.equity.percent 20
  have hcap50 : OnGrid ((50 : Nat) / 100 * p.1.equity.toRat) := h.equity.percent 50
  have hleft20 := hcap20.sub h.underlyingOpen.onGrid
  have hleft50 := hcap50.sub h.openDebit.onGrid
  have htier : OnGrid (exactCapacities p o existing).tier := by
    show OnGrid (o.1.riskTier.fraction.toRat * _)
    rw [hfraction]
    exact h.equity.percent n
  have hunderlying : OnGrid (exactCapacities p o existing).underlying := by
    show OnGrid (maxPerUnderlyingFraction.toRat * _ - _ - _)
    rw [htwenty]
    exact hleft20.sub (hsum _ hof).onGrid
  have haggregate : OnGrid (exactCapacities p o existing).aggregate := by
    show OnGrid (maxAggregateOpenDebitFraction.toRat * _ - _ - _)
    rw [hfifty]
    exact hleft50.sub (hsum _ h.losses).onGrid
  have hrest : OnGrid (exactCapacities p o existing).cash :=
    h.cash.onGrid.sub (hsum _ h.losses).onGrid
  have hbounds : ∀ x, x = (exactCapacities p o existing).tier ∨
      x = (exactCapacities p o existing).underlying ∨
      x = (exactCapacities p o existing).aggregate ∨ x = (exactCapacities p o existing).cash →
      -(3 * 10 ^ 20) ≤ x ∧ x ≤ 10 ^ 20 := by
    simp only [exactCapacities, hfraction, htwenty, hfifty]
    push_cast
    rintro x (rfl | rfl | rfl | rfl) <;> constructor <;> linarith [hscaled.1, hscaled.2]
  obtain ⟨htier₁, htier₂⟩ := hbounds _ (.inl rfl)
  obtain ⟨hunderlying₁, hunderlying₂⟩ := hbounds _ (.inr (.inl rfl))
  obtain ⟨haggregate₁, haggregate₂⟩ := hbounds _ (.inr (.inr (.inl rfl)))
  obtain ⟨hrest₁, hrest₂⟩ := hbounds _ (.inr (.inr (.inr rfl)))
  obtain ⟨hleast₁, hleast₂, hleast₃, hleast₄⟩ := (exactCapacities p o existing).least_le
  have hleast : -(3 * 10 ^ 20) ≤ (exactCapacities p o existing).least := by
    simp only [Capacities.least, le_min_iff]
    exact ⟨⟨⟨htier₁, hunderlying₁⟩, haggregate₁⟩, hrest₁⟩
  refine ⟨⟨?_, ?_, ?_, ?_, ?_, ?_, ?_, ?_, ?_, ?_⟩, ?_, ?_, ?_⟩
  · exact sumFits_losses h.losses hzero le_rfl (by linarith)
  · exact sumFits_losses hof hzero le_rfl (by linarith)
  · exact htier.fits (by linarith) (by linarith)
  · rw [htwenty]
    exact hcap20.fits (by push_cast; linarith) (by push_cast; linarith)
  · rw [htwenty]
    exact hleft20.fits (by push_cast; linarith) (by push_cast; linarith)
  · exact hunderlying.fits (by linarith) (by linarith)
  · rw [hfifty]
    exact hcap50.fits (by push_cast; linarith) (by push_cast; linarith)
  · rw [hfifty]
    exact hleft50.fits (by push_cast; linarith) (by push_cast; linarith)
  · exact haggregate.fits (by linarith) (by linarith)
  · exact hrest.fits (by linarith) (by linarith)
  · intro r hr
    have hmem : r ∈ existing := List.mem_of_find?_eq_some hr
    have hloss := (reservation_loss r).2
    have hle : r.1.maxLoss.toRat ≤ pending existing := by
      apply List.single_le_sum
      · intro x hx
        obtain ⟨d, hd, rfl⟩ := List.mem_map.mp hx
        obtain ⟨s, -, rfl⟩ := List.mem_map.mp hd
        exact (reservation_loss s).2.le
      · exact List.mem_map_of_mem (List.mem_map_of_mem hmem)
    exact (htier.sub (h.losses r hmem).onGrid).fits (by linarith) (by linarith)
  · intro _ _
    obtain ⟨m, hm⟩ := h.debit
    have hone : (1 : ℚ) ≤ m := by
      have hmpos : 0 < m := by
        have : (0 : ℚ) < m := by linarith
        exact_mod_cast this
      exact_mod_cast hmpos
    have hdebit : (1 : ℚ) / 100 ≤ o.1.maxDebitPerContract.toRat := by linarith
    have habs : |(exactCapacities p o existing).least / o.1.maxDebitPerContract.toRat| ≤
        3 * 10 ^ 22 := by
      rw [abs_div, abs_of_pos hpos, div_le_iff₀ hpos, abs_le]
      have hmul : 3 * 10 ^ 22 * (1 / 100) ≤ 3 * 10 ^ 22 * o.1.maxDebitPerContract.toRat :=
        mul_le_mul_of_nonneg_left hdebit (by norm_num)
      constructor <;> linarith
    have hquotient := (abs_truncDiv_le _ _).trans habs
    rw [← Int.cast_abs, Int.abs_eq_natAbs, Int.cast_natCast] at hquotient
    have hnat : (truncDiv (exactCapacities p o existing).least
        o.1.maxDebitPerContract.toRat).natAbs ≤ 3 * 10 ^ 22 := by exact_mod_cast hquotient
    rw [Decimal.precision]
    omega
  · intro _ _ q hq hone
    have hle := truncDiv_mul_le hpos (hq ▸ hone)
    rw [hq] at hle
    have hpositive : 0 < (q : ℚ) * o.1.maxDebitPerContract.toRat :=
      mul_pos (by exact_mod_cast hone) hpos
    have hloss := (h.debit.times q).onGrid
    refine ⟨hloss.fits (by linarith) (by linarith), ?_, ?_, ?_, ?_⟩
    · exact (htier.sub hloss).fits (by linarith) (by linarith)
    · exact (hunderlying.sub hloss).fits (by linarith) (by linarith)
    · exact (haggregate.sub hloss).fits (by linarith) (by linarith)
    · exact (hrest.sub hloss).fits (by linarith) (by linarith)

/-! ### Two opportunities -/

def desk : PortfolioState := ⟨⟨.ofNat 10000, .ofNat 10000, .ofNat 0, []⟩, by decide +kernel⟩

/-- An opportunity of the ten percent tier at a hundred for each contract. -/
def opportunity (id underlying : String) : DefinedRiskOpportunityFields :=
  ⟨id, "decision-1", "expression-1", underlying, .tenPercent, .ofNat 100, true⟩

def spy : DefinedRiskOpportunity := ⟨opportunity "opportunity-1" "SPY", by decide +kernel⟩

def qqq : DefinedRiskOpportunity := ⟨opportunity "opportunity-2" "QQQ", by decide +kernel⟩

theorem desk_capacities {o : DefinedRiskOpportunity} (htier : o.1.riskTier = .tenPercent)
    (existing : List AllocationReservation) : exactCapacities desk o existing =
      ⟨1000, 2000 - pending (ofUnderlying existing o.1.underlying), 5000 - pending existing,
        10000 - pending existing⟩ := by
  have hten : RiskTier.tenPercent.fraction.toRat = (10 : Nat) / 100 := Decimal.toRat_cents 10
  have htwenty : maxPerUnderlyingFraction.toRat = (20 : Nat) / 100 := Decimal.toRat_cents 20
  have hfifty : maxAggregateOpenDebitFraction.toRat = (50 : Nat) / 100 := Decimal.toRat_cents 50
  have hequity : desk.1.equity.toRat = 10000 := by
    rw [desk, Decimal.toRat_ofNat]
    norm_num
  have hcash : desk.1.cash.toRat = 10000 := by
    rw [desk, Decimal.toRat_ofNat]
    norm_num
  have hopen : desk.1.openDebit.toRat = 0 := by
    rw [desk, Decimal.toRat_ofNat]
    norm_num
  have hnone : (underlyingOpen desk o.1.underlying).toRat = 0 := by
    rw [underlyingOpen, desk, List.find?_nil, Decimal.toRat_ofNat]
    norm_num
  rw [exactCapacities, htier, hten, htwenty, hfifty, hequity, hcash, hopen, hnone]
  norm_num

theorem desk_inCents {o : DefinedRiskOpportunity} (hdebit : o.1.maxDebitPerContract = .ofNat 100)
    {existing : List AllocationReservation} (hlosses : ∀ r ∈ existing, IsCents r.1.maxLoss.toRat)
    (hpending : pending existing ≤ 10 ^ 20) : InCents desk o existing := by
  have hcents : ∀ n : Nat, IsCents (Decimal.ofNat n).toRat :=
    fun n => ⟨n * 100, by rw [Decimal.toRat_ofNat]; push_cast; ring⟩
  have hnone : underlyingOpen desk o.1.underlying = .ofNat 0 := rfl
  refine ⟨hcents _, hcents _, hcents _, hnone ▸ hcents 0, hdebit ▸ hcents 100, hlosses, ?_, ?_,
    hpending⟩
  · rw [desk, Decimal.toRat_ofNat]
    norm_num
  · rw [hnone, Decimal.toRat_ofNat]
    norm_num

/-- Ten contracts fit the desk as long as little is reserved. -/
theorem desk_sized {o : DefinedRiskOpportunity} (htier : o.1.riskTier = .tenPercent)
    {existing : List AllocationReservation} (hpending : pending existing ≤ 1000) :
    IsGreatest { n | FitsAll (exactCapacities desk o existing) 100 n } 10 := by
  have hunderlying := pending_ofUnderlying_le existing o.1.underlying
  rw [desk_capacities htier]
  constructor
  · refine ⟨?_, ?_, ?_, ?_⟩ <;> push_cast <;> linarith
  · rintro n ⟨hn, -⟩
    have hle : (n : ℚ) ≤ 10 := by
      dsimp only at hn
      linarith
    exact_mod_cast hle

/-- A ready opportunity without a reservation gets the greatest quantity that fits the capacities,
or an abstention that names the least of them; these are the exact ones where no operation rounds.
-/
theorem allocateDefinedRisk_greatest (p : PortfolioState) (o : DefinedRiskOpportunity)
    (existing : List AllocationReservation) (hready : o.1.decisionReady = true)
    (hids : (existing.map (·.1.opportunityId)).Nodup) (hown : own o existing = none) :
    (∀ d, allocateDefinedRisk p o existing = .ok d →
      ∃ c, remaining p o existing = .ok c ∧ Sized c.values o.1.maxDebitPerContract.toRat d) ∧
    (ExactArithmetic p o existing → ∃ d, allocateDefinedRisk p o existing = .ok d ∧
      Sized (exactCapacities p o existing) o.1.maxDebitPerContract.toRat d) := by
  constructor
  · intro d h
    simp only [allocateDefinedRisk, except_bind_eq_ok, arithmetic_eq_ok, hown] at h
    obtain ⟨_, -, c, hc, h⟩ := h
    exact ⟨c, hc, size_sized hready h⟩
  · intro hexact
    obtain ⟨d, hd, hvalues⟩ := allocateDefinedRisk_refines hexact hids (by simp [hown])
    refine ⟨d, hd, exactSize_sized hready ?_⟩
    rw [hvalues, exactDecision]
    simp only [hown]

theorem allocateDefinedRisk_greatest_desk :
    ∃ d, allocateDefinedRisk desk spy [] = .ok d ∧ d.quantity = 10 := by
  have hexact : ExactArithmetic desk spy [] :=
    (desk_inCents rfl (by simp) (by norm_num [pending, losses])).exactArithmetic
  obtain ⟨d, hd, hsized⟩ := (allocateDefinedRisk_greatest desk spy [] rfl List.nodup_nil rfl).2 hexact
  have hhundred : spy.1.maxDebitPerContract.toRat = 100 := by
    show (Decimal.ofNat 100).toRat = 100
    rw [Decimal.toRat_ofNat]
    norm_num
  rw [hhundred] at hsized
  have hten := @desk_sized spy rfl [] (by norm_num [pending, losses])
  have hone : FitsAll (exactCapacities desk spy []) 100 1 := by
    rw [fitsAll_iff]
    have := fitsAll_iff.mp hten.1
    push_cast at this ⊢
    linarith
  exact ⟨d, hd, (hsized.allocated hone).2.unique hten⟩

/-- A desk whose tier and cash are both less than one contract. -/
def thinDesk : PortfolioState := ⟨⟨.ofNat 1, .cents 5, .ofNat 0, []⟩, by decide +kernel⟩

theorem thinDesk_capacities : exactCapacities thinDesk spy [] = ⟨1 / 10, 1 / 5, 1 / 2, 1 / 20⟩ := by
  have hten : RiskTier.tenPercent.fraction.toRat = (10 : Nat) / 100 := Decimal.toRat_cents 10
  have htwenty : maxPerUnderlyingFraction.toRat = (20 : Nat) / 100 := Decimal.toRat_cents 20
  have hfifty : maxAggregateOpenDebitFraction.toRat = (50 : Nat) / 100 := Decimal.toRat_cents 50
  have hequity : thinDesk.1.equity.toRat = 1 := by
    rw [thinDesk, Decimal.toRat_ofNat]
    norm_num
  have hcash : thinDesk.1.cash.toRat = (5 : Nat) / 100 := Decimal.toRat_cents 5
  have hopen : thinDesk.1.openDebit.toRat = 0 := by
    rw [thinDesk, Decimal.toRat_ofNat]
    norm_num
  have hnone : (underlyingOpen thinDesk spy.1.underlying).toRat = 0 := by
    rw [underlyingOpen, thinDesk, List.find?_nil, Decimal.toRat_ofNat]
    norm_num
  have htier : spy.1.riskTier = .tenPercent := rfl
  rw [exactCapacities, htier, hten, htwenty, hfifty, hequity, hcash, hopen, hnone]
  norm_num [pending, losses, ofUnderlying]

/-- The tier is less than one contract too, and the abstention does not say so. -/
theorem thinDesk_namesCash : ∃ d, allocateDefinedRisk thinDesk spy [] = .ok d ∧
    d.status = .abstained ∧ d.reasonCodes = [.cashInsufficient] ∧
    (exactCapacities thinDesk spy []).tier < spy.1.maxDebitPerContract.toRat := by
  have hhundred : spy.1.maxDebitPerContract.toRat = 100 := by
    show (Decimal.ofNat 100).toRat = 100
    rw [Decimal.toRat_ofNat]
    norm_num
  have hcents : InCents thinDesk spy [] := by
    have hequity : thinDesk.1.equity.toRat = 1 := by
      rw [thinDesk, Decimal.toRat_ofNat]
      norm_num
    have hopen : (Decimal.ofNat 0).toRat = 0 := by
      rw [Decimal.toRat_ofNat]
      norm_num
    refine ⟨⟨100, by rw [hequity]; norm_num⟩, ⟨5, Decimal.toRat_cents 5⟩, ⟨0, ?_⟩, ⟨0, ?_⟩,
      ⟨10000, by rw [hhundred]; norm_num⟩, by simp, by rw [hequity]; norm_num, ?_,
      by norm_num [pending, losses]⟩
    · show (Decimal.ofNat 0).toRat = _
      rw [hopen]
      norm_num
    · show (Decimal.ofNat 0).toRat = _
      rw [hopen]
      norm_num
    · show (Decimal.ofNat 0).toRat ≤ _
      rw [hopen]
      norm_num
  obtain ⟨d, hd, hvalues⟩ :=
    allocateDefinedRisk_refines hcents.exactArithmetic List.nodup_nil (by rintro r ⟨⟩)
  have hsize : d.values = ⟨.abstained, [.cashInsufficient], 0, 0, none, ⟨1 / 10, 1 / 5, 1 / 2, 1 / 20⟩⟩ := by
    have hown : own spy [] = none := rfl
    have hready : spy.1.decisionReady = true := rfl
    have hsmall : truncDiv (1 / 20) 100 < 1 := by
      rw [← not_le, one_le_truncDiv (by norm_num)]
      norm_num
    rw [hvalues, exactDecision]
    simp only [hown]
    rw [exactSize, if_pos hready, thinDesk_capacities, hhundred]
    have hleast : (⟨1 / 10, 1 / 5, 1 / 2, 1 / 20⟩ : Capacities).least = 1 / 20 := by
      norm_num [Capacities.least]
    have hbinding : (⟨1 / 10, 1 / 5, 1 / 2, 1 / 20⟩ : Capacities).binding = [.cashInsufficient] := by
      rw [Capacities.binding, hleast]
      norm_num
    rw [hleast, hbinding]
    exact if_pos hsmall
  refine ⟨d, hd, congrArg DecisionValues.status hsize, congrArg DecisionValues.reasonCodes hsize, ?_⟩
  rw [thinDesk_capacities, hhundred]
  norm_num

end EsscherMarket.Autonomy.Allocation
