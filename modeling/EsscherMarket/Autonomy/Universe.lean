import EsscherMarket.Lib.DecimalSignals
import EsscherMarket.Lib.Json

/-!
# Defined-risk capital allocation

`autonomy/universe.py`, the allocation part: the contract types with what their `__post_init__`
accepts, the identities of opportunities and reservations, and the pure allocator.

Sums and differences of amounts are exact, so they are rational numbers here; an amount that is
given as a decimal stays one.
-/

namespace EsscherMarket.Autonomy

open Lib

/-- Owner-approved max-loss tiers as exact equity fractions. -/
inductive RiskTier where
  | fivePercent
  | tenPercent
  | twentyPercent
  deriving DecidableEq, Repr

def RiskTier.fraction : RiskTier → Decimal
  | fivePercent => .cents 5
  | tenPercent => .cents 10
  | twentyPercent => .cents 20

inductive AllocationStatus where
  | allocated
  | abstained
  deriving DecidableEq, Repr

/-- Stable reasons the allocator declines to reserve capacity. -/
inductive AbstainReason where
  | opportunityNotReady
  | tierCapacityInsufficient
  | underlyingCapInsufficient
  | aggregateCapInsufficient
  | cashInsufficient
  deriving DecidableEq, Repr

/-- The reasons for which the allocation contract rejects its input. -/
inductive UniverseContractReason where
  | invalidDocument
  | invalidIdentifier
  | invalidDecimal
  | invalidClock
  | invalidCount
  | invalidRank
  | inconsistentState
  | duplicateExposure
  | duplicateSymbol
  | duplicateReservation
  | identityConflict
  deriving DecidableEq, Repr

def UniverseContractReason.value : UniverseContractReason → String
  | invalidDocument => "INVALID_DOCUMENT"
  | invalidIdentifier => "INVALID_IDENTIFIER"
  | invalidDecimal => "INVALID_DECIMAL"
  | invalidClock => "INVALID_CLOCK"
  | invalidCount => "INVALID_COUNT"
  | invalidRank => "INVALID_RANK"
  | inconsistentState => "INCONSISTENT_STATE"
  | duplicateExposure => "DUPLICATE_EXPOSURE"
  | duplicateSymbol => "DUPLICATE_SYMBOL"
  | duplicateReservation => "DUPLICATE_RESERVATION"
  | identityConflict => "IDENTITY_CONFLICT"

/-- A deterministic fail-closed rejection of malformed contract input. -/
structure UniverseContractRejected where
  reason : UniverseContractReason
  path : String
  detail : String
  deriving DecidableEq, Repr

/-- `str(error)`. -/
def UniverseContractRejected.text (e : UniverseContractRejected) : String :=
  s!"{e.reason.value} at {e.path}: {e.detail}"

abbrev Contract (α : Type) : Type := Except UniverseContractRejected α

/-- What leaves a computation on an input: a rejection, a signal of the decimal context, or an
assertion that does not hold. -/
inductive UniverseError where
  | rejected (e : UniverseContractRejected)
  | signal (s : DecimalSignal)
  | assertion
  deriving DecidableEq, Repr

abbrev Computed (α : Type) : Type := Except UniverseError α

def contract {α : Type} (x : Contract α) : Computed α := x.mapError .rejected

def arithmetic {α : Type} (x : Except DecimalSignal α) : Computed α := x.mapError .signal

theorem contract_eq_ok {α : Type} {x : Contract α} {a : α} : contract x = .ok a ↔ x = .ok a :=
  except_mapError_eq_ok

theorem arithmetic_eq_ok {α : Type} {x : Except DecimalSignal α} {a : α} :
    arithmetic x = .ok a ↔ x = .ok a :=
  except_mapError_eq_ok

/-! ### Checks -/

def isAlnumByte (b : UInt8) : Bool :=
  (48 ≤ b && b ≤ 57) || (65 ≤ b && b ≤ 90) || (97 ≤ b && b ≤ 122)

/-- The pattern of an identifier, read off the UTF-8 bytes: a letter or digit, then at most 127
letters, digits, dots, underscores, colons, slashes or hyphens. -/
def isIdentifier (s : String) : Bool :=
  match s.toUTF8.data.toList with
  | [] => false
  | b :: rest => isAlnumByte b && rest.length ≤ 127 &&
      rest.all fun c => isAlnumByte c || c == 46 || c == 95 || c == 58 || c == 47 || c == 45

/-- The pattern of a symbol, read off the UTF-8 bytes: a capital letter, then at most 15 capital
letters or digits. -/
def isSymbol (s : String) : Bool :=
  match s.toUTF8.data.toList with
  | [] => false
  | b :: rest => (65 ≤ b && b ≤ 90) && rest.length ≤ 15 &&
      rest.all fun c => (65 ≤ c && c ≤ 90) || (48 ≤ c && c ≤ 57)

theorem isIdentifier_of_isLowerHex {s : String} (h : isLowerHex 64 s = true) :
    isIdentifier s = true := by
  have halnum : ∀ b : UInt8, isHexByte b = true → isAlnumByte b = true := by
    intro b hb
    simp only [isHexByte, isAlnumByte, Bool.or_eq_true, Bool.and_eq_true, decide_eq_true_eq] at hb ⊢
    rcases hb with hb | ⟨h1, h2⟩
    · exact .inl (.inl hb)
    · exact .inr ⟨h1, UInt8.le_trans h2 (by decide)⟩
  simp only [isLowerHex, Bool.and_eq_true, beq_iff_eq, List.all_eq_true] at h
  obtain ⟨hlen, hall⟩ := h
  unfold isIdentifier
  cases hbytes : s.toUTF8.data.toList with
  | nil =>
    rw [hbytes] at hlen
    cases hlen
  | cons b rest =>
    rw [hbytes] at hlen hall
    simp only [List.length_cons] at hlen
    simp only [Bool.and_eq_true, decide_eq_true_eq, List.all_eq_true]
    refine ⟨⟨halnum b (hall b List.mem_cons_self), by omega⟩, ?_⟩
    intro c hc
    simp [halnum c (hall c (List.mem_cons_of_mem b hc))]

theorem isExactText_of_isIdentifier {s : String} (h : isIdentifier s = true) :
    isExactText s = true := by
  have hne : s ≠ "" := by
    rintro rfl
    exact absurd h (by decide)
  refine isExactText_of_bytes hne ?_
  unfold isIdentifier isAlnumByte at h
  cases hbytes : s.toUTF8.data.toList with
  | nil => simp
  | cons b rest =>
    rw [hbytes] at h
    simp only [Bool.and_eq_true, Bool.or_eq_true, decide_eq_true_eq, List.all_eq_true,
      beq_iff_eq, UInt8.le_iff_toNat_le, ← UInt8.toNat_inj] at h
    obtain ⟨⟨hb, -⟩, hrest⟩ := h
    intro c hc
    rcases List.mem_cons.mp hc with rfl | hc
    · simp at hb
      omega
    · have hc' := hrest c hc
      simp at hc'
      omega

def identifier (value path : String) : Contract Unit :=
  throwIf (isIdentifier value = false)
    ⟨.invalidIdentifier, path, "must be a normalized identifier"⟩

def symbol (value path : String) : Contract Unit :=
  throwIf (isSymbol value = false)
    ⟨.invalidIdentifier, path, "must be a normalized uppercase symbol"⟩

def sha256Text (value path : String) : Contract Unit :=
  throwIf (isLowerHex 64 value = false)
    ⟨.invalidDocument, path, "must be a lowercase SHA-256 digest"⟩

def positiveDecimal (value : Decimal) (path : String) : Contract Unit := do
  throwIf (value.isFinite = false) ⟨.invalidDecimal, path, "must be finite"⟩
  throwIf (value.toRat ≤ 0) ⟨.invalidDecimal, path, "must be positive"⟩

def nonnegativeDecimal (value : Decimal) (path : String) : Contract Unit := do
  throwIf (value.isFinite = false) ⟨.invalidDecimal, path, "must be finite"⟩
  throwIf (value.toRat < 0) ⟨.invalidDecimal, path, "must not be negative"⟩

/-- A value together with the proof that its `__post_init__` accepted it. -/
def construct {α : Type} (check : α → Contract Unit) (a : α) :
    Contract { a : α // check a = .ok () } :=
  match h : check a with
  | .ok _ => .ok ⟨a, h⟩
  | .error e => .error e

theorem construct_eq_ok {α : Type} {check : α → Contract Unit} {a : α}
    {v : { a : α // check a = .ok () }} : construct check a = .ok v ↔ a = v.1 := by
  unfold construct
  split
  · rename_i h
    constructor
    · intro hv
      cases hv
      rfl
    · rintro rfl
      rfl
  · rename_i e h
    constructor
    · intro hv
      cases hv
    · rintro rfl
      rw [v.2] at h
      cases h

/-! ### Contract types -/

/-- The fields of `UnderlyingExposure`: open debit attributed to one underlying. -/
structure UnderlyingExposureFields where
  underlying : String
  openDebit : ℚ

def UnderlyingExposureFields.check (e : UnderlyingExposureFields) : Contract Unit := do
  symbol e.underlying "underlying"
  throwIf (e.openDebit ≤ 0) ⟨.invalidDecimal, "open_debit", "must be positive"⟩

abbrev UnderlyingExposure : Type :=
  { e : UnderlyingExposureFields // e.check = .ok () }

/-- The fields of `PortfolioState`: unborrowed-cash portfolio truth. -/
structure PortfolioStateFields where
  equity : Decimal
  cash : Decimal
  openDebit : ℚ
  exposures : List UnderlyingExposure

def PortfolioStateFields.check (p : PortfolioStateFields) : Contract Unit := do
  positiveDecimal p.equity "equity"
  nonnegativeDecimal p.cash "cash"
  throwIf (p.openDebit < 0) ⟨.invalidDecimal, "open_debit", "must not be negative"⟩
  throwIf (¬ (p.exposures.map (·.1.underlying)).Nodup)
    ⟨.duplicateExposure, "exposures", "each underlying may appear at most once"⟩
  throwIf (p.openDebit < (p.exposures.map (·.1.openDebit)).sum)
    ⟨.inconsistentState, "exposures", "per-underlying open debit exceeds aggregate open debit"⟩
  throwIf (p.equity.toRat < p.openDebit)
    ⟨.inconsistentState, "open_debit", "aggregate open debit exceeds current equity"⟩
  throwIf (p.equity.toRat < p.cash.toRat)
    ⟨.inconsistentState, "cash", "unborrowed cash exceeds current equity"⟩

abbrev PortfolioState : Type := { p : PortfolioStateFields // p.check = .ok () }

/-- The fields of `DefinedRiskOpportunity`: one already-approved defined-risk identity awaiting
deterministic sizing. -/
structure DefinedRiskOpportunityFields where
  opportunityId : String
  decisionId : String
  expressionId : String
  underlying : String
  riskTier : RiskTier
  maxDebitPerContract : Decimal
  decisionReady : Bool

def DefinedRiskOpportunityFields.check (o : DefinedRiskOpportunityFields) : Contract Unit := do
  identifier o.opportunityId "opportunity_id"
  identifier o.decisionId "decision_id"
  identifier o.expressionId "expression_id"
  symbol o.underlying "underlying"
  positiveDecimal o.maxDebitPerContract "max_debit_per_contract"

abbrev DefinedRiskOpportunity : Type :=
  { o : DefinedRiskOpportunityFields // o.check = .ok () }

/-- The fields of `AllocationReservation`: a persisted reservation identity used for idempotent
replay. -/
structure AllocationReservationFields where
  opportunityId : String
  opportunitySha256 : String
  reservationId : String
  underlying : String
  quantity : Int
  maxLoss : Decimal

def AllocationReservationFields.check (r : AllocationReservationFields) : Contract Unit := do
  identifier r.opportunityId "opportunity_id"
  sha256Text r.opportunitySha256 "opportunity_sha256"
  sha256Text r.reservationId "reservation_id"
  symbol r.underlying "underlying"
  throwIf (r.quantity < 1) ⟨.invalidCount, "quantity", "must be positive"⟩
  positiveDecimal r.maxLoss "max_loss"

abbrev AllocationReservation : Type :=
  { r : AllocationReservationFields // r.check = .ok () }

/-- The typed pure allocation outcome. -/
structure AllocationDecision where
  status : AllocationStatus
  reasonCodes : List AbstainReason
  quantity : Int
  maxLoss : Decimal
  reservationId : Option String
  remainingTier : ℚ
  remainingUnderlying : ℚ
  remainingAggregate : ℚ
  remainingCash : ℚ

/-! ### Identities -/

def decimalText (d : Decimal) : String := if d.toRat = 0 then "0" else d.plainText

def definedRiskOpportunityPayload (o : DefinedRiskOpportunity) : Json :=
  .obj [
    ("decision_id", .str o.1.decisionId),
    ("decision_ready", .bool o.1.decisionReady),
    ("expression_id", .str o.1.expressionId),
    ("max_debit_per_contract", .str (decimalText o.1.maxDebitPerContract)),
    ("opportunity_id", .str o.1.opportunityId),
    ("risk_tier", .str (decimalText o.1.riskTier.fraction)),
    ("schema", .str "esscher.defined_risk_opportunity"),
    ("schema_version", .int 1),
    ("underlying", .str o.1.underlying)]

def definedRiskOpportunitySha256 (o : DefinedRiskOpportunity) : String :=
  (definedRiskOpportunityPayload o).sha256

def reservationIdentity (o : DefinedRiskOpportunity) (quantity : Int) (maxLoss : Decimal) :
    String :=
  (Json.obj [
    ("max_loss", .str (decimalText maxLoss)),
    ("opportunity", definedRiskOpportunityPayload o),
    ("quantity", .int quantity),
    ("schema", .str "esscher.defined_risk_reservation"),
    ("schema_version", .int 1)]).sha256

/-! ### The allocator -/

def maxPerUnderlyingFraction : Decimal := .cents 20

def maxAggregateOpenDebitFraction : Decimal := .cents 50

def underlyingOpen (portfolio : PortfolioState) (underlying : String) : ℚ :=
  match portfolio.1.exposures.find? fun e => e.1.underlying = underlying with
  | some e => e.1.openDebit
  | none => 0

/-- The loop of `_validate_reservations`. -/
def validateReservations (seen : List String) (index : Nat) :
    List AllocationReservation → Contract Unit
  | [] => .ok ()
  | r :: rest => do
    throwIf (r.1.opportunityId ∈ seen)
      ⟨.duplicateReservation, s!"existing_reservations[{index}].opportunity_id",
        s!"duplicate reservation for {r.1.opportunityId}"⟩
    validateReservations (r.1.opportunityId :: seen) (index + 1) rest

def reservedTotal (rs : List AllocationReservation) : ℚ := (rs.map (·.1.maxLoss.toRat)).sum

def reservedUnderlying (rs : List AllocationReservation) (underlying : String) : ℚ :=
  ((rs.filter fun r => r.1.underlying = underlying).map (·.1.maxLoss.toRat)).sum

structure Capacities where
  tier : ℚ
  underlying : ℚ
  aggregate : ℚ
  cash : ℚ

def capacities (portfolio : PortfolioState) (o : DefinedRiskOpportunity)
    (rs : List AllocationReservation) : Capacities where
  tier := o.1.riskTier.fraction.toRat * portfolio.1.equity.toRat
  underlying := maxPerUnderlyingFraction.toRat * portfolio.1.equity.toRat -
    underlyingOpen portfolio o.1.underlying - reservedUnderlying rs o.1.underlying
  aggregate := maxAggregateOpenDebitFraction.toRat * portfolio.1.equity.toRat -
    portfolio.1.openDebit - reservedTotal rs
  cash := portfolio.1.cash.toRat - reservedTotal rs

def Capacities.least (c : Capacities) : ℚ := min (min (min c.tier c.underlying) c.aggregate) c.cash

/-- `int(x // y)`: Python's decimal quotient is truncated towards zero. -/
def truncDiv (x y : ℚ) : Int := if 0 ≤ x / y then ⌊x / y⌋ else ⌈x / y⌉

def Capacities.abstain (c : Capacities) (reasons : List AbstainReason) : AllocationDecision :=
  ⟨.abstained, reasons, 0, .ofNat 0, none, c.tier, c.underlying, c.aggregate, c.cash⟩

def Capacities.binding (c : Capacities) : List AbstainReason :=
  (if c.tier = c.least then [.tierCapacityInsufficient] else []) ++
  (if c.underlying = c.least then [.underlyingCapInsufficient] else []) ++
  (if c.aggregate = c.least then [.aggregateCapInsufficient] else []) ++
  (if c.cash = c.least then [.cashInsufficient] else [])

/-- `allocate_defined_risk`: size one already-approved opportunity against frozen capacity caps. -/
def allocateDefinedRisk (portfolio : PortfolioState) (o : DefinedRiskOpportunity)
    (existing : List AllocationReservation) : Contract AllocationDecision := do
  validateReservations [] 0 existing
  let c := capacities portfolio o existing
  match existing.find? fun r => r.1.opportunityId = o.1.opportunityId with
  | some r =>
    throwIf (r.1.opportunitySha256 ≠ definedRiskOpportunitySha256 o)
      ⟨.identityConflict, "opportunity",
        "same opportunity identity carries conflicting canonical bytes"⟩
    return ⟨.allocated, [], r.1.quantity, r.1.maxLoss, some r.1.reservationId,
      c.tier - r.1.maxLoss.toRat, c.underlying, c.aggregate, c.cash⟩
  | none =>
    if o.1.decisionReady then
      let quantity := truncDiv c.least o.1.maxDebitPerContract.toRat
      if quantity < 1 then return c.abstain c.binding
      else
        let maxLoss := o.1.maxDebitPerContract.mul (.ofInt quantity)
        return ⟨.allocated, [], quantity, maxLoss,
          some (reservationIdentity o quantity maxLoss), c.tier - maxLoss.toRat,
          c.underlying - maxLoss.toRat, c.aggregate - maxLoss.toRat, c.cash - maxLoss.toRat⟩
    else return c.abstain [.opportunityNotReady]

/-! ### What an allocation fits into -/

theorem positiveDecimal_eq_ok {value : Decimal} {path : String} {u : Unit} :
    positiveDecimal value path = .ok u ↔ value.isFinite = true ∧ 0 < value.toRat := by
  simp only [positiveDecimal, except_bind_eq_ok, throwIf_eq_ok, exists_const, not_le,
    Bool.not_eq_false]

namespace DefinedRiskOpportunityFields

theorem check_eq_ok {o : DefinedRiskOpportunityFields} {u : Unit} :
    o.check = .ok u ↔ isIdentifier o.opportunityId ∧ isIdentifier o.decisionId ∧
      isIdentifier o.expressionId ∧ isSymbol o.underlying ∧
      o.maxDebitPerContract.isFinite ∧ 0 < o.maxDebitPerContract.toRat := by
  simp only [check, identifier, symbol, except_bind_eq_ok, throwIf_eq_ok, exists_const,
    positiveDecimal_eq_ok, Bool.not_eq_false]

end DefinedRiskOpportunityFields

/-- A quotient of at least one, times the divisor, does not exceed the dividend. -/
theorem truncDiv_mul_le {x y : ℚ} (hy : 0 < y) (h : 1 ≤ truncDiv x y) : truncDiv x y * y ≤ x := by
  have hnonneg : 0 ≤ x / y := by
    by_contra hneg
    rw [truncDiv, if_neg hneg] at h
    have hceil : ⌈x / y⌉ ≤ 0 := Int.ceil_le.mpr (by push_cast; exact (not_le.mp hneg).le)
    omega
  rw [truncDiv, if_pos hnonneg]
  calc (⌊x / y⌋ : ℚ) * y ≤ x / y * y := by
        apply mul_le_mul_of_nonneg_right (Int.floor_le _) hy.le
    _ = x := div_mul_cancel₀ x hy.ne'

theorem Capacities.least_le (c : Capacities) :
    c.least ≤ c.tier ∧ c.least ≤ c.underlying ∧ c.least ≤ c.aggregate ∧ c.least ≤ c.cash := by
  simp [least]

/-- A new allocation is for at least one contract, and its loss fits each of the four
capacities. -/
theorem allocateDefinedRisk_new {portfolio : PortfolioState} {o : DefinedRiskOpportunity}
    {existing : List AllocationReservation} {d : AllocationDecision}
    (h : allocateDefinedRisk portfolio o existing = .ok d) (hd : d.status = .allocated)
    (hnew : ∀ r ∈ existing, r.1.opportunityId ≠ o.1.opportunityId) :
    1 ≤ d.quantity ∧ d.maxLoss.isFinite ∧
    d.reservationId = some (reservationIdentity o d.quantity d.maxLoss) ∧
    d.maxLoss.toRat = d.quantity * o.1.maxDebitPerContract.toRat ∧
    d.maxLoss.toRat ≤ (capacities portfolio o existing).tier ∧
    d.maxLoss.toRat ≤ (capacities portfolio o existing).underlying ∧
    d.maxLoss.toRat ≤ (capacities portfolio o existing).aggregate ∧
    d.maxLoss.toRat ≤ (capacities portfolio o existing).cash := by
  have hfind : existing.find? (fun r => r.1.opportunityId = o.1.opportunityId) = none := by
    simpa using hnew
  obtain ⟨-, -, -, -, hfinite, hpos⟩ := DefinedRiskOpportunityFields.check_eq_ok.mp o.2
  simp only [allocateDefinedRisk, except_bind_eq_ok, hfind] at h
  obtain ⟨_, -, h⟩ := h
  split at h
  · split at h
    · cases h
      cases hd
    · rename_i hq
      cases h
      set c := capacities portfolio o existing
      have hone : 1 ≤ truncDiv c.least o.1.maxDebitPerContract.toRat := not_lt.mp hq
      have hloss : (o.1.maxDebitPerContract.mul
          (.ofInt (truncDiv c.least o.1.maxDebitPerContract.toRat))).toRat =
          truncDiv c.least o.1.maxDebitPerContract.toRat * o.1.maxDebitPerContract.toRat := by
        rw [Decimal.toRat_mul hfinite rfl, Decimal.toRat_ofInt, mul_comm]
      have hle := truncDiv_mul_le hpos hone
      rw [← hloss] at hle
      obtain ⟨h1, h2, h3, h4⟩ := c.least_le
      exact ⟨hone, Decimal.isFinite_mul hfinite rfl, rfl, hloss, hle.trans h1, hle.trans h2, hle.trans h3, hle.trans h4⟩
  · cases h
    cases hd

/-- The allocation of a ready opportunity without pending reservations. -/
theorem allocateDefinedRisk_first {portfolio : PortfolioState} {o : DefinedRiskOpportunity}
    {quantity : Int} (hready : o.1.decisionReady = true)
    (hquantity : truncDiv (capacities portfolio o []).least o.1.maxDebitPerContract.toRat = quantity)
    (hone : 1 ≤ quantity) :
    ∃ d, allocateDefinedRisk portfolio o [] = .ok d ∧ d.status = .allocated ∧
      d.quantity = quantity := by
  subst hquantity
  have hnot := not_lt.mpr hone
  simp only [allocateDefinedRisk, validateReservations, List.find?_nil, hready, if_true, hnot,
    if_false]
  exact ⟨_, rfl, rfl, rfl⟩

end EsscherMarket.Autonomy
