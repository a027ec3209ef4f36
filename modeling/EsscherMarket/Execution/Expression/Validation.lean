import EsscherMarket.Execution.Expression.Observations
import Mathlib.Data.List.MinMax
import Mathlib.Data.Prod.Lex

/-!
# Fail-closed validation and the selection of contracts

`execution/expression/validation.py` and `geometry.py`: the checks that the compiler and the
tournament share, and the deterministic selection of a long contract, of the two legs of a
vertical and of its package.  `sorted(…)[0]` is the first item of least key, `List.argmin`.
-/

namespace EsscherMarket.Execution

open Lib

/-- A deterministic fail-closed expression error. -/
structure ExpressionRejected where
  reason : ExpressionReason
  path : String
  deriving DecidableEq, Repr

def pinnedFeeds : List (List String) :=
  [["SYNTHETIC_SIP_EQUITY_FEED", "read_only_equity_quote", "equity_quote.v1", "1"],
   ["SYNTHETIC_OPTION_SNAPSHOT_FEED", "read_only_option_chain", "option_chain_snapshot.v1", "1"],
   ["SYNTHETIC_PACKAGE_FEED", "read_only_package_quote", "package_quote.v1", "1"],
   ["ALPACA_IEX_EQUITY_QUOTES", "read_only_equity_quote", "equity_quote.v1", "1"],
   ["ALPACA_INDICATIVE_OPTION_SNAPSHOTS", "read_only_option_chain", "option_chain_snapshot.v1", "1"],
   ["ALPACA_OPRA_OPTION_SNAPSHOTS", "read_only_option_chain", "option_chain_snapshot.v1", "1"],
   ["HOST_DERIVED_VERTICAL_PACKAGES", "derived_package_quote", "package_quote.v1", "1"]]

variable (snapshot : ExpressionMarketSnapshot) (policy : PromotedExpressionPolicy)

/-! ### Validation -/

def validateFeed (feed : FeedIdentity) (path : String) : Except ExpressionRejected Unit :=
  throwIf (feed.identityKey ∉ pinnedFeeds) ⟨.unknownFeed, path⟩

def validateExecutableData (dataClass : DataClass) (path : String) (allowsIndicative : Bool) :
    Except ExpressionRejected Unit :=
  throwIf (¬(dataClass = .executable ∨ allowsIndicative = true ∧ dataClass = .indicative))
    ⟨.indicativeOnly, path⟩

/-- `_observation_age`, in microseconds. -/
def observationAge (observedAt : DateTime) (path : String) : Except ExpressionRejected Int := do
  let age := snapshot.observationClockAt.micros - observedAt.micros
  throwIf (age < 0) ⟨.timeInconsistent, path⟩
  pure age

/-- `timedelta(milliseconds=n)`. -/
def milliseconds (n : Nat) : Int := n * 1000

/-- Require a fresh, two-sided, sized, bounded-spread quote. -/
def validateQuote (quote : TwoSidedQuote) (path : String) : Except ExpressionRejected Unit := do
  let age ← observationAge snapshot quote.observedAt path
  throwIf (milliseconds policy.quoteMaxAgeMs < age) ⟨.staleQuote, path⟩
  throwIf (quote.bid.toRat ≤ 0 ∨ quote.ask.toRat ≤ 0) ⟨.noQuote, path⟩
  throwIf (quote.crossed = true) ⟨.crossedQuote, path⟩
  throwIf (quote.bidSize < policy.minQuoteSize ∨ quote.askSize < policy.minQuoteSize)
    ⟨.insufficientSize, path⟩
  let spreadBps := (quote.spread.div quote.ask).times (.ofNat 10000)
  throwIf (policy.spreadMaxBps.lt spreadBps = true) ⟨.spreadTooWide, path⟩

/-- Require one atomic vertical's two leg quotes to share a bounded observation skew. -/
def validateCrossLegSkew (first second : TwoSidedQuote) : Except ExpressionRejected Unit :=
  let skew := max first.observedAt.micros second.observedAt.micros -
    min first.observedAt.micros second.observedAt.micros
  throwIf (milliseconds policy.crossLegSkewMaxMs < skew) ⟨.asynchronousQuotes, "snapshot.skew"⟩

/-- Require a fresh, pinned, executable atomic-package market. -/
def validatePackage (package : PackageObservation) (path : String) :
    Except ExpressionRejected Unit := do
  validateFeed package.feed (path ++ ".feed")
  validateExecutableData package.dataClass (path ++ ".data_class") policy.allowsIndicativeData
  let age ← observationAge snapshot package.observedAt path
  throwIf (milliseconds policy.quoteMaxAgeMs < age) ⟨.staleQuote, path⟩
  throwIf (package.netBid.toRat ≤ 0 ∨ package.netAsk.toRat ≤ 0) ⟨.packageUnavailable, path⟩
  throwIf (package.crossed = true) ⟨.crossedQuote, path⟩
  throwIf (package.size < policy.minQuoteSize) ⟨.insufficientSize, path⟩
  let spreadBps := ((package.netAsk.sub package.netBid).div package.netAsk).times (.ofNat 10000)
  throwIf (policy.spreadMaxBps.lt spreadBps = true) ⟨.spreadTooWide, path⟩

/-- Require pre-clock, fresh explicit borrow evidence for a short share expression. -/
def validateBorrowLocate (borrowLocate : Option BorrowLocateEvidence) :
    Except ExpressionRejected Unit :=
  match borrowLocate with
  | none => .error ⟨.borrowLocateMissing, "borrow_locate"⟩
  | some evidence => do
    let age ← observationAge snapshot evidence.observedAt "borrow_locate"
    throwIf (milliseconds policy.quoteMaxAgeMs < age) ⟨.staleQuote, "borrow_locate"⟩

/-- `_validate_option_observation`; the compiler writes the same three checks out. -/
def validateOptionObservation (contract : OptionContractObservation) (path : String) :
    Except ExpressionRejected Unit := do
  validateFeed contract.feed (path ++ ".feed")
  validateExecutableData contract.dataClass (path ++ ".data_class") policy.allowsIndicativeData
  validateQuote snapshot policy contract.quote (path ++ ".quote")

/-! ### Selection -/

def contractDte (contract : OptionContractObservation) (asof : Int) : Int :=
  DateTime.civilDay contract.expiry.year contract.expiry.month contract.expiry.day - asof

def quoteIsTradable (contract : OptionContractObservation) : Bool :=
  (contract.dataClass == .executable ||
    policy.allowsIndicativeData && contract.dataClass == .indicative) &&
  decide (0 < contract.quote.bid.toRat) && decide (0 < contract.quote.ask.toRat) &&
  !contract.quote.crossed

def contractIsEligible (optionType : OptionType) (asof : Int)
    (contract : OptionContractObservation) : Bool :=
  contract.optionType == optionType && quoteIsTradable policy contract &&
  decide ((policy.minDte : Int) ≤ contractDte contract asof) &&
  decide (contractDte contract asof ≤ (policy.maxDte : Int)) &&
  (match contract.reportedDelta with
    | none => false
    | some delta => !delta.abs.lt policy.deltaMin && !policy.deltaMax.lt delta.abs) &&
  match contract.openInterest with
  | none => false
  | some n => decide (policy.liquidityMinOpenInterest ≤ n)

/-- All contracts satisfying the frozen DTE, delta, and liquidity bounds on a date. -/
def eligibleLongContractsOn (asof : Int) (optionType : OptionType) : List OptionContractObservation :=
  snapshot.chain.filter (contractIsEligible policy optionType asof)

/-- A sort key: a strike or a distance, then the ask, then the symbol. -/
abbrev SortKey : Type := ℚ ×ₗ ℚ ×ₗ String

def sortKey (first : Decimal) (contract : OptionContractObservation) : SortKey :=
  toLex (first.toRat, toLex (contract.quote.ask.toRat, contract.symbol))

def directionOptionType (directionIsUp : Bool) : OptionType :=
  if directionIsUp then .call else .put

/-- Deterministically select one eligible long leg or fail closed: an up view longs the lowest
eligible strike, a down view the highest. -/
def selectLongContractOn (asof : Int) (directionIsUp : Bool) :
    Except ExpressionRejected OptionContractObservation :=
  let eligible := eligibleLongContractsOn snapshot policy asof (directionOptionType directionIsUp)
  match eligible.argmin fun c => sortKey (if directionIsUp then c.strike else c.strike.neg) c with
  | none => .error ⟨.unsupportedContract, s!"chain.{snapshot.underlying}"⟩
  | some contract => .ok contract

/-- One same-expiry same-type two-leg geometry. -/
structure VerticalGeometry where
  longLeg : OptionContractObservation
  shortLeg : OptionContractObservation
  width : Decimal

def shortCandidates (asof : Int) (directionIsUp : Bool) (longLeg : OptionContractObservation) :
    List OptionContractObservation :=
  snapshot.chain.filter fun c =>
    c.expiry == longLeg.expiry && c.symbol != longLeg.symbol &&
    contractIsEligible policy (directionOptionType directionIsUp) asof c &&
    (if directionIsUp then decide (longLeg.strike.toRat < c.strike.toRat)
      else decide (c.strike.toRat < longLeg.strike.toRat))

def strikeWidth (longLeg shortLeg : OptionContractObservation) : Decimal :=
  (shortLeg.strike.sub longLeg.strike).abs

/-- Select long and short legs for one direction or fail closed. -/
def selectVerticalGeometryOn (asof : Int) (directionIsUp : Bool) :
    Except ExpressionRejected VerticalGeometry := do
  let path := s!"vertical.{snapshot.underlying}"
  let longLeg ← selectLongContractOn snapshot policy asof directionIsUp
  match (shortCandidates snapshot policy asof directionIsUp longLeg).argmin
      fun c => sortKey (strikeWidth longLeg c) c with
  | none => .error ⟨.geometryInvalid, path⟩
  | some shortLeg =>
    let width := strikeWidth longLeg shortLeg
    throwIf (width.lt policy.widthMin = true ∨ policy.widthMax.lt width = true)
      ⟨.widthOutOfBounds, path⟩
    pure ⟨longLeg, shortLeg, width⟩

def selectLongContract (directionIsUp : Bool) : Except ExpressionRejected OptionContractObservation :=
  selectLongContractOn snapshot policy snapshot.asof directionIsUp

def selectVerticalGeometry (directionIsUp : Bool) : Except ExpressionRejected VerticalGeometry :=
  selectVerticalGeometryOn snapshot policy snapshot.asof directionIsUp

variable {snapshot policy} {asof : Int} {directionIsUp : Bool}

theorem selectLongContractOn_eq_ok {contract : OptionContractObservation}
    (h : selectLongContractOn snapshot policy asof directionIsUp = .ok contract) :
    contract ∈ snapshot.chain ∧ contractIsEligible policy (directionOptionType directionIsUp)
      asof contract = true := by
  rw [selectLongContractOn] at h
  split at h
  · cases h
  · rename_i c hc
    cases h
    have hmem := List.argmin_mem hc
    rwa [eligibleLongContractsOn, List.mem_filter] at hmem

theorem selectLongContract_eq_ok {contract : OptionContractObservation}
    (h : selectLongContract snapshot policy directionIsUp = .ok contract) :
    contract ∈ snapshot.chain ∧ contractIsEligible policy (directionOptionType directionIsUp)
      snapshot.asof contract = true :=
  selectLongContractOn_eq_ok h

theorem optionType_of_eligible {optionType : OptionType} {contract : OptionContractObservation}
    (h : contractIsEligible policy optionType asof contract = true) :
    contract.optionType = optionType := by
  simp only [contractIsEligible, Bool.and_eq_true, beq_iff_eq] at h
  exact h.1.1.1.1.1

theorem isFinite_contractStrike (contract : OptionContractObservation) :
    contract.strike.isFinite = true := by
  have h := contract.accepted
  simp only [contractCheck, Bool.and_eq_true] at h
  exact h.1.1.2

def StrikesOrdered (directionIsUp : Bool) (longLeg shortLeg : OptionContractObservation) : Prop :=
  if directionIsUp then longLeg.strike.toRat < shortLeg.strike.toRat
  else shortLeg.strike.toRat < longLeg.strike.toRat

theorem StrikesOrdered.ne {longLeg shortLeg : OptionContractObservation}
    (h : StrikesOrdered directionIsUp longLeg shortLeg) :
    shortLeg.strike.toRat ≠ longLeg.strike.toRat := by
  rw [StrikesOrdered] at h
  split at h
  · exact ne_of_gt h
  · exact ne_of_lt h

/-- The short leg stands in the chain beside the long leg, in its expiry, and is eligible too. -/
theorem mem_shortCandidates {longLeg shortLeg : OptionContractObservation} :
    shortLeg ∈ shortCandidates snapshot policy asof directionIsUp longLeg ↔
      shortLeg ∈ snapshot.chain ∧ shortLeg.expiry = longLeg.expiry ∧
      contractIsEligible policy (directionOptionType directionIsUp) asof shortLeg = true ∧
      StrikesOrdered directionIsUp longLeg shortLeg ∧ shortLeg.symbol ≠ longLeg.symbol := by
  simp only [shortCandidates, List.mem_filter, Bool.and_eq_true, beq_iff_eq, bne_iff_ne]
  rw [StrikesOrdered]
  cases directionIsUp <;> simp <;> tauto

def WidthInBounds (policy : PromotedExpressionPolicy) (width : Decimal) : Prop :=
  ¬(width.lt policy.widthMin = true ∨ policy.widthMax.lt width = true)

/-- A geometry is made of the long leg and of the nearest candidate, where their width is within the
bounds. -/
theorem selectVerticalGeometryOn_eq_ok {geometry : VerticalGeometry} :
    selectVerticalGeometryOn snapshot policy asof directionIsUp = .ok geometry ↔
      ∃ longLeg shortLeg,
        selectLongContractOn snapshot policy asof directionIsUp = .ok longLeg ∧
        (shortCandidates snapshot policy asof directionIsUp longLeg).argmin
          (fun c => sortKey (strikeWidth longLeg c) c) = some shortLeg ∧
        WidthInBounds policy (strikeWidth longLeg shortLeg) ∧
        geometry = ⟨longLeg, shortLeg, strikeWidth longLeg shortLeg⟩ := by
  simp only [selectVerticalGeometryOn, except_bind_eq_ok]
  constructor
  · rintro ⟨longLeg, hlong, h⟩
    split at h
    · cases h
    · rename_i shortLeg hshort
      simp only [except_bind_eq_ok, throwIf_eq_ok, except_pure_eq_ok] at h
      obtain ⟨-, hwidth, rfl⟩ := h
      exact ⟨longLeg, shortLeg, hlong, hshort, hwidth, rfl⟩
  · rintro ⟨longLeg, shortLeg, hlong, hshort, hwidth, rfl⟩
    refine ⟨longLeg, hlong, ?_⟩
    rw [hshort]
    simp only [except_bind_eq_ok, throwIf_eq_ok, except_pure_eq_ok]
    exact ⟨(), hwidth, trivial⟩

/-- The two legs of a selected geometry share expiry and option type and stand at two strikes. -/
theorem selectVerticalGeometry_spec {geometry : VerticalGeometry}
    (h : selectVerticalGeometry snapshot policy directionIsUp = .ok geometry) :
    selectLongContract snapshot policy directionIsUp = .ok geometry.longLeg ∧
    geometry.shortLeg ∈ snapshot.chain ∧
    geometry.longLeg.expiry = geometry.shortLeg.expiry ∧
    geometry.longLeg.optionType = directionOptionType directionIsUp ∧
    geometry.shortLeg.optionType = directionOptionType directionIsUp ∧
    StrikesOrdered directionIsUp geometry.longLeg geometry.shortLeg ∧
    geometry.width = strikeWidth geometry.longLeg geometry.shortLeg := by
  obtain ⟨longLeg, shortLeg, hlong, hshort, -, rfl⟩ := selectVerticalGeometryOn_eq_ok.mp h
  obtain ⟨hchain, hexpiry, heligible, hstrikes, -⟩ :=
    mem_shortCandidates.mp (List.argmin_mem hshort)
  exact ⟨hlong, hchain, hexpiry.symm, optionType_of_eligible (selectLongContractOn_eq_ok hlong).2,
    optionType_of_eligible heligible, hstrikes, rfl⟩

/-- The width of a selected geometry is positive, as the geometry itself requires. -/
theorem width_pos {geometry : VerticalGeometry}
    (h : selectVerticalGeometry snapshot policy directionIsUp = .ok geometry) :
    geometry.width.isFinite = true ∧ 0 < geometry.width.toRat := by
  obtain ⟨-, -, -, -, -, hstrikes, hwidth⟩ := selectVerticalGeometry_spec h
  have hlong := isFinite_contractStrike geometry.longLeg
  have hshort := isFinite_contractStrike geometry.shortLeg
  rw [hwidth, strikeWidth]
  exact ⟨Decimal.isFinite_abs (Decimal.isFinite_sub hshort hlong),
    Decimal.toRat_abs_sub_pos hshort hlong hstrikes.ne⟩

variable (snapshot policy)

/-- Select the atomic package quote for one geometry or fail closed. -/
def selectPackage (geometry : VerticalGeometry) : Except ExpressionRejected PackageObservation := do
  let packageId := geometry.longLeg.symbol ++ "+" ++ geometry.shortLeg.symbol
  let path := s!"package.{packageId}"
  match snapshot.package packageId with
  | none => .error ⟨.packageUnavailable, path⟩
  | some package =>
    throwIf (package.legs ≠ (geometry.longLeg.symbol, geometry.shortLeg.symbol))
      ⟨.packageUnavailable, path⟩
    pure package

def legFields (contract : OptionContractObservation) (side : OptionSide)
    (positionIntent : PositionIntent) : OptionLegFields where
  symbol := contract.symbol
  underlying := contract.underlying
  expiry := contract.expiry
  optionType := contract.optionType
  strike := contract.strike
  side := side
  positionIntent := positionIntent
  ratioQty := 1

/-- Construct a permit-boundary-compatible option leg or fail closed. -/
def buildOptionLeg (contract : OptionContractObservation) (side : OptionSide)
    (positionIntent : PositionIntent) : Except ExpressionRejected OptionLeg :=
  if h : (legFields contract side positionIntent).check = true then .ok ⟨_, h⟩
  else .error ⟨.unsupportedContract, s!"leg.{contract.symbol}"⟩

end EsscherMarket.Execution
