import EsscherMarket.Execution.Expression
import EsscherMarket.Lib.DecimalContext
import EsscherMarket.Strategy.Decision

/-!
# Market observations and the promoted policy

`execution/expression/observations.py`, `policy.py` and `reasons.py`: what the compiler and the
tournament read.  Every value carries the checks of its `__post_init__`; counts, sizes and ages
that must be non-negative integers are natural numbers.
-/

namespace EsscherMarket.Execution

open Lib
open Strategy (isUtc)

/-- `reasons.py`: the reasons that the modelled code rejects with. -/
inductive ExpressionReason where
  | directionNotValidated
  | decisionBindingMismatch
  | policyHashMismatch
  | gateDReceiptMismatch
  | noQuote
  | staleQuote
  | asynchronousQuotes
  | crossedQuote
  | insufficientSize
  | spreadTooWide
  | unknownFeed
  | indicativeOnly
  | unsupportedContract
  | geometryInvalid
  | widthOutOfBounds
  | debitNotBelowWidth
  | packageUnavailable
  | borrowLocateMissing
  | lifecycleCheckFailed
  | exposureBudgetExceeded
  | timeInconsistent
  | nonFiniteValue
  | unsupportedInput
  | unsupportedSchemaVersion
  deriving DecidableEq, Repr

def ExpressionReason.value : ExpressionReason → String
  | directionNotValidated => "DIRECTION_NOT_VALIDATED"
  | decisionBindingMismatch => "DECISION_BINDING_MISMATCH"
  | policyHashMismatch => "POLICY_HASH_MISMATCH"
  | gateDReceiptMismatch => "GATE_D_RECEIPT_MISMATCH"
  | noQuote => "NO_QUOTE"
  | staleQuote => "STALE_QUOTE"
  | asynchronousQuotes => "ASYNCHRONOUS_QUOTES"
  | crossedQuote => "CROSSED_QUOTE"
  | insufficientSize => "INSUFFICIENT_SIZE"
  | spreadTooWide => "SPREAD_TOO_WIDE"
  | unknownFeed => "UNKNOWN_FEED"
  | indicativeOnly => "INDICATIVE_ONLY"
  | unsupportedContract => "UNSUPPORTED_CONTRACT"
  | geometryInvalid => "GEOMETRY_INVALID"
  | widthOutOfBounds => "WIDTH_OUT_OF_BOUNDS"
  | debitNotBelowWidth => "DEBIT_NOT_BELOW_WIDTH"
  | packageUnavailable => "PACKAGE_UNAVAILABLE"
  | borrowLocateMissing => "BORROW_LOCATE_MISSING"
  | lifecycleCheckFailed => "LIFECYCLE_CHECK_FAILED"
  | exposureBudgetExceeded => "EXPOSURE_BUDGET_EXCEEDED"
  | timeInconsistent => "TIME_INCONSISTENT"
  | nonFiniteValue => "NON_FINITE_VALUE"
  | unsupportedInput => "UNSUPPORTED_INPUT"
  | unsupportedSchemaVersion => "UNSUPPORTED_SCHEMA_VERSION"

/-! ### Quotes, contracts and packages -/

def requireSymbol (s : String) : Bool := s != "" && s == strip s && isUpper s

def requireNonNegativeMoney (d : Decimal) : Bool := d.isFinite && decide (0 ≤ d.toRat)

inductive DataClass where
  | executable
  | indicative
  deriving DecidableEq, Repr

def DataClass.value : DataClass → String
  | executable => "EXECUTABLE_DATA"
  | indicative => "INDICATIVE_DATA"

/-- One pinned feed, tool, schema and version. -/
structure FeedIdentity where
  feed : String
  tool : String
  schema : String
  version : String
  nonEmpty : feed ≠ "" ∧ tool ≠ "" ∧ schema ≠ "" ∧ version ≠ ""

def FeedIdentity.identityKey (f : FeedIdentity) : List String :=
  [f.feed, f.tool, f.schema, f.version]

/-- One two-sided quote with sizes and its raw observation time. -/
structure TwoSidedQuote where
  bid : Decimal
  ask : Decimal
  bidSize : Nat
  askSize : Nat
  observedAt : DateTime
  money : (requireNonNegativeMoney bid && requireNonNegativeMoney ask) = true
  utc : isUtc observedAt = true

namespace TwoSidedQuote

def crossed (q : TwoSidedQuote) : Bool := q.ask.lt q.bid

def spread (q : TwoSidedQuote) : Decimal := q.ask.sub q.bid

end TwoSidedQuote

structure ShareObservation where
  symbol : String
  quote : TwoSidedQuote
  feed : FeedIdentity
  dataClass : DataClass
  normalized : requireSymbol symbol = true

/-- The strike is positive, and a reported delta lies between `-1` and `1`. -/
def contractCheck (symbol underlying : String) (expiry : Date) (strike : Decimal)
    (reportedDelta : Option Decimal) : Bool :=
  requireSymbol symbol && requireSymbol underlying && expiry.isCalendar &&
    strike.isFinite && decide (0 < strike.toRat) &&
    reportedDelta.all fun d => d.isFinite && decide (-1 ≤ d.toRat ∧ d.toRat ≤ 1)

/-- One listed option contract with its two-sided quote. -/
structure OptionContractObservation where
  symbol : String
  underlying : String
  expiry : Date
  optionType : OptionType
  strike : Decimal
  quote : TwoSidedQuote
  feed : FeedIdentity
  dataClass : DataClass
  openInterest : Option Nat
  reportedDelta : Option Decimal
  accepted : contractCheck symbol underlying expiry strike reportedDelta = true

/-- One atomic multi-leg package quote (net debit terms). -/
structure PackageObservation where
  packageId : String
  legs : String × String
  netBid : Decimal
  netAsk : Decimal
  size : Nat
  observedAt : DateTime
  feed : FeedIdentity
  dataClass : DataClass
  accepted : (packageId != "" && requireSymbol legs.1 && requireSymbol legs.2 &&
    requireNonNegativeMoney netBid && requireNonNegativeMoney netAsk && isUtc observedAt) = true

def PackageObservation.crossed (p : PackageObservation) : Bool := p.netAsk.lt p.netBid

/-- Explicit borrow/locate evidence for a short share expression. -/
structure BorrowLocateEvidence where
  symbol : String
  locatedQuantity : Nat
  source : String
  observedAt : DateTime
  contentSha256 : String
  accepted : (requireSymbol symbol && decide (0 < locatedQuantity) && source != "" &&
    isUtc observedAt && contentSha256.length == 64) = true

/-! ### Snapshots -/

structure SnapshotFields where
  snapshotId : String
  underlying : String
  observationClockAt : DateTime
  decisionSha256 : String
  share : ShareObservation
  chain : List OptionContractObservation
  packages : List PackageObservation
  borrowLocate : Option BorrowLocateEvidence

/-- `ExpressionMarketSnapshot.__post_init__`. -/
def SnapshotFields.check (s : SnapshotFields) : Bool :=
  let clock := s.observationClockAt.micros
  s.snapshotId != "" && requireSymbol s.underlying && isUtc s.observationClockAt &&
  s.decisionSha256.length == 64 && s.share.symbol == s.underlying &&
  decide (s.share.quote.observedAt.micros ≤ clock) &&
  s.chain.all (fun c => c.underlying == s.underlying && decide (c.quote.observedAt.micros ≤ clock)) &&
  s.packages.all (fun p => decide (p.observedAt.micros ≤ clock)) &&
  Strategy.sortedUnique (s.chain.map (·.symbol)) &&
  Strategy.sortedUnique (s.packages.map (·.packageId)) &&
  s.borrowLocate.all fun b => b.symbol == s.underlying && decide (b.observedAt.micros ≤ clock)

/-- One immutable market snapshot bound to one validated decision. -/
structure ExpressionMarketSnapshot extends SnapshotFields where
  accepted : toSnapshotFields.check = true

namespace ExpressionMarketSnapshot

def package (s : ExpressionMarketSnapshot) (packageId : String) : Option PackageObservation :=
  s.packages.find? fun p => p.packageId == packageId

def asof (s : ExpressionMarketSnapshot) : Int := s.observationClockAt.utcDay

end ExpressionMarketSnapshot

def quoteFields (q : TwoSidedQuote) (feed : FeedIdentity) (dataClass : DataClass) :
    List (String × Json) :=
  [("bid", .str q.bid.toText),
   ("ask", .str q.ask.toText),
   ("bid_size", .int q.bidSize),
   ("ask_size", .int q.askSize),
   ("observed_at", .str q.observedAt.isoformatZ),
   ("feed", .arr (feed.identityKey.map .str)),
   ("data_class", .str dataClass.value)]

def shareObservationPayload (s : ShareObservation) : Json :=
  .obj (("symbol", .str s.symbol) :: quoteFields s.quote s.feed s.dataClass)

def optionObservationPayload (c : OptionContractObservation) : Json :=
  .obj ([("symbol", .str c.symbol),
    ("underlying", .str c.underlying),
    ("expiry", .str c.expiry.isoformat),
    ("option_type", .str c.optionType.value),
    ("strike", .str c.strike.toText)] ++ quoteFields c.quote c.feed c.dataClass ++
    [("open_interest", match c.openInterest with
      | some n => .int n
      | none => .null),
     ("reported_delta", Strategy.textOrNull (c.reportedDelta.map Decimal.toText))])

def packageObservationPayload (p : PackageObservation) : Json :=
  .obj [("package_id", .str p.packageId),
    ("legs", .arr [.str p.legs.1, .str p.legs.2]),
    ("net_bid", .str p.netBid.toText),
    ("net_ask", .str p.netAsk.toText),
    ("size", .int p.size),
    ("observed_at", .str p.observedAt.isoformatZ),
    ("feed", .arr (p.feed.identityKey.map .str)),
    ("data_class", .str p.dataClass.value)]

def borrowLocatePayload (b : BorrowLocateEvidence) : Json :=
  .obj [("symbol", .str b.symbol),
    ("located_quantity", .int b.locatedQuantity),
    ("source", .str b.source),
    ("observed_at", .str b.observedAt.isoformatZ),
    ("content_sha256", .str b.contentSha256)]

def expressionMarketSnapshotPayload (s : ExpressionMarketSnapshot) : Json :=
  .obj [("schema", .str "esscher.expression_market_snapshot"),
    ("schema_version", .int 1),
    ("snapshot_id", .str s.snapshotId),
    ("underlying", .str s.underlying),
    ("observation_clock_at", .str s.observationClockAt.isoformatZ),
    ("decision_sha256", .str s.decisionSha256),
    ("share", shareObservationPayload s.share),
    ("chain", .arr (s.chain.map optionObservationPayload)),
    ("packages", .arr (s.packages.map packageObservationPayload)),
    ("borrow_locate", (s.borrowLocate.map borrowLocatePayload).getD .null)]

def expressionMarketSnapshotSha256 (s : ExpressionMarketSnapshot) : String :=
  (expressionMarketSnapshotPayload s).sha256

/-! ### The promoted policy -/

structure PromotedExpressionPolicyFields where
  policyId : String
  version : String
  gateDReportSha256 : String
  expressionKind : ExpressionKind
  objective : String
  evidenceThreshold : Decimal
  evidenceMinEvents : Nat
  operationalLossBudget : Decimal
  quoteMaxAgeMs : Nat
  crossLegSkewMaxMs : Nat
  spreadMaxBps : Decimal
  minQuoteSize : Nat
  minDte : Nat
  maxDte : Nat
  deltaMin : Decimal
  deltaMax : Decimal
  widthMin : Decimal
  widthMax : Decimal
  liquidityMinOpenInterest : Nat
  allowsIndicativeData : Bool

/-- `PromotedExpressionPolicy.__post_init__`; a comparison with a `NaN` raises. -/
def PromotedExpressionPolicyFields.check (p : PromotedExpressionPolicyFields) : Bool :=
  p.policyId != "" && p.version != "" && p.gateDReportSha256.length == 64 &&
  p.objective == "AFTER_COST_EXPECTED_EDGE_VS_CASH" &&
  requireNonNegativeMoney p.evidenceThreshold && requireNonNegativeMoney p.spreadMaxBps &&
  p.operationalLossBudget.isFinite && decide (0 < p.operationalLossBudget.toRat) &&
  decide (p.minDte ≤ p.maxDte) &&
  [p.deltaMin, p.deltaMax, p.widthMin, p.widthMax].all (· != .nan) &&
  !p.deltaMax.lt p.deltaMin && !p.widthMax.lt p.widthMin

structure PromotedExpressionPolicy extends PromotedExpressionPolicyFields where
  accepted : toPromotedExpressionPolicyFields.check = true

def promotedExpressionPolicyPayload (p : PromotedExpressionPolicy) : Json :=
  .obj ([("schema", .str "esscher.promoted_expression_policy"),
    ("schema_version", .int 1),
    ("policy_id", .str p.policyId),
    ("version", .str p.version),
    ("gate_d_report_sha256", .str p.gateDReportSha256),
    ("expression_kind", .str p.expressionKind.value),
    ("objective", .str p.objective),
    ("evidence_threshold", .str p.evidenceThreshold.toText),
    ("evidence_min_events", .int p.evidenceMinEvents),
    ("operational_loss_budget", .str p.operationalLossBudget.toText),
    ("quote_max_age_ms", .int p.quoteMaxAgeMs),
    ("cross_leg_skew_max_ms", .int p.crossLegSkewMaxMs),
    ("spread_max_bps", .str p.spreadMaxBps.toText),
    ("min_quote_size", .int p.minQuoteSize),
    ("min_dte", .int p.minDte),
    ("max_dte", .int p.maxDte),
    ("delta_min", .str p.deltaMin.toText),
    ("delta_max", .str p.deltaMax.toText),
    ("width_min", .str p.widthMin.toText),
    ("width_max", .str p.widthMax.toText),
    ("liquidity_min_open_interest", .int p.liquidityMinOpenInterest)] ++
    if p.allowsIndicativeData then [("allows_indicative_data", .bool true)] else [])

def promotedExpressionPolicySha256 (p : PromotedExpressionPolicy) : String :=
  (promotedExpressionPolicyPayload p).sha256

end EsscherMarket.Execution
