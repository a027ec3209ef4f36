import Mathlib.Data.Prod.Lex
import EsscherMarket.Execution.Models
import EsscherMarket.Lib.DecimalBounds
import EsscherMarket.Lib.JsonText
import EsscherMarket.Runtime.Arm
import EsscherMarket.Strategy.Decision

/-!
# Records of option events

The five self-hashing artifacts of `runtime/option_events.py`.  A kind says how the records of one
artifact are checked, written and read; a value of it is a record that passes the check.

An instant is its number of microseconds in UTC.
-/

namespace EsscherMarket.OptionEvents

open Lib Strategy Execution

/-! ### Vocabulary -/

inductive EvidenceClass where
  | syntheticFixture
  | hostNormalizedBrokerInput
  deriving DecidableEq, Repr

def EvidenceClass.value : EvidenceClass → String
  | syntheticFixture => "SYNTHETIC_FIXTURE"
  | hostNormalizedBrokerInput => "HOST_NORMALIZED_BROKER_INPUT"

inductive AssetClass where
  | option
  | equity
  deriving DecidableEq, Repr

def AssetClass.value : AssetClass → String
  | option => "OPTION"
  | equity => "EQUITY"

inductive OptionEventKind where
  | assignment
  | exercise
  | expiry
  | brokerSellOut
  | contractAdjustment
  | exerciseRejectedBuyingPower
  deriving DecidableEq, Repr

def OptionEventKind.value : OptionEventKind → String
  | assignment => "ASSIGNMENT"
  | exercise => "EXERCISE"
  | expiry => "EXPIRY"
  | brokerSellOut => "BROKER_SELL_OUT"
  | contractAdjustment => "CONTRACT_ADJUSTMENT"
  | exerciseRejectedBuyingPower => "EXERCISE_REJECTED_BUYING_POWER"

inductive OptionEventStatus where
  | executed
  | rejected
  deriving DecidableEq, Repr

def OptionEventStatus.value : OptionEventStatus → String
  | executed => "EXECUTED"
  | rejected => "REJECTED"

inductive OptionReconciliationState where
  | activeUnchanged
  | manualReconciliationRequired
  | expiryFlatAttested
  deriving DecidableEq, Repr

def OptionReconciliationState.value : OptionReconciliationState → String
  | activeUnchanged => "ACTIVE_UNCHANGED"
  | manualReconciliationRequired => "MANUAL_RECONCILIATION_REQUIRED"
  | expiryFlatAttested => "EXPIRY_FLAT_ATTESTED"

/-! ### Texts, clocks and numbers -/

/-- `_BOUNDED_ID`. -/
def isBoundedId : String → Bool :=
  matchesText isAlphanumeric fun c => isAlphanumeric c || "_.:-".toList.contains c

/-- `_SYMBOL`. -/
def isSymbol (s : String) : Bool :=
  match s.toList with
  | [] => false
  | c :: rest => c.isUpper && decide (rest.length ≤ 31) &&
      rest.all fun d => d.isUpper || d.isDigit || "._-".toList.contains d

def isDigest : String → Bool := isLowerHex 64

/-- An instant that `_timestamp_text` can write. -/
def isInstant (micros : Int) : Bool := decide (DateTime.utc micros).InRange

def timestampText (micros : Int) : String := (DateTime.utc micros).isoformatZ

/-- `instant.date()`. -/
def dateOf (micros : Int) : Date :=
  let (year, month, day) := DateTime.civil (micros / DateTime.microsPerDay)
  ⟨year.toNat, month, day⟩

def isDate (d : Date) : Bool := decide (1 ≤ d.year ∧ d.year ≤ 9999) && d.isCalendar

def dateKey (d : Date) : Nat := (d.year * 100 + d.month) * 100 + d.day

/-- A finite decimal that `normalize` can round to the context: it does not overflow. -/
def isWritable (d : Decimal) : Bool := d.isFinite && d.bound.isSome

/-- `_decimal_text` of a decimal that can be written. -/
def decimalText (d : Decimal) : String := if d.toRat = 0 then "0" else (d.bound.getD d).plainText

/-! ### Kinds of records -/

/-- A kind of self-hashing record. -/
structure SignedKind (φ : Type) where
  schema : String
  /-- The name of the field that holds the digest. -/
  digestField : String
  check : φ → Bool
  unsigned : φ → List (String × Json)

structure Signed {φ : Type} (kind : SignedKind φ) where
  fields : φ
  accepted : kind.check fields = true

section Kind

variable {φ : Type} {kind : SignedKind φ}

def Signed.unsignedPayload (r : Signed kind) : Json := .obj (kind.unsigned r.fields)

def Signed.sha256 (r : Signed kind) : String := r.unsignedPayload.sha256

/-- `_canonical({**unsigned, digest_field: digest})`. -/
def Signed.bytes (r : Signed kind) : List UInt8 :=
  (Json.obj (kind.unsigned r.fields ++ [(kind.digestField, .str r.sha256)])).canonicalBytes

end Kind

/-! ### Observations -/

/-- One non-zero normalized account position. -/
structure PortfolioPosition where
  assetClass : AssetClass
  symbol : String
  quantity : Decimal
  deriving DecidableEq, Repr

namespace PortfolioPosition

/-- The checks of `_position_payload`. -/
def check (p : PortfolioPosition) : Bool :=
  p.quantity.isFinite && decide (p.quantity.toRat ≠ 0) &&
  (p.assetClass != .option || decide (p.quantity.toRat.den = 1)) && isSymbol p.symbol

def payload (p : PortfolioPosition) : Json :=
  .obj [("asset_class", .str p.assetClass.value), ("quantity", .str (decimalText p.quantity)),
    ("symbol", .str p.symbol)]

def key (p : PortfolioPosition) : String × String := (p.assetClass.value, p.symbol)

end PortfolioPosition

structure ObservationFields where
  accountFingerprintSha256 : String
  executionProtocolSha256 : String
  observedAt : Int
  positions : List PortfolioPosition
  sourcePayloadSha256 : String
  evidenceClass : EvidenceClass
  deriving DecidableEq

namespace ObservationFields

/-- The checks of `_observation_unsigned_payload`. -/
def check (o : ObservationFields) : Bool :=
  [o.accountFingerprintSha256, o.executionProtocolSha256, o.sourcePayloadSha256].all isDigest &&
  isInstant o.observedAt && o.positions.all PortfolioPosition.check &&
  decide (o.positions.Pairwise fun p q => toLex p.key < toLex q.key)

def unsigned (o : ObservationFields) : List (String × Json) :=
  [("account_fingerprint_sha256", .str o.accountFingerprintSha256),
    ("evidence_class", .str o.evidenceClass.value),
    ("execution_protocol_sha256", .str o.executionProtocolSha256),
    ("observed_at", .str (timestampText o.observedAt)),
    ("positions", .arr (o.positions.map PortfolioPosition.payload)),
    ("schema", .str "esscher.option_portfolio_observation"),
    ("schema_version", .int 1),
    ("source_payload_sha256", .str o.sourcePayloadSha256)]

end ObservationFields

def observationKind : SignedKind ObservationFields where
  schema := "esscher.option_portfolio_observation"
  digestField := "observation_sha256"
  check := ObservationFields.check
  unsigned := ObservationFields.unsigned

/-- A complete canonical position observation for one sanitized account identity. -/
abbrev OptionPortfolioObservation := Signed observationKind

/-! ### Coverages -/

structure CoverageFields where
  accountFingerprintSha256 : String
  executionProtocolSha256 : String
  windowStart : Int
  windowEnd : Int
  observedAt : Int
  complete : Bool
  eventSha256s : List String
  sourcePayloadSha256 : String
  evidenceClass : EvidenceClass
  deriving DecidableEq

namespace CoverageFields

/-- The checks of `_coverage_unsigned_payload`. -/
def check (c : CoverageFields) : Bool :=
  [c.accountFingerprintSha256, c.executionProtocolSha256, c.sourcePayloadSha256].all isDigest &&
  [c.windowStart, c.windowEnd, c.observedAt].all isInstant &&
  decide (c.windowStart ≤ c.windowEnd ∧ c.windowEnd ≤ c.observedAt) &&
  sortedUnique c.eventSha256s && c.eventSha256s.all isDigest

def unsigned (c : CoverageFields) : List (String × Json) :=
  [("account_fingerprint_sha256", .str c.accountFingerprintSha256),
    ("complete", .bool c.complete),
    ("evidence_class", .str c.evidenceClass.value),
    ("event_sha256s", .arr (c.eventSha256s.map .str)),
    ("execution_protocol_sha256", .str c.executionProtocolSha256),
    ("observed_at", .str (timestampText c.observedAt)),
    ("schema", .str "esscher.option_activity_coverage"),
    ("schema_version", .int 1),
    ("source_payload_sha256", .str c.sourcePayloadSha256),
    ("window_end", .str (timestampText c.windowEnd)),
    ("window_start", .str (timestampText c.windowStart))]

end CoverageFields

def coverageKind : SignedKind CoverageFields where
  schema := "esscher.option_activity_coverage"
  digestField := "coverage_sha256"
  check := CoverageFields.check
  unsigned := CoverageFields.unsigned

/-- Canonical account-activity pagination coverage asserted by the host. -/
abbrev OptionActivityCoverage := Signed coverageKind

/-! ### Events -/

structure EventFields where
  activityId : String
  kind : OptionEventKind
  status : OptionEventStatus
  optionSymbol : String
  contracts : Nat
  effectiveDate : Date
  observedAt : Int
  accountFingerprintSha256 : String
  executionProtocolSha256 : String
  underlyingSymbol : String
  underlyingQuantityDelta : Decimal
  cashDelta : Decimal
  replacementSymbol : Option String
  sourcePayloadSha256 : String
  evidenceClass : EvidenceClass
  deriving DecidableEq

namespace EventFields

/-- The checks of `_event_unsigned_payload`. -/
def check (e : EventFields) : Bool :=
  decide (0 < e.contracts) &&
  (if e.kind = .exerciseRejectedBuyingPower then e.status == .rejected else e.status == .executed) &&
  (if e.kind = .contractAdjustment then
    e.replacementSymbol.any fun replacement => replacement != e.optionSymbol
  else e.replacementSymbol.isNone) &&
  [e.accountFingerprintSha256, e.executionProtocolSha256, e.sourcePayloadSha256].all isDigest &&
  isBoundedId e.activityId && e.cashDelta.isFinite && isDate e.effectiveDate &&
  isInstant e.observedAt && isSymbol e.optionSymbol && e.replacementSymbol.all isSymbol &&
  e.underlyingQuantityDelta.isFinite && isSymbol e.underlyingSymbol

def unsigned (e : EventFields) : List (String × Json) :=
  [("account_fingerprint_sha256", .str e.accountFingerprintSha256),
    ("activity_id", .str e.activityId),
    ("cash_delta", .str (decimalText e.cashDelta)),
    ("contracts", .int e.contracts),
    ("effective_date", .str e.effectiveDate.isoformat),
    ("evidence_class", .str e.evidenceClass.value),
    ("execution_protocol_sha256", .str e.executionProtocolSha256),
    ("kind", .str e.kind.value),
    ("observed_at", .str (timestampText e.observedAt)),
    ("option_symbol", .str e.optionSymbol),
    ("replacement_symbol", textOrNull e.replacementSymbol),
    ("schema", .str "esscher.normalized_option_event"),
    ("schema_version", .int 1),
    ("source_payload_sha256", .str e.sourcePayloadSha256),
    ("status", .str e.status.value),
    ("underlying_quantity_delta", .str (decimalText e.underlyingQuantityDelta)),
    ("underlying_symbol", .str e.underlyingSymbol)]

end EventFields

def eventKind : SignedKind EventFields where
  schema := "esscher.normalized_option_event"
  digestField := "event_sha256"
  check := EventFields.check
  unsigned := EventFields.unsigned

/-- One semantic activity; raw provider activity codes are intentionally absent. -/
abbrev NormalizedOptionEvent := Signed eventKind

/-- `NormalizedOptionEvent.create`. -/
def NormalizedOptionEvent.create (fields : EventFields) : Option NormalizedOptionEvent :=
  if h : fields.check = true then some ⟨fields, h⟩ else none

/-- `sorted(events, key=lambda event: event.activity_id)`. -/
def orderedEvents (events : List NormalizedOptionEvent) : List NormalizedOptionEvent :=
  events.mergeSort fun a b => decide (a.fields.activityId ≤ b.fields.activityId)

/-! ### Bindings -/

structure BindingFields where
  sessionId : String
  sessionArmSha256 : String
  lifecycleId : String
  lifecycleSha256 : String
  opportunityId : String
  opportunitySha256 : String
  permitId : String
  permitSha256 : String
  reservationId : String
  accountFingerprintSha256 : String
  executionProtocolSha256 : String
  underlyingSymbol : String
  optionType : OptionType
  optionExpiry : Date
  quantity : Int
  longSymbol : String
  longStrike : Decimal
  shortSymbol : String
  shortStrike : Decimal
  activationObservationSha256 : String
  activationEvidenceClass : EvidenceClass
  activationObservedAt : Int
  baselineUnderlyingQuantity : Decimal
  expirationSessionDate : Date
  expirationSessionClose : Int
  expirationActivityHorizon : Int
  calendarSha256 : String
  deriving DecidableEq

namespace BindingFields

/-- The checks of `_binding_unsigned_payload`. -/
def check (b : BindingFields) : Bool :=
  b.quantity == 1 && b.longSymbol != b.shortSymbol &&
  b.longStrike.isFinite && b.shortStrike.isFinite && b.baselineUnderlyingQuantity.isFinite &&
  decide (0 < b.longStrike.toRat ∧ 0 < b.shortStrike.toRat) &&
  decide (dateKey b.expirationSessionDate ≤ dateKey b.optionExpiry) &&
  decide (b.activationObservedAt < b.expirationSessionClose ∧
    b.expirationSessionClose < b.expirationActivityHorizon) &&
  [b.accountFingerprintSha256, b.activationObservationSha256, b.calendarSha256,
    b.executionProtocolSha256, b.lifecycleSha256, b.opportunitySha256, b.permitSha256,
    b.sessionArmSha256].all isDigest &&
  [b.lifecycleId, b.opportunityId, b.permitId, b.reservationId, b.sessionId].all isBoundedId &&
  [b.activationObservedAt, b.expirationSessionClose, b.expirationActivityHorizon].all isInstant &&
  [b.expirationSessionDate, b.optionExpiry].all isDate &&
  [b.longSymbol, b.shortSymbol, b.underlyingSymbol].all isSymbol

def unsigned (b : BindingFields) : List (String × Json) :=
  [("account_fingerprint_sha256", .str b.accountFingerprintSha256),
    ("activation_observation_sha256", .str b.activationObservationSha256),
    ("activation_evidence_class", .str b.activationEvidenceClass.value),
    ("activation_observed_at", .str (timestampText b.activationObservedAt)),
    ("baseline_underlying_quantity", .str (decimalText b.baselineUnderlyingQuantity)),
    ("calendar_sha256", .str b.calendarSha256),
    ("execution_protocol_sha256", .str b.executionProtocolSha256),
    ("expiration_session_close", .str (timestampText b.expirationSessionClose)),
    ("expiration_activity_horizon", .str (timestampText b.expirationActivityHorizon)),
    ("expiration_session_date", .str b.expirationSessionDate.isoformat),
    ("lifecycle_id", .str b.lifecycleId),
    ("lifecycle_sha256", .str b.lifecycleSha256),
    ("long_strike", .str (decimalText b.longStrike)),
    ("long_symbol", .str b.longSymbol),
    ("opportunity_id", .str b.opportunityId),
    ("opportunity_sha256", .str b.opportunitySha256),
    ("option_expiry", .str b.optionExpiry.isoformat),
    ("option_type", .str b.optionType.value),
    ("permit_id", .str b.permitId),
    ("permit_sha256", .str b.permitSha256),
    ("quantity", .int b.quantity),
    ("reservation_id", .str b.reservationId),
    ("schema", .str "esscher.option_lifecycle_binding"),
    ("schema_version", .int 1),
    ("session_arm_sha256", .str b.sessionArmSha256),
    ("session_id", .str b.sessionId),
    ("short_strike", .str (decimalText b.shortStrike)),
    ("short_symbol", .str b.shortSymbol),
    ("underlying_symbol", .str b.underlyingSymbol)]

end BindingFields

def bindingKind : SignedKind BindingFields where
  schema := "esscher.option_lifecycle_binding"
  digestField := "binding_sha256"
  check := BindingFields.check
  unsigned := BindingFields.unsigned

/-- Exact close-critical identity and activation truth for one vertical. -/
abbrev OptionLifecycleBinding := Signed bindingKind

/-- `_position_quantity`; the positions of an observation are unique. -/
def positionQuantity (observation : OptionPortfolioObservation) (assetClass : AssetClass)
    (symbol : String) : Decimal :=
  ((observation.fields.positions.find? fun p => p.assetClass == assetClass && p.symbol == symbol).map
    PortfolioPosition.quantity).getD (.ofNat 0)

/-- The arguments of `OptionLifecycleBinding.create`. -/
structure BindingArguments where
  arm : Runtime.AutonomousSessionArm
  lifecycle : Runtime.ActiveLifecycleIdentity
  permit : DebitVerticalPermit
  reservationId : String
  activationObservation : OptionPortfolioObservation
  expirationSessionDate : Date
  expirationSessionClose : Int
  expirationActivityHorizon : Int
  calendarSha256 : String

/-- The fields of the binding that `create` makes. -/
def BindingArguments.fields (a : BindingArguments) : BindingFields where
  sessionId := a.arm.sessionId
  sessionArmSha256 := a.arm.armSha256
  lifecycleId := a.lifecycle.lifecycleId
  lifecycleSha256 := a.lifecycle.lifecycleSha256
  opportunityId := a.lifecycle.opportunityId
  opportunitySha256 := a.lifecycle.opportunitySha256
  permitId := a.permit.permitId
  permitSha256 := debitVerticalPermitSha256 a.permit
  reservationId := a.reservationId
  accountFingerprintSha256 := a.arm.accountFingerprintSha256
  executionProtocolSha256 := a.arm.executionProtocolSha256
  underlyingSymbol := a.permit.underlying
  optionType := a.permit.longLeg.optionType
  optionExpiry := a.permit.longLeg.expiry
  quantity := a.permit.quantity
  longSymbol := a.permit.longLeg.symbol
  longStrike := a.permit.longLeg.strike
  shortSymbol := a.permit.shortLeg.symbol
  shortStrike := a.permit.shortLeg.strike
  activationObservationSha256 := a.activationObservation.sha256
  activationEvidenceClass := a.activationObservation.fields.evidenceClass
  activationObservedAt := a.activationObservation.fields.observedAt
  baselineUnderlyingQuantity := positionQuantity a.activationObservation .equity a.permit.underlying
  expirationSessionDate := a.expirationSessionDate
  expirationSessionClose := a.expirationSessionClose
  expirationActivityHorizon := a.expirationActivityHorizon
  calendarSha256 := a.calendarSha256

/-- The arm, the lifecycle, the permit and the observation that `create` is given belong
together. -/
def BindingArguments.bound (K : Runtime.Contracts) (a : BindingArguments) : Bool :=
  (Runtime.validateArm K a.arm).isOk && a.lifecycle.check.isOk &&
  a.lifecycle.sessionId == a.arm.sessionId &&
  a.lifecycle.opportunityId == a.permit.eventRunId &&
  a.permit.permitId == debitVerticalPermitId a.permit.toDebitVerticalPermitFields &&
  a.permit.executionProtocolSha256 == a.arm.executionProtocolSha256 &&
  a.activationObservation.fields.accountFingerprintSha256 == a.arm.accountFingerprintSha256 &&
  a.activationObservation.fields.executionProtocolSha256 == a.arm.executionProtocolSha256 &&
  decide ((positionQuantity a.activationObservation .option a.permit.longLeg.symbol).toRat =
    a.permit.quantity) &&
  decide ((positionQuantity a.activationObservation .option a.permit.shortLeg.symbol).toRat =
    -a.permit.quantity)

/-- `OptionLifecycleBinding.create`; `none` where it raises. -/
def OptionLifecycleBinding.create (K : Runtime.Contracts) (a : BindingArguments) :
    Option OptionLifecycleBinding :=
  if h : a.bound K = true ∧ a.fields.check = true then some ⟨a.fields, h.2⟩ else none

theorem OptionLifecycleBinding.create_eq_some {K : Runtime.Contracts} {a : BindingArguments}
    {binding : OptionLifecycleBinding} :
    create K a = some binding ↔ a.bound K = true ∧ binding.fields = a.fields := by
  rw [create]
  by_cases h : a.bound K = true ∧ a.fields.check = true
  · rw [dif_pos h, Option.some.injEq]
    constructor
    · rintro rfl
      exact ⟨h.1, rfl⟩
    · rintro ⟨-, hfields⟩
      cases binding
      cases hfields
      rfl
  · rw [dif_neg h]
    refine ⟨fun hnone => (by cases hnone), fun hbound => absurd ⟨hbound.1, ?_⟩ h⟩
    rw [← hbound.2]
    exact binding.accepted

/-! ### Receipts -/

structure ReceiptFields where
  bindingSha256 : String
  sessionId : String
  lifecycleId : String
  observationSha256 : String
  activityCoverageSha256 : String
  eventSha256s : List String
  state : OptionReconciliationState
  reasonCodes : List String
  observedAt : Int
  longOptionQuantity : Decimal
  shortOptionQuantity : Decimal
  underlyingQuantity : Decimal
  underlyingQuantityDelta : Decimal
  eventCashDelta : Decimal
  evidenceClass : EvidenceClass
  deriving DecidableEq

namespace ReceiptFields

/-- The checks of `_receipt_unsigned_payload`; the two disclaimers have one value each. -/
def check (r : ReceiptFields) : Bool :=
  sortedUnique r.eventSha256s && sortedUnique r.reasonCodes && r.reasonCodes != [] &&
  r.eventSha256s.all isDigest && r.reasonCodes.all isBoundedId &&
  [r.activityCoverageSha256, r.bindingSha256, r.observationSha256].all isDigest &&
  [r.lifecycleId, r.sessionId].all isBoundedId && isInstant r.observedAt &&
  [r.eventCashDelta, r.longOptionQuantity, r.shortOptionQuantity, r.underlyingQuantity,
    r.underlyingQuantityDelta].all Decimal.isFinite

def unsigned (r : ReceiptFields) : List (String × Json) :=
  [("alpha_evidence", .str "NOT_ALPHA_EVIDENCE"),
    ("activity_coverage_sha256", .str r.activityCoverageSha256),
    ("binding_sha256", .str r.bindingSha256),
    ("broker_connectivity_evidence", .str "NOT_BROKER_CONNECTIVITY_EVIDENCE"),
    ("event_cash_delta", .str (decimalText r.eventCashDelta)),
    ("event_sha256s", .arr (r.eventSha256s.map .str)),
    ("evidence_class", .str r.evidenceClass.value),
    ("lifecycle_id", .str r.lifecycleId),
    ("long_option_quantity", .str (decimalText r.longOptionQuantity)),
    ("observation_sha256", .str r.observationSha256),
    ("observed_at", .str (timestampText r.observedAt)),
    ("reason_codes", .arr (r.reasonCodes.map .str)),
    ("schema", .str "esscher.option_event_reconciliation_receipt"),
    ("schema_version", .int 1),
    ("session_id", .str r.sessionId),
    ("short_option_quantity", .str (decimalText r.shortOptionQuantity)),
    ("state", .str r.state.value),
    ("underlying_quantity", .str (decimalText r.underlyingQuantity)),
    ("underlying_quantity_delta", .str (decimalText r.underlyingQuantityDelta))]

end ReceiptFields

def receiptKind : SignedKind ReceiptFields where
  schema := "esscher.option_event_reconciliation_receipt"
  digestField := "receipt_sha256"
  check := ReceiptFields.check
  unsigned := ReceiptFields.unsigned

/-- Self-hashing result of one pure reconciliation. -/
abbrev OptionEventReconciliationReceipt := Signed receiptKind

end EsscherMarket.OptionEvents
