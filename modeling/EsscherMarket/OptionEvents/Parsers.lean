import EsscherMarket.Lib.DecimalPlain
import EsscherMarket.Lib.JsonFormat
import EsscherMarket.Lib.UtcText
import EsscherMarket.OptionEvents.Records

/-!
# Writing and reading the artifacts

The encoders and the parsers of the five artifacts of `runtime/option_events.py`.  They have one
shape: a payload with the digest of its other fields is written canonically, and what is parsed is
read field by field, checked, and must have the bytes that it came from.
-/

namespace EsscherMarket.OptionEvents

open Lib Strategy Execution

/-! ### Readers -/

def readBoundedId : Json → Option String := Json.readText isBoundedId

def readSymbol : Json → Option String := Json.readText isSymbol

def readDigest : Json → Option String := Json.readText isDigest

def readTimestamp : Json → Option Int
  | .str s => (DateTime.parseUtc s).map DateTime.micros
  | _ => none

/-- `_date_value`. -/
def readDate : Json → Option Date
  | .str s => do
    let parsed ← Date.fromIsoformat s
    if parsed.isoformat = s then some parsed else none
  | _ => none

def readDecimal : Json → Option Decimal
  | .str s => do
    let parsed ← Decimal.parse s
    if isWritable parsed ∧ decimalText parsed = s then some parsed else none
  | _ => none

def readEvidenceClass : Json → Option EvidenceClass :=
  Json.readMember EvidenceClass.value [.syntheticFixture, .hostNormalizedBrokerInput]

def readAssetClass : Json → Option AssetClass :=
  Json.readMember AssetClass.value [.option, .equity]

def readOptionEventKind : Json → Option OptionEventKind :=
  Json.readMember OptionEventKind.value [.assignment, .exercise, .expiry, .brokerSellOut,
    .contractAdjustment, .exerciseRejectedBuyingPower]

def readOptionEventStatus : Json → Option OptionEventStatus :=
  Json.readMember OptionEventStatus.value [.executed, .rejected]

def readOptionReconciliationState : Json → Option OptionReconciliationState :=
  Json.readMember OptionReconciliationState.value [.activeUnchanged,
    .manualReconciliationRequired, .expiryFlatAttested]

def readOptionType : Json → Option OptionType :=
  Json.readMember OptionType.value [.call, .put]

def readCount (v : Json) : Option Nat := do
  let n ← Json.readInt v
  if 0 < n then some n.toNat else none

def readExactly (text : String) (v : Json) : Option Unit := if v.isText text then some () else none

/-- `_decode`, and `_object` of what it returns. -/
def decodeObject (fields : List String) (raw : List UInt8) : Option Json := do
  let payload ← Json.loadsUnique raw
  if payload.hasKeys fields then some payload else none

/-! ### Encoders and parsers -/

/-- What the encoder and the parser of a kind do with its records. -/
structure Codec {φ : Type} (kind : SignedKind φ) where
  /-- The decimals that a record holds. -/
  decimals : φ → List Decimal
  /-- A record with other decimals. -/
  withDecimals : (Decimal → Decimal) → φ → φ
  /-- The interpreter prints its integers. -/
  printable : φ → Bool
  /-- The field names that the parser expects. -/
  fields : List String
  /-- What it makes of the fields other than the schema and the digest. -/
  read : Json → Option φ

section Codec

variable {φ : Type} {kind : SignedKind φ} (codec : Codec kind)

/-- Nothing in a record stops the encoder. -/
def Codec.writable (fields : φ) : Bool :=
  (codec.decimals fields).all isWritable && codec.printable fields

/-- `…_bytes` of a record whose digest is that of its fields. -/
def Codec.encode (r : Signed kind) : Option (List UInt8) :=
  if codec.writable r.fields then some r.bytes else none

/-- `parse_…`. -/
def Codec.parse (raw : List UInt8) : Option (Signed kind) := do
  let data ← decodeObject codec.fields raw
  if (data.get "schema").isText kind.schema && (data.get "schema_version").isOne then
    let fields ← codec.read data
    let sha256 ← readDigest (data.get kind.digestField)
    if h : kind.check fields = true then
      let value : Signed kind := ⟨fields, h⟩
      -- the digest is checked by the encoder, and the bytes by the parser
      if sha256 = value.sha256 ∧ codec.encode value = some raw then some value else none
    else none
  else none

/-- Equal records: numbers are compared by their values. -/
def Codec.Same (a b : φ) : Prop :=
  codec.withDecimals (fun _ => .nan) a = codec.withDecimals (fun _ => .nan) b ∧
    (codec.decimals a).map Decimal.toRat = (codec.decimals b).map Decimal.toRat

end Codec

/-! ### Observations -/

def parsePosition (v : Json) : Option PortfolioPosition := do
  if v.hasKeys ["asset_class", "quantity", "symbol"] then
    let position : PortfolioPosition := {
      assetClass := ← readAssetClass (v.get "asset_class")
      symbol := ← readSymbol (v.get "symbol")
      quantity := ← readDecimal (v.get "quantity") }
    if position.check then some position else none
  else none

def PortfolioPosition.withQuantity (f : Decimal → Decimal) (p : PortfolioPosition) :
    PortfolioPosition :=
  { p with quantity := f p.quantity }

def ObservationFields.read (v : Json) : Option ObservationFields := do
  return {
    accountFingerprintSha256 := ← readDigest (v.get "account_fingerprint_sha256")
    executionProtocolSha256 := ← readDigest (v.get "execution_protocol_sha256")
    observedAt := ← readTimestamp (v.get "observed_at")
    positions := ← Json.readList parsePosition (v.get "positions")
    sourcePayloadSha256 := ← readDigest (v.get "source_payload_sha256")
    evidenceClass := ← readEvidenceClass (v.get "evidence_class") }

def observationCodec : Codec observationKind where
  decimals o := o.positions.map PortfolioPosition.quantity
  withDecimals f o := { o with positions := o.positions.map (PortfolioPosition.withQuantity f) }
  printable _ := true
  fields := ["account_fingerprint_sha256", "evidence_class", "execution_protocol_sha256",
    "observation_sha256", "observed_at", "positions", "schema", "schema_version",
    "source_payload_sha256"]
  read := ObservationFields.read

def optionPortfolioObservationBytes : OptionPortfolioObservation → Option (List UInt8) :=
  observationCodec.encode

def parseOptionPortfolioObservation : List UInt8 → Option OptionPortfolioObservation :=
  observationCodec.parse

/-! ### Coverages -/

def CoverageFields.read (v : Json) : Option CoverageFields := do
  let complete ← Json.readBool (v.get "complete")
  return {
    accountFingerprintSha256 := ← readDigest (v.get "account_fingerprint_sha256")
    executionProtocolSha256 := ← readDigest (v.get "execution_protocol_sha256")
    windowStart := ← readTimestamp (v.get "window_start")
    windowEnd := ← readTimestamp (v.get "window_end")
    observedAt := ← readTimestamp (v.get "observed_at")
    complete := complete
    eventSha256s := ← Json.readList readDigest (v.get "event_sha256s")
    sourcePayloadSha256 := ← readDigest (v.get "source_payload_sha256")
    evidenceClass := ← readEvidenceClass (v.get "evidence_class") }

def coverageCodec : Codec coverageKind where
  decimals _ := []
  withDecimals _ c := c
  printable _ := true
  fields := ["account_fingerprint_sha256", "complete", "coverage_sha256", "evidence_class",
    "event_sha256s", "execution_protocol_sha256", "observed_at", "schema", "schema_version",
    "source_payload_sha256", "window_end", "window_start"]
  read := CoverageFields.read

def optionActivityCoverageBytes : OptionActivityCoverage → Option (List UInt8) :=
  coverageCodec.encode

def parseOptionActivityCoverage : List UInt8 → Option OptionActivityCoverage :=
  coverageCodec.parse

/-! ### Events -/

def EventFields.read (v : Json) : Option EventFields := do
  let replacement ← Json.readNullable readSymbol (v.get "replacement_symbol")
  return {
    activityId := ← readBoundedId (v.get "activity_id")
    kind := ← readOptionEventKind (v.get "kind")
    status := ← readOptionEventStatus (v.get "status")
    optionSymbol := ← readSymbol (v.get "option_symbol")
    contracts := ← readCount (v.get "contracts")
    effectiveDate := ← readDate (v.get "effective_date")
    observedAt := ← readTimestamp (v.get "observed_at")
    accountFingerprintSha256 := ← readDigest (v.get "account_fingerprint_sha256")
    executionProtocolSha256 := ← readDigest (v.get "execution_protocol_sha256")
    underlyingSymbol := ← readSymbol (v.get "underlying_symbol")
    underlyingQuantityDelta := ← readDecimal (v.get "underlying_quantity_delta")
    cashDelta := ← readDecimal (v.get "cash_delta")
    replacementSymbol := replacement
    sourcePayloadSha256 := ← readDigest (v.get "source_payload_sha256")
    evidenceClass := ← readEvidenceClass (v.get "evidence_class") }

def eventCodec : Codec eventKind where
  decimals e := [e.underlyingQuantityDelta, e.cashDelta]
  withDecimals f e :=
    { e with underlyingQuantityDelta := f e.underlyingQuantityDelta, cashDelta := f e.cashDelta }
  -- `json.dumps` writes integers of at most 4300 digits
  printable e := decide (e.contracts < 10 ^ 4300)
  fields := ["account_fingerprint_sha256", "activity_id", "cash_delta", "contracts",
    "effective_date", "event_sha256", "evidence_class", "execution_protocol_sha256", "kind",
    "observed_at", "option_symbol", "replacement_symbol", "schema", "schema_version",
    "source_payload_sha256", "status", "underlying_quantity_delta", "underlying_symbol"]
  read := EventFields.read

def normalizedOptionEventBytes : NormalizedOptionEvent → Option (List UInt8) := eventCodec.encode

def parseNormalizedOptionEvent : List UInt8 → Option NormalizedOptionEvent := eventCodec.parse

/-! ### Bindings -/

def BindingFields.read (v : Json) : Option BindingFields := do
  return {
    sessionId := ← readBoundedId (v.get "session_id")
    sessionArmSha256 := ← readDigest (v.get "session_arm_sha256")
    lifecycleId := ← readBoundedId (v.get "lifecycle_id")
    lifecycleSha256 := ← readDigest (v.get "lifecycle_sha256")
    opportunityId := ← readBoundedId (v.get "opportunity_id")
    opportunitySha256 := ← readDigest (v.get "opportunity_sha256")
    permitId := ← readBoundedId (v.get "permit_id")
    permitSha256 := ← readDigest (v.get "permit_sha256")
    reservationId := ← readBoundedId (v.get "reservation_id")
    accountFingerprintSha256 := ← readDigest (v.get "account_fingerprint_sha256")
    executionProtocolSha256 := ← readDigest (v.get "execution_protocol_sha256")
    underlyingSymbol := ← readSymbol (v.get "underlying_symbol")
    optionType := ← readOptionType (v.get "option_type")
    optionExpiry := ← readDate (v.get "option_expiry")
    quantity := ← Json.readInt (v.get "quantity")
    longSymbol := ← readSymbol (v.get "long_symbol")
    longStrike := ← readDecimal (v.get "long_strike")
    shortSymbol := ← readSymbol (v.get "short_symbol")
    shortStrike := ← readDecimal (v.get "short_strike")
    activationObservationSha256 := ← readDigest (v.get "activation_observation_sha256")
    activationEvidenceClass := ← readEvidenceClass (v.get "activation_evidence_class")
    activationObservedAt := ← readTimestamp (v.get "activation_observed_at")
    baselineUnderlyingQuantity := ← readDecimal (v.get "baseline_underlying_quantity")
    expirationSessionDate := ← readDate (v.get "expiration_session_date")
    expirationSessionClose := ← readTimestamp (v.get "expiration_session_close")
    expirationActivityHorizon := ← readTimestamp (v.get "expiration_activity_horizon")
    calendarSha256 := ← readDigest (v.get "calendar_sha256") }

def bindingCodec : Codec bindingKind where
  decimals b := [b.longStrike, b.shortStrike, b.baselineUnderlyingQuantity]
  withDecimals f b :=
    { b with
      longStrike := f b.longStrike
      shortStrike := f b.shortStrike
      baselineUnderlyingQuantity := f b.baselineUnderlyingQuantity }
  printable _ := true
  fields := ["account_fingerprint_sha256", "activation_evidence_class",
    "activation_observation_sha256", "activation_observed_at", "baseline_underlying_quantity",
    "binding_sha256", "calendar_sha256", "execution_protocol_sha256",
    "expiration_activity_horizon", "expiration_session_close", "expiration_session_date",
    "lifecycle_id", "lifecycle_sha256", "long_strike", "long_symbol", "opportunity_id",
    "opportunity_sha256", "option_expiry", "option_type", "permit_id", "permit_sha256", "quantity",
    "reservation_id", "schema", "schema_version", "session_arm_sha256", "session_id",
    "short_strike", "short_symbol", "underlying_symbol"]
  read := BindingFields.read

def optionLifecycleBindingBytes : OptionLifecycleBinding → Option (List UInt8) :=
  bindingCodec.encode

def parseOptionLifecycleBinding : List UInt8 → Option OptionLifecycleBinding := bindingCodec.parse

/-! ### Receipts -/

def ReceiptFields.read (v : Json) : Option ReceiptFields := do
  readExactly "NOT_BROKER_CONNECTIVITY_EVIDENCE" (v.get "broker_connectivity_evidence")
  readExactly "NOT_ALPHA_EVIDENCE" (v.get "alpha_evidence")
  return {
    bindingSha256 := ← readDigest (v.get "binding_sha256")
    sessionId := ← readBoundedId (v.get "session_id")
    lifecycleId := ← readBoundedId (v.get "lifecycle_id")
    activityCoverageSha256 := ← readDigest (v.get "activity_coverage_sha256")
    observationSha256 := ← readDigest (v.get "observation_sha256")
    eventSha256s := ← Json.readList readDigest (v.get "event_sha256s")
    state := ← readOptionReconciliationState (v.get "state")
    reasonCodes := ← Json.readList readBoundedId (v.get "reason_codes")
    observedAt := ← readTimestamp (v.get "observed_at")
    longOptionQuantity := ← readDecimal (v.get "long_option_quantity")
    shortOptionQuantity := ← readDecimal (v.get "short_option_quantity")
    underlyingQuantity := ← readDecimal (v.get "underlying_quantity")
    underlyingQuantityDelta := ← readDecimal (v.get "underlying_quantity_delta")
    eventCashDelta := ← readDecimal (v.get "event_cash_delta")
    evidenceClass := ← readEvidenceClass (v.get "evidence_class") }

def receiptCodec : Codec receiptKind where
  decimals r := [r.longOptionQuantity, r.shortOptionQuantity, r.underlyingQuantity,
    r.underlyingQuantityDelta, r.eventCashDelta]
  withDecimals f r :=
    { r with
      longOptionQuantity := f r.longOptionQuantity
      shortOptionQuantity := f r.shortOptionQuantity
      underlyingQuantity := f r.underlyingQuantity
      underlyingQuantityDelta := f r.underlyingQuantityDelta
      eventCashDelta := f r.eventCashDelta }
  printable _ := true
  fields := ["alpha_evidence", "activity_coverage_sha256", "binding_sha256",
    "broker_connectivity_evidence", "event_cash_delta", "event_sha256s", "evidence_class",
    "lifecycle_id", "long_option_quantity", "observation_sha256", "observed_at", "reason_codes",
    "receipt_sha256", "schema", "schema_version", "session_id", "short_option_quantity", "state",
    "underlying_quantity", "underlying_quantity_delta"]
  read := ReceiptFields.read

def optionEventReconciliationReceiptBytes :
    OptionEventReconciliationReceipt → Option (List UInt8) :=
  receiptCodec.encode

def parseOptionEventReconciliationReceipt :
    List UInt8 → Option OptionEventReconciliationReceipt :=
  receiptCodec.parse

end EsscherMarket.OptionEvents
