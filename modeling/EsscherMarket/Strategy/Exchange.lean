import EsscherMarket.Lib.DecimalContext
import EsscherMarket.Lib.IsoFormat
import EsscherMarket.Lib.JsonSurrogates
import EsscherMarket.Lib.Txn
import EsscherMarket.Strategy.Decision

/-!
# The exchange with the reasoner

`strategy/models.py` and `strategy/contracts.py`: the receipt of one bounded reasoner call, and the
parser of what the reasoner answered.  A receipt and an answer carry the proof that their
`__post_init__` accepted them; that a text is in normal form is left out.
-/

namespace EsscherMarket.Strategy

open Lib

/-- The exceptions that can leave a decision pass. -/
inductive EngineError where
  | routeRaised
  | attributeError
  | typeError
  | overflowError
  | valueError
  | unicodeEncodeError
  | recursionError
  | contractRejected
  deriving DecidableEq, Repr

/-! ### Clocks -/

/-- `a < b`: naive and aware datetimes cannot be compared. -/
def before (a b : DateTime) : Except EngineError Bool := do
  throwIf (a.isAware ≠ b.isAware) .typeError
  return decide (a.micros < b.micros)

/-- `t + timedelta(seconds=s)`. -/
def addSeconds (t : DateTime) (s : Int) : Except EngineError DateTime := do
  let later : DateTime := ⟨t.micros + s * DateTime.microsPerSecond, t.tzinfo⟩
  throwIf (¬later.InRange) .overflowError
  return later

/-- `min(a, b)`. -/
def earlier (a b : DateTime) : Except EngineError DateTime := do
  let less ← before b a
  return if less then b else a

/-! ### The exchange -/

/-- Outcome of the bounded hosted-reasoner call. -/
inductive ExchangeStatus where
  | completed
  | timeout
  | canceled
  | providerError
  deriving DecidableEq, Repr

def ExchangeStatus.value : ExchangeStatus → String
  | completed => "COMPLETED"
  | timeout => "TIMEOUT"
  | canceled => "CANCELED"
  | providerError => "PROVIDER_ERROR"

/-- Provider-neutral bounded decoding settings. -/
structure DecodingParameters where
  temperature : Decimal
  topP : Decimal
  maxOutputTokens : Int
  seed : Option Int
  accepted : (temperature.isFinite && decide (0 ≤ temperature.toRat) && topP.isFinite &&
    decide (0 < topP.toRat ∧ topP.toRat ≤ 1) && decide (0 < maxOutputTokens)) = true

/-- `_decimal_text`: the digits of a finite decimal, without trailing zeros of its fraction. -/
def decimalText (d : Decimal) : String :=
  if d.toRat = 0 then "0"
  else
    let text := d.expand.fixedText.toList
    if text.contains '.' then
      String.ofList ((text.reverse.dropWhile (· == '0')).dropWhile (· == '.')).reverse
    else String.ofList text

def decodingPayload (d : DecodingParameters) : Json :=
  .obj [("max_output_tokens", .int d.maxOutputTokens),
    ("seed", match d.seed with | some n => .int n | none => .null),
    ("temperature", .str (decimalText d.temperature)),
    ("top_p", .str (decimalText d.topP))]

/-- An integer whose text the interpreter writes: `str` refuses more than 4300 digits. -/
def printableInt (n : Int) : Bool := decide (n.natAbs < 10 ^ 4300)

/-- The decoding settings can be written as JSON. -/
def DecodingParameters.printable (d : DecodingParameters) : Bool :=
  printableInt d.maxOutputTokens && d.seed.all printableInt

/-- The digest of the provider identity and the exact decoding configuration. -/
def reasonerModelConfigSha256 (provider model : String) (modelRevision : Option String)
    (decoding : DecodingParameters) : String :=
  (Json.obj [("decoding", decodingPayload decoding), ("model", .str model),
    ("model_revision", textOrNull modelRevision), ("provider", .str provider),
    ("schema", .str "esscher.reasoner_model_config"), ("schema_version", .int 1)]).sha256

/-- The fields of a request and response receipt for one bounded reasoner call. -/
structure ReasonerExchangeFields where
  eventId : String
  candidateId : String
  policySha256 : String
  strategySnapshotSha256 : String
  featureReceiptSha256 : String
  evidencePacketSha256 : String
  routeSha256 : String
  promptSha256 : String
  outputSchemaSha256 : String
  modelConfigSha256 : String
  requestSha256 : String
  rawResponseSha256 : Option String
  provider : String
  model : String
  modelRevision : Option String
  decoding : DecodingParameters
  startedAt : DateTime
  respondedAt : Option DateTime
  deadlineAt : DateTime
  status : ExchangeStatus
  errorCode : Option String
  producerBuildSha256 : String
  createdAt : DateTime

/-- A completed exchange has a response and no error; any other one says what went wrong. -/
def ReasonerExchangeFields.checkStatus (x : ReasonerExchangeFields) : Bool :=
  if x.status = .completed then
    x.rawResponseSha256.isSome && x.respondedAt.isSome && x.errorCode.isNone
  else match x.errorCode with
    | some code => isReasonCode code
    | none => false

/-- `ReasonerExchange.__post_init__`. -/
def ReasonerExchangeFields.check (x : ReasonerExchangeFields) : Bool :=
  [x.eventId, x.candidateId].all isIdentifier &&
  [x.policySha256, x.strategySnapshotSha256, x.featureReceiptSha256, x.evidencePacketSha256,
    x.routeSha256, x.promptSha256, x.outputSchemaSha256, x.modelConfigSha256, x.requestSha256,
    x.producerBuildSha256].all (isLowerHex 64) &&
  x.rawResponseSha256.all (isLowerHex 64) &&
  isNormalizedText 256 x.provider && isNormalizedText 256 x.model &&
  x.modelRevision.all (isNormalizedText 256) &&
  [x.startedAt, x.deadlineAt, x.createdAt].all isUtc && x.respondedAt.all isUtc &&
  decide (x.startedAt.micros ≤ x.deadlineAt.micros) &&
  x.respondedAt.all (fun t => decide (x.startedAt.micros ≤ t.micros)) &&
  decide (x.startedAt.micros ≤ x.createdAt.micros) && x.checkStatus

/-- Immutable receipt for one bounded external reasoner call. -/
structure ReasonerExchange extends ReasonerExchangeFields where
  accepted : toReasonerExchangeFields.check = true

def timestampOrNull : Option DateTime → Json
  | some t => .str (timestampText t)
  | none => .null

/-- The canonical hosted-reasoner exchange receipt object. -/
def reasonerExchangePayload (x : ReasonerExchange) : Json :=
  .obj [
    ("candidate_id", .str x.candidateId),
    ("created_at", .str (timestampText x.createdAt)),
    ("deadline_at", .str (timestampText x.deadlineAt)),
    ("decoding", decodingPayload x.decoding),
    ("error_code", textOrNull x.errorCode),
    ("evidence_packet_sha256", .str x.evidencePacketSha256),
    ("event_id", .str x.eventId),
    ("feature_receipt_sha256", .str x.featureReceiptSha256),
    ("model", .str x.model),
    ("model_config_sha256", .str x.modelConfigSha256),
    ("model_revision", textOrNull x.modelRevision),
    ("output_schema_sha256", .str x.outputSchemaSha256),
    ("policy_sha256", .str x.policySha256),
    ("producer_build_sha256", .str x.producerBuildSha256),
    ("prompt_sha256", .str x.promptSha256),
    ("provider", .str x.provider),
    ("raw_response_sha256", textOrNull x.rawResponseSha256),
    ("request_sha256", .str x.requestSha256),
    ("responded_at", timestampOrNull x.respondedAt),
    ("route_sha256", .str x.routeSha256),
    ("schema", .str "esscher.reasoner_exchange"),
    ("schema_version", .int 1),
    ("started_at", .str (timestampText x.startedAt)),
    ("status", .str x.status.value),
    ("strategy_snapshot_sha256", .str x.strategySnapshotSha256)]

def reasonerExchangeSha256 (x : ReasonerExchange) : String := (reasonerExchangePayload x).sha256

/-! ### What the reasoner answered -/

/-- The fields of a parsed but still untrusted answer. -/
structure ReasonerDecisionFields where
  decision : Direction
  evidenceIds : List String
  contradictions : List Contradiction
  unknowns : List String
  strongestFalsifier : Option Falsifier
  summary : String

/-- `ReasonerDecision.__post_init__`, and those of its parts. -/
def ReasonerDecisionFields.check (d : ReasonerDecisionFields) : Bool :=
  sortedUnique d.evidenceIds && d.evidenceIds.all isIdentifier &&
  sortedUnique d.unknowns && d.unknowns.all isReasonCode &&
  decide (d.evidenceIds.length ≤ 16) && decide (d.contradictions.length ≤ 8) &&
  decide (d.unknowns.length ≤ 16) &&
  d.contradictions.all Contradiction.check && d.strongestFalsifier.all Falsifier.check &&
  decide ((d.contradictions.map (·.evidenceIds)).Pairwise
    fun a b => a.1 < b.1 ∨ a.1 = b.1 ∧ a.2 < b.2) &&
  isNormalizedText 800 d.summary

/-- Strictly parsed but still untrusted output.  A lone surrogate in one of its summaries stands
here as the replacement character; `encodable` says that there is none. -/
structure ReasonerDecision extends ReasonerDecisionFields where
  encodable : Bool
  accepted : toReasonerDecisionFields.check = true

/-- The six-field provider-facing payload. -/
def reasonerDecisionPayload (d : ReasonerDecision) : Json :=
  .obj [("contradictions", .arr (d.contradictions.map contradictionPayload)),
    ("decision", .str d.decision.value), ("evidence_ids", .arr (d.evidenceIds.map .str)),
    ("strongest_falsifier", falsifierPayload d.strongestFalsifier), ("summary", .str d.summary),
    ("unknowns", .arr (d.unknowns.map .str))]

/-- The digest of the semantics; a lone surrogate cannot be encoded. -/
def reasonerDecisionSha256 (d : ReasonerDecision) : Except EngineError String := do
  throwIf (!d.encodable) .unicodeEncodeError
  return (reasonerDecisionPayload d).sha256

def stringList (kind : String → Bool) : Json → Option (List String)
  | .arr items => do
    let texts ← items.mapM fun item => match item with
      | .str s => if kind s then some s else none
      | _ => none
    if texts.Nodup then some (texts.mergeSort fun a b => decide (a ≤ b)) else none
  | _ => none

def textOf (maximum : Nat) : Json → Option String
  | .str s => if isNormalizedText maximum s then some s else none
  | _ => none

def parseContradiction (value : Json) : Option Contradiction := do
  if value.hasKeys ["evidence_ids", "summary"] then
    match ← stringList isIdentifier (value.get "evidence_ids") with
    | [first, second] => return ⟨(first, second), ← textOf 400 (value.get "summary")⟩
    | _ => none
  else none

def parseFalsifier (value : Json) : Option (Option Falsifier) :=
  match value with
  | .null => some none
  | value => do
    if value.hasKeys ["evidence_id", "summary"] then
      match value.get "evidence_id" with
      | .str id =>
        if isIdentifier id then return some ⟨id, ← textOf 400 (value.get "summary")⟩ else none
      | _ => none
    else none

/-- `Direction(value)`. -/
def Direction.ofValue (value : Json) : Option Direction :=
  [Direction.up, .down, .uncertain].find? fun d => value.isText d.value

def decisionFields (value : Json) : Option ReasonerDecisionFields := do
  if value.hasKeys ["decision", "evidence_ids", "contradictions", "unknowns",
      "strongest_falsifier", "summary"] then
    match value.get "contradictions" with
    | .arr items =>
      let decision ← Direction.ofValue (value.get "decision")
      let evidenceIds ← stringList isIdentifier (value.get "evidence_ids")
      let contradictions ← items.mapM parseContradiction
      let unknowns ← stringList isReasonCode (value.get "unknowns")
      let strongestFalsifier ← parseFalsifier (value.get "strongest_falsifier")
      let summary ← textOf 800 (value.get "summary")
      return { decision, evidenceIds, contradictions, unknowns, strongestFalsifier, summary }
    | _ => none
  else none

/-- `parse_reasoner_decision`; `tooDeep` tells the bytes whose nesting exhausts the interpreter's
stack. -/
def parseReasonerDecision (tooDeep : List UInt8 → Bool) (raw : List UInt8) :
    Except EngineError ReasonerDecision := do
  throwIf (tooDeep raw) .recursionError
  match (Json.loadsUnique (Json.replaceLone raw)).bind decisionFields with
  | none => .error .contractRejected
  | some fields =>
    if h : fields.check = true then return ⟨fields, !Json.hasLone raw, h⟩
    else .error .contractRejected

end EsscherMarket.Strategy
