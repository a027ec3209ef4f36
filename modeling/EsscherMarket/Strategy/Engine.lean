import EsscherMarket.Strategy.Exchange

/-!
# The bounded decision engine

`strategy/engine.py`, and the validator of `strategy/contracts.py` that it calls.  One pass invokes
the injected route at most once and records a decision; the engine remembers the keys of the joined
inputs for which the route returned.

A `StrategyInput` is the join that `build_strategy_input` returns.  The packaged policy has passed
on it there, so the pass of the same check in `validateStrategyDecision` is left out.
-/

namespace EsscherMarket.Strategy.Engine

open Lib

/-! ### The packaged policy -/

def earningsCandidate : String := "EARNINGS_RESIDUAL_CONTINUATION_V1"

def macroCandidate : String := "MACRO_SPY_CONTINUATION_CHALLENGER_V1"

def delayedEarningsCandidate : String := "EARNINGS_RESIDUAL_CONTINUATION_V3"

def outputSchemaSha256 : String :=
  "08dd5302e8e03e01a7012acb59048329516e6a801f8b24827066f43430c04fa4"

/-- `_REASONER_POLICY_HASH_REGISTRY`: route, prompt and output schema of each candidate. -/
def reasonerPolicyHashRegistry : List (String × String × String × String) :=
  [(earningsCandidate, "af801a9baf24cff5b1f093e3802834855e8b82d56491b7244bba59ba357b30e3",
    "617897661b723c2315f3cb60fbb15b6e57dfc571098a4be4563b324cd6a0354f", outputSchemaSha256),
   (macroCandidate, "c2dd3668be1595f6658506f830ccad06b92b532c36732fff667f7f59ce641dd2",
    "52f7b1c152128414363225aa441bf40e3b099ff045952891d9b2743bb3bccfec", outputSchemaSha256),
   (delayedEarningsCandidate, "2600eaf239126ee476a0e3eca2c77a0d3c691679945b64f37f7b3e5647f67ed7",
    "596f2ba3eb604d238b55cfabed92470ea220700747b9ac259f9e7cf1abf6c696", outputSchemaSha256)]

/-- `reasoner_policy_hashes` of a registered candidate. -/
def reasonerPolicyHashes (candidateId : String) : String × String × String :=
  ((reasonerPolicyHashRegistry.find? fun row => row.1 == candidateId).map Prod.snd).getD
    (outputSchemaSha256, outputSchemaSha256, outputSchemaSha256)

def hardTimeoutSeconds : Int := 8

def maxOutputTokens : Int := 512

/-- The policy's temperature, `"0.0"`. -/
def temperature : Decimal := .finite false 0 (-1)

def identityDecoding : DecodingParameters where
  temperature := temperature
  topP := .ofNat 1
  maxOutputTokens := maxOutputTokens
  seed := some 7
  accepted := by decide +kernel

/-! ### The joined input -/

inductive EligibilityState where
  | eligible
  | ineligible
  | unresolved
  deriving DecidableEq, Repr

def EligibilityState.value : EligibilityState → String
  | eligible => "ELIGIBLE"
  | ineligible => "INELIGIBLE"
  | unresolved => "UNRESOLVED"

inductive DataHealthState where
  | valid
  | invalid
  deriving DecidableEq, Repr

def DataHealthState.value : DataHealthState → String
  | valid => "VALID"
  | invalid => "INVALID"

inductive EvidenceRole where
  | issuerPrimary
  | macroPrimary
  | secFiling
  | permittedNews
  | issuerMarket
  | marketProxy
  | sectorProxy
  | liquidityVolatility
  deriving DecidableEq, Repr

def EvidenceRole.isPrimary (role : EvidenceRole) : Bool :=
  [issuerPrimary, macroPrimary].contains role

def EvidenceRole.isMarket (role : EvidenceRole) : Bool :=
  [issuerMarket, marketProxy, sectorProxy, liquidityVolatility].contains role

/-- What the validator reads of a source identity. -/
structure EvidenceRef where
  evidenceId : String
  role : EvidenceRole

/-- What the engine and the validator read of an event snapshot. -/
structure StrategySnapshot where
  eventId : String
  candidateId : String
  cohortId : String
  securityId : String
  policySha256 : String
  decisionCutoffAt : DateTime
  evidencePacketSha256 : String
  evidenceRefs : List EvidenceRef
  eligibility : EligibilityState
  eligibilityReasonCodes : List String
  dataHealth : DataHealthState
  healthReasonCodes : List String
  allowedUnknownCodes : List String
  criticalUnknownCodes : List String

/-- What `StrategySnapshot.__post_init__` and the registered policy say of these fields. -/
def StrategySnapshot.check (s : StrategySnapshot) : Bool :=
  [s.eventId, s.candidateId, s.cohortId, s.securityId].all isIdentifier &&
  reasonerPolicyHashRegistry.any (fun row => row.1 == s.candidateId) &&
  [s.policySha256, s.evidencePacketSha256].all (isLowerHex 64) && isUtc s.decisionCutoffAt &&
  s.eligibilityReasonCodes.all isReasonCode && s.healthReasonCodes.all isReasonCode &&
  (s.eligibilityReasonCodes.isEmpty == (s.eligibility == .eligible)) &&
  (s.healthReasonCodes.isEmpty == (s.dataHealth == .valid))

inductive FeatureStatus where
  | present
  | unavailable
  | notApplicable
  | conflicting
  deriving DecidableEq, Repr

def FeatureStatus.value : FeatureStatus → String
  | present => "PRESENT"
  | unavailable => "UNAVAILABLE"
  | notApplicable => "NOT_APPLICABLE"
  | conflicting => "CONFLICTING"

inductive FeatureScalar where
  | decimal (value : Decimal)
  | integer (value : Int)
  | text (value : String)

structure FeatureValue where
  featureId : String
  status : FeatureStatus
  value : Option FeatureScalar

structure FeatureReceipt where
  createdAt : DateTime
  features : List FeatureValue

/-- Validated immutable join of exact snapshot and feature-receipt bytes. -/
structure StrategyInput where
  snapshot : StrategySnapshot
  featureReceipt : FeatureReceipt
  candidateManifestSha256 : String
  snapshotSha256 : String
  featureReceiptSha256 : String
  accepted : (snapshot.check && isUtc featureReceipt.createdAt &&
    decide (featureReceipt.createdAt.micros ≤ snapshot.decisionCutoffAt.micros) &&
    [candidateManifestSha256, snapshotSha256, featureReceiptSha256].all (isLowerHex 64)) = true

/-! ### The validator -/

/-- `tuple(sorted(codes))` of a set. -/
def sortedCodes (codes : List String) : List String :=
  codes.dedup.mergeSort fun a b => decide (a ≤ b)

/-- `codes` when the condition holds. -/
def codesIf (condition : Bool) (codes : List String) : List String := if condition then codes else []

def numericFeature (input : StrategyInput) (featureId : String) : Option Decimal :=
  match input.featureReceipt.features.reverse.find? fun f => f.featureId == featureId with
  | some ⟨_, .present, some (.decimal d)⟩ => some d
  | _ => none

/-- The confirming feature is too small, or the volume or the average price does not support it. -/
def weakConfirmation (input : StrategyInput) (confirmation : Decimal) : Bool :=
  let magnitude := confirmation.abs.toRat
  if input.snapshot.candidateId == macroCandidate then
    match numericFeature input "market.spy_event_volume_ratio_20.v1",
      numericFeature input "market.spy_event_vwap_distance_bps.v1" with
    | some volume, some vwapDistance =>
      decide (volume.toRat < 5 / 4) || decide (magnitude < 1) ||
      decide (0 < confirmation.toRat) && decide (vwapDistance.toRat ≤ 0) ||
      decide (confirmation.toRat < 0) && decide (0 ≤ vwapDistance.toRat)
    | _, _ => true
  else decide (magnitude < 25 / 10000)

/-- `_confirmation_feature_id` of a registered candidate. -/
def confirmationFeatureId (candidateId : String) : String :=
  if candidateId == macroCandidate then "market.spy_event_zscore_60.v1"
  else "market.opening_residual_log_return.v1"

/-- `_reaction_relation`: the sign of the confirming feature against the reasoner's direction. -/
def reactionRelation (input : StrategyInput) (direction : Direction) : ReactionRelation :=
  if direction = .uncertain then .notApplicable
  else match numericFeature input (confirmationFeatureId input.snapshot.candidateId) with
    | none => .none
    | some confirmation =>
      if weakConfirmation input confirmation then .none
      else if direction = .up ∧ 0 < confirmation.toRat ∨
          direction = .down ∧ confirmation.toRat < 0 then .continue
      else .reverse

def exchangeReasonCode : ExchangeStatus → String
  | .timeout => "REASONER_TIMEOUT"
  | .canceled => "REASONER_CANCELED"
  | .providerError => "REASONER_PROVIDER_ERROR"
  | .completed => "REASONER_SCHEMA_INVALID"

def reasonerExchangePolicyReasons (input : StrategyInput) (x : ReasonerExchange) :
    Except EngineError (List String) := do
  let snapshot := input.snapshot
  throwIf (!x.decoding.printable) .valueError
  let timedOutAt ← addSeconds x.startedAt hardTimeoutSeconds
  let expectedDeadline := min timedOutAt.micros snapshot.decisionCutoffAt.micros
  return codesIf ((x.routeSha256, x.promptSha256, x.outputSchemaSha256) !=
        reasonerPolicyHashes snapshot.candidateId) ["REASONER_POLICY_MISMATCH"] ++
    codesIf (x.modelConfigSha256 !=
        reasonerModelConfigSha256 x.provider x.model x.modelRevision x.decoding)
      ["REASONER_MODEL_CONFIG_MISMATCH"] ++
    codesIf (decide (x.decoding.temperature.toRat ≠ temperature.toRat) ||
        x.decoding.maxOutputTokens != maxOutputTokens) ["REASONER_POLICY_MISMATCH"] ++
    codesIf (decide (x.startedAt.micros < input.featureReceipt.createdAt.micros) ||
        decide (snapshot.decisionCutoffAt.micros < x.startedAt.micros)) ["CLOCK_MISMATCH"] ++
    codesIf (x.deadlineAt.micros != expectedDeadline) ["CLOCK_MISMATCH"] ++
    codesIf (x.respondedAt.any fun t => decide (x.deadlineAt.micros < t.micros))
      ["LATE_RESPONSE"] ++
    codesIf (decide (snapshot.decisionCutoffAt.micros < x.createdAt.micros)) ["LATE_RESPONSE"]

def exchangeReasons (input : StrategyInput) (x : ReasonerExchange) (errorCode : Option String) :
    Except EngineError (List String) := do
  let snapshot := input.snapshot
  let policyReasons ← reasonerExchangePolicyReasons input x
  return codesIf (snapshot.eligibility != .eligible)
      ("EVENT_INELIGIBLE" :: snapshot.eligibilityReasonCodes) ++
    codesIf (snapshot.dataHealth != .valid)
      ("DATA_HEALTH_INVALID" :: snapshot.healthReasonCodes) ++
    codesIf ((x.eventId, x.candidateId, x.policySha256, x.strategySnapshotSha256,
        x.featureReceiptSha256, x.evidencePacketSha256) !=
        (snapshot.eventId, snapshot.candidateId, snapshot.policySha256, input.snapshotSha256,
          input.featureReceiptSha256, snapshot.evidencePacketSha256))
      ["EXCHANGE_IDENTITY_MISMATCH"] ++
    policyReasons ++
    codesIf (x.status != .completed) (exchangeReasonCode x.status :: x.errorCode.toList) ++
    errorCode.toList

def answerReasons (input : StrategyInput) (d : ReasonerDecision) : List String :=
  let snapshot := input.snapshot
  let known := snapshot.evidenceRefs.map (·.evidenceId)
  let referenced := d.evidenceIds ++
    d.contradictions.flatMap (fun c => [c.evidenceIds.1, c.evidenceIds.2]) ++
    d.strongestFalsifier.toList.map (·.evidenceId)
  let cited := snapshot.evidenceRefs.filter fun ref => d.evidenceIds.contains ref.evidenceId
  let relation := reactionRelation input d.decision
  codesIf (!(referenced.all known.contains)) ["UNSUPPORTED_CITATION"] ++
  codesIf (!(d.unknowns.all snapshot.allowedUnknownCodes.contains)) ["UNSUPPORTED_UNKNOWN_CODE"] ++
  codesIf (d.unknowns.any snapshot.criticalUnknownCodes.contains) ["MATERIAL_UNKNOWN"] ++
  (if d.decision = .uncertain then ["REASONER_UNCERTAIN"]
  else
    codesIf (!(cited.any (·.role.isPrimary))) ["MISSING_PRIMARY_CITATION"] ++
    codesIf (!(cited.any (·.role.isMarket))) ["MISSING_MARKET_CITATION"] ++
    codesIf d.strongestFalsifier.isNone ["MISSING_FALSIFIER"] ++
    codesIf (relation == .reverse) ["CONFIRMATION_OPPOSED"] ++
    codesIf (relation == .none) ["CONFIRMATION_NEUTRAL"])

def finalState (reasons : List String) (direction : Option Direction)
    (relation : ReactionRelation) : Direction × DecisionDisposition :=
  match direction with
  | some .uncertain =>
    (.uncertain, if reasons.all (· == "REASONER_UNCERTAIN") then .abstained else .rejected)
  | some d =>
    if reasons.isEmpty ∧ relation = .continue then (d, .accepted) else (.uncertain, .rejected)
  | none => (.uncertain, .rejected)

def allReasons (input : StrategyInput) (x : ReasonerExchange) (answer : Option ReasonerDecision)
    (fromExchange : List String) : List String :=
  fromExchange ++ match answer with
    | some d => answerReasons input d
    | none => [exchangeReasonCode x.status]

def relationOf (input : StrategyInput) : Option Direction → ReactionRelation
  | some d => reactionRelation input d
  | none => .notApplicable

def validatedFields (input : StrategyInput) (x : ReasonerExchange)
    (answer : Option ReasonerDecision) (semantics : Option String)
    (validatorBuildSha256 : String) (reasons : List String) : StrategyDecisionFields :=
  let snapshot := input.snapshot
  let direction := answer.map (·.decision)
  let relation := relationOf input direction
  let final := finalState reasons direction relation
  { eventId := snapshot.eventId
    securityId := snapshot.securityId
    candidateId := snapshot.candidateId
    cohortId := snapshot.cohortId
    policySha256 := snapshot.policySha256
    candidateManifestSha256 := input.candidateManifestSha256
    strategySnapshotSha256 := input.snapshotSha256
    featureReceiptSha256 := input.featureReceiptSha256
    reasonerExchangeSha256 := reasonerExchangeSha256 x
    reasonerDecisionSha256 := semantics
    producerBuildSha256 := validatorBuildSha256
    decisionAt := x.respondedAt.getD x.createdAt
    reasonerDirection := direction
    direction := final.1
    disposition := final.2
    reactionRelation := relation
    evidenceIds := (answer.map (·.evidenceIds)).getD []
    contradictions := (answer.map (·.contradictions)).getD []
    unknowns := (answer.map (·.unknowns)).getD []
    strongestFalsifier := answer.bind (·.strongestFalsifier)
    reasonCodes := sortedCodes reasons
    summary := answer.map (·.summary) }

def semanticSha256 : Option ReasonerDecision → Except EngineError (Option String)
  | some d => (reasonerDecisionSha256 d).map some
  | none => pure none

def validateStrategyDecision (input : StrategyInput) (x : ReasonerExchange)
    (answer : Option ReasonerDecision) (validatorBuildSha256 : String)
    (errorCode : Option String) : Except EngineError StrategyDecision := do
  throwIf (!isLowerHex 64 validatorBuildSha256) .contractRejected
  let fromExchange ← exchangeReasons input x errorCode
  throwIf (errorCode.any fun code => !isReasonCode code) .contractRejected
  let semantics ← semanticSha256 answer
  let fields := validatedFields input x answer semantics validatorBuildSha256
    (allReasons input x answer fromExchange)
  if h : fields.check = true then return ⟨fields, h⟩ else .error .valueError

inductive RawResponse where
  | absent
  | bytes (raw : List UInt8)
  | other

/-- The parsed answer, or the error code of a response that is none. -/
def readResponse (tooDeep : List UInt8 → Bool) (x : ReasonerExchange) :
    RawResponse → Except EngineError (Option ReasonerDecision × Option String)
  | .bytes raw =>
    let drifted := x.rawResponseSha256.any fun sha => Sha256.hexdigest raw != sha
    if x.status = .completed then
      if drifted then pure (none, some "REASONER_RAW_HASH_MISMATCH")
      else match parseReasonerDecision tooDeep raw with
        | .ok d => pure (some d, none)
        | .error .contractRejected => pure (none, some "REASONER_SCHEMA_INVALID")
        | .error e => .error e
    else pure (none, if drifted then some "REASONER_RAW_HASH_MISMATCH" else none)
  | .absent =>
    pure (none, if x.status = .completed then some "REASONER_SCHEMA_INVALID" else none)
  | .other =>
    if x.status = .completed then pure (none, some "REASONER_SCHEMA_INVALID")
    else .error .contractRejected

/-- `validate_reasoner_response`: a failure of the answer is an error code of the decision. -/
def validateReasonerResponse (tooDeep : List UInt8 → Bool) (input : StrategyInput)
    (x : ReasonerExchange) (raw : RawResponse) (validatorBuildSha256 : String) :
    Except EngineError StrategyDecision := do
  let (parsed, errorCode) ← readResponse tooDeep x raw
  validateStrategyDecision input x parsed validatorBuildSha256 errorCode

/-! ### The engine -/

def engineBuildSha256 : String :=
  (Json.obj [("producer", .str "esscher.strategy.bounded_decision_engine"),
    ("contract", .str "esscher.validated_decision"), ("version", .int 1)]).sha256

/-- The engine's own reasons for an abort before or instead of a call. -/
inductive EngineReason where
  | preflightIneligible
  | preflightDataHealth
  | startBeforeFeatureReceipt
  | startAfterDecisionCutoff
  | duplicateReasonerCall
  deriving DecidableEq, Repr

def EngineReason.value : EngineReason → String
  | preflightIneligible => "PREFLIGHT_INELIGIBLE"
  | preflightDataHealth => "PREFLIGHT_DATA_HEALTH"
  | startBeforeFeatureReceipt => "START_BEFORE_FEATURE_RECEIPT"
  | startAfterDecisionCutoff => "START_AFTER_DECISION_CUTOFF"
  | duplicateReasonerCall => "DUPLICATE_REASONER_CALL"

/-- Configured provider and model identity. -/
structure RouteIdentity where
  provider : String
  model : String
  modelRevision : Option String

def RouteIdentity.modelConfigSha256 (identity : RouteIdentity) : String :=
  reasonerModelConfigSha256 identity.provider identity.model identity.modelRevision identityDecoding

abbrev CallKey := List String

def callKey (identity : RouteIdentity) (input : StrategyInput) : CallKey :=
  let (route, prompt, outputSchema) := reasonerPolicyHashes input.snapshot.candidateId
  [input.snapshot.eventId, input.snapshotSha256, input.featureReceiptSha256, route, prompt,
    outputSchema, identity.modelConfigSha256]

def deadlineFor (input : StrategyInput) (startedAt : DateTime) : Except EngineError DateTime := do
  earlier (← addSeconds startedAt hardTimeoutSeconds) input.snapshot.decisionCutoffAt

/-- The fields of `_aborted_exchange`. -/
def abortedFields (identity : RouteIdentity) (input : StrategyInput) (code : EngineReason)
    (started deadline : DateTime) : ReasonerExchangeFields :=
  let snapshot := input.snapshot
  let (route, prompt, outputSchema) := reasonerPolicyHashes snapshot.candidateId
  { eventId := snapshot.eventId
    candidateId := snapshot.candidateId
    policySha256 := snapshot.policySha256
    strategySnapshotSha256 := input.snapshotSha256
    featureReceiptSha256 := input.featureReceiptSha256
    evidencePacketSha256 := snapshot.evidencePacketSha256
    routeSha256 := route
    promptSha256 := prompt
    outputSchemaSha256 := outputSchema
    modelConfigSha256 := identity.modelConfigSha256
    requestSha256 :=
      (Json.obj [("aborted", .str code.value), ("route_invoked", .bool false)]).sha256
    rawResponseSha256 := none
    provider := identity.provider
    model := identity.model
    modelRevision := identity.modelRevision
    decoding := identityDecoding
    startedAt := started
    respondedAt := none
    deadlineAt := deadline
    status := .canceled
    errorCode := some code.value
    producerBuildSha256 := engineBuildSha256
    createdAt := deadline }

def abortedExchange (identity : RouteIdentity) (input : StrategyInput) (startedAt : DateTime)
    (code : EngineReason) : Except EngineError ReasonerExchange := do
  let deadlineAt ← deadlineFor input startedAt
  let effectiveStarted ← earlier startedAt deadlineAt
  let fields := abortedFields identity input code effectiveStarted deadlineAt
  if h : fields.check = true then return ⟨fields, h⟩ else .error .valueError

def preflightCode (input : StrategyInput) (startedAt : DateTime) :
    Except EngineError (Option EngineReason) := do
  if input.snapshot.eligibility ≠ .eligible then return some .preflightIneligible
  if input.snapshot.dataHealth ≠ .valid then return some .preflightDataHealth
  if ← before startedAt input.featureReceipt.createdAt then
    return some .startBeforeFeatureReceipt
  if ← before input.snapshot.decisionCutoffAt startedAt then
    return some .startAfterDecisionCutoff
  return none

/-- What an injected route does when it is invoked: it raises, it returns something that is not a
result, or it returns an exchange and the raw response. -/
inductive RouteAnswer where
  | raised
  | other
  | result (exchange : ReasonerExchange) (raw : RawResponse)

structure EngineOutcome where
  decision : StrategyDecision
  exchange : ReasonerExchange
  trace : Json
  routeInvoked : Bool
  ablateText : Bool

def decisionTracePayload (input : StrategyInput) (decision : StrategyDecision)
    (x : ReasonerExchange) (routeInvoked ablateText : Bool) : Json :=
  let snapshot := input.snapshot
  .obj [("schema", .str "esscher.decision_trace"), ("schema_version", .int 1),
    ("event_id", .str snapshot.eventId), ("candidate_id", .str snapshot.candidateId),
    ("cohort_id", .str snapshot.cohortId), ("ablate_text", .bool ablateText),
    ("stages", .arr [
      .obj [("stage", .str "INPUT"), ("policy_sha256", .str snapshot.policySha256),
        ("candidate_manifest_sha256", .str input.candidateManifestSha256),
        ("strategy_snapshot_sha256", .str input.snapshotSha256),
        ("feature_receipt_sha256", .str input.featureReceiptSha256)],
      .obj [("stage", .str "FEATURE"), ("data_health", .str snapshot.dataHealth.value),
        ("health_reason_codes", .arr (snapshot.healthReasonCodes.map .str)),
        ("eligibility", .str snapshot.eligibility.value),
        ("feature_ids", .arr (input.featureReceipt.features.map fun f => .str f.featureId)),
        ("feature_statuses", .obj (input.featureReceipt.features.map fun f =>
          (f.featureId, .str f.status.value)))],
      .obj [("stage", .str "REASONER"), ("route_invoked", .bool routeInvoked),
        ("ablate_text", .bool ablateText),
        ("reasoner_exchange_sha256", .str (reasonerExchangeSha256 x)),
        ("status", .str x.status.value), ("error_code", textOrNull x.errorCode)],
      .obj [("stage", .str "VALIDATOR"), ("disposition", .str decision.disposition.value),
        ("reaction_relation", .str decision.reactionRelation.value),
        ("reason_codes", .arr (decision.reasonCodes.map .str))],
      .obj [("stage", .str "OUTPUT"), ("direction", .str decision.direction.value),
        ("reasoner_direction", textOrNull (decision.reasonerDirection.map Direction.value)),
        ("decision_sha256", .str (strategyDecisionSha256 decision))]])]

/-- One call of `decide`, with what the route does if this call invokes it. -/
structure Call where
  input : StrategyInput
  startedAt : DateTime
  ablateText : Bool
  answer : RouteAnswer

/-- How a call ends: whether the route was invoked, the keys that the engine then holds, and what
`decide` returns or raises. -/
structure Pass where
  invoked : Bool
  keys : List CallKey
  result : Except EngineError EngineOutcome

def outcome (call : Call) (routeInvoked : Bool) (x : ReasonerExchange)
    (decision : StrategyDecision) : EngineOutcome :=
  ⟨decision, x, decisionTracePayload call.input decision x routeInvoked call.ablateText,
    routeInvoked, call.ablateText⟩

def abort (identity : RouteIdentity) (call : Call) (code : EngineReason) :
    Except EngineError EngineOutcome := do
  let x ← abortedExchange identity call.input call.startedAt code
  let decision ← validateStrategyDecision call.input x none engineBuildSha256 (some code.value)
  return outcome call false x decision

/-- What follows the invocation of the route: the key is kept when the route returns. -/
def invoke (tooDeep : List UInt8 → Bool) (identity : RouteIdentity) (keys : List CallKey)
    (call : Call) : Pass :=
  let kept := callKey identity call.input :: keys
  match call.answer with
  | .raised => ⟨true, keys, .error .routeRaised⟩
  | .other => ⟨true, kept, .error .attributeError⟩
  | .result x raw => ⟨true, kept, do
      let decision ← validateReasonerResponse tooDeep call.input x raw engineBuildSha256
      return outcome call true x decision⟩

/-- `BoundedDecisionEngine.decide`. -/
def decide (tooDeep : List UInt8 → Bool) (identity : RouteIdentity) (keys : List CallKey)
    (call : Call) : Pass :=
  match preflightCode call.input call.startedAt with
  | .error e => ⟨false, keys, .error e⟩
  | .ok (some code) => ⟨false, keys, abort identity call code⟩
  | .ok none =>
    if keys.contains (callKey identity call.input) then
      ⟨false, keys, abort identity call .duplicateReasonerCall⟩
    else invoke tooDeep identity keys call

def passes (tooDeep : List UInt8 → Bool) (identity : RouteIdentity) :
    List CallKey → List Call → List (Call × Pass)
  | _, [] => []
  | keys, call :: calls =>
    let pass := decide tooDeep identity keys call
    (call, pass) :: passes tooDeep identity pass.keys calls

end EsscherMarket.Strategy.Engine
