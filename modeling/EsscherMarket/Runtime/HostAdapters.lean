import EsscherMarket.Runtime.Host

/-!
# The reconciliation adapter of the host

`HostReconciliationAdapter` of `runtime/autonomous_host.py` asks a backend for an observation and
turns it into a receipt and the digest of the broker's truth.  It refuses everything that is not a
complete observation of the request with a truth record of the plan's own class.

The two truth records have the same fields and differ in their schema: `BrokerTruth` carries its
class.
-/

namespace EsscherMarket.Runtime

open Lib

/-- The execution boundaries admitted by the autonomous host runner. -/
inductive HostExecutionClass where
  | syntheticFake
  | paperMcp
  deriving DecidableEq, Repr

def HostExecutionClass.truthSchema : HostExecutionClass → String
  | syntheticFake => "esscher.synthetic_broker_truth"
  | paperMcp => "esscher.paper_mcp_broker_truth"

inductive HostReconciliationStatus where
  | complete
  | incomplete
  | ambiguous
  deriving DecidableEq, Repr

/-- `SyntheticBrokerTruth` and `PaperMcpBrokerTruth`. -/
structure BrokerTruth where
  executionClass : HostExecutionClass
  sessionId : String
  sessionArmSha256 : String
  accountFingerprintSha256 : String
  executionProtocolSha256 : String
  observedAt : DateTime
  phase : String
  activeLifecycleIds : List String
  accountStateSha256 : String
  ordersStateSha256 : String
  positionsStateSha256 : String
  openOrderCount : Int
  openPositionCount : Int
  isFlat : Bool
  deriving DecidableEq

/-- The states and counts that a truth record adds to its request. -/
structure BrokerCounts where
  accountStateSha256 : String
  ordersStateSha256 : String
  positionsStateSha256 : String
  openOrderCount : Int
  openPositionCount : Int
  isFlat : Bool

/-- `for_request` of the truth records. -/
def BrokerTruth.forRequest (executionClass : HostExecutionClass) (request : ReconciliationRequest)
    (counts : BrokerCounts) : BrokerTruth where
  executionClass := executionClass
  sessionId := request.sessionId
  sessionArmSha256 := request.armSha256
  accountFingerprintSha256 := request.accountFingerprintSha256
  executionProtocolSha256 := request.executionProtocolSha256
  observedAt := request.observedAt
  phase := request.phase
  activeLifecycleIds := request.activeLifecycleIds
  accountStateSha256 := counts.accountStateSha256
  ordersStateSha256 := counts.ordersStateSha256
  positionsStateSha256 := counts.positionsStateSha256
  openOrderCount := counts.openOrderCount
  openPositionCount := counts.openPositionCount
  isFlat := counts.isFlat

/-! ### The content address of a truth record -/

/-- `_digest` of the host. -/
def hostDigest (value path : String) : Except HostError Unit :=
  throwIf (isLowerHex 64 value = false) (.rejected (path ++ " must be a lowercase SHA-256 digest"))

/-- `_identifier` of the host. -/
def hostIdentifier (value path : String) : Except HostError Unit :=
  throwIf (isExactText value = false) (.rejected (path ++ " must be non-empty exact text"))

/-- `_timestamp_text` of the host: a fraction is written without its trailing zeros. -/
def hostTimestampText (t : DateTime) : String :=
  let text := (DateTime.utc t.micros).isoformatZ
  if t.micros % DateTime.microsPerSecond = 0 then text
  else
    let digits := (text.toList.dropLast.reverse.dropWhile fun c => c = '0').reverse
    String.ofList (digits ++ ['Z'])

example : hostTimestampText (.utc 1767225599500000) = "2025-12-31T23:59:59.5Z" := by decide

def BrokerTruth.expectedFlat (v : BrokerTruth) : Bool :=
  v.activeLifecycleIds.isEmpty && v.openOrderCount == 0 && v.openPositionCount == 0

/-- The checks of `_broker_truth_payload`. -/
def BrokerTruth.check (v : BrokerTruth) : Except HostError Unit := do
  canonicalBoundedIdentitySet "broker_truth.active_lifecycle_ids" v.activeLifecycleIds
  throwIf (v.openOrderCount < 0)
    (.rejected "broker_truth.open_order_count must be a non-negative integer")
  throwIf (v.openPositionCount < 0)
    (.rejected "broker_truth.open_position_count must be a non-negative integer")
  throwIf (v.isFlat ≠ v.expectedFlat)
    (.rejected "broker truth flatness disagrees with active identities and open counts")
  throwIf (v.activeLifecycleIds ≠ [] ∧ v.openPositionCount = 0)
    (.rejected "active synthetic lifecycles require a nonzero open position count")
  hostDigest v.accountFingerprintSha256 "broker_truth.account_fingerprint_sha256"
  hostDigest v.accountStateSha256 "broker_truth.account_state_sha256"
  hostDigest v.executionProtocolSha256 "broker_truth.execution_protocol_sha256"
  throwIf (v.observedAt.isAware = false)
    (.rejected "broker_truth.observed_at must be timezone-aware")
  hostDigest v.ordersStateSha256 "broker_truth.orders_state_sha256"
  hostIdentifier v.phase "broker_truth.phase"
  hostDigest v.positionsStateSha256 "broker_truth.positions_state_sha256"
  hostDigest v.sessionArmSha256 "broker_truth.session_arm_sha256"
  hostIdentifier v.sessionId "broker_truth.session_id"

def BrokerTruth.payload (v : BrokerTruth) : Json :=
  .obj [
    ("account_fingerprint_sha256", .str v.accountFingerprintSha256),
    ("account_state_sha256", .str v.accountStateSha256),
    ("active_lifecycle_ids", .arr (v.activeLifecycleIds.map .str)),
    ("execution_protocol_sha256", .str v.executionProtocolSha256),
    ("is_flat", .bool v.isFlat),
    ("observed_at", .str (hostTimestampText v.observedAt)),
    ("open_order_count", .int v.openOrderCount),
    ("open_position_count", .int v.openPositionCount),
    ("orders_state_sha256", .str v.ordersStateSha256),
    ("phase", .str v.phase),
    ("positions_state_sha256", .str v.positionsStateSha256),
    ("schema", .str v.executionClass.truthSchema),
    ("schema_version", .int 1),
    ("session_arm_sha256", .str v.sessionArmSha256),
    ("session_id", .str v.sessionId)]

def BrokerTruth.recordSha256 (v : BrokerTruth) : Except HostError String := do
  v.check
  return v.payload.sha256

/-! ### Observations -/

/-- An observation; its truth is `none` when it is a record of neither class. -/
structure HostReconciliationObservation where
  sessionId : String
  armSha256 : String
  accountFingerprintSha256 : String
  executionProtocolSha256 : String
  observedAt : DateTime
  phase : String
  activeLifecycleIds : List String
  status : HostReconciliationStatus
  brokerTruth : Option BrokerTruth
  deriving DecidableEq

/-- `HostReconciliationObservation.complete`. -/
def HostReconciliationObservation.complete (request : ReconciliationRequest) (truth : BrokerTruth) :
    HostReconciliationObservation where
  sessionId := request.sessionId
  armSha256 := request.armSha256
  accountFingerprintSha256 := request.accountFingerprintSha256
  executionProtocolSha256 := request.executionProtocolSha256
  observedAt := request.observedAt
  phase := request.phase
  activeLifecycleIds := request.activeLifecycleIds
  status := .complete
  brokerTruth := some truth

/-- What a reconciliation backend does with a request: it raises an `AutonomousHostBackendRejected`
or another exception, or it returns an observation or something untyped. -/
inductive ReconciliationAnswer where
  | rejected (reasonCode : String)
  | raised
  | untyped
  | observed (observation : HostReconciliationObservation)
  deriving DecidableEq

/-! ### The adapter -/

/-- `ReconciliationReceipt.complete`. -/
def ReconciliationReceipt.ofComplete (request : ReconciliationRequest) :
    Checked ReconciliationReceipt := do
  let receipt ← SanitizedIdentityReceipt.create
    ("RECON-" ++ String.ofList (request.armSha256.toList.take 16)) request.sessionId
    request.armSha256 request.observedAt "RECONCILIATION_COMPLETE" none
  return {
    sessionId := request.sessionId
    armSha256 := request.armSha256
    accountFingerprintSha256 := request.accountFingerprintSha256
    executionProtocolSha256 := request.executionProtocolSha256
    observedAt := request.observedAt
    status := .complete
    activeLifecycleIds := request.activeLifecycleIds.insertionSort (· ≤ ·)
    receipt := receipt }

def HostReconciliationObservation.checkIdentity (o : HostReconciliationObservation)
    (request : ReconciliationRequest) : Except BackendFailure Unit := do
  throwIf (o.activeLifecycleIds ≠ sortedSet o.activeLifecycleIds)
    (.rejected "RECONCILIATION_IDENTITY_MISMATCH")
  throwIf (o.sessionId ≠ request.sessionId ∨ o.armSha256 ≠ request.armSha256 ∨
      o.accountFingerprintSha256 ≠ request.accountFingerprintSha256 ∨
      o.executionProtocolSha256 ≠ request.executionProtocolSha256 ∨
      sameInstant o.observedAt request.observedAt = false ∨ o.phase ≠ request.phase ∨
      o.activeLifecycleIds ≠ request.activeLifecycleIds ∨ o.status ≠ .complete)
    (.rejected "RECONCILIATION_IDENTITY_MISMATCH")

def BrokerTruth.checkRequest (v : BrokerTruth) (request : ReconciliationRequest) :
    Except BackendFailure Unit := do
  throwIf (v.sessionId ≠ request.sessionId ∨ v.sessionArmSha256 ≠ request.armSha256 ∨
      v.accountFingerprintSha256 ≠ request.accountFingerprintSha256 ∨
      v.executionProtocolSha256 ≠ request.executionProtocolSha256 ∨
      sameInstant v.observedAt request.observedAt = false ∨ v.phase ≠ request.phase ∨
      v.activeLifecycleIds ≠ request.activeLifecycleIds)
    (.rejected "RECONCILIATION_IDENTITY_MISMATCH")
  throwIf (v.isFlat ≠ request.activeLifecycleIds.isEmpty) (.rejected "RECONCILIATION_INCOMPLETE")
  throwIf (request.phase = "FINAL" ∧ (v.activeLifecycleIds ≠ [] ∨ v.openOrderCount ≠ 0 ∨
      v.openPositionCount ≠ 0 ∨ v.isFlat = false)) (.rejected "RECONCILIATION_INCOMPLETE")

/-- The part of `reconcile_with_truth` after the status of the observation. -/
def HostReconciliationObservation.receipt (executionClass : HostExecutionClass)
    (request : ReconciliationRequest) (o : HostReconciliationObservation) :
    Except BackendFailure (ReconciliationReceipt × String) := do
  o.checkIdentity request
  match o.brokerTruth with
  | none => .error (.rejected "PORT_OUTPUT_INVALID")
  | some truth => do
    throwIf (truth.executionClass ≠ executionClass) (.rejected "PORT_OUTPUT_INVALID")
    let truthSha256 ← truth.recordSha256.mapError fun _ => .rejected "PORT_OUTPUT_INVALID"
    truth.checkRequest request
    let receipt ← (ReconciliationReceipt.ofComplete request).mapError fun _ => .other
    return (receipt, truthSha256)

/-- The reconciliation backend of a plan, and the class of the plan. -/
structure HostReconciler where
  executionClass : HostExecutionClass
  observeReconciliation : ReconciliationRequest → ReconciliationAnswer

/-- `HostReconciliationAdapter.reconcile_with_truth`. -/
def HostReconciler.reconcileWithTruth (R : HostReconciler) (request : ReconciliationRequest) :
    Except BackendFailure (ReconciliationReceipt × String) :=
  match R.observeReconciliation request with
  | .rejected reasonCode => .error (.rejected reasonCode)
  | .raised => .error .other
  | .untyped => .error (.rejected "PORT_OUTPUT_INVALID")
  | .observed o =>
    match o.status with
    | .incomplete => .error (.rejected "RECONCILIATION_INCOMPLETE")
    | .ambiguous => .error (.rejected "RECONCILIATION_FAILED")
    | .complete => o.receipt R.executionClass request

/-- Backends whose reconciliation goes through the adapter. -/
def HostBackends.reconciledBy (B : HostBackends) (R : HostReconciler) : HostBackends :=
  { B with reconcileWithTruth := R.reconcileWithTruth }

/-! ### What the adapter has seen -/

structure HostReconciler.Accepted (R : HostReconciler) (request : ReconciliationRequest)
    (observation : HostReconciliationObservation) (truth : BrokerTruth) (sha256 : String) : Prop where
  observed : R.observeReconciliation request = .observed observation
  phase : observation.phase = request.phase
  typed : observation.brokerTruth = some truth
  digest : sha256 = truth.payload.sha256
  ids : truth.activeLifecycleIds = request.activeLifecycleIds
  flat : truth.isFlat = request.activeLifecycleIds.isEmpty
  final : request.phase = "FINAL" →
    truth.isFlat = true ∧ truth.openOrderCount = 0 ∧ truth.openPositionCount = 0

theorem HostReconciliationObservation.receipt_ok {executionClass : HostExecutionClass}
    {request : ReconciliationRequest} {o : HostReconciliationObservation}
    {answer : ReconciliationReceipt × String} (h : o.receipt executionClass request = .ok answer) :
    ∃ truth, o.brokerTruth = some truth ∧ o.checkIdentity request = .ok () ∧
      truth.recordSha256 = .ok answer.2 ∧ truth.checkRequest request = .ok () := by
  obtain ⟨_, hidentity, h⟩ := except_bind_eq_ok.mp h
  cases htruth : o.brokerTruth with
  | none =>
    rw [htruth] at h
    cases h
  | some truth =>
    rw [htruth] at h
    simp only [except_bind_eq_ok, except_mapError_eq_ok, throwIf_eq_ok] at h
    obtain ⟨_, -, sha256, hsha, _, hrequest, receipt, -, h⟩ := h
    cases h
    exact ⟨truth, rfl, hidentity, hsha, hrequest⟩

theorem HostReconciler.accepted {R : HostReconciler} {request : ReconciliationRequest}
    {answer : ReconciliationReceipt × String} (h : R.reconcileWithTruth request = .ok answer) :
    ∃ observation truth, R.Accepted request observation truth answer.2 := by
  unfold HostReconciler.reconcileWithTruth at h
  cases hobserve : R.observeReconciliation request with
  | observed o =>
    rw [hobserve] at h
    cases hstatus : o.status with
    | complete =>
      simp only [hstatus] at h
      obtain ⟨truth, htruth, hidentity, hsha, hrequest⟩ :=
        HostReconciliationObservation.receipt_ok h
      simp only [HostReconciliationObservation.checkIdentity, except_bind_eq_ok, throwIf_eq_ok,
        not_or, not_not] at hidentity
      obtain ⟨_, -, -, -, -, -, -, hphase, -⟩ := hidentity
      obtain ⟨_, -, hsha⟩ := except_bind_eq_ok.mp hsha
      simp only [BrokerTruth.checkRequest, except_bind_eq_ok, throwIf_eq_ok, not_or, not_and,
        not_not] at hrequest
      obtain ⟨_, ⟨-, -, -, -, -, -, hids⟩, _, hflat, hfinal⟩ := hrequest
      refine ⟨o, truth, hobserve, hphase, htruth, (Except.ok.inj hsha).symm, hids, hflat, ?_⟩
      intro hphase
      obtain ⟨-, horders, hpositions, hisFlat⟩ := hfinal hphase
      exact ⟨by simpa using hisFlat, horders, hpositions⟩
    | incomplete =>
      simp only [hstatus] at h
      cases h
    | ambiguous =>
      simp only [hstatus] at h
      cases h
  | rejected code =>
    rw [hobserve] at h
    cases h
  | raised =>
    rw [hobserve] at h
    cases h
  | untyped =>
    rw [hobserve] at h
    cases h

end EsscherMarket.Runtime
