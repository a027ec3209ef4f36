import EsscherMarket.Runtime.HardFlat

/-!
# The host command and the session scheduler

`run_autonomous_host_command` of `runtime/autonomous_host.py` drives a coordinator over a timeline of
observations; `run_paper_session` of `runtime/paper_scheduler.py` runs the command again over every
prefix of a timeline.  What is left of the validated authority are the arm and the identities.
-/

namespace EsscherMarket.Runtime

open Lib Prog

/-! ### Errors, backends and receipts -/

/-- The exceptions of a command: its own, and those of the session store that it lets through. -/
inductive HostError where
  | rejected (message : String)
  | session (e : SessionError)
  deriving DecidableEq, Repr

/-- What a backend raises: an `AutonomousHostBackendRejected` with its reason code, or another
exception. -/
inductive BackendFailure where
  | rejected (reasonCode : String)
  | other
  deriving DecidableEq, Repr

/-- The backends of a plan, behind their adapters. -/
structure HostBackends where
  reconcileWithTruth :
    ReconciliationRequest → Except BackendFailure (ReconciliationReceipt × String)
  collectDue : DueWindowRequest → Option (List AutonomousOpportunity)
  process : CandidateProcessingRequest → Option CandidateProcessingResult
  closeAndReconcile : LifecycleCloseRequest → Option LifecycleCloseResult

def HostBackends.ports (B : HostBackends) : Ports Unit where
  reconcile r _ := ((B.reconcileWithTruth r).toOption.map (·.1), ())
  collectDue r _ := (B.collectDue r, ())
  process r _ := (B.process r, ())
  closeAndReconcile r _ := (B.closeAndReconcile r, ())

inductive AutonomousHostDisposition where
  | terminal
  | manualReconciliationRequired
  | incomplete
  deriving DecidableEq, Repr

/-- The receipt of a command, without the fields that only repeat its authority.  `countedStates`
are the keys of the store's counts, which the encoder only checks. -/
structure AutonomousHostReceipt where
  sessionId : String
  disposition : AutonomousHostDisposition
  observedAt : DateTime
  requestedTimelineCount : Nat
  processedOpportunityIds : List String
  countedStates : List OpportunityState
  dispositionCounts : List (AutonomousDisposition × Nat)
  activeLifecycleIds : List String
  manualReasons : List String
  finalSummarySha256 : Option String
  reconciliationPhase : String
  reconciliationBrokerTruthSha256 : Option String
  terminalFlatProven : Bool
  deriving DecidableEq

/-- `_MANUAL_REASON_CODES`. -/
def manualReasonCodes : List String :=
  ["ACTIVITY_MANUAL_ROUTE", "ARM_IDENTITY_MISMATCH", "BLOCKED_RETRY_BUDGET_EXHAUSTED",
   "CLAIM_RECOVERY_UNKNOWN", "HARD_FLAT_UNRESOLVED", "LATE_WINDOW", "PARTIAL_FILL",
   "PORT_EXCEPTION", "PORT_OUTPUT_INVALID", "PREFLIGHT_NOT_PASSED",
   "PROVIDER_TIMEOUT_BEFORE_MUTATION", "PROVIDER_TIMEOUT_UNKNOWN_MUTATION",
   "RECONCILIATION_FAILED", "RECONCILIATION_IDENTITY_MISMATCH", "RECONCILIATION_INCOMPLETE",
   "RELEASE_STALE", "RISK_FREEZE", "ROUTE_NOT_APPROVED", "UNEXPECTED_ACTIVE_LIFECYCLE",
   "UNKNOWN_BROKER_STATE", "WINDOW_EXPIRED", "WINDOW_NOT_DUE"]

/-- Every text of a list passes, or the first that does not is named by its place. -/
def checkEach (ok : String → Bool) (path requirement : String) (texts : List String) :
    Except HostError Unit :=
  texts.zipIdx.forM fun (text, i) => throwIf (ok text = false)
    (.rejected (path ++ "[" ++ toString i ++ "] " ++ requirement))

def canonicalBoundedIdentitySet (path : String) (ids : List String) : Except HostError Unit := do
  checkEach isIdentifier path "must be a bounded identifier" ids
  throwIf (ids ≠ sortedSet ids) (.rejected (path ++ " must be sorted and unique"))

def canonicalManualReasonCodes (path : String) (codes : List String) : Except HostError Unit := do
  checkEach manualReasonCodes.contains path "must be an allowlisted reason code" codes
  throwIf (codes ≠ sortedSet codes) (.rejected (path ++ " must be sorted and unique"))

/-- `_canonical_disposition_counts`: every key is a disposition. -/
def canonicalDispositionCounts (path : String) (states : List OpportunityState) :
    Except HostError Unit :=
  throwIf (states.any fun state => state = .claimed)
    (.rejected (path ++ " contains an unsupported disposition"))

/-- `_digest` on an optional field. -/
def optionalDigest (path : String) : Option String → Except HostError Unit
  | none => .ok ()
  | some sha256 => throwIf (isLowerHex 64 sha256 = false)
      (.rejected (path ++ " must be a lowercase SHA-256 digest"))

def AutonomousHostReceipt.checkDisposition (v : AutonomousHostReceipt) : Except HostError Unit := do
  if v.disposition = .terminal then
    throwIf (v.reconciliationPhase ≠ "FINAL" ∨ v.reconciliationBrokerTruthSha256 = none ∨
        v.terminalFlatProven = false ∨ v.activeLifecycleIds ≠ [] ∨ v.manualReasons ≠ [])
      (.rejected "terminal receipt requires final flat truth and no active or manual state")
  else
    throwIf (v.terminalFlatProven = true)
      (.rejected "only a terminal receipt may assert terminal flatness")
  if v.disposition = .manualReconciliationRequired then
    throwIf (v.manualReasons = [])
      (.rejected "manual-required receipt must contain a stable manual reason")
  else
    throwIf (v.manualReasons ≠ [])
      (.rejected "manual reasons require the manual-required disposition")
  throwIf (v.disposition = .incomplete ∧ v.finalSummarySha256 ≠ none)
    (.rejected "incomplete receipt cannot contain a final summary")

/-- The checks of `AutonomousHostReceipt.create` and `_receipt_payload`. -/
def AutonomousHostReceipt.check (v : AutonomousHostReceipt) : Except HostError Unit := do
  canonicalDispositionCounts "receipt.disposition_counts" v.countedStates
  canonicalBoundedIdentitySet "receipt.processed_opportunity_ids" v.processedOpportunityIds
  canonicalBoundedIdentitySet "receipt.active_lifecycle_ids" v.activeLifecycleIds
  canonicalManualReasonCodes "receipt.manual_reasons" v.manualReasons
  throwIf (v.requestedTimelineCount = 0)
    (.rejected "receipt requested_timeline_count must be positive")
  optionalDigest "receipt.final_summary_sha256" v.finalSummarySha256
  optionalDigest "receipt.reconciliation_broker_truth_sha256" v.reconciliationBrokerTruthSha256
  throwIf (v.reconciliationPhase = "CHECKPOINT" ∧ v.finalSummarySha256 ≠ none)
    (.rejected "checkpoint receipt cannot contain a final summary")
  throwIf (v.reconciliationPhase = "FINAL" ∧ v.finalSummarySha256 = none)
    (.rejected "final receipt requires a final summary")
  v.checkDisposition

/-! ### The command -/

/-- `_utc` on the points of a timeline, each of which may be in any time zone. -/
def utcPoints (path requirement : String) (timeline : List DateTime) :
    Except HostError (List DateTime) := do
  timeline.zipIdx.forM fun (t, i) => throwIf (t.isAware = false)
    (.rejected (path ++ "[" ++ toString i ++ "] " ++ requirement))
  return timeline.map fun t => .utc t.micros

def validateTimeline (arm : AutonomousSessionArm) (timeline : List DateTime) :
    Except HostError (List DateTime) := do
  throwIf (timeline = [])
    (.rejected "observation_timeline must be a non-empty immutable tuple")
  let points ← utcPoints "observation_timeline" "must be timezone-aware" timeline
  throwIf (¬ (points.map (·.micros)).Pairwise (· < ·))
    (.rejected "observation_timeline must be strictly increasing and unique")
  throwIf ((points.headD arm.startsAt).micros < arm.startsAt.micros ∨
      arm.hardFlatAt.micros < (points.getLastD arm.startsAt).micros)
    (.rejected "observation_timeline must remain inside the armed session")
  return points

/-- One point of the timeline: a run that raises needs manual reconciliation. -/
def observe (K : Contracts) (c : Coordinator) (t : DateTime) : CoordinatorProg (List String) := do
  match ← (c.run K t).attempt with
  | .ok result => return result.processedOpportunityIds
  | .error _ => do
    markManual c.arm .portException t none none
    return []

def observeAll (K : Contracts) (c : Coordinator) :
    List DateTime → List String → CoordinatorProg (List String)
  | [], processed => return processed
  | t :: rest, processed => do
    let new ← observe K c t
    observeAll K c rest (processed ++ new)

def closingRequest (c : Coordinator) (points : List DateTime)
    (summary : Option AutonomousSessionSummary) (active : List String) : ReconciliationRequest :=
  { sessionId := c.arm.sessionId
    armSha256 := c.arm.armSha256
    accountFingerprintSha256 := c.accountFingerprintSha256
    executionProtocolSha256 := c.arm.executionProtocolSha256
    observedAt := (summary.map (·.finalizedAt)).getD (points.getLastD c.arm.startsAt)
    phase := if summary.isSome then "FINAL" else "CHECKPOINT"
    activeLifecycleIds := active }

def BackendFailure.reasonCode : BackendFailure → String
  | rejected reasonCode => reasonCode
  | other => "RECONCILIATION_FAILED"

def ReasonCode.ofText (code : String) : Option ReasonCode :=
  ReasonCode.all.find? fun reason => reason.value = code

/-- `mark_manual_reconciliation_required` with a code that is not known to be allowlisted. -/
def markManualCode (arm : AutonomousSessionArm) (code : String) (t : DateTime) :
    CoordinatorProg Unit :=
  match ReasonCode.ofText code with
  | some reason => markManual arm reason t none none
  | none => do
    let () ← transact (.ensureArm arm)
    raise (.armRejected "reason_code must be an allowlisted reason code")

/-- The reconciliation that ends a command: the digest of the broker's truth, or a manual mark. -/
def reconcileWithTruth (B : HostBackends) (c : Coordinator) (request : ReconciliationRequest) :
    CoordinatorProg (Option String) := do
  let _ ← perform (S := coordinatorSig) (.reconcile request)
  match B.reconcileWithTruth request with
  | .ok (_, truthSha256) => return some truthSha256
  | .error failure => do
    markManualCode c.arm failure.reasonCode request.observedAt
    return none

/-- What `reconcileWithTruth` does after the call. -/
def truthAfter (B : HostBackends) (c : Coordinator) (request : ReconciliationRequest) :
    CoordinatorProg (Option String) :=
  match B.reconcileWithTruth request with
  | .ok (_, truthSha256) => return some truthSha256
  | .error failure => do
    markManualCode c.arm failure.reasonCode request.observedAt
    return none

def hostDisposition (reasons : List String) (state : Option SessionState)
    (summary : Option AutonomousSessionSummary) (active : List String) (phase : String)
    (truth : Option String) : AutonomousHostDisposition :=
  if reasons ≠ [] ∨ state = some .manualReconciliationRequired then .manualReconciliationRequired
  else if (summary.map (·.terminalFlatProven)).getD false = true ∧ active = [] ∧ phase = "FINAL" ∧
      truth.isSome then .terminal
  else .incomplete

def AutonomousHostReceipt.create (c : Coordinator) (points : List DateTime)
    (processed : List String) (request : ReconciliationRequest) (truth : Option String)
    (summary : Option AutonomousSessionSummary) (active : List String) (reasons : List ReasonCode)
    (state : Option SessionState) (states : List OpportunityState)
    (counts : List (AutonomousDisposition × Nat)) : AutonomousHostReceipt :=
  let reasons := sortedSet (reasons.map (·.value))
  let disposition := hostDisposition reasons state summary active request.phase truth
  { sessionId := c.arm.sessionId
    disposition := disposition
    observedAt := request.observedAt
    requestedTimelineCount := points.length
    processedOpportunityIds := sortedSet processed
    countedStates := states
    dispositionCounts := counts
    activeLifecycleIds := active
    manualReasons := reasons
    finalSummarySha256 := summary.map (·.summarySha256)
    reconciliationPhase := request.phase
    reconciliationBrokerTruthSha256 := truth
    terminalFlatProven := decide (disposition = .terminal) &&
      (summary.map (·.terminalFlatProven)).getD false }

def hostReceipt (c : Coordinator) (points : List DateTime) (processed : List String)
    (request : ReconciliationRequest) (truth : Option String) :
    CoordinatorProg AutonomousHostReceipt := do
  let summary ← readStore (·.finalSummary c.arm.sessionId)
  let active ← readStore (·.activeLifecycleIds c.arm.sessionId)
  let reasons ← readStore (·.reasons c.arm.sessionId)
  let state ← readStore (·.sessionState c.arm.sessionId)
  let (states, counts) ← readStore fun s =>
    (s.countedStates c.arm.sessionId, s.dispositionCounts c.arm.sessionId)
  return .create c points processed request truth summary active reasons state states counts

/-- The end of a command: reconcile, and report. -/
def settle (B : HostBackends) (c : Coordinator) (points : List DateTime) (processed : List String) :
    CoordinatorProg AutonomousHostReceipt := do
  let summary ← readStore (·.finalSummary c.arm.sessionId)
  let active ← readStore (·.activeLifecycleIds c.arm.sessionId)
  let request := closingRequest c points summary active
  let truth ← reconcileWithTruth B c request
  hostReceipt c points processed request truth

/-- The points of a command are run unless the session has a final summary. -/
def observePoints (K : Contracts) (c : Coordinator) (points : List DateTime) :
    CoordinatorProg (List String) := do
  let existing ← readStore (·.finalSummary c.arm.sessionId)
  if existing.isSome then return [] else observeAll K c points []

/-- How the command reports an `ensure_arm` that raised. -/
def armConflict : SessionError → HostError
  | .storeConflict _ =>
    .rejected "durable autonomous state conflicts with the validated session arm"
  | e => .session e

abbrev HostProg (α : Type) : Type := Prog coordinatorSig HostError α

def runAutonomousHostCommand (K : Contracts) (B : HostBackends) (c : Coordinator)
    (timeline : List DateTime) : HostProg AutonomousHostReceipt := do
  let points ← ofExcept (validateTimeline c.arm timeline)
  let () ← mapError armConflict (transact (.ensureArm c.arm))
  let processed ← mapError .session (observePoints K c points)
  let receipt ← mapError .session (settle B c points processed)
  let () ← ofExcept receipt.check
  return receipt

/-! ### The scheduler -/

/-- The checks of `run_paper_session` on its timeline. -/
def sessionPoints (timeline : List DateTime) : Except HostError (List DateTime) := do
  timeline.forM fun t => throwIf (t.isAware = false)
    (.rejected "timeline must be timezone-aware UTC")
  let points := timeline.map fun t => DateTime.utc t.micros
  throwIf (points = []) (.rejected "session timeline must contain at least one observation")
  throwIf (¬ (points.map (·.micros)).Pairwise (· ≤ ·))
    (.rejected "session timeline must be chronological")
  return points

def AutonomousHostReceipt.stops (v : AutonomousHostReceipt) : Prop :=
  v.disposition = .manualReconciliationRequired ∨ v.disposition = .terminal

instance (v : AutonomousHostReceipt) : Decidable v.stops := inferInstanceAs (Decidable (_ ∨ _))

/-- The points that are left, after those that were already driven and the receipt they led to. -/
def drive (K : Contracts) (B : HostBackends) (c : Coordinator) (driven : List DateTime)
    (last : Option AutonomousHostReceipt) : List DateTime → HostProg AutonomousHostReceipt
  | [] => ofExcept (last.elim (.error (.session .assertion)) .ok)
  | point :: rest => do
    let receipt ← runAutonomousHostCommand K B c (driven ++ [point])
    if receipt.stops then return receipt
    else drive K B c (driven ++ [point]) (some receipt) rest

/-- `run_paper_session`: drive one armed session across its timeline and return the last receipt. -/
def runPaperSession (K : Contracts) (B : HostBackends) (c : Coordinator)
    (timeline : List DateTime) : HostProg AutonomousHostReceipt := do
  let points ← ofExcept (sessionPoints timeline)
  drive K B c [] none points

end EsscherMarket.Runtime
