import EsscherMarket.Lib.Prog
import EsscherMarket.Runtime.StoreSteps

/-!
# The session coordinator

`AutonomousSessionCoordinator` of `runtime/autonomous.py`, as a program over the transactions and
reads of the session store and over the calls of its ports.  A port answers with a typed value or
not at all: `none` is a port that raised or that returned something else.

What a port returns is checked (`validateReconciliation`, `validateProcessingResult`,
`validateCloseResult`) before it is used.
-/

namespace EsscherMarket.Runtime

open Lib Prog

/-! ### Receipts -/

/-- Whether a candidate processor can prove it did not or did mutate state. -/
inductive MutationState where
  | notAttempted
  | confirmed
  | unknown
  | partialFill
  deriving DecidableEq, Repr

def MutationState.value : MutationState → String
  | notAttempted => "NOT_ATTEMPTED"
  | confirmed => "CONFIRMED"
  | unknown => "UNKNOWN"
  | partialFill => "PARTIAL"

inductive ReconciliationStatus where
  | complete
  | failed
  deriving DecidableEq, Repr

def optionalText : Option String → Json
  | none => .null
  | some s => .str s

/-- Closed receipt metadata: IDs, hashes, UTC time, and no arbitrary text. -/
structure SanitizedIdentityReceipt where
  receiptId : String
  subjectId : String
  subjectSha256 : String
  observedAt : DateTime
  status : String
  reasonCode : Option ReasonCode
  receiptSha256 : String
  deriving DecidableEq

namespace SanitizedIdentityReceipt

def payload (v : SanitizedIdentityReceipt) : Json :=
  .obj [
    ("observed_at", .str v.observedAt.isoformatZ),
    ("reason_code", optionalText (v.reasonCode.map (·.value))),
    ("receipt_id", .str v.receiptId),
    ("schema", .str "esscher.autonomous_sanitized_receipt"),
    ("schema_version", .int 1),
    ("status", .str v.status),
    ("subject_id", .str v.subjectId),
    ("subject_sha256", .str v.subjectSha256)]

/-- The checks of `_receipt_unsigned_payload`. -/
def check (v : SanitizedIdentityReceipt) : Checked Unit := do
  let _ ← utcDatetime v.observedAt "receipt.observed_at"
  identifier v.receiptId "receipt.receipt_id"
  identifier v.status "receipt.status"
  identifier v.subjectId "receipt.subject_id"
  digest v.subjectSha256 "receipt.subject_sha256"

/-- `SanitizedIdentityReceipt.create`. -/
def create (receiptId subjectId subjectSha256 : String) (observedAt : DateTime) (status : String)
    (reasonCode : Option ReasonCode) : Checked SanitizedIdentityReceipt := do
  let draft : SanitizedIdentityReceipt :=
    ⟨receiptId, subjectId, subjectSha256, observedAt, status, reasonCode, ""⟩
  draft.check
  return { draft with receiptSha256 := draft.payload.sha256 }

def validate (v : SanitizedIdentityReceipt) (subjectId subjectSha256 status : String)
    (reasonCode : Option ReasonCode) : Checked Unit := do
  v.check
  throwIf (v.receiptSha256 ≠ v.payload.sha256) (.armRejected "receipt hash is invalid")
  throwIf (v.subjectId ≠ subjectId ∨ v.subjectSha256 ≠ subjectSha256 ∨ v.status ≠ status ∨
      v.reasonCode ≠ reasonCode)
    (.armRejected "receipt is not attributable to its typed result")

end SanitizedIdentityReceipt

/-! ### Reconciliation -/

structure ReconciliationRequest where
  sessionId : String
  armSha256 : String
  accountFingerprintSha256 : String
  executionProtocolSha256 : String
  observedAt : DateTime
  phase : String
  activeLifecycleIds : List String
  deriving DecidableEq

structure ReconciliationReceipt where
  sessionId : String
  armSha256 : String
  accountFingerprintSha256 : String
  executionProtocolSha256 : String
  observedAt : DateTime
  status : ReconciliationStatus
  activeLifecycleIds : List String
  receipt : SanitizedIdentityReceipt
  deriving DecidableEq

/-- `==` of two datetimes: a naive one is never equal to an aware one. -/
def sameInstant (t t' : DateTime) : Bool := t.micros == t'.micros && t.isAware == t'.isAware

def validateReconciliation (v : ReconciliationReceipt) (request : ReconciliationRequest) :
    Checked Unit := do
  throwIf (v.sessionId ≠ request.sessionId ∨ v.armSha256 ≠ request.armSha256 ∨
      v.accountFingerprintSha256 ≠ request.accountFingerprintSha256 ∨
      v.executionProtocolSha256 ≠ request.executionProtocolSha256 ∨
      sameInstant v.observedAt request.observedAt = false ∨ v.status ≠ .complete)
    (.armRejected "reconciliation is incomplete or not attributable to this armed session")
  v.activeLifecycleIds.forM fun id => identifier id "reconciliation.active_lifecycle_ids"
  throwIf (v.activeLifecycleIds ≠ sortedSet v.activeLifecycleIds)
    (.armRejected "reconciliation active lifecycle identities are not canonical")
  throwIf (v.activeLifecycleIds ≠ request.activeLifecycleIds)
    (.armRejected "reconciliation active lifecycle identities do not match durable state")
  v.receipt.validate request.sessionId request.armSha256 "RECONCILIATION_COMPLETE" none

/-! ### Candidates -/

structure CandidateProcessingRequest where
  arm : AutonomousSessionArm
  opportunity : AutonomousOpportunity
  observedAt : DateTime
  deriving DecidableEq

structure CandidateProcessingResult where
  sessionId : String
  opportunityId : String
  opportunitySha256 : String
  disposition : AutonomousDisposition
  mutationState : MutationState
  freeze : Bool
  activeLifecycle : Option ActiveLifecycleIdentity
  terminalFlatProofSha256 : Option String
  reasonCode : Option ReasonCode
  receipt : SanitizedIdentityReceipt
  resultSha256 : String
  deriving DecidableEq

def CandidateProcessingResult.payload (v : CandidateProcessingResult) : Json :=
  .obj [
    ("active_lifecycle_sha256", optionalText (v.activeLifecycle.map (·.lifecycleSha256))),
    ("disposition", .str v.disposition.value),
    ("freeze", .bool v.freeze),
    ("mutation_state", .str v.mutationState.value),
    ("opportunity_id", .str v.opportunityId),
    ("opportunity_sha256", .str v.opportunitySha256),
    ("reason_code", optionalText (v.reasonCode.map (·.value))),
    ("receipt_sha256", .str v.receipt.receiptSha256),
    ("schema", .str "esscher.autonomous_candidate_result"),
    ("schema_version", .int 1),
    ("session_id", .str v.sessionId),
    ("terminal_flat_proof_sha256", optionalText v.terminalFlatProofSha256)]

def validateResultLifecycle (v : CandidateProcessingResult) (request : CandidateProcessingRequest) :
    Checked Unit :=
  match v.activeLifecycle with
  | none => .ok ()
  | some l => do
    l.check
    throwIf (l.sessionId ≠ request.arm.sessionId ∨
        l.opportunityId ≠ request.opportunity.opportunityId ∨
        l.opportunitySha256 ≠ request.opportunity.opportunitySha256)
      (.armRejected "candidate active lifecycle identity mismatch")

def validateResultShape (v : CandidateProcessingResult) : Checked Unit :=
  match v.disposition with
  | .abstained | .rejectedBeforeMutation =>
    throwIf (v.mutationState ≠ .notAttempted ∨ v.activeLifecycle ≠ none ∨
        v.terminalFlatProofSha256 ≠ none ∨ v.reasonCode = none)
      (.armRejected "pre-mutation candidate result is inconsistent")
  | .terminalFlat => do
    throwIf (v.mutationState ≠ .confirmed ∨ v.freeze = true ∨ v.activeLifecycle ≠ none ∨
        v.terminalFlatProofSha256 = none ∨ v.reasonCode ≠ none)
      (.armRejected "terminal-flat candidate result is inconsistent")
    digest (v.terminalFlatProofSha256.getD "") "terminal_flat_proof_sha256"
  | .manualReconciliationRequired =>
    throwIf ((v.mutationState ≠ .unknown ∧ v.mutationState ≠ .partialFill) ∨ v.freeze = true ∨
        v.activeLifecycle ≠ none ∨ v.terminalFlatProofSha256 ≠ none ∨ v.reasonCode = none)
      (.armRejected "manual candidate result is inconsistent")
  | .active =>
    throwIf (v.mutationState ≠ .confirmed ∨ v.freeze = true ∨ v.activeLifecycle = none ∨
        v.terminalFlatProofSha256 ≠ none ∨ v.reasonCode ≠ none)
      (.armRejected "active candidate result is inconsistent")

def validateProcessingResult (v : CandidateProcessingResult) (request : CandidateProcessingRequest) :
    Checked Unit := do
  throwIf (v.sessionId ≠ request.arm.sessionId ∨
      v.opportunityId ≠ request.opportunity.opportunityId ∨
      v.opportunitySha256 ≠ request.opportunity.opportunitySha256)
    (.armRejected "candidate result is not attributable to its exact opportunity")
  throwIf (v.resultSha256 ≠ v.payload.sha256) (.armRejected "candidate result hash is invalid")
  v.receipt.validate request.opportunity.opportunityId request.opportunity.opportunitySha256
    ("CANDIDATE_" ++ v.disposition.value) v.reasonCode
  validateResultLifecycle v request
  validateResultShape v

/-! ### Lifecycle closes -/

structure LifecycleCloseRequest where
  arm : AutonomousSessionArm
  lifecycle : ActiveLifecycleIdentity
  observedAt : DateTime
  deriving DecidableEq

structure LifecycleCloseResult where
  sessionId : String
  lifecycleId : String
  lifecycleSha256 : String
  disposition : AutonomousDisposition
  mutationState : MutationState
  terminalFlatProofSha256 : Option String
  reasonCode : Option ReasonCode
  receipt : SanitizedIdentityReceipt
  resultSha256 : String
  deriving DecidableEq

def LifecycleCloseResult.payload (v : LifecycleCloseResult) : Json :=
  .obj [
    ("disposition", .str v.disposition.value),
    ("lifecycle_id", .str v.lifecycleId),
    ("lifecycle_sha256", .str v.lifecycleSha256),
    ("mutation_state", .str v.mutationState.value),
    ("reason_code", optionalText (v.reasonCode.map (·.value))),
    ("receipt_sha256", .str v.receipt.receiptSha256),
    ("schema", .str "esscher.autonomous_lifecycle_close_result"),
    ("schema_version", .int 1),
    ("session_id", .str v.sessionId),
    ("terminal_flat_proof_sha256", optionalText v.terminalFlatProofSha256)]

def validateCloseShape (v : LifecycleCloseResult) : Checked Unit :=
  match v.disposition with
  | .terminalFlat => do
    throwIf (v.mutationState ≠ .confirmed ∨ v.terminalFlatProofSha256 = none ∨
        v.reasonCode ≠ none)
      (.armRejected "terminal lifecycle close result is inconsistent")
    digest (v.terminalFlatProofSha256.getD "") "close.terminal_flat_proof_sha256"
  | .manualReconciliationRequired =>
    throwIf ((v.mutationState ≠ .unknown ∧ v.mutationState ≠ .partialFill) ∨
        v.terminalFlatProofSha256 ≠ none ∨ v.reasonCode = none)
      (.armRejected "manual lifecycle close result is inconsistent")
  | _ => .error (.armRejected "lifecycle closer returned an unsupported disposition")

def validateCloseResult (v : LifecycleCloseResult) (request : LifecycleCloseRequest) :
    Checked Unit := do
  throwIf (v.sessionId ≠ request.arm.sessionId ∨ v.lifecycleId ≠ request.lifecycle.lifecycleId ∨
      v.lifecycleSha256 ≠ request.lifecycle.lifecycleSha256 ∨ v.resultSha256 ≠ v.payload.sha256)
    (.armRejected "lifecycle close result is not attributable to its active identity")
  v.receipt.validate request.lifecycle.lifecycleId request.lifecycle.lifecycleSha256
    ("LIFECYCLE_" ++ v.disposition.value) v.reasonCode
  validateCloseShape v

/-! ### Operations -/

structure DueWindowRequest where
  arm : AutonomousSessionArm
  window : AutonomousWindow
  observedAt : DateTime
  deriving DecidableEq

/-- One atomic operation of a coordinator: a transaction of the store, a read of it, or the call of
a port. -/
inductive CoordinatorOp where
  | store (op : StoreOp)
  | read
  | reconcile (request : ReconciliationRequest)
  | collectDue (request : DueWindowRequest)
  | process (request : CandidateProcessingRequest)
  | closeAndReconcile (request : LifecycleCloseRequest)

def CoordinatorOp.Res : CoordinatorOp → Type
  | store op => Except SessionError op.Res
  | read => SessionStore
  | reconcile _ => Option ReconciliationReceipt
  | collectDue _ => Option (List AutonomousOpportunity)
  | process _ => Option CandidateProcessingResult
  | closeAndReconcile _ => Option LifecycleCloseResult

def coordinatorSig : Signature := ⟨CoordinatorOp, CoordinatorOp.Res⟩

abbrev CoordinatorProg (α : Type) : Type := Prog coordinatorSig SessionError α

def transact (op : StoreOp) : CoordinatorProg op.Res := do
  let r ← perform (S := coordinatorSig) (.store op)
  ofExcept r

def readStore {α : Type} (f : SessionStore → α) : CoordinatorProg α := do
  let s ← perform (S := coordinatorSig) .read
  return f s

/-! The store's operations as the coordinator calls them. -/

def claimOpportunity (arm : AutonomousSessionArm) (o : AutonomousOpportunity) (t : DateTime) :
    CoordinatorProg AutonomousClaimState := do
  let () ← transact (.ensureArm arm)
  transact (.claim arm o t)

def recordTerminalFlat (arm : AutonomousSessionArm) (o : AutonomousOpportunity) (proof : String)
    (t : DateTime) : CoordinatorProg Unit := do
  let () ← transact (.ensureArm arm)
  transact (.terminalFlat arm o proof t)

def recordDisposition (arm : AutonomousSessionArm) (o : AutonomousOpportunity)
    (d : AutonomousDisposition) (t : DateTime) : CoordinatorProg Unit := do
  let d ← ofExcept (recordable d)
  let () ← transact (.ensureArm arm)
  transact (.disposition arm o d t)

def recordActiveLifecycle (arm : AutonomousSessionArm) (o : AutonomousOpportunity)
    (l : ActiveLifecycleIdentity) (t : DateTime) : CoordinatorProg Unit := do
  let () ← transact (.ensureArm arm)
  transact (.active arm o l t)

def recordLifecycleTerminalFlat (arm : AutonomousSessionArm) (l : ActiveLifecycleIdentity)
    (proof : String) (t : DateTime) : CoordinatorProg Unit := do
  let () ← transact (.ensureArm arm)
  transact (.lifecycleTerminalFlat arm l proof t)

def markManual (arm : AutonomousSessionArm) (reason : ReasonCode) (t : DateTime)
    (opportunityId lifecycleId : Option String) : CoordinatorProg Unit := do
  let () ← transact (.ensureArm arm)
  transact (.manual arm reason t opportunityId lifecycleId)

def finalizeSession (arm : AutonomousSessionArm) (t : DateTime) :
    CoordinatorProg AutonomousSessionSummary := do
  let () ← transact (.ensureArm arm)
  transact (.finalize arm t)

/-! ### Runs -/

/-- A coordinator for an arm, with the identities of the release and the account it runs as. -/
structure Coordinator where
  arm : AutonomousSessionArm
  releaseCodeSha256 : String
  accountFingerprintSha256 : String
  release_digest : isLowerHex 64 releaseCodeSha256 = true
  account_digest : isLowerHex 64 accountFingerprintSha256 = true

structure AutonomousRunResult where
  sessionId : String
  armSha256 : String
  observedAt : DateTime
  processedOpportunityIds : List String
  dispositionCounts : List (AutonomousDisposition × Nat)
  manualReasons : List ReasonCode
  deriving DecidableEq

/-- `AutonomousRunResult.from_store`. -/
def fromStore (arm : AutonomousSessionArm) (t : DateTime) (processed : List String) :
    CoordinatorProg AutonomousRunResult := do
  let counts ← readStore (·.dispositionCounts arm.sessionId)
  let reasons ← readStore (·.reasons arm.sessionId)
  return ⟨arm.sessionId, arm.armSha256, t, processed, counts, reasons⟩

def accepted {α : Type} (check : α → Checked Unit) (r : Option α) : Option α :=
  r.filter fun v => (check v).isOk

def validateBeforePorts (K : Contracts) (c : Coordinator) : Checked Unit := do
  validateArm K c.arm
  throwIf (c.arm.releaseCodeSha256 ≠ c.releaseCodeSha256 ∨
      c.arm.accountFingerprintSha256 ≠ c.accountFingerprintSha256)
    (.coordinatorRejected "runtime release/account identity does not match the arm")

def closeLifecycle (arm : AutonomousSessionArm) (t : DateTime) (l : ActiveLifecycleIdentity) :
    CoordinatorProg Unit := do
  let request : LifecycleCloseRequest := ⟨arm, l, t⟩
  let answer ← perform (S := coordinatorSig) (.closeAndReconcile request)
  match accepted (validateCloseResult · request) answer with
  | none => markManual arm .hardFlatUnresolved t (some l.opportunityId) (some l.lifecycleId)
  | some result =>
    if result.disposition = .terminalFlat then
      recordLifecycleTerminalFlat arm l (result.terminalFlatProofSha256.getD "") t
    else
      markManual arm (result.reasonCode.getD .hardFlatUnresolved) t (some l.opportunityId)
        (some l.lifecycleId)

def closeLifecycles (arm : AutonomousSessionArm) (t : DateTime) :
    List ActiveLifecycleIdentity → CoordinatorProg Unit
  | [] => return ()
  | l :: rest => do
    closeLifecycle arm t l
    closeLifecycles arm t rest

def runHardFlat (arm : AutonomousSessionArm) (t : DateTime) :
    CoordinatorProg AutonomousRunResult := do
  let summary ← readStore (·.finalSummary arm.sessionId)
  if summary.isSome then fromStore arm t []
  else do
    let active ← readStore (·.activeLifecycles arm.sessionId)
    let active ← ofExcept active
    closeLifecycles arm t active
    let remaining ← readStore (·.activeLifecycleIds arm.sessionId)
    if remaining ≠ [] then markManual arm .hardFlatUnresolved t none none
    let _ ← finalizeSession arm t
    fromStore arm t []

/-- An opportunity that was already returned was returned with the same bytes. -/
def checkPrior (unique : List AutonomousOpportunity) (o : AutonomousOpportunity) : Checked Unit :=
  match unique.find? fun prior => prior.opportunityId = o.opportunityId with
  | none => .ok ()
  | some prior => throwIf (prior.opportunitySha256 ≠ o.opportunitySha256)
      (.coordinatorRejected "collector returned conflicting opportunity identities")

/-- The opportunities of one window by identity: the later of two with the same bytes, and a raise
for two with different bytes. -/
def uniqueOpportunities (K : Contracts) (arm : AutonomousSessionArm) (window : AutonomousWindow) :
    List AutonomousOpportunity → List AutonomousOpportunity → Checked (List AutonomousOpportunity)
  | [], unique => .ok unique
  | o :: rest, unique => do
    validateOpportunity K o arm
    throwIf (o.windowId ≠ window.windowId)
      (.coordinatorRejected "collector returned an opportunity for a different window")
    checkPrior unique o
    uniqueOpportunities K arm window rest
      (unique.filter (fun prior => prior.opportunityId ≠ o.opportunityId) ++ [o])

/-- How the processing of candidates goes on: with the next one, or with an early return. -/
inductive Flow where
  | next (processed : List String)
  | stop (processed : List String)

def Flow.processed : Flow → List String
  | next processed => processed
  | stop processed => processed

def recordResult (arm : AutonomousSessionArm) (o : AutonomousOpportunity) (t : DateTime)
    (result : CandidateProcessingResult) : CoordinatorProg Unit :=
  match result.disposition with
  | .terminalFlat => recordTerminalFlat arm o (result.terminalFlatProofSha256.getD "") t
  | .active =>
    match result.activeLifecycle with
    | none => raise .assertion
    | some l => recordActiveLifecycle arm o l t
  | d => recordDisposition arm o d t

def processOpportunity (arm : AutonomousSessionArm) (t : DateTime) (processed : List String)
    (o : AutonomousOpportunity) : CoordinatorProg Flow := do
  let claim ← claimOpportunity arm o t
  if claim ≠ .claimed then return .next processed
  else do
    let request : CandidateProcessingRequest := ⟨arm, o, t⟩
    let answer ← perform (S := coordinatorSig) (.process request)
    match accepted (validateProcessingResult · request) answer with
    | none => do
      markManual arm .claimRecoveryUnknown t (some o.opportunityId) none
      return .stop processed
    | some result => do
      recordResult arm o t result
      let processed := processed ++ [o.opportunityId]
      if result.disposition = .manualReconciliationRequired then do
        markManual arm (result.reasonCode.getD .portOutputInvalid) t (some o.opportunityId) none
        return .stop processed
      else if result.freeze then do
        markManual arm (result.reasonCode.getD .riskFreeze) t (some o.opportunityId) none
        return .stop processed
      else return .next processed

def processOpportunities (arm : AutonomousSessionArm) (t : DateTime) :
    List AutonomousOpportunity → List String → CoordinatorProg Flow
  | [], processed => return .next processed
  | o :: rest, processed => do
    match ← processOpportunity arm t processed o with
    | .next processed => processOpportunities arm t rest processed
    | .stop processed => return .stop processed

def processWindows (K : Contracts) (arm : AutonomousSessionArm) (t : DateTime) :
    List AutonomousWindow → List String → CoordinatorProg Flow
  | [], processed => return .next processed
  | window :: rest, processed => do
    let answer ← perform (S := coordinatorSig) (.collectDue ⟨arm, window, t⟩)
    let collected ← ofExcept (answer.elim (.error .port) .ok)
    let unique ← ofExcept (uniqueOpportunities K arm window collected [])
    let ordered := unique.insertionSort fun a b => a.opportunityId ≤ b.opportunityId
    match ← processOpportunities arm t ordered processed with
    | .next processed => processWindows K arm t rest processed
    | .stop processed => return .stop processed

def dueWindows (arm : AutonomousSessionArm) (t : DateTime) : List AutonomousWindow :=
  arm.windows.filter fun w => w.opensAt.micros ≤ t.micros ∧ t.micros < w.closesAt.micros

def startupRequest (arm : AutonomousSessionArm) (t : DateTime) (active : List String) :
    ReconciliationRequest :=
  { sessionId := arm.sessionId
    armSha256 := arm.armSha256
    accountFingerprintSha256 := arm.accountFingerprintSha256
    executionProtocolSha256 := arm.executionProtocolSha256
    observedAt := t
    phase := "STARTUP"
    activeLifecycleIds := active }

/-- The part of `run` after its early returns: reconcile, then process the due candidates. -/
def runDue (K : Contracts) (arm : AutonomousSessionArm) (t : DateTime) :
    CoordinatorProg AutonomousRunResult := do
  let active ← readStore (·.activeLifecycleIds arm.sessionId)
  let request := startupRequest arm t active
  let answer ← perform (S := coordinatorSig) (.reconcile request)
  match accepted (validateReconciliation · request) answer with
  | none => do
    markManual arm .reconciliationIdentityMismatch t none none
    fromStore arm t []
  | some _ => do
    let flow ← processWindows K arm t (dueWindows arm t) []
    fromStore arm t flow.processed

def isHardFlat (arm : AutonomousSessionArm) (t : DateTime) : Prop :=
  arm.hardFlatAt.micros ≤ t.micros ∨ arm.endsAt.micros ≤ t.micros

instance (arm : AutonomousSessionArm) (t : DateTime) : Decidable (isHardFlat arm t) :=
  inferInstanceAs (Decidable (_ ∨ _))

/-- The part of `run` after `ensure_arm`. -/
def runArmed (K : Contracts) (arm : AutonomousSessionArm) (t : DateTime) :
    CoordinatorProg AutonomousRunResult := do
  let claimed ← readStore (·.claimedOpportunityIds arm.sessionId)
  if claimed ≠ [] then do
    markManual arm .claimRecoveryUnknown t none none
    fromStore arm t []
  else if isHardFlat arm t then runHardFlat arm t
  else do
    let state ← readStore (·.sessionState arm.sessionId)
    if state = some .manualReconciliationRequired then fromStore arm t []
    else runDue K arm t

/-- `run`: reconcile first, then process all currently due unique candidates once. -/
def Coordinator.run (K : Contracts) (c : Coordinator) (observedAt : DateTime) :
    CoordinatorProg AutonomousRunResult := do
  ofExcept (validateBeforePorts K c)
  let t ← ofExcept (utcDatetime observedAt "observed_at")
  let () ← transact (.ensureArm c.arm)
  runArmed K c.arm t

end EsscherMarket.Runtime
