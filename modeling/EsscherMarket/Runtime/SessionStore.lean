import Mathlib.Data.List.Sort
import EsscherMarket.Lib.Table
import EsscherMarket.Runtime.Arm

/-!
# The autonomous session store

`AutonomousSessionStore` of `runtime/autonomous.py`: its tables, and its operations as transactions.
Every mutating operation is two transactions: `ensure_arm`, and then the operation's own
(`claimPart`, `terminalFlatPart`, …) with the checks of the arguments that precede it.

A column with canonical bytes of an identity or a summary is modelled as the value itself: the
store writes nothing else there, and these bytes parse back to it.
-/

namespace EsscherMarket.Runtime

open Lib Txn

/-! ### Enumerations -/

inductive ReasonCode where
  | providerTimeoutBeforeMutation
  | providerTimeoutUnknownMutation
  | unknownBrokerState
  | partialFill
  | reconciliationFailed
  | reconciliationIncomplete
  | reconciliationIdentityMismatch
  | riskFreeze
  | portOutputInvalid
  | portException
  | claimRecoveryUnknown
  | hardFlatUnresolved
  | armIdentityMismatch
  | windowNotDue
  | windowExpired
  | lateWindow
  | unexpectedActiveLifecycle
  | mutationGateClosed
  | activityManualRoute
  | blockedRetryBudgetExhausted
  deriving DecidableEq, Repr

def ReasonCode.value : ReasonCode → String
  | providerTimeoutBeforeMutation => "PROVIDER_TIMEOUT_BEFORE_MUTATION"
  | providerTimeoutUnknownMutation => "PROVIDER_TIMEOUT_UNKNOWN_MUTATION"
  | unknownBrokerState => "UNKNOWN_BROKER_STATE"
  | partialFill => "PARTIAL_FILL"
  | reconciliationFailed => "RECONCILIATION_FAILED"
  | reconciliationIncomplete => "RECONCILIATION_INCOMPLETE"
  | reconciliationIdentityMismatch => "RECONCILIATION_IDENTITY_MISMATCH"
  | riskFreeze => "RISK_FREEZE"
  | portOutputInvalid => "PORT_OUTPUT_INVALID"
  | portException => "PORT_EXCEPTION"
  | claimRecoveryUnknown => "CLAIM_RECOVERY_UNKNOWN"
  | hardFlatUnresolved => "HARD_FLAT_UNRESOLVED"
  | armIdentityMismatch => "ARM_IDENTITY_MISMATCH"
  | windowNotDue => "WINDOW_NOT_DUE"
  | windowExpired => "WINDOW_EXPIRED"
  | lateWindow => "LATE_WINDOW"
  | unexpectedActiveLifecycle => "UNEXPECTED_ACTIVE_LIFECYCLE"
  | mutationGateClosed => "MUTATION_GATE_CLOSED"
  | activityManualRoute => "ACTIVITY_MANUAL_ROUTE"
  | blockedRetryBudgetExhausted => "BLOCKED_RETRY_BUDGET_EXHAUSTED"

def ReasonCode.all : List ReasonCode :=
  [providerTimeoutBeforeMutation, providerTimeoutUnknownMutation, unknownBrokerState, partialFill,
   reconciliationFailed, reconciliationIncomplete, reconciliationIdentityMismatch, riskFreeze,
   portOutputInvalid, portException, claimRecoveryUnknown, hardFlatUnresolved,
   armIdentityMismatch, windowNotDue, windowExpired, lateWindow, unexpectedActiveLifecycle,
   mutationGateClosed, activityManualRoute, blockedRetryBudgetExhausted]

/-- Closed externally visible candidate dispositions. -/
inductive AutonomousDisposition where
  | abstained
  | rejectedBeforeMutation
  | active
  | terminalFlat
  | manualReconciliationRequired
  deriving DecidableEq, Repr

def AutonomousDisposition.value : AutonomousDisposition → String
  | abstained => "ABSTAINED"
  | rejectedBeforeMutation => "REJECTED_BEFORE_MUTATION"
  | active => "ACTIVE"
  | terminalFlat => "TERMINAL_FLAT"
  | manualReconciliationRequired => "MANUAL_RECONCILIATION_REQUIRED"

def AutonomousDisposition.all : List AutonomousDisposition :=
  [abstained, rejectedBeforeMutation, active, terminalFlat, manualReconciliationRequired]

/-- The state of an opportunity: claimed, or the disposition it was given. -/
inductive OpportunityState where
  | claimed
  | disposed (d : AutonomousDisposition)
  deriving DecidableEq, Repr

inductive LifecycleState where
  | active
  | terminalFlat
  deriving DecidableEq, Repr

inductive SessionState where
  | armed
  | manualReconciliationRequired
  | finalized
  deriving DecidableEq, Repr

/-- The only atomic claim outcomes visible to a candidate processor. -/
inductive AutonomousClaimState where
  | claimed
  | inProgress
  | alreadyRecorded
  deriving DecidableEq, Repr

/-! ### Tables -/

structure SessionRow where
  sessionId : String
  armSha256 : String
  armBytes : List UInt8
  state : SessionState
  createdAt : DateTime
  deriving DecidableEq

structure WindowRow where
  sessionId : String
  windowId : String
  windowSha256 : String
  opensAt : DateTime
  closesAt : DateTime
  candidateIds : List String
  deriving DecidableEq

structure OpportunityRow where
  sessionId : String
  opportunityId : String
  opportunitySha256 : String
  windowId : String
  candidateId : String
  strategyContextSha256 : String
  state : OpportunityState
  terminalFlatProofSha256 : Option String
  updatedAt : DateTime
  deriving DecidableEq

structure LifecycleRow where
  sessionId : String
  lifecycleId : String
  lifecycleSha256 : String
  opportunityId : String
  identity : ActiveLifecycleIdentity
  state : LifecycleState
  updatedAt : DateTime
  deriving DecidableEq

/-- A manual reason; its sequence number is its place in the table. -/
structure ManualReasonRow where
  sessionId : String
  reasonCode : ReasonCode
  opportunityId : Option String
  lifecycleId : Option String
  observedAt : DateTime
  deriving DecidableEq

structure AutonomousSessionSummary where
  sessionId : String
  armSha256 : String
  finalizedAt : DateTime
  dispositionCounts : List (AutonomousDisposition × Nat)
  activeLifecycleIds : List String
  manualReasons : List String
  terminalFlatProven : Bool
  summarySha256 : String
  deriving DecidableEq

/-- A stored summary under its session. -/
structure SummaryRow where
  sessionId : String
  summary : AutonomousSessionSummary
  deriving DecidableEq

structure SessionStore where
  sessions : List SessionRow
  windows : List WindowRow
  opportunities : List OpportunityRow
  lifecycles : List LifecycleRow
  manualReasons : List ManualReasonRow
  summaries : List SummaryRow
  deriving DecidableEq

def SessionStore.empty : SessionStore := ⟨[], [], [], [], [], []⟩

abbrev StoreTxn (α : Type) : Type := Txn SessionStore SessionError α

def conflict (message : String) : SessionError := .storeConflict message

/-! ### Reads -/

namespace SessionStore

def session (s : SessionStore) (sessionId : String) : Option SessionRow :=
  s.sessions.find? fun r => r.sessionId = sessionId

def window (s : SessionStore) (sessionId windowId : String) : Option WindowRow :=
  s.windows.find? fun r => r.sessionId = sessionId ∧ r.windowId = windowId

def opportunity (s : SessionStore) (sessionId opportunityId : String) : Option OpportunityRow :=
  s.opportunities.find? fun r => r.sessionId = sessionId ∧ r.opportunityId = opportunityId

def lifecycle (s : SessionStore) (sessionId lifecycleId : String) : Option LifecycleRow :=
  s.lifecycles.find? fun r => r.sessionId = sessionId ∧ r.lifecycleId = lifecycleId

def lifecycleForOpportunity (s : SessionStore) (sessionId opportunityId : String) :
    Option LifecycleRow :=
  s.lifecycles.find? fun r => r.sessionId = sessionId ∧ r.opportunityId = opportunityId

def opportunityState (s : SessionStore) (sessionId opportunityId : String) :
    Option OpportunityState :=
  (s.opportunity sessionId opportunityId).map (·.state)

def claimedOpportunityIds (s : SessionStore) (sessionId : String) : List String :=
  ((s.opportunities.filter fun r => r.sessionId = sessionId ∧ r.state = .claimed).map
    (·.opportunityId)).insertionSort (· ≤ ·)

def activeRows (s : SessionStore) (sessionId : String) : List LifecycleRow :=
  (s.lifecycles.filter fun r => r.sessionId = sessionId ∧ r.state = .active).insertionSort
    fun a b => a.lifecycleId ≤ b.lifecycleId

/-- The identity of a stored row agrees with its columns. -/
def rowMatches (sessionId : String) (r : LifecycleRow) : Bool :=
  r.identity.sessionId == sessionId && r.identity.lifecycleId == r.lifecycleId &&
  r.identity.lifecycleSha256 == r.lifecycleSha256 && r.identity.opportunityId == r.opportunityId

def activeLifecycles (s : SessionStore) (sessionId : String) :
    Checked (List ActiveLifecycleIdentity) :=
  (s.activeRows sessionId).mapM fun r =>
    if rowMatches sessionId r then .ok r.identity
    else .error (conflict "stored active lifecycle identity mismatch")

def activeLifecycleIds (s : SessionStore) (sessionId : String) : List String :=
  (s.activeRows sessionId).map (·.lifecycleId)

/-- The states that some opportunity of a session has: the keys of `disposition_counts`. -/
def countedStates (s : SessionStore) (sessionId : String) : List OpportunityState :=
  ((s.opportunities.filter fun r => r.sessionId = sessionId).map (·.state)).dedup

/-- `disposition_counts`, for the dispositions. -/
def dispositionCounts (s : SessionStore) (sessionId : String) :
    List (AutonomousDisposition × Nat) :=
  AutonomousDisposition.all.map fun d =>
    (d, (s.opportunities.filter fun r => r.sessionId = sessionId ∧ r.state = .disposed d).length)

def sessionState (s : SessionStore) (sessionId : String) : Option SessionState :=
  (s.session sessionId).map (·.state)

/-- `manual_reasons`. -/
def reasons (s : SessionStore) (sessionId : String) : List ReasonCode :=
  (s.manualReasons.filter fun r => r.sessionId = sessionId).map (·.reasonCode)

def finalSummary (s : SessionStore) (sessionId : String) : Option AutonomousSessionSummary :=
  (s.summaries.find? fun r => r.sessionId = sessionId).map (·.summary)

end SessionStore

/-! ### Arms and claims -/

def newSession (arm : AutonomousSessionArm) : SessionRow :=
  ⟨arm.sessionId, arm.armSha256, arm.bytes, .armed, arm.startsAt⟩

def newWindows (arm : AutonomousSessionArm) : List WindowRow :=
  arm.windows.map fun w =>
    ⟨arm.sessionId, w.windowId, w.windowSha256, w.opensAt, w.closesAt, w.candidateIds⟩

/-- `ensure_arm`: atomically persist a new arm, or require byte-for-byte replay identity. -/
def ensureArm (K : Contracts) (arm : AutonomousSessionArm) : StoreTxn Unit := do
  lift (validateArm K arm)
  immediate do
    let s ← select id
    match s.session arm.sessionId with
    | some row =>
      raiseIf (row.armSha256 ≠ arm.armSha256 ∨ row.armBytes ≠ arm.bytes)
        (conflict "session ID is already bound to a different arm")
    | none =>
      write fun s => { s with
        sessions := s.sessions ++ [newSession arm]
        windows := s.windows ++ newWindows arm }

def newOpportunity (arm : AutonomousSessionArm) (o : AutonomousOpportunity) (at_ : DateTime) :
    OpportunityRow :=
  ⟨arm.sessionId, o.opportunityId, o.opportunitySha256, o.windowId, o.candidateId,
    o.strategyContextSha256, .claimed, none, at_⟩

/-- `claim_opportunity` after `ensure_arm`: atomically claim exactly one semantically bound
opportunity identity. -/
def claimPart (K : Contracts) (arm : AutonomousSessionArm) (o : AutonomousOpportunity)
    (observedAt : DateTime) : StoreTxn AutonomousClaimState := do
  lift (validateOpportunity K o arm)
  let observedAt ← lift (utcDatetime observedAt "observed_at")
  immediate do
    let s ← select id
    let w ← orRaise (s.window arm.sessionId o.windowId)
      (conflict "opportunity references an unpersisted window")
    raiseIf (w.windowSha256 ≠ o.windowSha256 ∨ o.candidateId ∉ w.candidateIds)
      (conflict "opportunity conflicts with its persisted window identity")
    match s.opportunity arm.sessionId o.opportunityId with
    | some row =>
      raiseIf (row.opportunitySha256 ≠ o.opportunitySha256)
        (conflict "opportunity ID conflicts with a different semantic identity")
      return if row.state = .claimed then .inProgress else .alreadyRecorded
    | none =>
      write fun s => { s with
        opportunities := s.opportunities ++ [newOpportunity arm o observedAt] }
      return .claimed

/-! ### Outcomes of claimed opportunities -/

def setOpportunity (sessionId opportunityId : String) (f : OpportunityRow → OpportunityRow)
    (s : SessionStore) : SessionStore :=
  { s with
    opportunities := Table.setWhere
      (fun r => r.sessionId = sessionId ∧ r.opportunityId = opportunityId) f s.opportunities }

/-- The row of an opportunity that was claimed with these exact bytes. -/
def requireOpportunity (arm : AutonomousSessionArm) (o : AutonomousOpportunity)
    (message : String) : StoreTxn OpportunityRow := do
  let s ← select id
  let row ← orRaise (s.opportunity arm.sessionId o.opportunityId) (conflict message)
  raiseIf (row.opportunitySha256 ≠ o.opportunitySha256) (conflict message)
  return row

/-- `record_terminal_flat` after `ensure_arm`. -/
def terminalFlatPart (K : Contracts) (arm : AutonomousSessionArm) (o : AutonomousOpportunity)
    (proof : String) (observedAt : DateTime) : StoreTxn Unit := do
  lift (validateOpportunity K o arm)
  lift (digest proof "terminal_flat_proof_sha256")
  let observedAt ← lift (utcDatetime observedAt "observed_at")
  immediate do
    let row ← requireOpportunity arm o "terminal outcome has no matching claimed opportunity"
    if row.state = .disposed .terminalFlat then
      raiseIf (row.terminalFlatProofSha256 ≠ some proof)
        (conflict "terminal opportunity replay has a different proof")
    else do
      raiseIf (row.state ≠ .claimed)
        (conflict "only a claimed opportunity may become terminal-flat")
      write (setOpportunity arm.sessionId o.opportunityId fun r => { r with
        state := .disposed .terminalFlat, terminalFlatProofSha256 := some proof,
        updatedAt := observedAt })

/-- The dispositions that `record_disposition` accepts. -/
def isRecordable : AutonomousDisposition → Bool
  | .abstained | .rejectedBeforeMutation | .manualReconciliationRequired => true
  | .active | .terminalFlat => false

abbrev RecordableDisposition : Type := { d : AutonomousDisposition // isRecordable d = true }

/-- The check of the disposition, which `record_disposition` makes before `ensure_arm`. -/
def recordable (d : AutonomousDisposition) : Checked RecordableDisposition :=
  if h : isRecordable d = true then .ok ⟨d, h⟩
  else .error (conflict "the supplied disposition is not a permitted terminal state")

/-- `record_disposition` after `ensure_arm`. -/
def dispositionPart (K : Contracts) (arm : AutonomousSessionArm) (o : AutonomousOpportunity)
    (d : RecordableDisposition) (observedAt : DateTime) : StoreTxn Unit := do
  lift (validateOpportunity K o arm)
  let observedAt ← lift (utcDatetime observedAt "observed_at")
  immediate do
    let row ← requireOpportunity arm o "disposition has no matching claimed opportunity"
    if row.state = .disposed d.1 then return ()
    else do
      raiseIf (row.state ≠ .claimed)
        (conflict "only a claimed opportunity may receive this disposition")
      write (setOpportunity arm.sessionId o.opportunityId fun r => { r with
        state := .disposed d.1, updatedAt := observedAt })

/-! ### Lifecycles -/

def newLifecycle (arm : AutonomousSessionArm) (o : AutonomousOpportunity)
    (l : ActiveLifecycleIdentity) (at_ : DateTime) : LifecycleRow :=
  ⟨arm.sessionId, l.lifecycleId, l.lifecycleSha256, o.opportunityId, l, .active, at_⟩

/-- `record_active_lifecycle` after `ensure_arm`: atomically bind one confirmed active lifecycle to
its claimed opportunity. -/
def activePart (K : Contracts) (arm : AutonomousSessionArm) (o : AutonomousOpportunity)
    (l : ActiveLifecycleIdentity) (observedAt : DateTime) : StoreTxn Unit := do
  lift (validateOpportunity K o arm)
  raiseIf (l.sessionId ≠ arm.sessionId ∨ l.opportunityId ≠ o.opportunityId ∨
      l.opportunitySha256 ≠ o.opportunitySha256)
    (conflict "active lifecycle is not attributable to its opportunity")
  lift l.check
  let observedAt ← lift (utcDatetime observedAt "observed_at")
  immediate do
    let row ← requireOpportunity arm o "active lifecycle has no matching claimed opportunity"
    let s ← select id
    match s.lifecycle arm.sessionId l.lifecycleId with
    | some existing =>
      raiseIf (¬ (existing.opportunityId = o.opportunityId ∧ existing.identity = l ∧
          row.state = .disposed .active))
        (conflict "active lifecycle ID conflicts with durable identity")
    | none => do
      raiseIf (row.state ≠ .claimed) (conflict "only a claimed opportunity may become active")
      raiseIf (s.lifecycleForOpportunity arm.sessionId o.opportunityId).isSome
        (conflict "opportunity already has a different active lifecycle")
      write fun s => setOpportunity arm.sessionId o.opportunityId
        (fun r => { r with state := .disposed .active, updatedAt := observedAt })
        { s with lifecycles := s.lifecycles ++ [newLifecycle arm o l observedAt] }

/-- `record_lifecycle_terminal_flat` after `ensure_arm`: atomically persist hard-flat proof for one
exact active lifecycle. -/
def lifecycleTerminalFlatPart (arm : AutonomousSessionArm) (l : ActiveLifecycleIdentity)
    (proof : String) (observedAt : DateTime) : StoreTxn Unit := do
  raiseIf (l.sessionId ≠ arm.sessionId) (conflict "lifecycle belongs to another session")
  lift l.check
  lift (digest proof "terminal_flat_proof_sha256")
  let observedAt ← lift (utcDatetime observedAt "observed_at")
  immediate do
    let s ← select id
    let row ← orRaise (s.lifecycle arm.sessionId l.lifecycleId)
      (conflict "hard-flat result has no matching active lifecycle")
    raiseIf (row.identity ≠ l) (conflict "hard-flat result has no matching active lifecycle")
    let o ← orRaise (s.opportunity arm.sessionId l.opportunityId)
      (conflict "active lifecycle has no durable opportunity")
    if row.state = .terminalFlat then
      raiseIf (o.terminalFlatProofSha256 ≠ some proof)
        (conflict "hard-flat replay has a different terminal proof")
    else do
      raiseIf (row.state ≠ .active ∨ o.state ≠ .disposed .active)
        (conflict "lifecycle is not in a closeable active state")
      write fun s => setOpportunity arm.sessionId l.opportunityId
        (fun r => { r with
          state := .disposed .terminalFlat
          terminalFlatProofSha256 := some proof
          updatedAt := observedAt })
        { s with
          lifecycles := Table.setWhere
            (fun r => r.sessionId = arm.sessionId ∧ r.lifecycleId = l.lifecycleId)
            (fun r => { r with state := .terminalFlat, updatedAt := observedAt }) s.lifecycles }

/-! ### Manual reconciliation and finalization -/

def setSession (sessionId : String) (state : SessionState) (s : SessionStore) : SessionStore :=
  { s with
    sessions := Table.setWhere (fun r => r.sessionId = sessionId)
      (fun r => { r with state := state }) s.sessions }

def optionalIdentifier (value : Option String) (path : String) : Checked Unit :=
  match value with
  | none => .ok ()
  | some id => identifier id path

/-- `mark_manual_reconciliation_required` after `ensure_arm`: durably freeze new exposure with an
allowlisted, text-free reason. -/
def manualPart (arm : AutonomousSessionArm) (reason : ReasonCode) (observedAt : DateTime)
    (opportunityId lifecycleId : Option String) : StoreTxn Unit := do
  let observedAt ← lift (utcDatetime observedAt "observed_at")
  lift (optionalIdentifier opportunityId "opportunity_id")
  lift (optionalIdentifier lifecycleId "lifecycle_id")
  immediate do
    let s ← select id
    raiseIf (s.session arm.sessionId = none) (conflict "manual state has no persisted arm")
    write (setSession arm.sessionId .manualReconciliationRequired)
    if s.manualReasons.any fun r => r.sessionId = arm.sessionId ∧ r.reasonCode = reason ∧
        r.opportunityId = opportunityId ∧ r.lifecycleId = lifecycleId then
      return ()
    else
      write fun s => { s with
        manualReasons := s.manualReasons ++
          [⟨arm.sessionId, reason, opportunityId, lifecycleId, observedAt⟩] }

/-- `sorted(set(…))`. -/
def sortedSet (texts : List String) : List String := texts.dedup.insertionSort (· ≤ ·)

def AutonomousSessionSummary.payload (v : AutonomousSessionSummary) : Json :=
  .obj [
    ("active_lifecycle_ids", .arr (v.activeLifecycleIds.map .str)),
    ("arm_sha256", .str v.armSha256),
    ("disposition_counts", .obj (v.dispositionCounts.map fun c => (c.1.value, .int c.2))),
    ("finalized_at", .str v.finalizedAt.isoformatZ),
    ("manual_reasons", .arr (v.manualReasons.map .str)),
    ("schema", .str "esscher.autonomous_session_summary"),
    ("schema_version", .int 1),
    ("session_id", .str v.sessionId),
    ("terminal_flat_proven", .bool v.terminalFlatProven)]

def buildSummary (arm : AutonomousSessionArm) (finalizedAt : DateTime) (s : SessionStore) :
    AutonomousSessionSummary :=
  let active := sortedSet (s.activeLifecycleIds arm.sessionId)
  let reasons := sortedSet ((s.reasons arm.sessionId).map (·.value))
  let draft : AutonomousSessionSummary :=
    { sessionId := arm.sessionId
      armSha256 := arm.armSha256
      finalizedAt := finalizedAt
      dispositionCounts := s.dispositionCounts arm.sessionId
      activeLifecycleIds := active
      manualReasons := reasons
      terminalFlatProven := active.isEmpty && reasons.isEmpty
      summarySha256 := "" }
  { draft with summarySha256 := draft.payload.sha256 }

/-- `finalize_session` after `ensure_arm`: freeze one canonical final summary from the exact durable
state. -/
def finalizePart (arm : AutonomousSessionArm) (finalizedAt : DateTime) :
    StoreTxn AutonomousSessionSummary := do
  let finalizedAt ← lift (utcDatetime finalizedAt "finalized_at")
  immediate do
    let s ← select id
    match s.finalSummary arm.sessionId with
    | some summary => return summary
    | none => do
      let summary := buildSummary arm finalizedAt s
      raiseIf (s.session arm.sessionId = none) (.integrity "FOREIGN KEY constraint failed")
      write fun s => setSession arm.sessionId
        (if summary.terminalFlatProven then .finalized else .manualReconciliationRequired)
        { s with summaries := s.summaries ++ [⟨arm.sessionId, summary⟩] }
      return summary

end EsscherMarket.Runtime
