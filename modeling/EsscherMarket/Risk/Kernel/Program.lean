import EsscherMarket.Autonomy.Universe
import EsscherMarket.Lib.Prog
import EsscherMarket.Risk.Ledger.Calls
import EsscherMarket.Risk.Policy
import EsscherMarket.Risk.Truth

/-!
# The risk kernel

`risk/kernel.py`.  A kernel method is a program over the ledger: each ledger method it calls is one
atomic operation, and between two of them other connections may commit.  What the method reads
from its truth source is an argument.

The entry methods are cut where they commit: `entryPlan` and `entryPlanV2` are everything up to the
reservation transaction, and return its arguments.
-/

namespace EsscherMarket.Risk

open Lib Execution Autonomy Prog

/-! ### The ledger as a signature -/

/-- What a kernel asks of its ledger: reads, and the methods that write. -/
inductive LedgerOp where
  | getControlState
  | notRunReason (event : String)
  | candidateForEvent (event : String)
  | reservationForEvent (event : String)
  | intradayPeakEquity (now : DateTime)
  | openReservationTotalForUnderlying (underlying : String)
  | hasNonV2OpenReservations
  | v2OpenReservationRows
  | v2SubmittedOrderIds
  | write (c : LedgerCall)

def ledgerSig : Signature where
  Op := LedgerOp
  Res
    | .getControlState => ControlState × Option String
    | .notRunReason _ => Option String
    | .candidateForEvent _ => Option CandidateRow
    | .reservationForEvent _ => Option ReservationRow
    | .intradayPeakEquity _ => Decimal
    | .openReservationTotalForUnderlying _ => Except LedgerError ℚ
    | .hasNonV2OpenReservations => Bool
    | .v2OpenReservationRows => List V2Row
    | .v2SubmittedOrderIds => List String
    | .write c => Except LedgerError c.Res

def ledgerAnswer : (op : LedgerOp) → Ledger → ledgerSig.Res op × Ledger
  | .getControlState, s => (s.getControlState, s)
  | .notRunReason event, s => (s.notRunReason event, s)
  | .candidateForEvent event, s => (s.candidateForEvent event, s)
  | .reservationForEvent event, s => (s.reservationForEvent event, s)
  | .intradayPeakEquity now, s => (s.intradayPeakEquity now, s)
  | .openReservationTotalForUnderlying u, s => (s.openReservationTotalForUnderlying u, s)
  | .hasNonV2OpenReservations, s => (s.hasNonV2OpenReservations, s)
  | .v2OpenReservationRows, s => (s.v2OpenReservationRows, s)
  | .v2SubmittedOrderIds, s => (s.v2SubmittedOrderIds, s)
  | .write c, s => (c.txn.result s, c.exec s)

abbrev KernelProg (α : Type) : Type := Prog ledgerSig LedgerError α

def ledgerWrite (c : LedgerCall) : KernelProg c.Res := do
  let r ← perform (S := ledgerSig) (.write c)
  ofExcept r

/-! ### The active policy -/

inductive KernelPolicy where
  | v1 (p : RiskPolicy)
  | v2 (p : RiskPolicyV2)

namespace KernelPolicy

/-- The exact active policy identity a permit must bind. -/
def policySha256 : KernelPolicy → String
  | v1 p => riskPolicySha256 p
  | v2 p => riskPolicyV2Sha256 p

def truthMaxAgeSeconds : KernelPolicy → Int
  | v1 p => p.truthMaxAgeSeconds
  | v2 p => p.truthMaxAgeSeconds

theorem isLowerHex_policySha256 (p : KernelPolicy) : isLowerHex 64 p.policySha256 = true := by
  cases p <;> exact Json.isLowerHex_sha256 _

end KernelPolicy

/-! ### Control state -/

/-- `_apply_trigger`: read the control state, and write the next one in a second statement. -/
def applyTrigger (trigger : ControlTrigger) (now : DateTime) : KernelProg ControlState := do
  let (current, _) ← perform (S := ledgerSig) .getControlState
  let updated ← ofExcept ((nextControlState current trigger).mapError .rejected)
  ledgerWrite (.setControlStateWithPassport updated (some trigger.value)
    (.obj [("from", .str current.value), ("to", .str updated.value),
      ("trigger", .str trigger.value)]) now)
  return updated

def failureTrigger (e : RiskRejected) : ControlTrigger :=
  match e.reason with
  | .staleAccountTruth | .stalePositionTruth | .staleOrderTruth | .staleClock => .staleTruth
  | _ => .contradictoryTruth

def failClosed {α : Type} (trigger : ControlTrigger) (now : DateTime) (e : LedgerError) :
    KernelProg α := do
  let _ ← applyTrigger trigger now
  raise e

/-- The value of a truth read; a failed read applies its trigger and raises. -/
def orFailClosed {α : Type} (x : TruthRead α) (now : DateTime) : KernelProg α :=
  match x with
  | .ok a => pure a
  | .error (.rejected e) => failClosed (failureTrigger e) now (.rejected e)
  | .error (.malformed message) =>
    failClosed .contradictoryTruth now (reject .contradictoryTruth "truth" message)

def orFailRejected {α : Type} (x : TruthRead α) (now : DateTime) : KernelProg α :=
  match x with
  | .ok a => pure a
  | .error (.rejected e) => failClosed (failureTrigger e) now (.rejected e)
  | .error (.malformed message) => raise (.malformed message)

/-- `startup_reconciliation`: fresh broker truth is the only path from safe boot to `ACTIVE`. -/
def startupReconciliation (policy : KernelPolicy) (truth : Truth) (now : DateTime) :
    KernelProg ControlState := do
  let current ← ofExcept (requireUtc now "now")
  match readTruth truth current policy.truthMaxAgeSeconds with
  | .error (.rejected e) => applyTrigger (failureTrigger e) current
  | .error (.malformed _) => applyTrigger .contradictoryTruth current
  | .ok (_, positions, orders) =>
    if orders.any (·.isPartialFill) then applyTrigger .partialFillState current
    else if positions.any fun p => p.quantity.toRat ≠ 0 then applyTrigger .nonFlatState current
    else do
      let (state, _) ← perform (S := ledgerSig) .getControlState
      if state = .kill ∨ state = .active then return state
      else applyTrigger .resolved current

/-! ### The immutable candidate chain -/

/-- `_identifier`, before its value is used. -/
def identifierOf (value path : String) : KernelProg String := ofExcept (identifier value path)

def positionBlock (c : CompiledExpression) : Option Block :=
  match c.expressionKind with
  | .cashNoTrade => none
  | .shares => c.shares
  | .oneLongOption => c.longOption
  | .debitVertical => c.debitVertical

/-- The underlying of a block; a share expression's symbol is its underlying identity. -/
def blockUnderlying (kind : ExpressionKind) (block : Block) : Option Json :=
  match block.get? "underlying", kind with
  | none, .shares => block.get? "symbol"
  | some .null, .shares => block.get? "symbol"
  | value, _ => value

def compiledUnderlying (c : CompiledExpression) : Except LedgerError String := do
  throwIf (c.expressionKind = .cashNoTrade)
    (reject .unsupportedInput "compiled.expression_kind" "cannot authorize cash")
  match positionBlock c with
  | none => .error (reject .unsupportedInput "compiled.underlying"
      "compiled expression has no position block")
  | some block =>
    match blockUnderlying c.expressionKind block with
    | none | some .null => .error (reject .unsupportedInput "compiled.underlying"
        "compiled expression has no underlying identity")
    | some (.str text) => underlyingText text "compiled.underlying"
    | some _ => .error (reject .unsupportedInput "compiled.underlying"
        "must be non-empty exact text")

def kernelFreezeCandidate (policy : KernelPolicy) (eventId candidateId : String)
    (compiled : CompiledExpression) (evidenceMode : String) (now : DateTime) :
    KernelProg Unit := do
  let current ← ofExcept (requireUtc now "now")
  let event ← identifierOf eventId "candidate.event_id"
  let candidate ← identifierOf candidateId "candidate.candidate_id"
  let compiledEvent ← identifierOf compiled.eventId "compiled.event_id"
  raiseIf (event ≠ compiledEvent)
    (reject .unsupportedInput "candidate.event_id" "caller and compiled event identities differ")
  let decision ← identifierOf compiled.decisionSha256 "compiled.decision_sha256"
  let mode ← identifierOf evidenceMode "candidate.evidence_mode"
  ledgerWrite (.freezeCandidate ⟨event, candidate, policy.policySha256, decision,
    compiledExpressionSha256 compiled, mode, current⟩)

def kernelMarkNotRun (eventId reason : String) (now : DateTime) : KernelProg Unit := do
  let event ← identifierOf eventId "not_run.event_id"
  let why ← identifierOf reason "not_run.reason"
  let current ← ofExcept (requireUtc now "now")
  ledgerWrite (.markNotRun event why current)

/-- `_validate_candidate_binding`; returns the event, the underlying and the policy identity. -/
def validateCandidateBinding (policy : KernelPolicy) (eventId underlying candidateId : String)
    (compiled : CompiledExpression) : KernelProg (String × String × String) := do
  let event ← identifierOf eventId "event_id"
  let callerUnderlying ← ofExcept (underlyingText underlying "underlying")
  let candidate ← identifierOf candidateId "candidate_id"
  let compiledEvent ← identifierOf compiled.eventId "compiled.event_id"
  raiseIf (event ≠ compiledEvent)
    (reject .unsupportedInput "event_id" "caller event differs from compiled event")
  let compiledSymbol ← ofExcept (compiledUnderlying compiled)
  raiseIf (callerUnderlying ≠ compiledSymbol)
    (reject .unsupportedInput "underlying" "caller underlying differs from compiled underlying")
  let notRun ← perform (S := ledgerSig) (.notRunReason event)
  raiseIf notRun.isSome (reject .notRunEvent s!"event.{event}" "event is marked NOT_RUN")
  let found ← perform (S := ledgerSig) (.candidateForEvent event)
  match found with
  | none => raise (reject .unsupportedInput s!"candidate.{event}"
      "a matching immutable candidate was not frozen")
  | some frozen => do
    raiseIf (frozen.policySha256 ≠ policy.policySha256)
      (reject .policyHashMismatch s!"candidate.{event}.policy_sha256"
        "frozen candidate does not bind the active risk policy")
    let decision ← identifierOf compiled.decisionSha256 "compiled.decision_sha256"
    raiseIf (frozen.candidateId ≠ candidate)
      (reject .unsupportedInput s!"candidate.{event}.candidate_id"
        "caller identity differs from the immutable candidate")
    raiseIf (frozen.decisionSha256 ≠ decision)
      (reject .unsupportedInput s!"candidate.{event}.decision_sha256"
        "caller identity differs from the immutable candidate")
    raiseIf (frozen.expressionSha256 ≠ compiledExpressionSha256 compiled)
      (reject .unsupportedInput s!"candidate.{event}.expression_sha256"
        "caller identity differs from the immutable candidate")
    return (event, callerUnderlying, policy.policySha256)

/-! ### The permit and the compiled expression -/

/-- `value == text`. -/
def isText (value : Option Json) (text : String) : Bool :=
  match value with
  | some (.str s) => s == text
  | _ => false

/-- `value == n`; in Python `True == 1`, and a float equals the integer it denotes. -/
def isInt (value : Option Json) (n : Int) : Bool :=
  match value with
  | some (.int m) => m == n
  | some (.bool b) => (if b then 1 else 0) == n
  | some (.real literal) => (Decimal.parse literal).any fun d => d.toRat == (n : ℚ)
  | _ => false

/-- `leg.get(field)` of a leg that may be missing. -/
def legField (leg : Option Json) (field : String) : Option Json := leg.bind (·.field? field)

def bindsBlock (permit : DebitVerticalPermit) (block : Block) : Bool :=
  let long := block.get? "long_leg"
  let short := block.get? "short_leg"
  isText (block.get? "underlying") permit.underlying &&
  isText (block.get? "vertical_type") permit.verticalType.value &&
  isInt (block.get? "quantity") permit.quantity &&
  isText (block.get? "limit_price") permit.limitPrice.toText &&
  isText (legField long "symbol") permit.longLeg.symbol &&
  isText (legField long "option_type") permit.longLeg.optionType.value &&
  isText (legField long "strike") permit.longLeg.strike.toText &&
  isText (legField short "symbol") permit.shortLeg.symbol &&
  isText (legField short "option_type") permit.shortLeg.optionType.value &&
  isText (legField short "strike") permit.shortLeg.strike.toText

/-- `_validate_permit_binding`: the request carries the one canonical compiled permit identity. -/
def validatePermitBinding (permit : DebitVerticalPermit) (compiled : CompiledExpression)
    (activePolicySha256 : String) (now : DateTime) : Except LedgerError Unit := do
  throwIf (compiled.expressionKind ≠ .debitVertical)
    (reject .unsupportedInput "compiled.expression_kind"
      "only a debit vertical may receive a debit-vertical permit")
  throwIf (permit.permitId ≠ debitVerticalPermitId permit.toDebitVerticalPermitFields)
    (reject .unsupportedInput "permit.permit_id" "must equal the canonical permit identity")
  throwIf (now.micros < permit.issuedAt.micros ∨ permit.expiresAt.micros ≤ now.micros)
    (reject .unsupportedInput "permit.timing" "permit is not active at authorization")
  throwIf (permit.eventRunId ≠ compiled.eventId ∨ permit.decisionSha256 ≠ compiled.decisionSha256 ∨
      permit.snapshotSha256 ≠ compiled.snapshotSha256 ∨ permit.policySha256 ≠ activePolicySha256)
    (reject .unsupportedInput "permit.lineage"
      "permit does not bind the active expression, event, and risk policy")
  match compiled.debitVertical with
  | none => .error (reject .unsupportedInput "compiled.debit_vertical" "must be an object")
  | some block =>
    throwIf (bindsBlock permit block = false)
      (reject .unsupportedInput "permit.expression"
        ("permit legs, price, quantity, or vertical geometry differ " ++
          "from the compiled expression"))
  let exposure ← expressionExposure compiled
  throwIf (permit.maximumLoss.toRat ≠ exposure.toRat)
    (reject .unsupportedInput "permit.maximum_loss"
      "permit loss differs from compiled expression exposure")

/-! ### The V1 entry -/

structure EntryArgs where
  eventId : String
  underlying : String
  candidateId : String
  compiled : CompiledExpression
  permit : DebitVerticalPermit
  truth : Truth
  now : DateTime

/-- One persisted reservation and one-use permit authorization. -/
structure RiskApproval where
  eventId : String
  candidateId : String
  reservationId : String
  permitId : String
  permitSha256 : String
  exposure : Decimal
  controlState : ControlState

/-- Enter only while the stored control state allows it; returns the state that was read. -/
def requireEntryAllowed : KernelProg ControlState := do
  let (state, reason) ← perform (S := ledgerSig) .getControlState
  -- `state_reason or "…"`: an empty reason counts as none
  let detail := match reason with
    | some text => if text = "" then "entry is blocked by the current control state" else text
    | none => "entry is blocked by the current control state"
  raiseIf (entryAllowed state = false)
    (reject .controlStateBlocksEntry s!"control_state.{state.value}" detail)
  return state

def checkEntryBudget (policy : RiskPolicy) (event : String) (exposure : Decimal)
    (account : AccountSnapshot) : Except LedgerError Unit := do
  throwIf (exposure.isFinite = false ∨ exposure.toRat < 0)
    (reject .unknownExposure s!"exposure.{event}" "exposure is unknown or incalculable")
  throwIf (policy.perEventLossBudget.toRat < exposure.toRat)
    (reject .budgetExceeded s!"exposure.{event}" "exposure exceeds the per-event loss budget")
  throwIf (account.buyingPower.toRat < exposure.toRat)
    (reject .budgetExceeded "buying_power" "exposure exceeds verified buying power")

def failClosedIf (c : Prop) [Decidable c] (trigger : ControlTrigger) (now : DateTime)
    (e : LedgerError) : KernelProg Unit :=
  if c then failClosed trigger now e else pure ()

def checkEntryLosses (policy : RiskPolicy) (account : AccountSnapshot) (now : DateTime) :
    KernelProg Unit := do
  ledgerWrite (.recordAccountSnapshot account.equity now)
  let peak ← perform (S := ledgerSig) (.intradayPeakEquity now)
  failClosedIf (policy.dailyLossLimit.toRat < peak.toRat - account.equity.toRat)
    .dailyLossLimitBreached now
    (reject .dailyLossLimitBreached "daily_loss" "daily loss exceeds the policy limit")
  failClosedIf (policy.drawdownLimit.toRat < policy.accountCapital.toRat - account.equity.toRat)
    .drawdownLimitBreached now
    (reject .drawdownLimitBreached "drawdown" "drawdown exceeds the policy limit")
  failClosedIf (account.equity.toRat ≤ policy.closeOnlyEquityThreshold.toRat)
    .closeOnlyEquityThreshold now
    (reject .controlStateBlocksEntry "close_only_equity_threshold"
      "equity is at or below the close-only threshold")

/-- The gross absolute market value of one underlying. -/
def grossExisting (positions : List PositionSnapshot) (symbol : String) : ℚ :=
  ((positions.filter fun p => p.underlying = symbol).map fun p => |p.marketValue.toRat|).sum

/-- The concentration check: a read of the ledger before the reservation transaction. -/
def checkConcentration (policy : RiskPolicy) (positions : List PositionSnapshot) (symbol : String)
    (exposure : Decimal) (now : DateTime) : KernelProg Unit := do
  let read ← perform (S := ledgerSig) (.openReservationTotalForUnderlying symbol)
  let held ← ofExcept read
  failClosedIf
    (policy.concentrationLimit.toRat < grossExisting positions symbol + held + exposure.toRat)
    .concentrationLimitBreached now
    (reject .concentrationLimitBreached s!"concentration.{symbol}"
      "gross absolute concentration exceeds the policy limit")

/-- The arguments of the V1 reservation transaction. -/
def entryReserveArgs (policy : RiskPolicy) (a : EntryArgs) (event symbol activePolicy : String)
    (exposure : Decimal) : ReserveArgs where
  eventId := event
  underlying := symbol
  candidateId := a.candidateId
  riskPolicySha256 := activePolicy
  decisionSha256 := a.compiled.decisionSha256
  expressionSha256 := compiledExpressionSha256 a.compiled
  amount := exposure
  aggregateLimit := policy.aggregateExposureLimit
  maxOpenExpressions := policy.maxOpenExpressions
  maxEntriesPerDay := policy.maxEntriesPerDay
  permit := a.permit
  now := a.now

/-- `authorize_entry` up to its reservation transaction. -/
def entryPlan (kernelPolicy : KernelPolicy) (a : EntryArgs) :
    KernelProg (ControlState × ReserveArgs) := do
  let current ← ofExcept (requireUtc a.now "now")
  match kernelPolicy with
  | .v2 _ => raise (reject .unsupportedInput "risk_policy" "V1 authorization requires a RiskPolicy")
  | .v1 policy => do
    raiseIf (policy.constantsVerified = false)
      (reject .policyUnverifiedConstant "risk_policy.constants"
        "risk constants are unverified; no fallback is permitted")
    raiseIf (policy.runMode ≠ "PAPER")
      (reject .policyNotPaperOnly "risk_policy.run_mode"
        "the risk kernel is permanently PAPER-only")
    let state ← requireEntryAllowed
    let (event, symbol, activePolicy) ← validateCandidateBinding (.v1 policy) a.eventId
      a.underlying a.candidateId a.compiled
    ofExcept (validatePermitBinding a.permit a.compiled activePolicy current)
    let (account, positions, orders) ← orFailClosed
      (readTruth a.truth current policy.truthMaxAgeSeconds) current
    failClosedIf (orders.any (·.isPartialFill) = true) .partialFillState current
      (reject .partialFillState "orders" "a partial fill leaves an ambiguous state")
    let exposure ← ofExcept (expressionExposure a.compiled)
    ofExcept (checkEntryBudget policy event exposure account)
    checkEntryLosses policy account current
    checkConcentration policy positions symbol exposure current
    let _ ← identifierOf a.compiled.decisionSha256 "compiled.decision_sha256"
    return (state, entryReserveArgs policy a event symbol activePolicy exposure)

/-- The reservation transaction, and the check of what it returned. -/
def entryCommit (state : ControlState) (r : ReserveArgs) : KernelProg RiskApproval := do
  let (reservationId, issuedPermitId, permitSha256) ← ledgerWrite (.reserveAndIssuePermit r)
  raiseIf (issuedPermitId ≠ r.permit.permitId ∨ permitSha256 ≠ debitVerticalPermitSha256 r.permit)
    (reject .unsupportedInput "risk_approval.permit"
      "ledger receipt does not preserve the exact canonical permit identity")
  return ⟨r.eventId, r.candidateId, reservationId, issuedPermitId, permitSha256, r.amount, state⟩

/-- `authorize_entry`: atomically issue one permit or reject without an external mutation. -/
def authorizeEntry (policy : KernelPolicy) (a : EntryArgs) : KernelProg RiskApproval := do
  let (state, r) ← entryPlan policy a
  entryCommit state r

/-! ### Identity-bound post-trade reconciliation -/

/-- `record_submission`: record external execution's order identity. -/
def kernelRecordSubmission (eventId permitId brokerOrderId : String) (now : DateTime) :
    KernelProg Unit := do
  let current ← ofExcept (requireUtc now "now")
  ledgerWrite (.recordSubmission ⟨eventId, permitId, brokerOrderId, current, true⟩)

/-- `reconcile_fill`: reconcile only an identity-bound, fresh broker-observed terminal order. -/
def reconcileFill (policy : KernelPolicy) (eventId permitId : String) (fill : OrderSnapshot)
    (truth : Truth) (now : DateTime) : KernelProg Unit := do
  let current ← ofExcept (requireUtc now "now")
  let observed ← orFailRejected (do
    validateClock truth current policy.truthMaxAgeSeconds
    validateOrdersFreshness (← truth.orders) current policy.truthMaxAgeSeconds) current
  failClosedIf (fill ∉ observed) .contradictoryTruth current
    (reject .contradictoryTruth "fill"
      "provided fill is absent from fresh broker-observed order truth")
  tryCatch
    (ledgerWrite (.reconcileObservedOrder ⟨eventId, permitId, fill.orderId, fill.status,
      fill.filledQuantity, fill.observedAt, current⟩))
    fun e => match e with
      | .rejected ⟨.partialFillState, _, _⟩ => failClosed .partialFillState current e
      | _ => raise e

/-- `reconcile_flat`: release filled exposure only after fresh broker truth proves flatness. -/
def reconcileFlat (policy : KernelPolicy) (eventId permitId : String) (truth : Truth)
    (now : DateTime) : KernelProg Unit := do
  let current ← ofExcept (requireUtc now "now")
  let found ← perform (S := ledgerSig) (.reservationForEvent eventId)
  match found with
  | none => raise (reject .eventLifecycleInvalid s!"flat.{eventId}" "reservation does not exist")
  | some reservation => do
    let symbol ← ofExcept (underlyingText reservation.underlying "reservation.underlying")
    let (positions, orders) ← orFailRejected (do
      validateClock truth current policy.truthMaxAgeSeconds
      let positions ← validatePositionsFreshness (← truth.positions) current
        policy.truthMaxAgeSeconds
      let orders ← validateOrdersFreshness (← truth.orders) current policy.truthMaxAgeSeconds
      return (positions, orders)) current
    failClosedIf (orders.any (·.isPartialFill) = true) .partialFillState current
      (reject .partialFillState "orders" "partial order prevents flat proof")
    failClosedIf (positions.any (fun p => p.underlying = symbol ∧ p.quantity.toRat ≠ 0) = true)
      .nonFlatState current
      (reject .nonFlatState s!"positions.{symbol}"
        "broker truth is not flat for the reserved underlying")
    ledgerWrite (.releaseConsumedAfterFlat eventId permitId current)

end EsscherMarket.Risk
