import EsscherMarket.Lib.Prog
import EsscherMarket.Lifecycle.Broker
import EsscherMarket.Risk.Ledger.Calls

/-!
# The monitored PAPER lifecycle worker

`lifecycle/worker.py`.  A call of the worker is a program over what it shares with others: the
ledger, the broker, the clock, the mutation gate and the sets that the worker object remembers.  A
durable intent is committed before the order is submitted.
-/

namespace EsscherMarket.Lifecycle

open Lib Execution Risk Prog

/-! ### What a worker calls -/

/-- One operation.  `remembered` and `remember` are about the sets of the worker object `worker`. -/
inductive LifecycleOp where
  | now
  | mutationPermitted
  | ledger (c : LedgerCall)
  | readLedger
  | remembered (worker : Nat) (phase : IntentPhase) (permitId : String)
  | remember (worker : Nat) (phase : IntentPhase) (permitId : String)
  | submitOpen (r : BrokerOrderRequest)
  | submitClose (r : BrokerOrderRequest)
  | readOrder (orderId : String)
  | readPositions
  | readAccount

def LifecycleOp.Res : LifecycleOp → Type
  | now => DateTime
  | mutationPermitted => Bool
  | ledger c => Except LedgerError c.Res
  | readLedger => Ledger
  | remembered _ _ _ => Bool
  | remember _ _ _ => Unit
  | submitOpen _ | submitClose _ => Except BrokerError BrokerOrderAck
  | readOrder _ => Except BrokerError BrokerOrderTruth
  | readPositions => Except BrokerError BrokerPositionSnapshot
  | readAccount => Except BrokerError AccountTruth

abbrev lifecycleSig : Signature := ⟨LifecycleOp, LifecycleOp.Res⟩

abbrev LifecycleProg (α : Type) : Type := Prog lifecycleSig LifecycleError α

/-- A worker, with the clock, the gate, the ledger and the broker behind the operations. -/
structure MonitoredPaperLifecycle where
  worker : Nat
  clocks : LifecycleClocks
  correlation : CorrelationIdentity
  accountId : String
  accountClass : String
  orderClass : String
  truthMaxAgeSeconds : Int

def defaultTruthMaxAgeSeconds : Int := 30

/-- What a ledger method raises; a typed rejection is handled by the caller. -/
def onRejected (handler : RiskRejected → LifecycleError) : LedgerError → LifecycleError
  | .rejected e => handler e
  | e => .ledger e

def transact (handler : RiskRejected → LifecycleError) (c : LedgerCall) : LifecycleProg c.Res := do
  let r ← perform (S := lifecycleSig) (.ledger c)
  ofExcept (r.mapError (onRejected handler))

def readLedger {α : Type} (id path : String) (f : Ledger → α) : LifecycleProg α := do
  ofExcept ((identifier id path).mapError .ledger >>= fun _ => .ok ())
  let s ← perform (S := lifecycleSig) .readLedger
  return f s

def orOutage {α : Type} (path : String) (answer : Except BrokerError α) : LifecycleProg α :=
  ofExcept (answer.mapError fun e => match e with
    | .outage message => reject .brokerOutage path message
    | .other message => .broker message)

def rejectTruth (path detail : String) : LifecycleError := reject .brokerTruthMismatch path detail

/-! ### The closing permit -/

def closePermitId (openPermitId eventRunId policySha256 snapshotSha256 : String)
    (issuedAt expiresAt : DateTime) (limitPrice : Decimal) : String :=
  let payload := Json.obj [
    ("schema", .str "ringdown.close_permit_id"),
    ("schema_version", .int 1),
    ("open_permit_id", .str openPermitId),
    ("event_run_id", .str eventRunId),
    ("policy_sha256", .str policySha256),
    ("snapshot_sha256", .str snapshotSha256),
    ("issued_at", .str issuedAt.isoformat),
    ("expires_at", .str expiresAt.isoformat),
    ("limit_price", .str limitPrice.plainText)]
  "pc-" ++ String.ofList (payload.sha256.toList.take 32)

def closeCreditWithinVerticalWidth (openPermit : DebitVerticalPermit) (limitPrice : Decimal) :
    Bool :=
  limitPrice.isFinite && decide (limitPrice.toRat < 0) &&
    decide (|limitPrice.toRat| ≤
      |openPermit.shortLeg.strike.toRat - openPermit.longLeg.strike.toRat|)

/-! ### Guards -/

namespace MonitoredPaperLifecycle

variable (w : MonitoredPaperLifecycle)

def now : LifecycleProg DateTime := do
  let observed ← perform (S := lifecycleSig) .now
  raiseIf (¬ DateTime.isAware observed) (reject .unsupportedInput "clock" "clock must be UTC")
  return observed

def requireMutation : LifecycleProg Unit := do
  let permitted : Bool ← perform (S := lifecycleSig) .mutationPermitted
  raiseIf (permitted = false) (reject .mutationGateClosed "mutation_gate"
    "actual PAPER mutation remains blocked until the approval gate")

def requireClocksVerified : Except LifecycleError Unit :=
  throwIf (¬ w.clocks.sourceVerified) (reject .exitPlanUnverified "clocks.source_sha256"
    "exit-plan clocks are unverified; no fallback is permitted")

def requirePaperBoundary : Except LifecycleError Unit :=
  throwIf (¬ isExactText w.accountId ∨ w.accountClass ≠ paperAccountClass ∨
      w.orderClass ≠ multiLegOrderClass)
    (reject .unsupportedInput "broker_boundary"
      "lifecycle mutation requires a named PAPER account and atomic multi-leg order class")

def requireClockScope (p : DebitVerticalPermit) : Except LifecycleError Unit :=
  throwIf (w.clocks.eventRunId ≠ p.eventRunId ∨ w.clocks.policySha256 ≠ p.policySha256)
    (reject .exitPlanUnverified "clocks"
      "exit-plan clocks do not bind the opening permit's event and policy")

/-- `_require_active_window`; the clocks of a permit are aware. -/
def requireActiveWindow (issuedAt expiresAt : DateTime) (path : String)
    (reason : LifecycleReason) : LifecycleProg Unit := do
  let t ← now
  raiseIf (t.micros < issuedAt.micros ∨ expiresAt.micros ≤ t.micros)
    (reject reason path "permit is not active at the lifecycle clock")

def requireOpenIdentity (p : DebitVerticalPermit) : Except LifecycleError Unit :=
  throwIf (p.permitId ≠ w.correlation.openPermitId ∨
      p.permitId ≠ debitVerticalPermitId p.toDebitVerticalPermitFields ∨
      p.eventRunId ≠ w.correlation.eventRunId ∨ p.snapshotSha256 ≠ w.correlation.snapshotSha256 ∨
      p.decisionSha256 ≠ w.correlation.decisionSha256)
    (rejectTruth "open_permit" "permit does not match the lifecycle correlation")

def requireOpenBinding (p : DebitVerticalPermit) : LifecycleProg Unit := do
  ofExcept (w.requireOpenIdentity p)
  let reservation ← readLedger p.eventRunId "reservation.event_id"
    (·.reservationForEvent p.eventRunId)
  let permit ← readLedger p.eventRunId "permit.event_id" (·.permitForEvent p.eventRunId)
  raiseIf (¬ reservation.any (fun r => r.reservationId = w.correlation.reservationId ∧
        r.state = .reserved) ∨
      ¬ permit.any (fun q => q.permitId = p.permitId ∧
        q.reservationId = w.correlation.reservationId ∧ q.state = .issued))
    (rejectTruth "open_permit.ledger"
      "permit/reservation is missing, mismatched, or not active for this event")

/-- The part of `_require_close_binding` before the ledger is read. -/
def requireClosePermit (p : DebitVerticalPermit) (c : ClosePermit) :
    Except LifecycleError Unit := do
  w.requireOpenIdentity p
  throwIf (c.openPermitId ≠ p.permitId ∨ c.eventRunId ≠ w.correlation.eventRunId ∨
      c.policySha256 ≠ p.policySha256 ∨ c.snapshotSha256 ≠ p.snapshotSha256)
    (rejectTruth "close_permit" "close permit is not bound to the opened expression")
  throwIf (¬ closeCreditWithinVerticalWidth p c.limitPrice)
    (rejectTruth "close_permit.limit_price" "close credit exceeds the opening vertical width")
  throwIf (c.permitId ≠ closePermitId c.openPermitId c.eventRunId c.policySha256 c.snapshotSha256
      c.issuedAt c.expiresAt c.limitPrice)
    (rejectTruth "close_permit.permit_id" "close permit identifier is not deterministic")
  throwIf (w.correlation.closePermitId ≠ none ∧ w.correlation.closePermitId ≠ some c.permitId)
    (rejectTruth "correlation.close_permit_id" "close permit differs from correlation")

def requireCloseBinding (p : DebitVerticalPermit) (c : ClosePermit) (openOrderId : String) :
    LifecycleProg CorrelationIdentity := do
  ofExcept (w.requireClosePermit p c)
  let unproved := rejectTruth "close.open_proof"
    "open permit/order/reservation does not prove a filled correlated opening"
  let submission ← readLedger p.permitId "submission.permit_id" (·.submissionForPermit p.permitId)
  let reservation ← readLedger p.eventRunId "reservation.event_id"
    (·.reservationForEvent p.eventRunId)
  raiseIf (submission.map (·.brokerOrderId) ≠ some openOrderId) unproved
  let permit ← readLedger p.permitId "permit.permit_id" (·.permit p.permitId)
  raiseIf (permit.map (·.state) ≠ some .filled ∨
      ¬ reservation.any (fun r => r.reservationId = w.correlation.reservationId ∧
        r.state = .consumed)) unproved
  ofExcept (w.correlation.withClosePermit c.permitId)

/-! ### Orders -/

def openLegs (p : DebitVerticalPermit) : List BrokerOptionLeg :=
  [p.longLeg, p.shortLeg].map fun leg =>
    ⟨leg.symbol, p.quantity * leg.ratioQty, leg.side.value, leg.positionIntent.value⟩

def inverseSide : OptionSide → OptionSide
  | .buy => .sell
  | .sell => .buy

def inverseIntent : PositionIntent → Option PositionIntent
  | .buyToOpen => some .sellToClose
  | .sellToOpen => some .buyToClose
  | _ => none

def closeLegs (p : DebitVerticalPermit) : Except LifecycleError (List BrokerOptionLeg) :=
  [p.longLeg, p.shortLeg].mapM fun leg =>
    match inverseIntent leg.positionIntent with
    | some intent =>
      .ok ⟨leg.symbol, p.quantity * leg.ratioQty, (inverseSide leg.side).value, intent.value⟩
    | none => .error (reject .unsupportedInput "close.legs"
        "close legs must reverse the frozen opening legs")

/-- `phase.lower()`. -/
def phaseLower : IntentPhase → String
  | .opening => "open"
  | .closing => "close"

def request (phase : IntentPhase) (permitId : String) (p : DebitVerticalPermit)
    (correlation : CorrelationIdentity) (limitPrice : Decimal) (legs : List BrokerOptionLeg) :
    BrokerOrderRequest :=
  let digest := correlationSha256 correlation
  ⟨⟨phaseLower phase ++ "-" ++ permitId ++ "-" ++ String.ofList (digest.toList.take 16), permitId,
    p.permitId, correlation.eventRunId, correlation.reservationId, digest, p.policySha256,
    p.snapshotSha256, w.accountId, w.accountClass, w.orderClass, legs⟩, phase, limitPrice⟩

def intentArgs (r : BrokerOrderRequest) (expectedQty : Int) (t : DateTime) : LifecycleIntentArgs :=
  ⟨r.permitId, r.phase, r.eventRunId, r.openPermitId, r.reservationId, r.correlationSha256,
    r.policySha256, r.snapshotSha256, r.accountId, r.accountClass, r.orderClass, r.clientOrderId,
    brokerOrderRequestSha256 r expectedQty, brokerOrderRequestPayload r expectedQty, t⟩

def recordIntent (r : BrokerOrderRequest) (expectedQty : Int) : LifecycleProg Unit := do
  let t ← now
  transact (fun e => reject .duplicateTick s!"intent.{r.permitId}"
      ("durable intent already exists or is invalid: " ++ e.reason.value))
    (.recordLifecycleIntent (intentArgs r expectedQty t))

def bindAck (r : BrokerOrderRequest) (ack : BrokerOrderAck) : LifecycleProg Unit := do
  raiseIf (strip ack.orderId = "" ∨ ack.clientOrderId ≠ r.clientOrderId)
    (rejectTruth "submission.ack" "ack does not bind to the submitted client order")
  let t ← now
  transact (fun e => rejectTruth "submission.intent"
      ("ack cannot bind durable intent: " ++ e.reason.value))
    (.bindLifecycleIntent r.permitId r.phase ack.orderId t)

/-! ### Fresh broker truth -/

/-- `f"{age:.0f}"` for an age in microseconds: the nearest second, ties to the even one. -/
def ageText (micros : Int) : String :=
  let q := micros / 1000000
  let r := micros % 1000000
  toString (if r < 500000 ∨ (r = 500000 ∧ q % 2 = 0) then q else q + 1)

def requireFresh (observedAt : DateTime) (path : String) (reason : LifecycleReason) :
    LifecycleProg Unit := do
  raiseIf (¬ observedAt.isAware)
    (rejectTruth path "broker truth has no timezone-aware observation time")
  let t ← now
  let age := t.micros - observedAt.micros
  raiseIf (age < 0) (reject .clockJump path "broker truth is from the future")
  raiseIf (w.truthMaxAgeSeconds * 1000000 < age) (reject reason path
    ("truth age " ++ ageText age ++ "s exceeds " ++ toString w.truthMaxAgeSeconds ++ "s"))

def validateAccount (account : AccountTruth) (r : BrokerOrderRequest) : LifecycleProg Unit := do
  w.requireFresh account.observedAt "account.observed_at" .staleAccountTruth
  raiseIf (account.accountId ≠ r.accountId ∨ account.accountClass ≠ r.accountClass ∨
      r.accountClass ≠ paperAccountClass ∨ r.orderClass ≠ multiLegOrderClass)
    (rejectTruth "account" "account/class/order class is missing or mismatched")

/-- The bound that a permit's price sets on the order's. -/
def priceInBounds (r : BrokerOrderRequest) (price : Decimal) : Bool :=
  match r.phase with
  | .opening => decide (0 < price.toRat) && decide (price.toRat ≤ r.limitPrice.toRat)
  | .closing => decide (r.limitPrice.toRat ≤ price.toRat) && decide (price.toRat ≤ 0)

/-- The comparisons of `_validate_order_truth`. -/
def checkOrderTruth (r : BrokerOrderRequest) (ack : BrokerOrderAck) (truth : BrokerOrderTruth) :
    Except LifecycleError Unit := do
  let mismatched := (if truth.orderId = ack.orderId then [] else ["order_id"]) ++
    r.toOrderIdentity.mismatches truth.toOrderIdentity []
  match mismatched with
  | field :: _ =>
    .error (rejectTruth s!"order.{field}" "broker truth does not match submitted order")
  | [] => .ok ()
  throwIf (truth.status = "" ∨ truth.filledQty < 0 ∨ ¬ truth.limitPrice.isFinite)
    (rejectTruth "order" "broker order status, quantity, or price is malformed")
  throwIf (¬ priceInBounds r truth.limitPrice)
    (rejectTruth "order.limit_price" "broker order price exceeds the frozen permit bound")

def validateOrderTruth (r : BrokerOrderRequest) (ack : BrokerOrderAck) (truth : BrokerOrderTruth) :
    LifecycleProg Unit := do
  w.requireFresh truth.observedAt s!"order.{ack.orderId}.observed_at" .staleBrokerTruth
  ofExcept (checkOrderTruth r ack truth)

/-- The identity checks of `_validate_position_truth`. -/
def checkSnapshot (r : BrokerOrderRequest) (ack : BrokerOrderAck)
    (snapshot : BrokerPositionSnapshot) : Except LifecycleError Unit :=
  let mismatched := (if snapshot.orderId = ack.orderId then [] else ["order_id"]) ++
    r.toOrderIdentity.mismatches snapshot.toOrderIdentity
      [("limit_price", decimalEq snapshot.limitPrice r.limitPrice)]
  match mismatched with
  | field :: _ =>
    .error (rejectTruth s!"positions.{field}" "position truth is cross-event or mismatched")
  | [] => .ok ()

/-- `dict(pairs)[key]`: the last value wins. -/
def dictGet (pairs : List (String × ℚ)) (key : String) : Option ℚ :=
  (pairs.reverse.find? fun kv => kv.1 = key).map Prod.snd

/-- `dict(pairs) == dict(pairs')`. -/
def dictEq (pairs pairs' : List (String × ℚ)) : Bool :=
  (pairs ++ pairs').all fun kv => dictGet pairs kv.1 == dictGet pairs' kv.1

def expectedPositions (r : BrokerOrderRequest) : List (String × ℚ) :=
  r.legs.map fun leg => (leg.symbol, if leg.side = "buy" then leg.quantity else -leg.quantity)

/-- One position of `_validate_position_truth`. -/
def validatePosition (position : PositionTruth) : LifecycleProg Unit := do
  raiseIf (position.symbol = "" ∨ ¬ position.qty.isFinite)
    (rejectTruth "positions" "broker position leg is malformed")
  w.requireFresh position.observedAt s!"position.{position.symbol}.observed_at" .staleQuote

def validatePositions : List PositionTruth → LifecycleProg Unit
  | [] => return ()
  | position :: rest => do
    w.validatePosition position
    validatePositions rest

def validatePositionTruth (r : BrokerOrderRequest) (ack : BrokerOrderAck)
    (snapshot : BrokerPositionSnapshot) (truth : BrokerOrderTruth) : LifecycleProg Unit := do
  w.requireFresh snapshot.observedAt s!"positions.{ack.orderId}.observed_at" .staleQuote
  ofExcept (checkSnapshot r ack snapshot)
  w.validatePositions snapshot.positions
  raiseIf (r.phase = .opening ∧ truth.status = "filled" ∧
      ¬ dictEq (snapshot.positions.map fun p => (p.symbol, p.qty.toRat)) (expectedPositions r))
    (rejectTruth "positions.legs"
      "opened position legs do not exactly match the submitted option legs")

def freshBoundTruth (r : BrokerOrderRequest) (ack : BrokerOrderAck) :
    LifecycleProg (BrokerOrderTruth × BrokerPositionSnapshot) := do
  let account ← orOutage "read_account" (← perform (S := lifecycleSig) .readAccount)
  let truth ← orOutage s!"read_order.{ack.orderId}"
    (← perform (S := lifecycleSig) (.readOrder ack.orderId))
  let positions ← orOutage "read_positions" (← perform (S := lifecycleSig) .readPositions)
  w.validateAccount account r
  w.validateOrderTruth r ack truth
  w.validatePositionTruth r ack positions truth
  return (truth, positions)

/-! ### Opening -/

def openingReconciliation (truth : BrokerOrderTruth) (status : String) (quantity : Decimal)
    (t : DateTime) : ReconcileArgs :=
  ⟨w.correlation.eventRunId, w.correlation.openPermitId, truth.orderId, status, quantity,
    truth.observedAt, t⟩

def recordOpenTransition (state : LifecycleState) (truth : BrokerOrderTruth) :
    LifecycleProg Unit := do
  let t ← now
  let refused (e : RiskRejected) := rejectTruth "open.persistence"
    ("ledger rejected verified broker truth: " ++ e.reason.value)
  let reconciled := transact refused
    (.markLifecycleIntentReconciled w.correlation.openPermitId t)
  match state with
  | .openFilled =>
    transact refused (.reconcileObservedOrder
      (w.openingReconciliation truth "FILLED" (.ofInt truth.filledQty) t))
    reconciled
  | .openCanceled =>
    transact refused (.reconcileObservedOrder
      (w.openingReconciliation truth "CANCELED" (.ofInt 0) t))
    reconciled
  | _ =>
    transact refused (.recordFill ⟨"open-" ++ truth.orderId, w.correlation.openPermitId,
      w.correlation.eventRunId, .ofInt truth.filledQty, state.value, truth.observedAt⟩)

/-- The guards of `open` before its request is built. -/
def requireOpening (p : DebitVerticalPermit) : LifecycleProg Unit := do
  let duplicate (detail : String) := reject .duplicateTick s!"open.{p.permitId}" detail
  ofExcept w.requireClocksVerified
  ofExcept w.requirePaperBoundary
  ofExcept (w.requireClockScope p)
  requireActiveWindow p.issuedAt p.expiresAt "open_permit" .permitNotActive
  let intent ← readLedger p.permitId "lifecycle_intent.permit_id"
    (·.lifecycleIntentForPermit p.permitId)
  raiseIf intent.isSome
    (duplicate "a durable opening intent already exists; restart recovery must not replay it")
  let t ← now
  let late ← ofExcept (isBefore w.clocks.entryDeadlineAt t)
  raiseIf (late = true) (reject .entryDeadlinePassed "clocks.entry_deadline_at"
    "the entry deadline has passed before submission")
  requireMutation
  w.requireOpenBinding p
  let submitted : Bool ← perform (S := lifecycleSig) (.remembered w.worker .opening p.permitId)
  raiseIf (submitted = true)
    (duplicate "this opening permit was already submitted; a tick cannot duplicate it")

def openRequest (p : DebitVerticalPermit) : BrokerOrderRequest :=
  w.request .opening p.permitId p w.correlation p.limitPrice (openLegs p)

def claimPermit (r : BrokerOrderRequest) (expectedQty : Int) : LifecycleProg Unit := do
  recordIntent r expectedQty
  perform (S := lifecycleSig) (.remember w.worker r.phase r.permitId)

/-- `open` up to the ledger's record of its order. -/
def submitOpening (p : DebitVerticalPermit) : LifecycleProg BrokerOrderAck := do
  w.requireOpening p
  let r := w.openRequest p
  w.claimPermit r p.quantity
  let ack ← orOutage "open.submit" (← perform (S := lifecycleSig) (.submitOpen r))
  bindAck r ack
  let t ← now
  transact (fun e => rejectTruth "open.submission"
      ("ledger rejected broker order binding: " ++ e.reason.value))
    (.recordSubmission ⟨r.eventRunId, r.permitId, ack.orderId, t, false⟩)
  return ack

def openPosition (p : DebitVerticalPermit) : LifecycleProg (LifecycleState × String) := do
  let ack ← w.submitOpening p
  let (truth, _) ← w.freshBoundTruth (w.openRequest p) ack
  let state := reduceOpenOrder truth p.quantity
  w.recordOpenTransition state truth
  return (state, ack.orderId)

/-! ### Closing -/

/-- The guards of `close` before its request is built. -/
def requireClosing (p : DebitVerticalPermit) (c : ClosePermit) (openOrderId : String) :
    LifecycleProg CorrelationIdentity := do
  let duplicate (detail : String) := reject .duplicateTick s!"close.{c.permitId}" detail
  ofExcept w.requireClocksVerified
  ofExcept w.requirePaperBoundary
  ofExcept (w.requireClockScope p)
  requireMutation
  let t ← now
  let late ← ofExcept (isBefore w.clocks.flatteningDeadlineAt t)
  raiseIf (late = true) (reject .flatteningDeadlinePassed "clocks.flattening_deadline_at"
    "the flattening deadline has passed; deterministic close is no longer safe")
  let correlation ← w.requireCloseBinding p c openOrderId
  let early ← ofExcept (isBefore t w.clocks.timeExitAt)
  raiseIf (early = true) (reject .closePermitUnavailable "clocks.time_exit_at"
    "the frozen time-exit clock has not arrived")
  requireActiveWindow c.issuedAt c.expiresAt "close_permit" .closePermitUnavailable
  let intent ← readLedger w.correlation.eventRunId "lifecycle_intent.event_id"
    (·.lifecycleIntentForEventPhase w.correlation.eventRunId .closing)
  raiseIf intent.isSome
    (duplicate "a durable close intent already exists for this lifecycle event")
  let submitted : Bool ← perform (S := lifecycleSig) (.remembered w.worker .closing c.permitId)
  raiseIf (submitted = true)
    (duplicate "this close permit was already submitted; a tick cannot duplicate it")
  return correlation

def closeRequest (p : DebitVerticalPermit) (c : ClosePermit) (correlation : CorrelationIdentity)
    (legs : List BrokerOptionLeg) : BrokerOrderRequest :=
  w.request .closing c.permitId p correlation c.limitPrice legs

/-- The states in which `close` gives up, and what it raises. -/
def requireClosed (orderId : String) (state : LifecycleState) : Except LifecycleError Unit := do
  throwIf (state = .closePartial) (reject .closeOrderPartial s!"close.{orderId}"
    "partial close cannot be repaired by sequential option legging")
  throwIf (state = .manualRequired) (reject .manualRequired s!"close.{orderId}"
    "close could not be confirmed flat from broker truth")

/-- `close` up to the ledger's record of its order. -/
def submitClosing (p : DebitVerticalPermit) (c : ClosePermit) (openOrderId : String) :
    LifecycleProg (BrokerOrderRequest × BrokerOrderAck) := do
  let correlation ← w.requireClosing p c openOrderId
  let legs ← ofExcept (closeLegs p)
  let r := w.closeRequest p c correlation legs
  w.claimPermit r p.quantity
  let ack ← orOutage "close.submit" (← perform (S := lifecycleSig) (.submitClose r))
  bindAck r ack
  return (r, ack)

/-- What `close` writes once the broker is flat. -/
def recordFlat (p : DebitVerticalPermit) (r : BrokerOrderRequest) : LifecycleProg Unit := do
  let refused (e : RiskRejected) := rejectTruth "close.persistence"
    ("ledger rejected broker-flat proof: " ++ e.reason.value)
  let t ← now
  transact refused (.releaseConsumedAfterFlat w.correlation.eventRunId p.permitId t)
  let t' ← now
  transact refused (.markLifecycleIntentReconciled r.permitId t')

def closePosition (p : DebitVerticalPermit) (c : ClosePermit) (openOrderId : String) :
    LifecycleProg (LifecycleState × String) := do
  let (r, ack) ← w.submitClosing p c openOrderId
  let (truth, positions) ← w.freshBoundTruth r ack
  let state := reduceCloseOrder truth positions.positions p.quantity
  ofExcept (requireClosed ack.orderId state)
  ofExcept (ensureNoResidue positions.positions)
  w.recordFlat p r
  return (state, ack.orderId)

/-! ### Recovery -/

def storedRequest (intent : LifecycleIntentRow) (phase : IntentPhase) :
    Except LifecycleError (BrokerOrderRequest × Int) := do
  let expected ← match phase with
    | .opening => .ok w.correlation
    | .closing => w.correlation.withClosePermit intent.permitId
  let invalid (path detail : String) := reject .restartStateInvalid path detail
  let (r, expectedQty) ← (parseBrokerOrderRequestPayload intent.requestJson).mapError fun message =>
    invalid "recovery.intent.request_json" ("stored request cannot be restored: " ++ message)
  throwIf (brokerOrderRequestSha256 r expectedQty ≠ intent.requestSha256 ∨
      r.permitId ≠ intent.permitId ∨ r.phase ≠ phase ∨
      r.eventRunId ≠ w.correlation.eventRunId ∨ r.openPermitId ≠ w.correlation.openPermitId ∨
      r.correlationSha256 ≠ correlationSha256 expected)
    (invalid "recovery.intent" "stored request does not match the durable lifecycle identity")
  return (r, expectedQty)

def durableSubmittedRequest (intent : LifecycleIntentRow) (phase : IntentPhase) :
    Except LifecycleError (BrokerOrderRequest × Int × String) := do
  let missing := reject .restartStateInvalid "recovery.intent"
    "a submitted durable lifecycle intent is required"
  let orderId ← match intent.brokerOrderId with
    | some id => .ok id
    | none => .error missing
  throwIf (intent.phase ≠ phase ∨ intent.eventId ≠ w.correlation.eventRunId ∨ strip orderId = "" ∨
    intent.state = .intended) missing
  let (r, expectedQty) ← w.storedRequest intent phase
  return (r, expectedQty, orderId)

def recoverOpenState (openOrderId : String) (expectedQty : Int) : LifecycleProg LifecycleState := do
  let invalid (detail : String) := reject .restartStateInvalid "recovery.open_intent" detail
  let found ← readLedger w.correlation.openPermitId "lifecycle_intent.permit_id"
    (·.lifecycleIntentForPermit w.correlation.openPermitId)
  match found with
  | none => raise (invalid "no durable opening intent exists for this lifecycle")
  | some intent => do
    let (r, durableQty, orderId) ← ofExcept (w.durableSubmittedRequest intent .opening)
    raiseIf (openOrderId ≠ orderId ∨ expectedQty ≠ durableQty)
      (invalid "requested recovery order or quantity differs from the durable intent")
    let t ← now
    let (truth, _) ← w.freshBoundTruth r ⟨orderId, r.clientOrderId, t⟩
    return reduceOpenOrder truth durableQty

def recoverFlatness : LifecycleProg LifecycleState := do
  let found ← readLedger w.correlation.eventRunId "lifecycle_intent.event_id"
    (·.lifecycleIntentForEventPhase w.correlation.eventRunId .closing)
  match found with
  | none => return .manualRequired
  | some intent => do
    let (r, durableQty, orderId) ← ofExcept (w.durableSubmittedRequest intent .closing)
    let t ← now
    let (truth, positions) ← w.freshBoundTruth r ⟨orderId, r.clientOrderId, t⟩
    let state := reduceCloseOrder truth positions.positions durableQty
    return if state = .closedFlat then .closedFlat else .manualRequired

end MonitoredPaperLifecycle

end EsscherMarket.Lifecycle
