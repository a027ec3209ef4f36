import EsscherMarket.Risk.Ledger.Schema
import Mathlib.Data.List.Sort

/-!
# The risk ledger: operations

The methods of `RiskLedger` in the order of the source.  Every method checks its arguments first and
then runs one transaction; a raise anywhere leaves the ledger as it was.
-/

namespace EsscherMarket.Risk

open Lib Execution Txn

/-! ### Reads -/

namespace Ledger

def candidateForEvent (s : Ledger) (event : String) : Option CandidateRow :=
  s.candidates.find? fun c => c.eventId = event

def notRunExists (s : Ledger) (event : String) : Bool := s.notRun.any fun n => n.eventId = event

def notRunReason (s : Ledger) (event : String) : Option String :=
  (s.notRun.find? fun n => n.eventId = event).map (·.reason)

def reservationForEvent (s : Ledger) (event : String) : Option ReservationRow :=
  s.reservations.find? fun r => r.eventId = event

def permitForEvent (s : Ledger) (event : String) : Option PermitRow :=
  s.permits.find? fun p => p.eventId = event

def permit (s : Ledger) (permitId : String) : Option PermitRow :=
  s.permits.find? fun p => p.permitId = permitId

def submissionForPermit (s : Ledger) (permitId : String) : Option SubmissionRow :=
  s.submissions.find? fun r => r.permitId = permitId

def lifecycleIntentForPermit (s : Ledger) (permitId : String) : Option LifecycleIntentRow :=
  s.lifecycleIntents.find? fun i => i.permitId = permitId

def lifecycleIntentForEventPhase (s : Ledger) (event : String) (phase : IntentPhase) :
    Option LifecycleIntentRow :=
  s.lifecycleIntents.find? fun i => i.eventId = event ∧ i.phase = phase

def openReservations (s : Ledger) : List ReservationRow :=
  s.reservations.filter fun r => r.state.isOpen

def openReservationsFor (s : Ledger) (underlying : String) : List ReservationRow :=
  s.openReservations.filter fun r => r.underlying = underlying

def openReservationCount (s : Ledger) : Nat := s.openReservations.length

/-- Reservations created on the UTC day of `now`. -/
def entriesToday (s : Ledger) (now : DateTime) : Nat :=
  (s.reservations.filter fun r => r.createdAt.utcDay = now.utcDay).length

end Ledger

def storedAmount (r : ReservationRow) : Except LedgerError Decimal :=
  match r.amount.value with
  | none => .error (reject .exposureNotCalculable "reservations.amount"
      ("stored amount is malformed: " ++ Decimal.syntaxError))
  | some d => amountOf d "reservations.amount"

/-- `_sum_open_reservations`, over the rows it selected. -/
def sumReservations : List ReservationRow → Except LedgerError ℚ
  | [] => .ok 0
  | r :: rest => do
    let value ← storedAmount r
    let total ← sumReservations rest
    return value.toRat + total

namespace Ledger

/-- `open_reservation_total`: `RESERVED` and consumed-but-not-broker-flat exposure. -/
def openReservationTotal (s : Ledger) : Except LedgerError ℚ := sumReservations s.openReservations

def openReservationTotalForUnderlying (s : Ledger) (underlying : String) :
    Except LedgerError ℚ := do
  let symbol ← underlyingText underlying "underlying"
  sumReservations (s.openReservationsFor symbol)

end Ledger

/-! ### Candidates and abstentions -/

structure CandidateArgs where
  eventId : String
  candidateId : String
  policySha256 : String
  decisionSha256 : String
  expressionSha256 : String
  evidenceMode : String
  now : DateTime

def validatedCandidate (a : CandidateArgs) : Except LedgerError CandidateRow := do
  let event ← identifier a.eventId "candidate.event_id"
  let candidate ← identifier a.candidateId "candidate.candidate_id"
  let policy ← sha256Text a.policySha256 "candidate.policy_sha256"
  let decision ← sha256Text a.decisionSha256 "candidate.decision_sha256"
  let expression ← sha256Text a.expressionSha256 "candidate.expression_sha256"
  let mode ← identifier a.evidenceMode "candidate.evidence_mode"
  let created ← timestamp a.now "candidate.created_at"
  return ⟨event, candidate, policy, decision, expression, mode, created⟩

/-- The part that `record_candidate` and `freeze_candidate` share. -/
def storeCandidate (row : CandidateRow) : LedgerTxn Unit := do
  let s ← select id
  raiseIf (s.candidateForEvent row.eventId).isSome
    (reject .immutableEventReplay s!"candidate.{row.eventId}"
      "candidate identity is first-write immutable")
  raiseIf (s.notRunExists row.eventId)
    (reject .notRunEvent s!"candidate.{row.eventId}" "event is marked NOT_RUN")
  insertCandidate row

/-- `record_candidate`: without a passport event, for migration and import. -/
def recordCandidate (a : CandidateArgs) : LedgerTxn Unit := do
  let row ← lift (validatedCandidate a)
  immediate (storeCandidate row)

def freezeCandidate (a : CandidateArgs) : LedgerTxn Unit := do
  let row ← lift (validatedCandidate a)
  immediate do
    storeCandidate row
    appendPassport .candidateFrozen (.obj [
      ("event_id", .str row.eventId),
      ("candidate_id", .str row.candidateId),
      ("risk_policy_sha256", .str row.policySha256),
      ("decision_sha256", .str row.decisionSha256),
      ("compiled_expression_sha256", .str row.expressionSha256),
      ("evidence_mode", .str row.evidenceMode)]) row.createdAt

def recordNotRunWith (passport : Bool) (eventId reason : String) (now : DateTime) :
    LedgerTxn Unit := do
  let event ← lift (identifier eventId "not_run.event_id")
  let detail ← lift (identifier reason "not_run.reason")
  let created ← lift (timestamp now "not_run.created_at")
  immediate do
    let s ← select id
    raiseIf (s.notRunExists event)
      (reject .immutableEventReplay s!"not_run.{event}" "NOT_RUN is first-write immutable")
    raiseIf (s.reservationForEvent event).isSome
      (reject .eventLifecycleInvalid s!"not_run.{event}"
        "an event with a reservation cannot become NOT_RUN")
    insertNotRun ⟨event, detail, created⟩
    if passport then
      appendPassport .notRun (.obj [("event_id", .str event), ("reason", .str detail)]) created

/-- `record_not_run`: without a passport event. -/
def recordNotRun : String → String → DateTime → LedgerTxn Unit := recordNotRunWith false

def markNotRun : String → String → DateTime → LedgerTxn Unit := recordNotRunWith true

/-! ### Reservations and permits -/

/-- `_insert_reservation`. -/
def newReservation (reservationId event : String) (amount : AmountText) (underlying : String)
    (created : DateTime) : ReservationRow :=
  ⟨reservationId, event, amount, .reserved, underlying, created, created⟩

/-- `_insert_permit`. -/
def newPermit (permitId event reservationId permitSha256 : String) (created : DateTime) :
    PermitRow :=
  ⟨permitId, event, reservationId, permitSha256, .issued, created, created⟩

/-- `reserve`: a standalone reservation, for migration-level tests. -/
def reserve (eventId : String) (amount : Decimal) (underlying : String) (now : DateTime) :
    LedgerTxn String := do
  let event ← lift (identifier eventId "reservation.event_id")
  let value ← lift (amountOf amount s!"reservation.{event}.amount")
  let symbol ← lift (underlyingText underlying s!"reservation.{event}.underlying")
  let created ← lift (timestamp now "reservation.created_at")
  let reservationId := "rsv-" ++ event
  immediate do
    let s ← select id
    raiseIf (s.notRunExists event)
      (reject .notRunEvent s!"reservation.{event}" "event is marked NOT_RUN")
    raiseIf (s.reservationForEvent event).isSome
      (reject .duplicateEventReservation s!"reservation.{event}"
        "a reservation already exists for this event")
    insertReservation (newReservation reservationId event (.ofStr value) symbol created)
    return reservationId

/-- `UPDATE reservations SET state=?, updated_at=? WHERE event_id=?`. -/
def reservationsSet (event : String) (state : ReservationState) (now : DateTime) :
    List ReservationRow → List ReservationRow :=
  Table.setWhere (fun r => r.eventId = event) fun r => { r with state := state, updatedAt := now }

/-- `UPDATE permits SET state=?, updated_at=? WHERE permit_id=?`. -/
def permitsSet (permitId : String) (state : PermitState) (now : DateTime) :
    List PermitRow → List PermitRow :=
  Table.setWhere (fun p => p.permitId = permitId) fun p => { p with state := state, updatedAt := now }

def setReservationState (event : String) (state : ReservationState) (now : DateTime) :
    LedgerTxn Unit :=
  write fun s => s.withReservations (reservationsSet event state now s.reservations)

def transitionReservation (eventId : String) (fromState toState : ReservationState)
    (now : DateTime) : LedgerTxn Unit := do
  let event ← lift (identifier eventId "reservation.event_id")
  let updated ← lift (timestamp now "reservation.updated_at")
  immediate do
    let reservation ← select (·.reservationForEvent event)
    let found := match reservation with
      | none => "None"
      | some r => r.state.value
    raiseIf (reservation.map (·.state) ≠ some fromState)
      (reject .reservationNotReleased s!"reservation.{event}"
        ("expected " ++ fromState.value ++ ", found " ++ found))
    setReservationState event toState updated

def consumeReservation (eventId : String) (now : DateTime) : LedgerTxn Unit :=
  transitionReservation eventId .reserved .consumed now

def releaseReservation (eventId : String) (now : DateTime) : LedgerTxn Unit :=
  transitionReservation eventId .reserved .released now

def recordPermit (permitId eventId reservationId permitSha256 : String) (now : DateTime) :
    LedgerTxn Unit := do
  let permit ← lift (identifier permitId "permit.permit_id")
  let event ← lift (identifier eventId "permit.event_id")
  let reservation ← lift (identifier reservationId "permit.reservation_id")
  let digest ← lift (sha256Text permitSha256 "permit.permit_sha256")
  let created ← lift (timestamp now "permit.created_at")
  immediate do
    let s ← select id
    let _ ← orRaise ((s.reservationForEvent event).filter fun r =>
        r.reservationId = reservation ∧ r.state = .reserved ∧ s.permitForEvent event = none)
      (reject .eventLifecycleInvalid s!"permit.{permit}"
        "permit must own the event's one RESERVED reservation")
    insertPermit (newPermit permit event reservation digest created)

def transitionPermit (permitId : String) (expected target : PermitState) (now : DateTime) :
    LedgerTxn Unit := do
  let found ← select (·.permit permitId)
  let permit ← orRaise found
    (reject .permitLifecycleInvalid s!"permit.{permitId}" "permit does not exist")
  raiseIf (permit.state ≠ expected)
    (reject .permitLifecycleInvalid s!"permit.{permitId}"
      ("expected " ++ expected.value ++ ", found " ++ permit.state.value))
  let updated ← lift (timestamp now "permit.updated_at")
  write fun s => s.withPermits (permitsSet permitId target updated s.permits)

/-- `update_permit_state`: the only allowed transition is from `ISSUED` to `SUBMITTED`. -/
def updatePermitState (permitId toState : String) (now : DateTime) : LedgerTxn Unit := do
  let permit ← lift (identifier permitId "permit.permit_id")
  let target ← lift (identifier toState "permit.to_state")
  immediate do
    let current ← select (·.permit permit)
    raiseIf (¬ (current.map (·.state) = some .issued ∧ target = "SUBMITTED"))
      (reject .permitLifecycleInvalid s!"permit.{permit}" s!"illegal transition to {target}")
    transitionPermit permit .issued .submitted now

/-! ### Lifecycle intents -/

structure LifecycleIntentArgs where
  permitId : String
  phase : IntentPhase
  eventId : String
  openPermitId : String
  reservationId : String
  correlationSha256 : String
  policySha256 : String
  snapshotSha256 : String
  accountId : String
  accountClass : String
  orderClass : String
  clientOrderId : String
  requestSha256 : String
  requestJson : Json
  now : DateTime

/-- `expected_request_fields`: the request fields that the intent's columns repeat. -/
def expectedRequestFields (a : LifecycleIntentArgs) : List (String × String) :=
  [("permit_id", a.permitId),
   ("open_permit_id", a.openPermitId),
   ("phase", a.phase.value),
   ("event_run_id", a.eventId),
   ("reservation_id", a.reservationId),
   ("correlation_sha256", a.correlationSha256),
   ("policy_sha256", a.policySha256),
   ("snapshot_sha256", a.snapshotSha256),
   ("account_id", a.accountId),
   ("account_class", a.accountClass),
   ("order_class", a.orderClass),
   ("client_order_id", a.clientOrderId)]

/-- `request_payload.get(field) == expected`. -/
def fieldIs (payload : Json) (kv : String × String) : Bool :=
  match payload.field? kv.1 with
  | some (.str s) => s == kv.2
  | _ => false

/-- `{**payload, …}` for an object: the extra fields win. -/
def withFields (payload : Json) (extra : List (String × Json)) : Json :=
  match payload with
  | .obj fields => .obj (fields.filter (fun kv => !(extra.any fun e => e.1 == kv.1)) ++ extra)
  | other => other

/-- The checks of `record_lifecycle_intent` before its transaction. -/
def validatedIntent (a : LifecycleIntentArgs) : Except LedgerError LifecycleIntentRow := do
  let permit ← identifier a.permitId "lifecycle_intent.permit_id"
  let event ← identifier a.eventId "lifecycle_intent.event_id"
  let openPermit ← identifier a.openPermitId "lifecycle_intent.open_permit_id"
  let reservation ← identifier a.reservationId "lifecycle_intent.reservation_id"
  let correlation ← sha256Text a.correlationSha256 "lifecycle_intent.correlation_sha256"
  let policy ← sha256Text a.policySha256 "lifecycle_intent.policy_sha256"
  let snapshot ← sha256Text a.snapshotSha256 "lifecycle_intent.snapshot_sha256"
  let account ← identifier a.accountId "lifecycle_intent.account_id"
  let accountType ← identifier a.accountClass "lifecycle_intent.account_class"
  let orderType ← identifier a.orderClass "lifecycle_intent.order_class"
  let clientOrder ← identifier a.clientOrderId "lifecycle_intent.client_order_id"
  let requestHash ← sha256Text a.requestSha256 "lifecycle_intent.request_sha256"
  throwIf (¬ a.requestJson.isObject ∨ a.requestJson.sha256 ≠ requestHash)
    (reject .unsupportedInput "lifecycle_intent.request_json"
      "must match its canonical request hash")
  throwIf (¬ (expectedRequestFields a).all (fieldIs a.requestJson))
    (reject .unsupportedInput "lifecycle_intent.request_json"
      "request identity differs from durable intent columns")
  let created ← timestamp a.now "lifecycle_intent.created_at"
  return ⟨permit, a.phase, event, openPermit, reservation, correlation, policy, snapshot, account,
    accountType, orderType, clientOrder, requestHash, a.requestJson, none, .intended, created,
    created⟩

/-- `record_lifecycle_intent`: claim one lifecycle permit before its broker mutation. -/
def recordLifecycleIntent (a : LifecycleIntentArgs) : LedgerTxn Unit := do
  let row ← lift (validatedIntent a)
  immediateOr (fun message => reject .permitLifecycleInvalid s!"lifecycle_intent.{row.permitId}"
      ("duplicate lifecycle intent: " ++ message)) do
    insertLifecycleIntent row
    appendPassport .orderIntended
      (withFields row.requestJson [("request_sha256", .str row.requestSha256)]) row.createdAt

/-- `bind_lifecycle_intent`: bind an acknowledged broker order to exactly one prior intent. -/
def bindLifecycleIntent (permitId : String) (phase : IntentPhase) (brokerOrderId : String)
    (now : DateTime) : LedgerTxn Unit := do
  let permit ← lift (identifier permitId "lifecycle_intent.permit_id")
  let order ← lift (identifier brokerOrderId "lifecycle_intent.broker_order_id")
  let updated ← lift (timestamp now "lifecycle_intent.updated_at")
  immediateOr (fun message => reject .permitLifecycleInvalid s!"lifecycle_intent.{permit}"
      ("duplicate lifecycle broker order: " ++ message)) do
    let found ← select (·.lifecycleIntentForPermit permit)
    let intent ← orRaise (found.filter fun i => i.phase = phase ∧ i.state = .intended)
      (reject .permitLifecycleInvalid s!"lifecycle_intent.{permit}"
        "an unbound matching durable intent is required")
    let others ← select fun s => s.lifecycleIntents.any fun i =>
      i.permitId ≠ permit ∧ i.brokerOrderId = some order
    raiseIf others
      (.integrity "UNIQUE constraint failed: lifecycle_intents.broker_order_id")
    write fun s => s.withLifecycleIntents (Table.setWhere (fun i => i.permitId = permit)
      (fun i => { i with brokerOrderId := some order, state := .submitted, updatedAt := updated })
      s.lifecycleIntents)
    appendPassport .orderSubmitted (withFields intent.requestJson
      [("request_sha256", .str intent.requestSha256), ("broker_order_id", .str order)]) updated

def markLifecycleIntentReconciled (permitId : String) (now : DateTime) : LedgerTxn Unit := do
  let permit ← lift (identifier permitId "lifecycle_intent.permit_id")
  let updated ← lift (timestamp now "lifecycle_intent.updated_at")
  immediate do
    let intent ← select (·.lifecycleIntentForPermit permit)
    raiseIf (intent.map (·.state) ≠ some .submitted)
      (reject .permitLifecycleInvalid s!"lifecycle_intent.{permit}"
        "only a bound lifecycle intent can be reconciled")
    write fun s => s.withLifecycleIntents (Table.setWhere (fun i => i.permitId = permit)
      (fun i => { i with state := .reconciled, updatedAt := updated }) s.lifecycleIntents)

/-! ### Submissions, fills and reconciliation -/

structure SubmissionArgs where
  eventId : String
  permitId : String
  brokerOrderId : String
  now : DateTime
  appendPassport : Bool

/-- `record_submission`: bind an `ISSUED` permit to exactly one broker order identity. -/
def recordSubmission (a : SubmissionArgs) : LedgerTxn Unit := do
  let event ← lift (identifier a.eventId "submission.event_id")
  let permitId ← lift (identifier a.permitId "submission.permit_id")
  let orderId ← lift (identifier a.brokerOrderId "submission.broker_order_id")
  let submitted ← lift (timestamp a.now "submission.submitted_at")
  immediateOr (fun message => reject .permitLifecycleInvalid s!"submission.{permitId}"
      ("duplicate or invalid submission: " ++ message)) do
    let s ← select id
    let permit ← orRaise ((s.permit permitId).filter fun p => p.eventId = event)
      (reject .eventLifecycleInvalid s!"submission.{permitId}" "permit does not own this event")
    let _ ← orRaise ((s.reservationForEvent event).filter fun r =>
        r.reservationId = permit.reservationId ∧ r.state = .reserved)
      (reject .eventLifecycleInvalid s!"submission.{permitId}"
        "permit reservation is not RESERVED")
    transitionPermit permitId .issued .submitted submitted
    insertSubmission ⟨permitId, event, orderId, submitted⟩
    if a.appendPassport then
      appendPassport .orderSubmitted (.obj [
        ("event_id", .str event),
        ("permit_id", .str permitId),
        ("broker_order_id", .str orderId)]) submitted

structure FillArgs where
  fillId : String
  permitId : String
  eventId : String
  quantity : Decimal
  status : String
  observedAt : DateTime

/-- `record_fill`: a broker-observed fill identity without a terminal transition. -/
def recordFill (a : FillArgs) : LedgerTxn Unit := do
  let fill ← lift (identifier a.fillId "fill.fill_id")
  let permit ← lift (identifier a.permitId "fill.permit_id")
  let event ← lift (identifier a.eventId "fill.event_id")
  let value ← lift (amountOf a.quantity "fill.quantity")
  let state ← lift (identifier a.status "fill.status")
  let observed ← lift (timestamp a.observedAt "fill.observed_at")
  immediateOr (fun message => reject .permitLifecycleInvalid s!"fill.{fill}"
      ("fill is already recorded: " ++ message)) do
    let owner ← select (·.permit permit)
    let _ ← orRaise (owner.filter fun p => p.eventId = event)
      (reject .eventLifecycleInvalid s!"fill.{fill}" "permit/event mismatch")
    insertFill ⟨fill, permit, event, value, state, observed⟩

structure ReconcileArgs where
  eventId : String
  permitId : String
  brokerOrderId : String
  status : String
  filledQuantity : Decimal
  observedAt : DateTime
  now : DateTime

/-- The terminal transition that an observed order status stands for: the permit's and the
reservation's new states and the passport event. -/
def terminalTransition (permitId status : String) (quantity : ℚ) :
    Except LedgerError (PermitState × ReservationState × PassportEventType) :=
  if status = "FILLED" then
    if quantity ≤ 0 then
      .error (reject .contradictoryTruth s!"reconcile.{permitId}"
        "FILLED broker order must have positive filled quantity")
    else .ok (.filled, .consumed, .fillObserved)
  else if status = "CANCELED" ∧ quantity = 0 then
    .ok (.cancelled, .released, .reservationReleased)
  else if status = "PARTIALLY_FILLED" ∨ 0 < quantity then
    .error (reject .partialFillState s!"reconcile.{permitId}"
      "partial/ambiguous broker order cannot release a reservation")
  else
    .error (reject .contradictoryTruth s!"reconcile.{permitId}"
      s!"unsupported terminal order status {status}")

def settle (fill : FillRow) (terminal : PermitState × ReservationState × PassportEventType)
    (current : DateTime) : LedgerTxn Unit := do
  transitionPermit fill.permitId .submitted terminal.1 current
  setReservationState fill.eventId terminal.2.1 current
  insertFill fill
  appendPassport terminal.2.2 (.obj [
    ("event_id", .str fill.eventId),
    ("permit_id", .str fill.permitId),
    ("broker_order_id", .str fill.fillId),
    ("status", .str fill.status),
    ("filled_quantity", .str fill.quantity.toText)]) current
  appendPassport .reconciled (.obj [
    ("event_id", .str fill.eventId),
    ("permit_id", .str fill.permitId),
    ("result", .str terminal.1.value)]) current

/-- `reconcile_observed_order`: terminally reconcile one identity-bound order observation. -/
def reconcileObservedOrder (a : ReconcileArgs) : LedgerTxn Unit := do
  let event ← lift (identifier a.eventId "reconcile.event_id")
  let permitId ← lift (identifier a.permitId "reconcile.permit_id")
  let orderId ← lift (identifier a.brokerOrderId "reconcile.broker_order_id")
  let status ← lift (identifier a.status "reconcile.status")
  let quantity ← lift (amountOf a.filledQuantity "reconcile.filled_quantity")
  let observed ← lift (timestamp a.observedAt "reconcile.observed_at")
  let current ← lift (timestamp a.now "reconcile.now")
  immediateOr (fun message => reject .permitLifecycleInvalid s!"reconcile.{permitId}"
      ("replayed broker order observation: " ++ message)) do
    let s ← select id
    let permit ← orRaise ((s.permit permitId).filter fun p => p.eventId = event)
      (reject .eventLifecycleInvalid s!"reconcile.{permitId}" "permit does not own this event")
    let _ ← orRaise ((s.submissionForPermit permitId).filter fun r =>
        r.eventId = event ∧ r.brokerOrderId = orderId)
      (reject .contradictoryTruth s!"reconcile.{permitId}"
        "observed order is not the permit's submitted broker order")
    raiseIf (permit.state ≠ .submitted)
      (reject .permitLifecycleInvalid s!"reconcile.{permitId}"
        ("expected SUBMITTED, found " ++ permit.state.value))
    let _ ← orRaise ((s.reservationForEvent event).filter fun r =>
        r.reservationId = permit.reservationId ∧ r.state = .reserved)
      (reject .eventLifecycleInvalid s!"reconcile.{permitId}"
        "permit reservation is not RESERVED")
    let terminal ← lift (terminalTransition permitId status quantity.toRat)
    settle ⟨orderId, permitId, event, quantity, status, observed⟩ terminal current

/-- `release_consumed_after_flat`: after a separate broker-flat proof. -/
def releaseConsumedAfterFlat (eventId permitId : String) (now : DateTime) : LedgerTxn Unit := do
  let event ← lift (identifier eventId "flat.event_id")
  let permitId ← lift (identifier permitId "flat.permit_id")
  let current ← lift (timestamp now "flat.now")
  immediate do
    let s ← select id
    let notFlat := reject .eventLifecycleInvalid s!"flat.{permitId}"
      "only a FILLED permit's CONSUMED reservation can become flat"
    let permit ← orRaise ((s.permit permitId).filter fun p =>
      p.eventId = event ∧ p.state = .filled) notFlat
    let _ ← orRaise ((s.reservationForEvent event).filter fun r =>
      r.reservationId = permit.reservationId ∧ r.state = .consumed) notFlat
    setReservationState event .released current
    appendPassport .reconciled (.obj [
      ("event_id", .str event),
      ("permit_id", .str permitId),
      ("result", .str "FLAT")]) current

end EsscherMarket.Risk
