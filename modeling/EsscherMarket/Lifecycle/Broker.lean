import Mathlib
import EsscherMarket.Risk.Ledger.Operations

/-!
# Orders, broker truth and the frozen clocks of a lifecycle

`lifecycle/broker.py`, `lifecycle/clocks.py`, `lifecycle/correlation.py`, `lifecycle/reasons.py` and
`lifecycle/reducer.py`.  A submission's acknowledgement is no proof of a fill: what an order became
is reduced from read-back truth only.
-/

namespace EsscherMarket.Lifecycle

open Lib Execution Risk

/-! ### States and reasons -/

inductive LifecycleState where
  | approved
  | openSubmitted
  | openPartial
  | openFilled
  | openCanceled
  | openUnknown
  | holding
  | closeDue
  | closeSubmitted
  | closePartial
  | closedFlat
  | manualRequired
  deriving DecidableEq, Repr

def LifecycleState.value : LifecycleState → String
  | approved => "APPROVED"
  | openSubmitted => "OPEN_SUBMITTED"
  | openPartial => "OPEN_PARTIAL"
  | openFilled => "OPEN_FILLED"
  | openCanceled => "OPEN_CANCELED"
  | openUnknown => "OPEN_UNKNOWN"
  | holding => "HOLDING"
  | closeDue => "CLOSE_DUE"
  | closeSubmitted => "CLOSE_SUBMITTED"
  | closePartial => "CLOSE_PARTIAL"
  | closedFlat => "CLOSED_FLAT"
  | manualRequired => "MANUAL_REQUIRED"

/-- The reasons that the worker and its boundary raise. -/
inductive LifecycleReason where
  | exitPlanUnverified
  | exitPlanClocksMisordered
  | exitPlanCohortMismatch
  | entryDeadlinePassed
  | permitNotActive
  | duplicateTick
  | closePermitUnavailable
  | closeOrderPartial
  | brokerOutage
  | staleQuote
  | staleAccountTruth
  | staleBrokerTruth
  | brokerTruthMismatch
  | nonFlatClose
  | flatteningDeadlinePassed
  | clockJump
  | restartStateInvalid
  | manualRequired
  | mutationGateClosed
  | unsupportedInput
  deriving DecidableEq, Repr

structure LifecycleRejected where
  reason : LifecycleReason
  path : String
  detail : String
  deriving DecidableEq, Repr

/-- What a call of the worker raises: a typed rejection, another error of the ledger or the broker,
or a `ValueError` or `TypeError`. -/
inductive LifecycleError where
  | rejected (e : LifecycleRejected)
  | ledger (e : LedgerError)
  | broker (message : String)
  | invalid (message : String)
  deriving DecidableEq, Repr

def reject (reason : LifecycleReason) (path detail : String) : LifecycleError :=
  .rejected ⟨reason, path, detail⟩

/-! ### Comparisons -/

/-- `a < b` on datetimes. -/
def isBefore (a b : DateTime) : Except LifecycleError Bool :=
  if a.isAware = b.isAware then .ok (decide (a.micros < b.micros))
  else .error (.invalid "can't compare offset-naive and offset-aware datetimes")

/-- `a == b` on decimals: by value, and no `NaN` equals anything. -/
def decimalEq : Decimal → Decimal → Bool
  | .finite n c e, .finite n' c' e' =>
    (Decimal.finite n c e).toRat == (Decimal.finite n' c' e').toRat
  | .infinite n, .infinite n' => n == n'
  | _, _ => false

/-! ### Clocks -/

structure LifecycleClocksFields where
  eventRunId : String
  cohortId : String
  policySha256 : String
  sourceSha256 : String
  observationWindowStartAt : DateTime
  observationWindowEndAt : DateTime
  entryDeadlineAt : DateTime
  timeExitAt : DateTime
  flatteningDeadlineAt : DateTime
  deriving DecidableEq

def knownCohorts : List String := ["BMO", "AMC", "BLS_JOLTS", "BLS_EMPLOYMENT_SITUATION"]

/-- `LifecycleClocks.__post_init__`; a pair of an aware and a naive clock cannot be compared. -/
def LifecycleClocksFields.check (c : LifecycleClocksFields) : Bool :=
  strip c.eventRunId != "" && knownCohorts.contains c.cohortId &&
  c.policySha256.length == 64 && c.sourceSha256.length == 64 &&
  [(c.observationWindowStartAt, c.observationWindowEndAt),
    (c.observationWindowEndAt, c.entryDeadlineAt), (c.entryDeadlineAt, c.timeExitAt),
    (c.timeExitAt, c.flatteningDeadlineAt)].all fun p =>
      p.1.isAware == p.2.isAware && decide (p.1.micros < p.2.micros)

/-- One event's frozen exit-plan clocks. -/
structure LifecycleClocks extends LifecycleClocksFields where
  accepted : toLifecycleClocksFields.check = true

/-- `source_verified`: the source is bound, and not the all-zero placeholder. -/
def LifecycleClocks.sourceVerified (c : LifecycleClocks) : Bool :=
  c.sourceSha256 != genesisSha256 && isLowerHex 64 c.sourceSha256

def lifecycleClocksPayload (c : LifecycleClocks) : Json :=
  .obj [
    ("schema", .str "esscher.lifecycle_exit_plan"),
    ("schema_version", .int 1),
    ("event_run_id", .str c.eventRunId),
    ("cohort_id", .str c.cohortId),
    ("policy_sha256", .str c.policySha256),
    ("source_sha256", .str c.sourceSha256),
    ("observation_window_start_at", .str c.observationWindowStartAt.isoformatZ),
    ("observation_window_end_at", .str c.observationWindowEndAt.isoformatZ),
    ("entry_deadline_at", .str c.entryDeadlineAt.isoformatZ),
    ("time_exit_at", .str c.timeExitAt.isoformatZ),
    ("flattening_deadline_at", .str c.flatteningDeadlineAt.isoformatZ)]

/-! ### Correlation -/

structure CorrelationFields where
  eventRunId : String
  snapshotSha256 : String
  decisionSha256 : String
  expressionSha256 : String
  reservationId : String
  openPermitId : String
  closePermitId : Option String
  deriving DecidableEq

/-- `CorrelationIdentity.__post_init__`. -/
def CorrelationFields.check (c : CorrelationFields) : Bool :=
  strip c.eventRunId != "" && c.snapshotSha256.length == 64 && c.decisionSha256.length == 64 &&
  c.expressionSha256.length == 64 && strip c.reservationId != "" && strip c.openPermitId != "" &&
  c.closePermitId.all fun id => strip id != ""

/-- One lifecycle run's correlation identity. -/
structure CorrelationIdentity extends CorrelationFields where
  accepted : toCorrelationFields.check = true

def CorrelationIdentity.withClosePermit (c : CorrelationIdentity) (closePermitId : String) :
    Except LifecycleError CorrelationIdentity :=
  let fields := { c.toCorrelationFields with closePermitId := some closePermitId }
  if h : fields.check = true then .ok ⟨fields, h⟩
  else .error (.invalid "close_permit_id must be non-empty when present")

def correlationPayload (c : CorrelationIdentity) : Json :=
  .obj [
    ("schema_version", .int 1),
    ("event_run_id", .str c.eventRunId),
    ("snapshot_sha256", .str c.snapshotSha256),
    ("decision_sha256", .str c.decisionSha256),
    ("expression_sha256", .str c.expressionSha256),
    ("reservation_id", .str c.reservationId),
    ("open_permit_id", .str c.openPermitId),
    ("close_permit_id", match c.closePermitId with
      | some id => .str id
      | none => .null)]

def correlationSha256 (c : CorrelationIdentity) : String := (correlationPayload c).sha256

/-! ### Orders -/

structure BrokerOptionLeg where
  symbol : String
  quantity : Int
  side : String
  positionIntent : String
  deriving DecidableEq, Repr

def paperAccountClass : String := "PAPER"

def multiLegOrderClass : String := "MULTI_LEG"

/-- The fields that bind an order, and every truth read back of it, to one lifecycle. -/
structure OrderIdentity where
  clientOrderId : String
  permitId : String
  openPermitId : String
  eventRunId : String
  reservationId : String
  correlationSha256 : String
  policySha256 : String
  snapshotSha256 : String
  accountId : String
  accountClass : String
  orderClass : String
  legs : List BrokerOptionLeg
  deriving DecidableEq

structure BrokerOrderRequest extends OrderIdentity where
  phase : IntentPhase
  limitPrice : Decimal
  deriving DecidableEq

def BrokerOptionLeg.payload (leg : BrokerOptionLeg) : Json :=
  .obj [
    ("symbol", .str leg.symbol),
    ("quantity", .int leg.quantity),
    ("side", .str leg.side),
    ("position_intent", .str leg.positionIntent)]

def orderRequestSchema : String := "ringdown.lifecycle_order_request"

def brokerOrderRequestPayload (r : BrokerOrderRequest) (expectedQuantity : Int) : Json :=
  .obj [
    ("schema", .str orderRequestSchema),
    ("schema_version", .int 1),
    ("client_order_id", .str r.clientOrderId),
    ("phase", .str r.phase.value),
    ("permit_id", .str r.permitId),
    ("open_permit_id", .str r.openPermitId),
    ("event_run_id", .str r.eventRunId),
    ("reservation_id", .str r.reservationId),
    ("correlation_sha256", .str r.correlationSha256),
    ("policy_sha256", .str r.policySha256),
    ("snapshot_sha256", .str r.snapshotSha256),
    ("account_id", .str r.accountId),
    ("account_class", .str r.accountClass),
    ("order_class", .str r.orderClass),
    ("expected_quantity", .int expectedQuantity),
    ("limit_price", .str r.limitPrice.plainText),
    ("legs", .arr (r.legs.map BrokerOptionLeg.payload))]

def brokerOrderRequestSha256 (r : BrokerOrderRequest) (expectedQuantity : Int) : String :=
  (brokerOrderRequestPayload r expectedQuantity).sha256

/-! ### Reading a stored order back -/

/-- A text field that is not blank and has no blank ends. -/
def exactText (v : Json) (name : String) : Except String String :=
  match v.field? name with
  | some (.str s) => if isExactText s then .ok s else .error s!"{name} must be non-empty exact text"
  | _ => .error s!"{name} must be non-empty exact text"

def positiveInteger (message : String) : Option Json → Except String Int
  | some (.int n) => if 0 < n then .ok n else .error message
  | _ => .error message

def parseLeg (v : Json) : Except String BrokerOptionLeg := do
  throwIf (¬ v.isObject) "leg must be an object"
  let quantity ← positiveInteger "leg quantity must be a positive integer" (v.field? "quantity")
  let name (field : String) := (exactText v field).mapError fun message => "leg." ++ message
  let symbol ← name "symbol"
  let side ← name "side"
  let positionIntent ← name "position_intent"
  return ⟨symbol, quantity, side, positionIntent⟩

def parsePhase (text : String) : Except String IntentPhase :=
  if text = "OPEN" then .ok .opening
  else if text = "CLOSE" then .ok .closing
  else .error "phase must be OPEN or CLOSE"

def parseLimitPrice (text : String) : Except String Decimal :=
  match Decimal.parse text with
  | some d => if d.isFinite then .ok d else .error "limit_price must be finite"
  | none => .error "limit_price must be a finite Decimal string"

def rawLegs : Option Json → Except String (List Json)
  | some (.arr []) => .error "legs must be a non-empty list"
  | some (.arr items) => .ok items
  | _ => .error "legs must be a non-empty list"

/-- The schema's name and version; `True == 1` and `1.0 == 1` hold in the source's language. -/
def isOrderRequestSchema (v : Json) : Bool :=
  (match v.field? "schema" with
    | some (.str s) => s == orderRequestSchema
    | _ => false) &&
  match v.field? "schema_version" with
    | some (.int n) => n == 1
    | some (.bool b) => b
    | some (.real literal) => (Decimal.parse literal).any fun d => decimalEq d (.ofNat 1)
    | _ => false

def parseBrokerOrderRequestPayload (v : Json) : Except String (BrokerOrderRequest × Int) := do
  throwIf (¬ isOrderRequestSchema v) "unsupported lifecycle order-request schema"
  let phase ← parsePhase (← exactText v "phase")
  let expectedQuantity ← positiveInteger "expected_quantity must be a positive integer"
    (v.field? "expected_quantity")
  let limitText ← (exactText v "limit_price").mapError fun _ =>
    "limit_price must be a finite Decimal string"
  let limitPrice ← parseLimitPrice limitText
  let legs ← (← rawLegs (v.field? "legs")).mapM parseLeg
  return (⟨⟨← exactText v "client_order_id", ← exactText v "permit_id",
    ← exactText v "open_permit_id", ← exactText v "event_run_id", ← exactText v "reservation_id",
    ← exactText v "correlation_sha256", ← exactText v "policy_sha256",
    ← exactText v "snapshot_sha256", ← exactText v "account_id", ← exactText v "account_class",
    ← exactText v "order_class", legs⟩, phase, limitPrice⟩, expectedQuantity)

/-! ### Broker truth -/

structure BrokerOrderAck where
  orderId : String
  clientOrderId : String
  observedAt : DateTime
  deriving DecidableEq

structure BrokerOrderTruth extends OrderIdentity where
  orderId : String
  status : String
  filledQty : Int
  observedAt : DateTime
  limitPrice : Decimal
  deriving DecidableEq

structure PositionTruth where
  symbol : String
  qty : Decimal
  observedAt : DateTime
  deriving DecidableEq

structure BrokerPositionSnapshot extends OrderIdentity where
  orderId : String
  limitPrice : Decimal
  observedAt : DateTime
  positions : List PositionTruth
  deriving DecidableEq

structure AccountTruth where
  accountId : String
  accountClass : String
  equity : Decimal
  buyingPower : Decimal
  observedAt : DateTime
  deriving DecidableEq

inductive BrokerError where
  | outage (message : String)
  | other (message : String)
  deriving DecidableEq

/-- The fields of `b` that differ from what `a` expects, in the order of the checks; the legs come
last. -/
def OrderIdentity.mismatches (a b : OrderIdentity) (beforeLegs : List (String × Bool)) :
    List String :=
  ([("client_order_id", b.clientOrderId == a.clientOrderId),
    ("permit_id", b.permitId == a.permitId),
    ("open_permit_id", b.openPermitId == a.openPermitId),
    ("event_run_id", b.eventRunId == a.eventRunId),
    ("reservation_id", b.reservationId == a.reservationId),
    ("correlation_sha256", b.correlationSha256 == a.correlationSha256),
    ("policy_sha256", b.policySha256 == a.policySha256),
    ("snapshot_sha256", b.snapshotSha256 == a.snapshotSha256),
    ("account_id", b.accountId == a.accountId),
    ("account_class", b.accountClass == a.accountClass),
    ("order_class", b.orderClass == a.orderClass)] ++ beforeLegs ++
    [("legs", b.legs == a.legs)]).filterMap fun field =>
      if field.2 then none else some field.1

/-! ### Reducers -/

def openWorkingStates : List String :=
  ["new", "accepted", "pending_new", "accepted_for_bidding", "held", "calculated"]

def openUnfilledTerminalStates : List String := ["canceled", "expired", "rejected"]

def reduceOpenOrder (truth : BrokerOrderTruth) (expectedQty : Int) : LifecycleState :=
  if truth.status = "filled" then
    if truth.filledQty = expectedQty then .openFilled else .openUnknown
  else if truth.status = "partially_filled" then .openPartial
  else if truth.status ∈ openUnfilledTerminalStates then
    if truth.filledQty = 0 then .openCanceled else .openUnknown
  else if truth.status ∈ openWorkingStates then .openSubmitted
  else .openUnknown

/-- `position.qty != 0`. -/
def PositionTruth.remains (p : PositionTruth) : Bool := !decimalEq p.qty (.ofNat 0)

def reduceCloseOrder (truth : BrokerOrderTruth) (positions : List PositionTruth)
    (expectedQty : Int) : LifecycleState :=
  if truth.status = "partially_filled" then .closePartial
  else if truth.status = "filled" then
    if truth.filledQty ≠ expectedQty then .manualRequired
    else if positions.any PositionTruth.remains then .manualRequired
    else .closedFlat
  else .manualRequired

def ensureNoResidue (positions : List PositionTruth) : Except LifecycleError Unit :=
  let remaining := (positions.filter PositionTruth.remains).map (·.symbol)
  throwIf (remaining ≠ []) (reject .nonFlatClose "positions"
    ("position truth still contains event legs: " ++
      String.intercalate ", " (remaining.mergeSort fun a b => decide (a ≤ b))))

end EsscherMarket.Lifecycle
