import EsscherMarket.Lifecycle.Runs
import EsscherMarket.Risk.Truth

/-!
# The lifecycle broker over the host's MCP session

`execution/lifecycle_mcp.py`, with `build_lifecycle_order_call` and `_broker_identity` of
`execution/mcp.py`.  The adapter keeps the requests that it submitted under the order ids it was
given, and reads everything else through the tools of the session.
-/

namespace EsscherMarket.Lifecycle

open Lib Execution Risk

/-! ### The session of the host -/

def accountTool : String := "get_account_info"

def openTool : String := "place_option_order"

def readbackTool : String := "get_order_by_client_id"

def orderByIdTool : String := "get_order_by_id"

def positionsTool : String := "get_all_positions"

/-- What a call of `call_tool` ends with: a response, `HostMcpMutationAmbiguous`, another
`HostMcpError`, or another exception. -/
inductive ToolAnswer where
  | response (v : Json)
  | ambiguous (message : String)
  | hostError (message : String)
  | exception

/-- A guarded session and the clock of its host, over their state. -/
structure HostMcp (η : Type) where
  callTool : String → Json → η → ToolAnswer × η
  clock : η → DateTime × η

structure LifecycleMcpPaperBrokerState (η : Type) where
  session : η
  requestsByOrderId : String → Option BrokerOrderRequest
  latestOrderId : Option String

/-- `mint`: a fresh broker over a session. -/
def LifecycleMcpPaperBrokerState.mint {η : Type} (session : η) : LifecycleMcpPaperBrokerState η :=
  ⟨session, fun _ => none, none⟩

abbrev BrokerM (η α : Type) : Type := Txn (LifecycleMcpPaperBrokerState η) BrokerError α

/-! ### The order call -/

/-- The check of one leg; the kinds of its fields are those of `BrokerOptionLeg`. -/
def BrokerOptionLeg.malformed (leg : BrokerOptionLeg) : Bool :=
  strip leg.symbol == "" || decide (leg.quantity ≤ 0) || strip leg.side == "" ||
    strip leg.positionIntent == ""

def BrokerOptionLeg.encoded (leg : BrokerOptionLeg) : Json :=
  .obj [
    ("symbol", .str leg.symbol),
    ("ratio_qty", .str (toString leg.quantity)),
    ("side", .str leg.side),
    ("position_intent", .str leg.positionIntent)]

def orderArguments (clientOrderId : String) (limitPrice : Decimal) (quantity : Int)
    (legs : List BrokerOptionLeg) : Json :=
  .obj [
    ("qty", .str (toString quantity)),
    ("type", .str "limit"),
    ("time_in_force", .str "day"),
    ("limit_price", .str limitPrice.plainText),
    ("client_order_id", .str clientOrderId),
    ("order_class", .str "mleg"),
    ("legs", .arr (legs.map BrokerOptionLeg.encoded))]

def checkLegs (legs : List BrokerOptionLeg) : Except String Unit :=
  match legs.findIdx? BrokerOptionLeg.malformed with
  | some index => .error s!"lifecycle order leg {index} is malformed"
  | none => .ok ()

/-- `build_lifecycle_order_call`: the arguments of the call. -/
def buildLifecycleOrderCall (clientOrderId : String) (limitPrice : Decimal)
    (legs : List BrokerOptionLeg) : Except String Json := do
  throwIf (strip clientOrderId = "") "client_order_id must be non-empty exact text"
  throwIf (¬ limitPrice.isFinite) "limit_price must be a finite Decimal"
  match legs with
  | [] => .error "lifecycle order requires at least one leg"
  | first :: rest => do
    checkLegs (first :: rest)
    throwIf (¬ rest.all fun leg => leg.quantity = first.quantity)
      "lifecycle multi-leg quantities must be equal"
    return orderArguments clientOrderId limitPrice first.quantity (first :: rest)

/-! ### Responses -/

/-- What `_broker_identity` raises: a `BrokerResponseError`, for which every caller raises its own
outage, or a `PaperLifecycleManualRequired`, which no caller handles. -/
inductive IdentityError where
  | response
  | manualRequired (message : String)

structure ReportedIdentity where
  orderId : String
  clientOrderId : String
  status : String
  filledQty : Option Decimal

def mappingResponse (v : Json) : Except IdentityError Json :=
  if v.isObject ∧ (v.field? "error").isNone then .ok v else .error .response

/-- A text field of a response that is present and not empty. -/
def identityText (v : Json) (name : String) : Except IdentityError String :=
  match v.field? name with
  | some (.str s) => if s ≠ "" then .ok s else .error .response
  | _ => .error .response

def reportedFilled (phase : String) (v : Json) : Except IdentityError (Option Decimal) :=
  let invalid := IdentityError.manualRequired
    ("Alpaca MCP " ++ phase ++ " returned an invalid filled quantity")
  match v.field? "filled_qty" with
  | none => .ok none
  | some .null | some (.bool _) | some (.arr _) | some (.obj _) => .error invalid
  | some raw =>
    match decimalOf raw with
    | none => .error invalid
    | some d => if d.isFinite ∧ 0 ≤ d.toRat then .ok (some d) else .error invalid

def brokerIdentity (phase : String) (response : Json) : Except IdentityError ReportedIdentity := do
  let payload ← mappingResponse response
  let orderId ← identityText payload "id"
  let clientOrderId ← identityText payload "client_order_id"
  let status ← identityText payload "status"
  let filledQty ← reportedFilled phase payload
  return ⟨orderId, clientOrderId, status, filledQty⟩

/-- How a method of the broker ends on an error of `_broker_identity`. -/
def orInvalid {η α : Type} (detail : String) (x : Except IdentityError α) : BrokerM η α :=
  Txn.lift (x.mapError fun e => match e with
    | .response => .outage detail
    | .manualRequired message => .other message)

/-! ### The broker's methods -/

namespace LifecycleMcpPaperBroker

open Txn

variable {η : Type} (host : HostMcp η)

/-- `session.call_tool`. -/
def callTool (tool : String) (arguments : Json) : BrokerM η ToolAnswer :=
  fun b => .ok (host.callTool tool arguments b.session).1
    { b with session := (host.callTool tool arguments b.session).2 }

def call (tool : String) (arguments : Json) : BrokerM η Json := do
  let answer ← callTool host tool arguments
  lift (match answer with
    | .response v => .ok v
    | .ambiguous message | .hostError message =>
      .error (.outage ("host MCP " ++ tool ++ " is unavailable: " ++ message))
    | .exception => .error (.outage ("host MCP " ++ tool ++ " failed")))

def clock : BrokerM η DateTime :=
  fun b => .ok (host.clock b.session).1 { b with session := (host.clock b.session).2 }

def observedAt : BrokerM η DateTime := do
  let observed ← clock host
  raiseIf (¬ observed.isAware) (.outage "host MCP adapter clock must be timezone-aware")
  return .utc observed.micros

def requestForOrder (orderId : String) : BrokerM η BrokerOrderRequest := do
  let request ← select (·.requestsByOrderId orderId)
  orRaise request
    (.outage "host MCP returned an order that was not submitted by this lifecycle")

def acknowledge (r : BrokerOrderRequest) (identity : ReportedIdentity) :
    BrokerM η BrokerOrderAck := do
  write fun b => { b with
    requestsByOrderId := Function.update b.requestsByOrderId identity.orderId (some r)
    latestOrderId := some identity.orderId }
  let t ← observedAt host
  return ⟨identity.orderId, identity.clientOrderId, t⟩

def readbackByClientId (r : BrokerOrderRequest) : BrokerM η BrokerOrderAck := do
  let response ← call host readbackTool (.obj [("client_order_id", .str r.clientOrderId)])
  let identity ← orInvalid "host MCP mutation outcome is ambiguous; readback was invalid"
    (brokerIdentity "lifecycle mutation readback" response)
  raiseIf (identity.clientOrderId ≠ r.clientOrderId)
    (.outage "host MCP readback client identity did not match the durable request")
  acknowledge host r identity

def submit (phase : IntentPhase) (r : BrokerOrderRequest) : BrokerM η BrokerOrderAck := do
  raiseIf (r.phase ≠ phase) (.outage ("lifecycle request phase must be " ++ phase.value))
  let arguments ← lift ((buildLifecycleOrderCall r.clientOrderId r.limitPrice r.legs).mapError
    fun message => .outage ("lifecycle request cannot be encoded for MCP: " ++ message))
  let answer ← callTool host openTool arguments
  match answer with
  -- a timeout is never retried: the client order id is read back instead
  | .ambiguous _ => readbackByClientId host r
  | .hostError message =>
    lift (.error (.outage
      ("host MCP " ++ phase.value ++ " submission is unavailable: " ++ message)))
  | .exception => lift (.error (.outage ("host MCP " ++ phase.value ++ " submission failed")))
  | .response response => do
    let identity ← orInvalid ("host MCP " ++ phase.value ++ " acknowledgement was invalid")
      (brokerIdentity ("lifecycle " ++ MonitoredPaperLifecycle.phaseLower phase ++ " submission")
        response)
    raiseIf (identity.clientOrderId ≠ r.clientOrderId)
      (.outage "host MCP acknowledgement client identity did not match durable request")
    acknowledge host r identity

def filledQuantity (phase : String) : Option Decimal → Except BrokerError Int
  | some d =>
    if d.toRat.den = 1 ∧ 0 ≤ d.toRat then .ok d.toRat.num
    else .error (.outage
      ("host MCP " ++ phase ++ " readback omitted a valid whole filled quantity"))
  | none => .error (.outage
      ("host MCP " ++ phase ++ " readback omitted a valid whole filled quantity"))

def readOrder (orderId : String) : BrokerM η BrokerOrderTruth := do
  let request ← requestForOrder orderId
  let response ← call host orderByIdTool (.obj [("order_id", .str orderId)])
  let identity ← orInvalid "host MCP order readback was invalid"
    (brokerIdentity "lifecycle order readback" response)
  raiseIf (identity.orderId ≠ orderId ∨ identity.clientOrderId ≠ request.clientOrderId)
    (.outage "host MCP order readback identity did not match durable request")
  let filledQty ← lift (filledQuantity "order" identity.filledQty)
  let t ← observedAt host
  -- everything but the status and the filled quantity is that of the stored request
  return ⟨request.toOrderIdentity, orderId, identity.status, filledQty, t, request.limitPrice⟩

/-- `isinstance(value, str)` and not blank. -/
def nonBlankText (e : BrokerError) : Json → Except BrokerError String
  | .str s => if strip s ≠ "" then .ok s else .error e
  | _ => .error e

def positionFields (index : Nat) (raw : Json) : Except BrokerError (String × Decimal) := do
  throwIf (¬ raw.isObject) (.outage s!"host MCP position {index} was not an object")
  let symbol ← nonBlankText (.outage s!"host MCP position {index} omitted a symbol")
    (raw.get "symbol")
  match decimalOf (raw.get "qty") with
  | none => .error (.outage s!"host MCP position {index} had invalid quantity")
  | some qty =>
    if qty.isFinite then .ok (symbol, qty)
    else .error (.outage s!"host MCP position {index} had non-finite quantity")

def positionRows : Nat → List Json → BrokerM η (List PositionTruth)
  | _, [] => return []
  | index, raw :: rest => do
    let (symbol, qty) ← lift (positionFields index raw)
    let t ← observedAt host
    let rows ← positionRows (index + 1) rest
    return ⟨symbol, qty, t⟩ :: rows

def readPositions : BrokerM η BrokerPositionSnapshot := do
  let latest ← select (·.latestOrderId)
  let orderId ← orRaise latest
    (.outage "cannot read correlated positions before a lifecycle submission")
  let request ← requestForOrder orderId
  let response ← call host positionsTool (.obj [])
  let items ← lift (match response with
    | .arr items => .ok items
    | _ => .error (.outage "host MCP position readback was not a list"))
  let rows ← positionRows host 0 items
  let t ← observedAt host
  return ⟨request.toOrderIdentity, orderId, request.limitPrice, t, rows⟩

/-- The fields of an account: `payload.get("id") or payload.get("account_id")`, and two decimals. -/
def accountFields (response : Json) : Except BrokerError (String × Decimal × Decimal) := do
  let invalid : BrokerError := .outage "host MCP account readback was invalid"
  let payload ← (mappingResponse response).mapError fun _ => invalid
  let id := if (payload.get "id").truthy then payload.get "id" else payload.get "account_id"
  match decimalOf (payload.get "equity"), decimalOf (payload.get "buying_power") with
  | some equity, some buyingPower => do
    let accountId ←
      nonBlankText (.outage "host MCP account readback omitted an account identity") id
    throwIf (¬ equity.isFinite ∨ ¬ buyingPower.isFinite)
      (.outage "host MCP account readback contained non-finite values")
    return (accountId, equity, buyingPower)
  | _, _ => .error invalid

def readAccount : BrokerM η AccountTruth := do
  let response ← call host accountTool (.obj [])
  let (accountId, equity, buyingPower) ← lift (accountFields response)
  let t ← observedAt host
  return ⟨accountId, paperAccountClass, equity, buyingPower, t⟩

/-- What a call of a method hands back, and the state that it leaves. -/
def answerOf {α : Type} (x : BrokerM η α) (b : LifecycleMcpPaperBrokerState η) :
    Except BrokerError α × LifecycleMcpPaperBrokerState η :=
  (x.result b, x.after b)

def port : PaperBroker (LifecycleMcpPaperBrokerState η) where
  submitOpen r := answerOf (submit host .opening r)
  submitClose r := answerOf (submit host .closing r)
  readOrder orderId := answerOf (readOrder host orderId)
  readPositions := answerOf (readPositions host)
  readAccount := answerOf (readAccount host)

/-! ### What the methods return -/

section Spec

variable {host} {b b' : LifecycleMcpPaperBrokerState η} {r : BrokerOrderRequest}

theorem call_ok {tool : String} {arguments v : Json}
    (h : call host tool arguments b = .ok v b') :
    (host.callTool tool arguments b.session).1 = .response v ∧
      b' = { b with session := (host.callTool tool arguments b.session).2 } := by
  obtain ⟨answer, b₁, hanswer, hlift⟩ := bind_eq_ok.mp h
  cases hanswer
  obtain ⟨hv, rfl⟩ := lift_eq_ok.mp hlift
  refine ⟨?_, rfl⟩
  split at hv
  · rename_i heq
    cases hv
    exact heq
  all_goals cases hv

theorem observedAt_ok {t : DateTime} (h : observedAt host b = .ok t b') :
    b' = { b with session := (host.clock b.session).2 } := by
  obtain ⟨observed, b₁, hclock, hrest⟩ := bind_eq_ok.mp h
  cases hclock
  obtain ⟨-, hrest⟩ := raiseIf_bind_eq_ok.mp hrest
  exact (pure_eq_ok.mp hrest).2.symm

theorem requestForOrder_ok {orderId : String} (h : requestForOrder orderId b = .ok r b') :
    b.requestsByOrderId orderId = some r ∧ b' = b := by
  obtain ⟨request, b₁, hselect, hraise⟩ := bind_eq_ok.mp h
  cases hselect
  obtain ⟨hr, rfl⟩ := orRaise_eq_ok.mp hraise
  exact ⟨hr, rfl⟩

theorem acknowledge_ok {identity : ReportedIdentity} {ack : BrokerOrderAck}
    (h : acknowledge host r identity b = .ok ack b') :
    ack.orderId = identity.orderId ∧ ack.clientOrderId = identity.clientOrderId ∧
      b' = { session := (host.clock b.session).2
             requestsByOrderId := Function.update b.requestsByOrderId ack.orderId (some r)
             latestOrderId := some ack.orderId } := by
  obtain ⟨t, b₁, hclock, hret⟩ := bind_eq_ok.mp (write_bind_eq_ok.mp h)
  obtain ⟨rfl, rfl⟩ := pure_eq_ok.mp hret
  exact ⟨rfl, rfl, observedAt_ok hclock⟩

theorem readAccount_ok {account : AccountTruth} (h : readAccount host b = .ok account b') :
    ∃ v t, (host.callTool accountTool (.obj []) b.session).1 = .response v ∧
      accountFields v = .ok (account.accountId, account.equity, account.buyingPower) ∧
      account = ⟨account.accountId, paperAccountClass, account.equity, account.buyingPower, t⟩ ∧
      b' = { b with
        session := (host.clock (host.callTool accountTool (.obj []) b.session).2).2 } := by
  obtain ⟨v, b₁, hcall, hrest⟩ := bind_eq_ok.mp h
  obtain ⟨hv, rfl⟩ := call_ok hcall
  obtain ⟨⟨accountId, equity, buyingPower⟩, hfields, hrest⟩ := lift_bind_eq_ok.mp hrest
  obtain ⟨t, b₂, hclock, hret⟩ := bind_eq_ok.mp hrest
  obtain ⟨rfl, rfl⟩ := pure_eq_ok.mp hret
  exact ⟨v, t, hv, hfields, rfl, observedAt_ok hclock⟩

/-- A readback takes the identity, the status and the filled quantity from the response, everything
else from the stored request. -/
theorem readOrder_ok {orderId : String} {truth : BrokerOrderTruth}
    (h : readOrder host orderId b = .ok truth b') :
    ∃ request v identity,
      b.requestsByOrderId orderId = some request ∧
      (host.callTool orderByIdTool (.obj [("order_id", .str orderId)]) b.session).1 =
        .response v ∧
      brokerIdentity "lifecycle order readback" v = .ok identity ∧
      identity.orderId = orderId ∧ identity.clientOrderId = request.clientOrderId ∧
      filledQuantity "order" identity.filledQty = .ok truth.filledQty ∧
      truth.status = identity.status ∧ truth.toOrderIdentity = request.toOrderIdentity ∧
      truth.limitPrice = request.limitPrice ∧
      b' = { b with
        session := (host.clock (host.callTool orderByIdTool (.obj [("order_id", .str orderId)])
          b.session).2).2 } := by
  obtain ⟨request, b₁, hrequest, hrest⟩ := bind_eq_ok.mp h
  obtain ⟨hrequest, rfl⟩ := requestForOrder_ok hrequest
  obtain ⟨v, b₂, hcall, hrest⟩ := bind_eq_ok.mp hrest
  obtain ⟨hv, rfl⟩ := call_ok hcall
  obtain ⟨identity, hidentity, hrest⟩ := lift_bind_eq_ok.mp hrest
  obtain ⟨hsame, hrest⟩ := raiseIf_bind_eq_ok.mp hrest
  obtain ⟨filledQty, hfilled, hrest⟩ := lift_bind_eq_ok.mp hrest
  obtain ⟨t, b₃, hclock, hret⟩ := bind_eq_ok.mp hrest
  obtain ⟨rfl, rfl⟩ := pure_eq_ok.mp hret
  push Not at hsame
  exact ⟨request, v, identity, hrequest, hv, except_mapError_eq_ok.mp hidentity, hsame.1, hsame.2,
    hfilled, rfl, rfl, rfl, observedAt_ok hclock⟩

end Spec

end LifecycleMcpPaperBroker

end EsscherMarket.Lifecycle
