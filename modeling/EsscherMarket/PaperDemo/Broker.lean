import EsscherMarket.Execution.Policy
import EsscherMarket.Lifecycle.McpBroker

/-!
# The broker of one approved PAPER lifecycle

`execution/mcp.py`: the order calls of a registered permit, and `McpPaperBroker`.  Every step that
can be interleaved with another process is one operation.  Exceptions keep their class and not their
text, which no caller reads.
-/

namespace EsscherMarket.PaperDemo

open Lib Execution Lifecycle Risk

/-! ### Operations -/

def cancelTool : String := "cancel_order_by_id"

inductive PaperOp where
  | clock
  | claim (identity : String)
  | callTool (tool : String) (arguments : Json)

/-- A claim is won, or lost to an earlier one; or it raises `PaperDemoNotApproved` or an
`OSError`. -/
inductive ClaimAnswer where
  | won
  | lost
  | notApproved
  | osError
  deriving DecidableEq

/-- A reading of the clock is a datetime that Python can hold. -/
def PaperOp.Answer : PaperOp → Type
  | clock => { t : DateTime // t.InRange }
  | claim _ => ClaimAnswer
  | callTool _ _ => ToolAnswer

def paperSig : Signature := ⟨PaperOp, PaperOp.Answer⟩

/-- The classes of the exceptions of a PAPER run. -/
inductive PaperError where
  | notApproved
  | permitNotExecutable
  | brokerResponse
  | manualRequired
  | notFlat
  | host
  | other
  deriving DecidableEq

abbrev PaperProg (α : Type) : Type := Prog paperSig PaperError α

open Prog

def readClock : PaperProg DateTime := do
  let reading ← perform (S := paperSig) .clock
  return reading.1

/-- `FilePaperAttemptStore.claim`; false means read back only. -/
def claim (identity : String) : PaperProg Bool := do
  match ← perform (S := paperSig) (.claim identity) with
  | .won => return true
  | .lost => return false
  | .notApproved => raise .notApproved
  | .osError => raise .other

/-- `session.call_tool`. -/
def callTool (tool : String) (arguments : Json) : PaperProg Json := do
  match ← perform (S := paperSig) (.callTool tool arguments) with
  | .response v => return v
  | .exception => raise .other
  -- the guarded session raises a `HostMcpError`
  | .ambiguous _ | .hostError _ => raise .host

/-! ### Order calls -/

structure OpenOrderCall where
  clientOrderId : String
  requestSha256 : String
  arguments : Json

def requestSha256Of (arguments : Json) : String :=
  Json.sha256 (.obj [("adapter", .str "ALPACA_MCP"),
    ("adapter_version", .str alpacaMcpV2Version),
    ("tool", .str openTool),
    ("arguments", arguments)])

/-- `_validate_registered_open_permit`. -/
def registered (p : DebitVerticalPermit) : Bool :=
  p.protocolSha256 == researchDecisionProtocolSha256 &&
  p.executionProtocolSha256 == alpacaMcpV2ProtocolSha256 &&
  p.policySha256 == paperPermitPolicySha256 &&
  p.permitId == debitVerticalPermitId p.toDebitVerticalPermitFields &&
  p.eventRunId == paperEventRunId p.decisionSha256

def permitIdentity (p : DebitVerticalPermit) : Json :=
  .obj [("schema_version", .int 1),
    ("operation", .str "OPEN"),
    ("permit_id", .str p.permitId),
    ("event_run_id", .str p.eventRunId),
    ("decision_sha256", .str p.decisionSha256),
    ("evidence_sha256", .str p.evidenceSha256),
    ("protocol_sha256", .str p.protocolSha256),
    ("execution_protocol_sha256", .str p.executionProtocolSha256),
    ("policy_sha256", .str p.policySha256),
    ("snapshot_sha256", .str p.snapshotSha256),
    ("issued_at", .str p.issuedAt.isoformat),
    ("expires_at", .str p.expiresAt.isoformat),
    ("vertical_type", .str p.verticalType.value),
    ("quantity", .int p.quantity),
    ("limit_price", .str p.limitPrice.plainText),
    ("run_mode", .str "PAPER"),
    ("data_class", .str "INDICATIVE_DATA"),
    ("legs", .arr [optionLegPayload p.longLeg, optionLegPayload p.shortLeg])]

def orderCall (tag : String) (identity : Json) (limitPrice : Decimal) (quantity : Int)
    (legs : List BrokerOptionLeg) : OpenOrderCall :=
  let clientOrderId := tag ++ String.ofList (identity.sha256.toList.take 32)
  let arguments := orderArguments clientOrderId limitPrice quantity legs
  ⟨clientOrderId, requestSha256Of arguments, arguments⟩

def buildOpenOrderCall (p : DebitVerticalPermit) : Except PaperError OpenOrderCall := do
  throwIf (registered p = false) .other
  return orderCall "rd-open-" (permitIdentity p) p.limitPrice p.quantity
    ([p.longLeg, p.shortLeg].map fun leg =>
      ⟨leg.symbol, leg.ratioQty, leg.side.value, leg.positionIntent.value⟩)

def closeLeg (leg : OptionLeg) : BrokerOptionLeg :=
  match leg.side with
  | .buy => ⟨leg.symbol, leg.ratioQty, OptionSide.sell.value, PositionIntent.sellToClose.value⟩
  | .sell => ⟨leg.symbol, leg.ratioQty, OptionSide.buy.value, PositionIntent.buyToClose.value⟩

def closeIdentity (p : DebitVerticalPermit) (c : ClosePermit) : Json :=
  .obj [("schema_version", .int 1),
    ("operation", .str "CLOSE"),
    ("permit_id", .str c.permitId),
    ("open_permit_id", .str c.openPermitId),
    ("event_run_id", .str c.eventRunId),
    ("policy_sha256", .str c.policySha256),
    ("snapshot_sha256", .str c.snapshotSha256),
    ("issued_at", .str c.issuedAt.isoformat),
    ("expires_at", .str c.expiresAt.isoformat),
    ("limit_price", .str c.limitPrice.plainText),
    ("run_mode", .str "PAPER"),
    ("data_class", .str "INDICATIVE_DATA"),
    ("quantity", .int p.quantity),
    ("legs", .arr ([p.longLeg, p.shortLeg].map fun leg => (closeLeg leg).encoded))]

def buildCloseOrderCall (p : DebitVerticalPermit) (c : ClosePermit) :
    Except PaperError OpenOrderCall := do
  throwIf (c.policySha256 ≠ paperPermitPolicySha256) .other
  throwIf (c.openPermitId ≠ p.permitId) .other
  throwIf (c.eventRunId ≠ p.eventRunId) .other
  throwIf (c.snapshotSha256 ≠ p.snapshotSha256) .other
  throwIf (|p.shortLeg.strike.toRat - p.longLeg.strike.toRat| < |c.limitPrice.toRat|) .other
  return orderCall "rd-close-" (closeIdentity p c) c.limitPrice p.quantity
    ([p.longLeg, p.shortLeg].map closeLeg)

/-! ### Receipts -/

/-- The receipt of an opening order; its adapter and its run mode have one value each. -/
structure OpenOrderReceipt where
  brokerOrderId : String
  clientOrderId : String
  brokerStatus : String
  requestSha256 : String
  permitId : String
  eventRunId : String
  observedAt : DateTime

inductive PaperLifecycleOutcome where
  | canceledFlat
  | closedFlat
  deriving DecidableEq, Repr

def PaperLifecycleOutcome.value : PaperLifecycleOutcome → String
  | canceledFlat => "CANCELED_FLAT"
  | closedFlat => "CLOSED_FLAT"

structure PaperLifecycleReceiptFields where
  eventRunId : String
  openPermitId : String
  closePermitId : String
  openOrderId : String
  openOrderStatus : String
  closeOrderId : Option String
  closeOrderStatus : Option String
  closeRequestSha256 : Option String
  targetSymbols : String × String
  outcome : PaperLifecycleOutcome
  observedAt : DateTime

/-- `PaperLifecycleReceipt.__post_init__`. -/
def PaperLifecycleReceiptFields.check (r : PaperLifecycleReceiptFields) : Bool :=
  [r.eventRunId, r.openPermitId, r.closePermitId, r.openOrderId, r.openOrderStatus].all
    (fun value => strip value != "") &&
  r.targetSymbols.1 != r.targetSymbols.2 &&
  (match r.outcome with
    | .closedFlat => r.closeOrderId.getD "" != "" && r.closeOrderStatus.getD "" != "" &&
        r.closeRequestSha256.isSome
    | .canceledFlat => r.closeOrderId.isNone && r.closeOrderStatus.isNone &&
        r.closeRequestSha256.isNone) &&
  r.observedAt.isAware

structure PaperLifecycleReceipt extends PaperLifecycleReceiptFields where
  accepted : toPaperLifecycleReceiptFields.check = true

/-- A receipt that `__post_init__` accepts; it raises a `ValueError` otherwise. -/
def PaperLifecycleReceipt.make (r : PaperLifecycleReceiptFields) :
    Except PaperError PaperLifecycleReceipt :=
  if h : r.check = true then .ok ⟨r, h⟩ else .error .other

/-! ### The broker -/

namespace McpPaperBroker

/-- `_broker_identity`. -/
def identityOf (phase : String) (response : Json) : Except PaperError ReportedIdentity :=
  (brokerIdentity phase response).mapError fun e => match e with
    | .response => .brokerResponse
    | .manualRequired _ => .manualRequired

/-- `_open_position_symbols`: the symbol of each position. -/
def openPositionSymbols : Json → Except PaperError (List String)
  | .arr items => items.mapM fun position => match position.get "symbol" with
    | .str symbol => if symbol ≠ "" then .ok symbol else .error .brokerResponse
    | _ => .error .brokerResponse
  | _ => .error .brokerResponse

/-- `str.lower`, of the ASCII letters. -/
def lower (s : String) : String := String.ofList (s.toList.map Char.toLower)

def observedTime : PaperProg DateTime := do
  let observedAt ← readClock
  raiseIf (¬ observedAt.isAware) .permitNotExecutable
  return observedAt

def activeTime (issuedAt expiresAt : DateTime) : PaperProg Unit := do
  let observedAt ← observedTime
  raiseIf (observedAt.micros < issuedAt.micros) .permitNotExecutable
  raiseIf (expiresAt.micros ≤ observedAt.micros) .permitNotExecutable

/-- The readback of a submission, and how its failure is told. -/
def readback (call : OpenOrderCall) (phase : String) (submitted : Except PaperError String) :
    PaperProg ReportedIdentity :=
  (do
    let response ← callTool readbackTool (.obj [("client_order_id", .str call.clientOrderId)])
    ofExcept (identityOf phase response)).tryCatch fun e =>
      match submitted with
      | .ok _ => raise e
      | .error _ => raise .brokerResponse

def acknowledged (call : OpenOrderCall) (phase : String) :
    Except PaperError Json → PaperProg (Except PaperError String)
  | .error e => return .error e
  | .ok response => do
    let identity ← ofExcept (identityOf phase response)
    raiseIf (identity.clientOrderId ≠ call.clientOrderId) .brokerResponse
    return .ok identity.orderId

/-- The order read back is not the one that was acknowledged. -/
def differs (identity : ReportedIdentity) : Except PaperError String → Bool
  | .ok submittedId => identity.orderId != submittedId
  | .error _ => false

/-- `_submit_and_readback`: a failed submission is never retried, but read back. -/
def submitAndReadback (call : OpenOrderCall) (submissionPhase readbackPhase : String) :
    PaperProg ReportedIdentity := do
  let answer ← (callTool openTool call.arguments).attempt
  let submitted ← acknowledged call submissionPhase answer
  let identity ← readback call readbackPhase submitted
  raiseIf (identity.clientOrderId ≠ call.clientOrderId ∨ differs identity submitted = true)
    .brokerResponse
  return identity

def readOrder (orderId clientOrderId : String) : PaperProg ReportedIdentity := do
  let response ← callTool orderByIdTool (.obj [("order_id", .str orderId)])
  let identity ← ofExcept (identityOf "order readback" response)
  raiseIf (identity.orderId ≠ orderId ∨ identity.clientOrderId ≠ clientOrderId) .brokerResponse
  return { identity with status := lower identity.status }

def verifyEventFlat (targetSymbols : String × String) : PaperProg DateTime := do
  let response ← callTool positionsTool (.obj [])
  let symbols ← ofExcept (openPositionSymbols response)
  raiseIf (targetSymbols.1 ∈ symbols ∨ targetSymbols.2 ∈ symbols) .notFlat
  observedTime

/-- `submit_open`; the permit is not consumed yet in a fresh broker. -/
def submitOpen (p : DebitVerticalPermit) : PaperProg OpenOrderReceipt := do
  activeTime p.issuedAt p.expiresAt
  let call ← ofExcept (buildOpenOrderCall p)
  let identity ← submitAndReadback call "submission" "readback"
  let observedAt ← observedTime
  return ⟨identity.orderId, identity.clientOrderId, identity.status, call.requestSha256, p.permitId,
    p.eventRunId, observedAt⟩

def readOpen (p : DebitVerticalPermit) : PaperProg OpenOrderReceipt := do
  let call ← ofExcept (buildOpenOrderCall p)
  let response ← callTool readbackTool (.obj [("client_order_id", .str call.clientOrderId)])
  let identity ← ofExcept (identityOf "opening recovery readback" response)
  raiseIf (identity.clientOrderId ≠ call.clientOrderId) .brokerResponse
  let observedAt ← observedTime
  return ⟨identity.orderId, identity.clientOrderId, identity.status, call.requestSha256, p.permitId,
    p.eventRunId, observedAt⟩

def cancellableStatuses : List String :=
  ["new", "accepted", "pending_new", "accepted_for_bidding", "held", "calculated"]

def unfilledTerminalStatuses : List String := ["canceled", "expired", "rejected"]

def cancelOrder (orderId : String) : Bool → PaperProg Bool
  | false => return false
  | true => do
    let answer ← (callTool cancelTool (.obj [("order_id", .str orderId)])).attempt
    match answer with
    | .ok response => return response.isObject && (response.field? "error").isSome
    | .error _ => return true

def cancelAndRead (orderId clientOrderId : String) : PaperProg ReportedIdentity := do
  let claimed ← claim ("cancel:" ++ orderId)
  let failed ← cancelOrder orderId claimed
  (readOrder orderId clientOrderId).tryCatch fun e =>
    if failed then raise .manualRequired else raise e

def settledOpen (receipt : OpenOrderReceipt) : PaperProg ReportedIdentity := do
  let order ← readOrder receipt.brokerOrderId receipt.clientOrderId
  raiseIf (order.status = "partially_filled") .manualRequired
  if cancellableStatuses.contains order.status then
    cancelAndRead receipt.brokerOrderId receipt.clientOrderId
  else return order

def closingOrder (call : OpenOrderCall) : Bool → PaperProg ReportedIdentity
  | true => submitAndReadback call "close submission" "close readback"
  | false => do
    let response ← callTool readbackTool (.obj [("client_order_id", .str call.clientOrderId)])
    let identity ← ofExcept (identityOf "close recovery readback" response)
    raiseIf (identity.clientOrderId ≠ call.clientOrderId) .brokerResponse
    return identity

def isQuantity (filled : Option Decimal) (quantity : Int) : Bool :=
  match filled with
  | some d => d.toRat == quantity
  | none => false

/-- An unfilled order is terminal: the event must be flat. -/
def resolveCanceled (p : DebitVerticalPermit) (c : ClosePermit) (receipt : OpenOrderReceipt)
    (order : ReportedIdentity) : PaperProg PaperLifecycleReceipt := do
  raiseIf (isQuantity order.filledQty 0 = false) .manualRequired
  let observedAt ← verifyEventFlat (p.longLeg.symbol, p.shortLeg.symbol)
  ofExcept (PaperLifecycleReceipt.make ⟨p.eventRunId, p.permitId, c.permitId,
    receipt.brokerOrderId, order.status, none, none, none, (p.longLeg.symbol, p.shortLeg.symbol),
    .canceledFlat, observedAt⟩)

def resolveFilled (p : DebitVerticalPermit) (c : ClosePermit) (receipt : OpenOrderReceipt)
    (order : ReportedIdentity) (closeCall : OpenOrderCall) : PaperProg PaperLifecycleReceipt := do
  raiseIf (order.status ≠ "filled") .manualRequired
  raiseIf (isQuantity order.filledQty p.quantity = false) .manualRequired
  let claimed ← claim closeCall.clientOrderId
  let close ← closingOrder closeCall claimed
  raiseIf (lower close.status ≠ "filled") .notFlat
  raiseIf (isQuantity close.filledQty p.quantity = false) .manualRequired
  let observedAt ← verifyEventFlat (p.longLeg.symbol, p.shortLeg.symbol)
  ofExcept (PaperLifecycleReceipt.make ⟨p.eventRunId, p.permitId, c.permitId,
    receipt.brokerOrderId, order.status, some close.orderId, some (lower close.status),
    some closeCall.requestSha256, (p.longLeg.symbol, p.shortLeg.symbol), .closedFlat, observedAt⟩)

def resolveToFlat (p : DebitVerticalPermit) (receipt : OpenOrderReceipt) (c : ClosePermit) :
    PaperProg PaperLifecycleReceipt := do
  activeTime c.issuedAt c.expiresAt
  let openCall ← ofExcept (buildOpenOrderCall p)
  raiseIf (receipt.permitId ≠ p.permitId ∨ receipt.eventRunId ≠ p.eventRunId ∨
    receipt.clientOrderId ≠ openCall.clientOrderId ∨
    receipt.requestSha256 ≠ openCall.requestSha256) .permitNotExecutable
  let closeCall ← ofExcept (buildCloseOrderCall p c)
  let order ← settledOpen receipt
  raiseIf (order.status = "partially_filled") .manualRequired
  if unfilledTerminalStatuses.contains order.status then resolveCanceled p c receipt order
  else resolveFilled p c receipt order closeCall

end McpPaperBroker

end EsscherMarket.PaperDemo
