import EsscherMarket.Lib.DecimalBounds
import EsscherMarket.Lib.IsoReader
import EsscherMarket.PaperDemo.Broker

/-!
# One approved PAPER run and its receipt

`execution/paper_demo.py`: `_classify_pnl`, `PaperReceiptBundle` and `run_paper_demo`.
-/

namespace EsscherMarket.PaperDemo

open Lib Execution Lifecycle Risk

/-! ### P&L observations -/

inductive PaperPnlClass where
  | paperRealizedPnl
  | zeroNoFill
  | paperPnlUnavailable
  deriving DecidableEq, Repr

def PaperPnlClass.value : PaperPnlClass → String
  | paperRealizedPnl => "PAPER_REALIZED_PNL"
  | zeroNoFill => "ZERO_NO_FILL"
  | paperPnlUnavailable => "PAPER_PNL_UNAVAILABLE"

def paperPnlDecimalTextMaxLength : Nat := 128

def paperPnlUnavailableReasons : List String :=
  ["broker fees are negative",
    "broker fill prices contradict the registered debit/credit signs",
    "canceled order has a nonzero filled quantity",
    "closing fill predates opening fill",
    "closing order economics are missing",
    "opening and closing fill quantities are not exact",
    "paper P&L decimal text is out of bounds",
    "paper P&L inputs are invalid"] ++
  (["broker fees", "closing filled average price", "closing filled quantity",
    "opening filled average price", "opening filled quantity"].flatMap fun field =>
      [" is invalid", " is missing or invalid", " is not finite"].map (field ++ ·)) ++
  (["closing filled_at", "opening filled_at"].flatMap fun field =>
    [" is invalid", " is missing", " is not timezone-aware"].map (field ++ ·))

structure PaperPnlObservation where
  classification : PaperPnlClass
  grossRealizedPnl : Option Decimal
  brokerFees : Option Decimal
  netRealizedPnl : Option Decimal
  openFilledAt : Option DateTime
  closeFilledAt : Option DateTime
  unavailableReason : Option String
  deriving DecidableEq

/-- How the economics are not determined: a `ValueError` with its text, or an overflow. -/
inductive PnlError where
  | value (reason : String)
  | overflow
  deriving DecidableEq

def awareDatetime (iso : IsoReader) (value : Json) (field : String) : Except PnlError DateTime :=
  match value with
  | .str text =>
    match iso.read text with
    | none => .error (.value (field ++ " is invalid"))
    | some parsed =>
      if parsed.isAware then .ok parsed else .error (.value (field ++ " is not timezone-aware"))
  | _ => .error (.value (field ++ " is missing"))

def finiteDecimal (value : Json) (field : String) : Except PnlError Decimal :=
  match value with
  | .str _ | .int _ | .real _ =>
    match decimalOf value with
    | none => .error (.value (field ++ " is invalid"))
    | some d => if d.isFinite then .ok d else .error (.value (field ++ " is not finite"))
  | _ => .error (.value (field ++ " is missing or invalid"))

def contextual (d : Decimal) : Except PnlError Decimal :=
  match d.bound with
  | some d => .ok d
  | none => .error .overflow

/-- The fees of the orders; `none` where one order has none. -/
def feesOf : List Json → Except PnlError (Option (List Decimal))
  | [] => .ok (some [])
  | order :: rest =>
    match order.field? "fees" with
    | none => .ok none
    | some value => do
      let fee ← finiteDecimal value "broker fees"
      throwIf (fee.toRat < 0) (.value "broker fees are negative")
      let fees ← feesOf rest
      return fees.map (fee :: ·)

/-- `sum(values, start)`. -/
def sumOf : Decimal → List Decimal → Except PnlError Decimal
  | total, [] => .ok total
  | total, fee :: rest => do
    let next ← contextual (Decimal.sum total fee)
    sumOf next rest

def brokerFees (orders : List Json) : Except PnlError (Option Decimal) := do
  match ← feesOf orders with
  | none => return none
  | some fees => return some (← sumOf (.ofNat 0) fees)

/-- `_decimal_text`; the bounds hold of the digits, the exponent and the text. -/
def decimalText (d : Decimal) : Except PnlError String :=
  let outOfBounds := PnlError.value "paper P&L decimal text is out of bounds"
  match d.fix.normalize with
  | .finite _ c e =>
    if paperPnlDecimalTextMaxLength < Decimal.digitCount c ∨
        paperPnlDecimalTextMaxLength < e.natAbs then .error outOfBounds
    else if paperPnlDecimalTextMaxLength < d.fix.plainText.length then .error outOfBounds
    else .ok d.fix.plainText
  | _ => .error outOfBounds

def optionalText : Option Decimal → Except PnlError (Option String)
  | none => .ok none
  | some d => (decimalText d).map some

def unavailable (reason : String) : PaperPnlObservation :=
  ⟨.paperPnlUnavailable, none, none, none, none, none,
    some (if paperPnlUnavailableReasons.contains reason then reason
      else "paper P&L inputs are invalid")⟩

def classifyCanceled (openOrder : Json) (openQty : Decimal) :
    Except PnlError PaperPnlObservation := do
  throwIf (openQty.toRat ≠ 0) (.value "canceled order has a nonzero filled quantity")
  let fees ← brokerFees [openOrder]
  let _ ← decimalText (.ofNat 0)
  let _ ← optionalText fees
  return ⟨.zeroNoFill, some (.ofNat 0), fees, none, none, none, none⟩

/-- `((-close_price) - open_price) * Decimal(100) * expected_qty`. -/
def grossOf (openPrice closePrice expectedQty : Decimal) : Except PnlError Decimal := do
  let credit ← contextual closePrice.copyNegate
  let perShare ← contextual (credit.sum openPrice.copyNegate)
  let perContract ← contextual (perShare.mul (.ofNat 100))
  contextual (perContract.mul expectedQty)

/-- `gross - fees`, where there are fees. -/
def netOf (gross : Decimal) : Option Decimal → Except PnlError (Option Decimal)
  | none => .ok none
  | some fees => (contextual (gross.sum fees.copyNegate)).map some

def classifyClosed (iso : IsoReader) (openOrder closeOrder : Json) (openQty : Decimal)
    (quantity : Int) : Except PnlError PaperPnlObservation := do
  let closeQty ← finiteDecimal (closeOrder.get "filled_qty") "closing filled quantity"
  throwIf (openQty.toRat ≠ quantity ∨ closeQty.toRat ≠ quantity)
    (.value "opening and closing fill quantities are not exact")
  let openPrice ← finiteDecimal (openOrder.get "filled_avg_price") "opening filled average price"
  let closePrice ← finiteDecimal (closeOrder.get "filled_avg_price") "closing filled average price"
  throwIf (openPrice.toRat ≤ 0 ∨ 0 ≤ closePrice.toRat)
    (.value "broker fill prices contradict the registered debit/credit signs")
  let openFilledAt ← awareDatetime iso (openOrder.get "filled_at") "opening filled_at"
  let closeFilledAt ← awareDatetime iso (closeOrder.get "filled_at") "closing filled_at"
  throwIf (closeFilledAt.micros < openFilledAt.micros) (.value "closing fill predates opening fill")
  let gross ← grossOf openPrice closePrice (.ofInt quantity)
  let fees ← brokerFees [openOrder, closeOrder]
  let net ← netOf gross fees
  let _ ← decimalText gross
  let _ ← optionalText fees
  let _ ← optionalText net
  return ⟨.paperRealizedPnl, some gross, fees, net, some openFilledAt, some closeFilledAt, none⟩

/-- The body of `_classify_pnl`. -/
def economicsOf (iso : IsoReader) (outcome : PaperLifecycleOutcome) (openOrder : Json)
    (closeOrder : Option Json) (quantity : Int) : Except PnlError PaperPnlObservation := do
  let openQty ← finiteDecimal (openOrder.get "filled_qty") "opening filled quantity"
  match outcome, closeOrder with
  | .canceledFlat, _ => classifyCanceled openOrder openQty
  | .closedFlat, none => .error (.value "closing order economics are missing")
  | .closedFlat, some closeOrder => classifyClosed iso openOrder closeOrder openQty quantity

/-- `_classify_pnl`; only an overflow leaves it. -/
def classifyPnl (iso : IsoReader) (outcome : PaperLifecycleOutcome) (openOrder : Json)
    (closeOrder : Option Json) (quantity : Int) : Except PaperError PaperPnlObservation :=
  match economicsOf iso outcome openOrder closeOrder quantity with
  | .ok pnl => .ok pnl
  | .error (.value reason) => .ok (unavailable reason)
  | .error .overflow => .error .other

/-! ### The receipt bundle -/

structure PaperReceiptBundle where
  eventRunId : String
  openPermitId : String
  closePermitId : String
  capabilitySha256 : String
  openRequestSha256 : String
  closeRequestSha256 : Option String
  openOrderSha256 : String
  closeOrderSha256 : Option String
  lifecycleOutcome : PaperLifecycleOutcome
  finalFlatObservedAt : DateTime
  pnl : PaperPnlObservation

def nullable : Option String → Json
  | some s => .str s
  | none => .null

/-- The `paper_pnl` of a payload, with the texts of its decimals. -/
def pnlPayload (pnl : PaperPnlObservation) (gross fees net : Option String) : Json :=
  .obj [("classification", .str pnl.classification.value),
    ("gross_realized_pnl", nullable gross),
    ("broker_fees", nullable fees),
    ("net_realized_pnl", nullable net),
    ("open_filled_at", nullable (pnl.openFilledAt.map (·.isoformat))),
    ("close_filled_at", nullable (pnl.closeFilledAt.map (·.isoformat))),
    ("unavailable_reason", nullable pnl.unavailableReason)]

namespace PaperReceiptBundle

/-- The fields of the payload, given that of its P&L. -/
def fields (bundle : PaperReceiptBundle) (pnl : Json) : List (String × Json) :=
  [("schema", .str "ringdown.paper_receipt_bundle"),
    ("schema_version", .int 1),
    ("run_mode", .str "PAPER"),
    ("data_class", .str "INDICATIVE_DATA"),
    ("claims", texts ["PAPER_OPERATIONAL_OBSERVATION", "NOT_ALPHA_EVIDENCE"]),
    ("event_run_id", .str bundle.eventRunId),
    ("open_permit_id", .str bundle.openPermitId),
    ("close_permit_id", .str bundle.closePermitId),
    ("capability_sha256", .str bundle.capabilitySha256),
    ("open_request_sha256", .str bundle.openRequestSha256),
    ("close_request_sha256", nullable bundle.closeRequestSha256),
    ("open_order_sha256", .str bundle.openOrderSha256),
    ("close_order_sha256", nullable bundle.closeOrderSha256),
    ("lifecycle_outcome", .str bundle.lifecycleOutcome.value),
    ("final_flat_observed_at", .str bundle.finalFlatObservedAt.isoformat),
    ("paper_pnl", pnl)]

/-- The fields of `_payload`, which raises where a decimal is out of bounds. -/
def payload (bundle : PaperReceiptBundle) : Except PnlError (List (String × Json)) := do
  let gross ← optionalText bundle.pnl.grossRealizedPnl
  let fees ← optionalText bundle.pnl.brokerFees
  let net ← optionalText bundle.pnl.netRealizedPnl
  return bundle.fields (pnlPayload bundle.pnl gross fees net)

/-- `to_json_bytes`: the payload with its digest. -/
def toJsonBytes (bundle : PaperReceiptBundle) : Except PnlError (List UInt8) := do
  let fields ← bundle.payload
  return (Json.obj (fields ++ [("receipt_sha256", .str (Json.obj fields).sha256)])).canonicalBytes

end PaperReceiptBundle

/-! ### The run -/

structure PaperDemoApproval where
  permitId : String
  capabilitySha256 : String
  approvedAt : DateTime
  expiresAt : DateTime

/-- The attested session, as far as a run compares it. -/
structure PreparedHostMcpSession where
  capabilitySha256 : String

open Prog

def validateApproval (prepared : PreparedHostMcpSession) (p : DebitVerticalPermit)
    (approval : PaperDemoApproval) (observedAt : DateTime) : Except PaperError Unit := do
  throwIf (approval.permitId ≠ p.permitId) .notApproved
  throwIf (approval.capabilitySha256 ≠ prepared.capabilitySha256) .notApproved
  throwIf (¬ approval.approvedAt.isAware) .notApproved
  throwIf (¬ approval.expiresAt.isAware) .notApproved
  throwIf (observedAt.micros < approval.approvedAt.micros ∨
    approval.expiresAt.micros ≤ observedAt.micros) .notApproved

/-- The terminal readback of an order, with the identity that the lifecycle names. -/
def readTerminal (orderId clientOrderId : String) : PaperProg Json := do
  raiseIf (orderId = "") .host
  let payload ← callTool orderByIdTool (.obj [("order_id", .str orderId)])
  raiseIf (¬ (payload.get "id").isText orderId ∨
    ¬ (payload.get "client_order_id").isText clientOrderId) .brokerResponse
  return payload

def readTerminalClose (clientOrderId : String) : Option String → PaperProg (Option Json)
  | none => return none
  | some orderId => do
    let payload ← readTerminal orderId clientOrderId
    return some payload

def bundleOf (approval : PaperDemoApproval) (openCall : OpenOrderCall)
    (lifecycle : PaperLifecycleReceipt) (pnl : PaperPnlObservation) : PaperReceiptBundle where
  eventRunId := lifecycle.eventRunId
  openPermitId := lifecycle.openPermitId
  closePermitId := lifecycle.closePermitId
  capabilitySha256 := approval.capabilitySha256
  openRequestSha256 := openCall.requestSha256
  closeRequestSha256 := lifecycle.closeRequestSha256
  openOrderSha256 := Sha256.hexdigest (Json.utf8 lifecycle.openOrderId)
  closeOrderSha256 := lifecycle.closeOrderId.map fun id => Sha256.hexdigest (Json.utf8 id)
  lifecycleOutcome := lifecycle.outcome
  finalFlatObservedAt := lifecycle.observedAt
  pnl := pnl

/-- The opening order, submitted once or read back. -/
def openingReceipt (p : DebitVerticalPermit) : Bool → PaperProg OpenOrderReceipt
  | true => McpPaperBroker.submitOpen p
  | false => McpPaperBroker.readOpen p

def runApproved (iso : IsoReader) (p : DebitVerticalPermit) (c : ClosePermit)
    (approval : PaperDemoApproval) (openCall closeCall : OpenOrderCall) :
    PaperProg PaperReceiptBundle := do
  let claimed ← claim openCall.clientOrderId
  let receipt ← openingReceipt p claimed
  let lifecycle ← McpPaperBroker.resolveToFlat p receipt c
  let openOrder ← readTerminal lifecycle.openOrderId openCall.clientOrderId
  let closeOrder ← readTerminalClose closeCall.clientOrderId lifecycle.closeOrderId
  let pnl ← ofExcept (classifyPnl iso lifecycle.outcome openOrder closeOrder p.quantity)
  return bundleOf approval openCall lifecycle pnl

def runPaperDemo (iso : IsoReader) (prepared : PreparedHostMcpSession) (p : DebitVerticalPermit)
    (c : ClosePermit) (approval : PaperDemoApproval) : PaperProg PaperReceiptBundle := do
  let observedAt ← readClock
  raiseIf (¬ observedAt.isAware) .notApproved
  ofExcept (validateApproval prepared p approval observedAt)
  raiseIf (¬ (p.issuedAt.micros ≤ observedAt.micros ∧ observedAt.micros ≤ p.expiresAt.micros))
    .notApproved
  raiseIf (¬ (c.issuedAt.micros ≤ observedAt.micros ∧ observedAt.micros ≤ c.expiresAt.micros))
    .notApproved
  let openCall ← ofExcept (buildOpenOrderCall p)
  let closeCall ← ofExcept (buildCloseOrderCall p c)
  runApproved iso p c approval openCall closeCall

end EsscherMarket.PaperDemo
