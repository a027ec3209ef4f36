import EsscherMarket.Lib.JsonFloat
import EsscherMarket.PaperDemo.Run

/-!
# Manifests, event states and terminal receipts

`runtime/scheduled.py`: what the scheduled runner reads and verifies.
-/

namespace EsscherMarket.Scheduled

open Lib Execution PaperDemo

/-! ### Values -/

def expectedClaims : List String := ["PAPER_OPERATIONAL_RESULT", "INDICATIVE_DATA"]

def resultClaims : List String := expectedClaims ++ ["NOT_ALPHA_EVIDENCE"]

def terminalLifecycles : List String := ["CANCELED_FLAT", "CLOSED_FLAT"]

def stateLifecycles : List String := terminalLifecycles ++ ["RECONCILING", "MANUAL_RECONCILIATION"]

def manualFailureCodes : List String :=
  ["AMBIGUOUS_OR_PARTIAL_BROKER_STATE",
    "DURABLE_STATE_INVALID",
    "DUE_WINDOW_EXPIRED_DURING_RECONCILIATION",
    "RESTART_PLAN_INVALID_OR_EXPIRED",
    "TERMINAL_RECEIPT_INVALID"]

/-- `value == [item, ...]` for texts. -/
def isTexts (v : Json) (items : List String) : Bool :=
  match v with
  | .arr values => values.length == items.length &&
      (values.zip items).all fun pair => pair.1.isText pair.2
  | _ => false

/-- `value in items` for texts. -/
def isAmong (v : Json) (items : List String) : Bool :=
  match v with
  | .str text => items.contains text
  | _ => false

def isNull : Json → Bool
  | .null => true
  | _ => false

/-- `value == other`; values that are not both texts are compared by their canonical bytes. -/
def same : Json → Json → Bool
  | .str text, .str other => text == other
  | v, w => v.canonicalBytes == w.canonicalBytes

/-- The `ScheduledManifestRejected` of a check, with its message. -/
abbrev Verified (α : Type) : Type := Except String α

def awareDatetime (iso : IsoReader) (value : Json) (field : String) : Verified DateTime :=
  match value with
  | .str text =>
    match iso.read text with
    | none => .error ("scheduled manifest " ++ field ++ " must be a valid ISO-8601 timestamp")
    | some parsed =>
      if parsed.isAware then .ok parsed
      else .error ("scheduled manifest " ++ field ++ " must be timezone-aware")
  | _ => .error ("scheduled manifest " ++ field ++ " must be an ISO-8601 string")

def requireSha256 (value : Json) (field : String) : Verified Unit :=
  match value with
  | .str text =>
    if isLowerHex 64 text then .ok ()
    else .error ("terminal receipt " ++ field ++ " must be a lowercase SHA-256 digest")
  | _ => .error ("terminal receipt " ++ field ++ " must be a lowercase SHA-256 digest")

def isDigits (cs : List Char) : Bool := !cs.isEmpty && cs.all Char.isDigit

/-- A text without its minus sign. -/
def unsignedOf : List Char → List Char
  | '-' :: rest => rest
  | cs => cs

def isFraction : List Char → Bool
  | [] => true
  | _ :: fraction => isDigits fraction

/-- A sign, digits without a leading zero, and perhaps a point and digits. -/
def isPlainDecimal (text : String) : Bool :=
  let unsigned := unsignedOf text.toList
  let whole := unsigned.takeWhile (· != '.')
  isDigits whole && !(decide (1 < whole.length) && whole.head? == some '0') &&
    isFraction (unsigned.dropWhile (· != '.'))

def canonicalDecimalText (value : Json) (field : String) : Verified Decimal :=
  let notCanonical := "terminal receipt " ++ field ++ " is not canonical decimal text"
  match value with
  | .null => .error ("terminal receipt " ++ field ++ " must be decimal text")
  | .str text =>
    if ¬ (1 ≤ text.length ∧ text.length ≤ paperPnlDecimalTextMaxLength) then
      .error ("terminal receipt " ++ field ++ " must be bounded decimal text")
    else if isPlainDecimal text = false then .error notCanonical
    else match Decimal.parse text with
      | none => .error notCanonical
      | some parsed =>
        if parsed.isFinite ∧ parsed.fix.plainText = text then .ok parsed else .error notCanonical
  | _ => .error ("terminal receipt " ++ field ++ " must be bounded decimal text")

/-- `_canonical_decimal_text` with `optional=True`. -/
def optionalDecimalText (value : Json) (field : String) : Verified (Option Decimal) :=
  match value with
  | .null => .ok none
  | value => (canonicalDecimalText value field).map some

def canonicalReceiptDatetime (iso : IsoReader) (value : Json) (field : String) :
    Verified DateTime :=
  match value with
  | .str text =>
    if ¬ (1 ≤ text.length ∧ text.length ≤ 64) then
      .error ("terminal receipt " ++ field ++ " must be a bounded ISO-8601 string")
    else do
      let parsed ← awareDatetime iso value ("receipt " ++ field)
      throwIf (parsed.isoformat ≠ text)
        ("terminal receipt " ++ field ++ " must be canonical ISO-8601")
      return parsed
  | _ => .error ("terminal receipt " ++ field ++ " must be a bounded ISO-8601 string")

/-! ### The P&L of a receipt -/

def pnlKeys : List String :=
  ["classification", "gross_realized_pnl", "broker_fees", "net_realized_pnl", "open_filled_at",
    "close_filled_at", "unavailable_reason"]

def isNegative : Option Decimal → Bool
  | some d => decide (d.toRat < 0)
  | none => false

/-- The net P&L is not the gross one less the fees, in the default context, in which decimals of 128
characters do not overflow. -/
def isInconsistent (gross : Decimal) (fees net : Option Decimal) : Bool :=
  match fees, net with
  | none, none => false
  | some fees, some net =>
    match (gross.sum fees.copyNegate).bound with
    | some difference => decide (net.toRat ≠ difference.toRat)
    | none => true
  | _, _ => true

def validateZeroNoFill (pnl lifecycle : Json) : Verified Unit := do
  let fees ← optionalDecimalText (pnl.get "broker_fees") "broker_fees"
  throwIf (¬ lifecycle.isText "CANCELED_FLAT" ∨ ¬ (pnl.get "gross_realized_pnl").isText "0" ∨
    isNegative fees = true ∨ ¬ isNull (pnl.get "net_realized_pnl") ∨
    ¬ isNull (pnl.get "open_filled_at") ∨ ¬ isNull (pnl.get "close_filled_at") ∨
    ¬ isNull (pnl.get "unavailable_reason")) "terminal ZERO_NO_FILL PAPER P&L is invalid"

def validateRealized (iso : IsoReader) (pnl lifecycle : Json) (finalFlatObservedAt : DateTime) :
    Verified Unit := do
  throwIf (¬ lifecycle.isText "CLOSED_FLAT" ∨ ¬ isNull (pnl.get "unavailable_reason"))
    "terminal realized PAPER P&L lifecycle is invalid"
  let gross ← canonicalDecimalText (pnl.get "gross_realized_pnl") "gross_realized_pnl"
  let fees ← optionalDecimalText (pnl.get "broker_fees") "broker_fees"
  let net ← optionalDecimalText (pnl.get "net_realized_pnl") "net_realized_pnl"
  throwIf (isNegative fees = true) "terminal receipt broker_fees cannot be negative"
  throwIf (isInconsistent gross fees net = true) "terminal receipt net PAPER P&L is inconsistent"
  let openedAt ← canonicalReceiptDatetime iso (pnl.get "open_filled_at") "open_filled_at"
  let closedAt ← canonicalReceiptDatetime iso (pnl.get "close_filled_at") "close_filled_at"
  throwIf (closedAt.micros < openedAt.micros ∨ finalFlatObservedAt.micros < closedAt.micros)
    "terminal receipt PAPER fill timestamps are inconsistent"

def validateUnavailable (pnl : Json) : Verified Unit := do
  throwIf (¬ ["gross_realized_pnl", "broker_fees", "net_realized_pnl", "open_filled_at",
    "close_filled_at"].all fun field => isNull (pnl.get field))
    "unavailable PAPER P&L cannot contain guessed values"
  throwIf (¬ isAmong (pnl.get "unavailable_reason") paperPnlUnavailableReasons)
    "terminal receipt unavailable_reason is not allowed"

def validateTerminalPaperPnl (iso : IsoReader) (pnl lifecycle : Json)
    (finalFlatObservedAt : DateTime) : Verified Unit := do
  throwIf (¬ pnl.hasKeys pnlKeys) "terminal receipt PAPER P&L fields are invalid"
  let classification := pnl.get "classification"
  if classification.isText "ZERO_NO_FILL" then validateZeroNoFill pnl lifecycle
  else if classification.isText "PAPER_REALIZED_PNL" then
    validateRealized iso pnl lifecycle finalFlatObservedAt
  else if classification.isText "PAPER_PNL_UNAVAILABLE" then validateUnavailable pnl
  else .error "terminal receipt PAPER P&L classification is invalid"

/-! ### Terminal receipts -/

def receiptKeys : List String :=
  ["schema", "schema_version", "run_mode", "data_class", "claims", "event_run_id",
    "open_permit_id", "close_permit_id", "capability_sha256", "open_request_sha256",
    "close_request_sha256", "open_order_sha256", "close_order_sha256", "lifecycle_outcome",
    "final_flat_observed_at", "paper_pnl", "receipt_sha256"]

/-- `type(value) is int and value == 1`. -/
def isInt1 : Json → Bool
  | .int n => n == 1
  | _ => false

def closingDigests (receipt : Json) : Verified Unit :=
  let lifecycle := receipt.get "lifecycle_outcome"
  if lifecycle.isText "CANCELED_FLAT" then
    throwIf (¬ isNull (receipt.get "close_request_sha256") ∨
      ¬ isNull (receipt.get "close_order_sha256"))
      "canceled-flat terminal receipt cannot contain closing digests"
  else if lifecycle.isText "CLOSED_FLAT" then do
    requireSha256 (receipt.get "close_request_sha256") "close_request_sha256"
    requireSha256 (receipt.get "close_order_sha256") "close_order_sha256"
  else .error "terminal receipt lifecycle is invalid"

def verifiedTerminalReceipt (iso : IsoReader) (receipt state : Json) : Verified Unit := do
  throwIf (¬ receipt.hasKeys receiptKeys) "terminal receipt fields do not match schema v1"
  throwIf (¬ ((receipt.get "schema").isText "ringdown.paper_receipt_bundle" ∧
    isInt1 (receipt.get "schema_version") ∧ (receipt.get "run_mode").isText "PAPER" ∧
    (receipt.get "data_class").isText "INDICATIVE_DATA" ∧
    isTexts (receipt.get "claims") ["PAPER_OPERATIONAL_OBSERVATION", "NOT_ALPHA_EVIDENCE"]))
    "terminal receipt boundary is invalid"
  requireSha256 (receipt.get "capability_sha256") "capability_sha256"
  requireSha256 (receipt.get "open_request_sha256") "open_request_sha256"
  requireSha256 (receipt.get "open_order_sha256") "open_order_sha256"
  closingDigests receipt
  requireSha256 (receipt.get "receipt_sha256") "receipt_sha256"
  throwIf (¬ (receipt.get "receipt_sha256").isText (receipt.without "receipt_sha256").sha256)
    "terminal receipt integrity check failed"
  throwIf (¬ (same (receipt.get "event_run_id") (state.get "event_run_id") ∧
    same (receipt.get "open_permit_id") (state.get "open_permit_id") ∧
    same (receipt.get "close_permit_id") (state.get "close_permit_id") ∧
    same (receipt.get "capability_sha256") (state.get "capability_sha256") ∧
    same (receipt.get "lifecycle_outcome") (state.get "lifecycle")))
    "terminal receipt identity does not match event state"
  let finalFlatObservedAt ← canonicalReceiptDatetime iso (receipt.get "final_flat_observed_at")
    "final_flat_observed_at"
  validateTerminalPaperPnl iso (receipt.get "paper_pnl") (receipt.get "lifecycle_outcome")
    finalFlatObservedAt

/-! ### State records -/

def stateKeys : List String :=
  ["schema", "schema_version", "run_mode", "data_class", "claims", "event_run_id",
    "manifest_sha256", "open_permit_id", "close_permit_id", "capability_sha256", "lifecycle",
    "updated_at", "failure_code", "receipt", "state_sha256"]

def stateReceipt (iso : IsoReader) (payload : Json) : Verified Unit :=
  if isAmong (payload.get "lifecycle") terminalLifecycles then
    verifiedTerminalReceipt iso (payload.get "receipt") payload
  else throwIf (¬ isNull (payload.get "receipt"))
    "non-terminal scheduled state cannot contain a receipt"

def verifiedStatePayload (iso : IsoReader) (payload : Json) : Verified Unit := do
  throwIf (¬ payload.hasKeys stateKeys) "scheduled event state fields do not match schema v1"
  throwIf (¬ ((payload.get "schema").isText "ringdown.scheduled_event_state" ∧
    (payload.get "schema_version").isOne ∧ (payload.get "run_mode").isText "PAPER" ∧
    (payload.get "data_class").isText "INDICATIVE_DATA" ∧
    isTexts (payload.get "claims") resultClaims)) "scheduled event state boundary is invalid"
  throwIf (¬ isAmong (payload.get "lifecycle") stateLifecycles)
    "scheduled event state lifecycle is invalid"
  throwIf (¬ (payload.get "state_sha256").isText (payload.without "state_sha256").sha256)
    "scheduled event state integrity check failed"
  let _ ← awareDatetime iso (payload.get "updated_at") "state updated_at"
  stateReceipt iso payload
  if (payload.get "lifecycle").isText "MANUAL_RECONCILIATION" then
    throwIf (¬ isAmong (payload.get "failure_code") manualFailureCodes)
      "manual scheduled state failure code is invalid"
  else
    throwIf (¬ isNull (payload.get "failure_code"))
      "scheduled event state has an unexpected failure code"

/-! ### Manifests -/

structure ScheduledEventManifestFields where
  eventRunId : String
  openPermitId : String
  closePermitId : String
  capabilitySha256 : String
  approvedAt : DateTime
  notBefore : DateTime
  expiresAt : DateTime
  manifestSha256 : String

/-- What `from_json_bytes` checks of the fields. -/
structure ScheduledEventManifest extends ScheduledEventManifestFields where
  capability : isLowerHex 64 capabilitySha256 = true
  window : approvedAt.micros ≤ notBefore.micros ∧ notBefore.micros < expiresAt.micros

def stateFields (m : ScheduledEventManifest) (lifecycle : String) (updatedAt : DateTime)
    (receipt failureCode : Json) : List (String × Json) :=
  [("schema", .str "ringdown.scheduled_event_state"),
    ("schema_version", .int 1),
    ("run_mode", .str "PAPER"),
    ("data_class", .str "INDICATIVE_DATA"),
    ("claims", texts resultClaims),
    ("event_run_id", .str m.eventRunId),
    ("manifest_sha256", .str m.manifestSha256),
    ("open_permit_id", .str m.openPermitId),
    ("close_permit_id", .str m.closePermitId),
    ("capability_sha256", .str m.capabilitySha256),
    ("lifecycle", .str lifecycle),
    ("updated_at", .str updatedAt.isoformat),
    ("failure_code", failureCode),
    ("receipt", receipt)]

def statePayload (m : ScheduledEventManifest) (lifecycle : String) (updatedAt : DateTime)
    (receipt failureCode : Json) : Json :=
  let fields := stateFields m lifecycle updatedAt receipt failureCode
  .obj (fields ++ [("state_sha256", .str (Json.obj fields).sha256)])

/-! ### Plans -/

/-- The host's plan; its environment, run mode and data class have one value each. -/
structure PaperDemoPlan where
  prepared : PreparedHostMcpSession
  openPermit : DebitVerticalPermit
  closePermit : ClosePermit

/-- Why a plan is not run: a `ScheduledManifestRejected`, or an exception of the plan's own
validation. -/
inductive PlanError where
  | rejected (message : String)
  | other
  deriving DecidableEq

def permitActive (label : String) (issuedAt expiresAt observedAt : DateTime) :
    Except PlanError Unit := do
  throwIf (observedAt.micros < issuedAt.micros)
    (.rejected ("scheduled " ++ label ++ " permit is not active yet"))
  throwIf (expiresAt.micros ≤ observedAt.micros)
    (.rejected ("scheduled " ++ label ++ " permit expired"))

def PaperDemoPlan.validateAt (plan : PaperDemoPlan) (observedAt : DateTime) :
    Except PlanError Unit := do
  throwIf (¬ observedAt.isAware) .other
  throwIf (¬ (plan.openPermit.issuedAt.micros ≤ observedAt.micros ∧
    observedAt.micros ≤ plan.openPermit.expiresAt.micros)) .other
  throwIf (¬ (plan.closePermit.issuedAt.micros ≤ observedAt.micros ∧
    observedAt.micros ≤ plan.closePermit.expiresAt.micros)) .other
  let _ ← (buildOpenOrderCall plan.openPermit).mapError fun _ => PlanError.other
  let _ ← (buildCloseOrderCall plan.openPermit plan.closePermit).mapError fun _ => PlanError.other
  return ()

def validatePlan (m : ScheduledEventManifest) (plan : PaperDemoPlan) (observedAt : DateTime) :
    Except PlanError Unit := do
  throwIf (plan.openPermit.eventRunId ≠ m.eventRunId ∨ plan.closePermit.eventRunId ≠ m.eventRunId)
    (.rejected "scheduled manifest event_run_id does not match the plan")
  throwIf (plan.openPermit.permitId ≠ m.openPermitId)
    (.rejected "scheduled manifest does not bind the opening permit")
  throwIf (plan.closePermit.permitId ≠ m.closePermitId)
    (.rejected "scheduled manifest does not bind the closing permit")
  throwIf (plan.prepared.capabilitySha256 ≠ m.capabilitySha256)
    (.rejected "scheduled manifest does not bind the capability proof")
  permitActive "opening" plan.openPermit.issuedAt plan.openPermit.expiresAt observedAt
  permitActive "closing" plan.closePermit.issuedAt plan.closePermit.expiresAt observedAt
  plan.validateAt observedAt

def ScheduledEventManifest.approval (m : ScheduledEventManifest) : PaperDemoApproval where
  permitId := m.openPermitId
  capabilitySha256 := m.capabilitySha256
  approvedAt := m.approvedAt
  expiresAt := m.expiresAt

end EsscherMarket.Scheduled
