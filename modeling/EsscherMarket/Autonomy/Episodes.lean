import Mathlib.Data.List.MinMax
import Mathlib.Data.Prod.Lex
import EsscherMarket.Lib.DecimalContext
import EsscherMarket.Lib.IsoFormat
import EsscherMarket.Lib.JsonText
import EsscherMarket.Strategy.Decision

/-!
# Episodic memory

`autonomy/episodes.py`, and the three append-only tables of `risk/ledger.py` under it.  A decision,
an outcome and a snapshot of the broker's truth are records of three kinds; a kind says how the
canonical payload of its records is read, checked and written, and which columns repeat it.

The reasons for which a payload is refused are left out: a stored one that is refused is always a
`STORED_RECORD_INVALID`.
-/

namespace EsscherMarket.Autonomy.Episodes

open Lib Strategy

/-! ### Vocabulary -/

inductive EpisodicReason where
  | storedRecordInvalid
  | invalidClock
  | invalidHash
  | invalidId
  | invalidState
  | invalidDecimal
  | nonCanonicalDocument
  | summarySemanticMismatch
  deriving DecidableEq, Repr

inductive LifecycleOutcome where
  | closed
  | stillOpen
  | partlyFilled
  | manualRequired
  | routeFailed
  | reconciliationFailed
  | canceled
  deriving DecidableEq, Repr

def LifecycleOutcome.value : LifecycleOutcome → String
  | .closed => "CLOSED"
  | .stillOpen => "OPEN"
  | .partlyFilled => "PARTIAL"
  | .manualRequired => "MANUAL_REQUIRED"
  | .routeFailed => "ROUTE_FAILED"
  | .reconciliationFailed => "RECONCILIATION_FAILED"
  | .canceled => "CANCELED"

inductive PnlClassification where
  | realized
  | notApplicable
  | unavailable
  deriving DecidableEq, Repr

def PnlClassification.value : PnlClassification → String
  | realized => "REALIZED"
  | notApplicable => "NOT_APPLICABLE"
  | unavailable => "UNAVAILABLE"

/-! ### Texts, clocks and numbers -/

/-- `_SYMBOL`. -/
def isSymbol (s : String) : Bool :=
  match s.toList with
  | [] => false
  | c :: rest => c.isUpper && decide (rest.length ≤ 31) &&
      rest.all fun d => d.isUpper || d.isDigit || "./-".toList.contains d

/-- `_DECIMAL_TEXT`. -/
def matchesDecimal (s : String) : Bool :=
  let unsigned := match s.toList with
    | '-' :: rest => rest
    | cs => cs
  let whole := unsigned.takeWhile Char.isDigit
  (whole == ['0'] || !whole.isEmpty && whole.head? != some '0') &&
    match unsigned.dropWhile Char.isDigit with
    | [] => true
    | c :: fraction => c == '.' && !fraction.isEmpty && fraction.all Char.isDigit

/-- `_decimal_text`: the one text of a finite decimal. -/
def isDecimalText (s : String) : Bool :=
  matchesDecimal s && (Decimal.parse s).any Decimal.isFinite && s != "-0" &&
    !(s.toList.contains '.' && s.toList.getLast? == some '0')

/-- `_timestamp` accepts a datetime in `UTC`. -/
def isClock (t : DateTime) : Bool := t.tzinfo == .utc && decide t.InRange

def parseTimestamp : Json → Option DateTime
  | .str s => (DateTime.fromIsoformat (DateTime.replaceZ s)).filter fun t =>
      isClock t && t.isoformatZ == s
  | _ => none

def textWhere (accepted : String → Bool) : Json → Option String
  | .str s => if accepted s then some s else none
  | _ => none

/-- A field that may be `null`. -/
def nullable {α : Type} (read : Json → Option α) : Json → Option (Option α)
  | .null => some none
  | v => (read v).map some

/-- `_choice`: one of the values of a vocabulary. -/
def choice {α : Type} (all : List α) (value : α → String) (v : Json) : Option α :=
  all.find? fun a => v.isText (value a)

def boolean : Json → Option Bool
  | .bool b => some b
  | _ => none

def identifier : Json → Option String := textWhere Strategy.isIdentifier

def sha256 : Json → Option String := textWhere (isLowerHex 64)

def readDisposition : Json → Option DecisionDisposition :=
  choice [.accepted, .abstained, .rejected] DecisionDisposition.value

def readDirection : Json → Option Direction := choice [.up, .down, .uncertain] Direction.value

def readLifecycleOutcome : Json → Option LifecycleOutcome :=
  choice [.closed, .stillOpen, .partlyFilled, .manualRequired, .routeFailed, .reconciliationFailed,
    .canceled] LifecycleOutcome.value

def readPnlClassification : Json → Option PnlClassification :=
  choice [.realized, .notApplicable, .unavailable] PnlClassification.value

/-! ### Kinds of records -/

structure RecordKind (φ : Type) where
  schema : String
  fields : List String
  read : Json → Option φ
  check : φ → Bool
  payload : φ → Json
  identityColumn : String
  orderBy : List String

structure Record {φ : Type} (kind : RecordKind φ) where
  fields : φ
  accepted : kind.check fields = true

/-- `_correction_pair`, and that a record does not supersede itself. -/
def checkCorrection (identity : String) (superseded supersededSha256 : Option String) : Bool :=
  superseded.isSome == supersededSha256.isSome && superseded != some identity

structure DecisionFields where
  episodeId : String
  eventId : String
  candidateId : String
  symbol : String
  occurredAt : DateTime
  decisionCutoffAt : DateTime
  sourcePolicySha256 : String
  sourceEvidenceSha256 : String
  sourceFeatureSha256 : String
  sourceSnapshotSha256 : String
  priorSummarySha256 : String
  routeSha256 : String
  promptSha256 : String
  modelConfigSha256 : String
  exchangeSha256 : String
  decisionSha256 : String
  disposition : DecisionDisposition
  direction : Direction
  createdAt : DateTime
  supersedesEpisodeId : Option String
  supersedesEpisodeSha256 : Option String
  deriving DecidableEq, Repr

/-- What `_decision_payload` demands. -/
def DecisionFields.check (d : DecisionFields) : Bool :=
  [d.episodeId, d.eventId, d.candidateId].all Strategy.isIdentifier && isSymbol d.symbol &&
  [d.sourcePolicySha256, d.sourceEvidenceSha256, d.sourceFeatureSha256, d.sourceSnapshotSha256,
    d.priorSummarySha256, d.routeSha256, d.promptSha256, d.modelConfigSha256, d.exchangeSha256,
    d.decisionSha256].all (isLowerHex 64) &&
  d.supersedesEpisodeId.all Strategy.isIdentifier && d.supersedesEpisodeSha256.all (isLowerHex 64) &&
  [d.occurredAt, d.decisionCutoffAt, d.createdAt].all isClock &&
  decide (d.occurredAt.micros ≤ d.decisionCutoffAt.micros) &&
  decide (d.occurredAt.micros ≤ d.createdAt.micros) &&
  ((d.disposition == .accepted) == (d.direction != .uncertain)) &&
  checkCorrection d.episodeId d.supersedesEpisodeId d.supersedesEpisodeSha256

def DecisionFields.payload (d : DecisionFields) : Json :=
  .obj [("schema", .str "esscher.episodic_decision"), ("schema_version", .int 1),
    ("episode_id", .str d.episodeId), ("event_id", .str d.eventId),
    ("candidate_id", .str d.candidateId), ("symbol", .str d.symbol),
    ("occurred_at", .str d.occurredAt.isoformatZ),
    ("decision_cutoff_at", .str d.decisionCutoffAt.isoformatZ),
    ("source_policy_sha256", .str d.sourcePolicySha256),
    ("source_evidence_sha256", .str d.sourceEvidenceSha256),
    ("source_feature_sha256", .str d.sourceFeatureSha256),
    ("source_snapshot_sha256", .str d.sourceSnapshotSha256),
    ("prior_summary_sha256", .str d.priorSummarySha256), ("route_sha256", .str d.routeSha256),
    ("prompt_sha256", .str d.promptSha256), ("model_config_sha256", .str d.modelConfigSha256),
    ("exchange_sha256", .str d.exchangeSha256), ("decision_sha256", .str d.decisionSha256),
    ("disposition", .str d.disposition.value), ("direction", .str d.direction.value),
    ("created_at", .str d.createdAt.isoformatZ),
    ("supersedes_episode_id", textOrNull d.supersedesEpisodeId),
    ("supersedes_episode_sha256", textOrNull d.supersedesEpisodeSha256)]

/-- `_parse_decision_payload`, of a payload with the right keys and schema. -/
def DecisionFields.read (v : Json) : Option DecisionFields := do
  return {
    episodeId := ← identifier (v.get "episode_id")
    eventId := ← identifier (v.get "event_id")
    candidateId := ← identifier (v.get "candidate_id")
    symbol := ← textWhere isSymbol (v.get "symbol")
    occurredAt := ← parseTimestamp (v.get "occurred_at")
    decisionCutoffAt := ← parseTimestamp (v.get "decision_cutoff_at")
    sourcePolicySha256 := ← sha256 (v.get "source_policy_sha256")
    sourceEvidenceSha256 := ← sha256 (v.get "source_evidence_sha256")
    sourceFeatureSha256 := ← sha256 (v.get "source_feature_sha256")
    sourceSnapshotSha256 := ← sha256 (v.get "source_snapshot_sha256")
    priorSummarySha256 := ← sha256 (v.get "prior_summary_sha256")
    routeSha256 := ← sha256 (v.get "route_sha256")
    promptSha256 := ← sha256 (v.get "prompt_sha256")
    modelConfigSha256 := ← sha256 (v.get "model_config_sha256")
    exchangeSha256 := ← sha256 (v.get "exchange_sha256")
    decisionSha256 := ← sha256 (v.get "decision_sha256")
    disposition := ← readDisposition (v.get "disposition")
    direction := ← readDirection (v.get "direction")
    createdAt := ← parseTimestamp (v.get "created_at")
    supersedesEpisodeId := ← nullable identifier (v.get "supersedes_episode_id")
    supersedesEpisodeSha256 := ← nullable sha256 (v.get "supersedes_episode_sha256") }

def decisionKind : RecordKind DecisionFields where
  schema := "esscher.episodic_decision"
  fields := ["schema", "schema_version", "episode_id", "event_id", "candidate_id", "symbol",
    "occurred_at", "decision_cutoff_at", "source_policy_sha256", "source_evidence_sha256",
    "source_feature_sha256", "source_snapshot_sha256", "prior_summary_sha256", "route_sha256",
    "prompt_sha256", "model_config_sha256", "exchange_sha256", "decision_sha256", "disposition",
    "direction", "created_at", "supersedes_episode_id", "supersedes_episode_sha256"]
  read := DecisionFields.read
  check := DecisionFields.check
  payload := DecisionFields.payload
  identityColumn := "episode_id"
  orderBy := ["occurred_at", "episode_id"]

abbrev DecisionEpisode := Record decisionKind

/-- An observation of a decision's lifecycle or realized result. -/
structure OutcomeFields where
  outcomeId : String
  decisionEpisodeId : String
  eventId : String
  openPermitId : Option String
  closePermitId : Option String
  openOrderId : Option String
  closeOrderId : Option String
  terminalAt : DateTime
  observedAt : DateTime
  lifecycleOutcome : LifecycleOutcome
  pnlClassification : PnlClassification
  grossPnl : Option String
  netPnl : Option String
  reconciliationSha256 : String
  finalFlat : Bool
  supersedesOutcomeId : Option String
  supersedesOutcomeSha256 : Option String
  createdAt : DateTime
  deriving DecidableEq, Repr

/-- Flatness, classification and amounts follow from the lifecycle's outcome. -/
def OutcomeFields.checkPnl (o : OutcomeFields) : Bool :=
  match o.lifecycleOutcome with
  | .closed => o.finalFlat && o.pnlClassification == .realized && o.grossPnl.isSome &&
      o.netPnl.isSome
  | .canceled => o.finalFlat && o.pnlClassification == .notApplicable && o.grossPnl.isNone &&
      o.netPnl.isNone
  | _ => !o.finalFlat && o.pnlClassification == .unavailable && o.grossPnl.isNone &&
      o.netPnl.isNone

/-- What `_outcome_payload` demands. -/
def OutcomeFields.check (o : OutcomeFields) : Bool :=
  [o.outcomeId, o.decisionEpisodeId, o.eventId].all Strategy.isIdentifier &&
  [o.openPermitId, o.closePermitId, o.openOrderId, o.closeOrderId, o.supersedesOutcomeId].all
    (fun id => id.all Strategy.isIdentifier) &&
  o.grossPnl.all isDecimalText && o.netPnl.all isDecimalText &&
  isLowerHex 64 o.reconciliationSha256 && o.supersedesOutcomeSha256.all (isLowerHex 64) &&
  [o.terminalAt, o.observedAt, o.createdAt].all isClock &&
  decide (o.terminalAt.micros ≤ o.observedAt.micros) &&
  decide (o.observedAt.micros ≤ o.createdAt.micros) && o.checkPnl &&
  checkCorrection o.outcomeId o.supersedesOutcomeId o.supersedesOutcomeSha256

def OutcomeFields.payload (o : OutcomeFields) : Json :=
  .obj [("schema", .str "esscher.episodic_outcome"), ("schema_version", .int 1),
    ("outcome_id", .str o.outcomeId), ("decision_episode_id", .str o.decisionEpisodeId),
    ("event_id", .str o.eventId), ("open_permit_id", textOrNull o.openPermitId),
    ("close_permit_id", textOrNull o.closePermitId), ("open_order_id", textOrNull o.openOrderId),
    ("close_order_id", textOrNull o.closeOrderId), ("terminal_at", .str o.terminalAt.isoformatZ),
    ("observed_at", .str o.observedAt.isoformatZ),
    ("lifecycle_outcome", .str o.lifecycleOutcome.value),
    ("pnl_classification", .str o.pnlClassification.value), ("gross_pnl", textOrNull o.grossPnl),
    ("net_pnl", textOrNull o.netPnl), ("reconciliation_sha256", .str o.reconciliationSha256),
    ("final_flat", .bool o.finalFlat), ("supersedes_outcome_id", textOrNull o.supersedesOutcomeId),
    ("supersedes_outcome_sha256", textOrNull o.supersedesOutcomeSha256),
    ("created_at", .str o.createdAt.isoformatZ)]

/-- `_parse_outcome_payload`, of a payload with the right keys and schema. -/
def OutcomeFields.read (v : Json) : Option OutcomeFields := do
  return {
    outcomeId := ← identifier (v.get "outcome_id")
    decisionEpisodeId := ← identifier (v.get "decision_episode_id")
    eventId := ← identifier (v.get "event_id")
    openPermitId := ← nullable identifier (v.get "open_permit_id")
    closePermitId := ← nullable identifier (v.get "close_permit_id")
    openOrderId := ← nullable identifier (v.get "open_order_id")
    closeOrderId := ← nullable identifier (v.get "close_order_id")
    terminalAt := ← parseTimestamp (v.get "terminal_at")
    observedAt := ← parseTimestamp (v.get "observed_at")
    lifecycleOutcome := ← readLifecycleOutcome (v.get "lifecycle_outcome")
    pnlClassification := ← readPnlClassification (v.get "pnl_classification")
    grossPnl := ← nullable (textWhere isDecimalText) (v.get "gross_pnl")
    netPnl := ← nullable (textWhere isDecimalText) (v.get "net_pnl")
    reconciliationSha256 := ← sha256 (v.get "reconciliation_sha256")
    finalFlat := ← boolean (v.get "final_flat")
    supersedesOutcomeId := ← nullable identifier (v.get "supersedes_outcome_id")
    supersedesOutcomeSha256 := ← nullable sha256 (v.get "supersedes_outcome_sha256")
    createdAt := ← parseTimestamp (v.get "created_at") }

def outcomeKind : RecordKind OutcomeFields where
  schema := "esscher.episodic_outcome"
  fields := ["schema", "schema_version", "outcome_id", "decision_episode_id", "event_id",
    "open_permit_id", "close_permit_id", "open_order_id", "close_order_id", "terminal_at",
    "observed_at", "lifecycle_outcome", "pnl_classification", "gross_pnl", "net_pnl",
    "reconciliation_sha256", "final_flat", "supersedes_outcome_id", "supersedes_outcome_sha256",
    "created_at"]
  read := OutcomeFields.read
  check := OutcomeFields.check
  payload := OutcomeFields.payload
  identityColumn := "outcome_id"
  orderBy := ["terminal_at", "observed_at", "outcome_id"]

abbrev OutcomeEpisode := Record outcomeKind

/-- The account, orders and positions that the broker reported. -/
structure SnapshotFields where
  snapshotId : String
  observedAt : DateTime
  accountSha256 : String
  ordersSha256 : String
  positionsSha256 : String
  equity : String
  openExposure : String
  isFlat : Bool
  createdAt : DateTime
  supersedesSnapshotId : Option String
  supersedesSnapshotSha256 : Option String
  deriving DecidableEq, Repr

/-- `_decimal_text(…, nonnegative=True)`. -/
def isNonnegativeText (s : String) : Bool :=
  isDecimalText s && (Decimal.parse s).any fun d => decide (0 ≤ d.toRat)

/-- What `_snapshot_payload` demands. -/
def SnapshotFields.check (s : SnapshotFields) : Bool :=
  Strategy.isIdentifier s.snapshotId &&
  [s.accountSha256, s.ordersSha256, s.positionsSha256].all (isLowerHex 64) &&
  isDecimalText s.equity && isNonnegativeText s.openExposure &&
  s.supersedesSnapshotId.all Strategy.isIdentifier && s.supersedesSnapshotSha256.all (isLowerHex 64) &&
  [s.observedAt, s.createdAt].all isClock && decide (s.observedAt.micros ≤ s.createdAt.micros) &&
  (s.isFlat == (s.openExposure == "0")) &&
  checkCorrection s.snapshotId s.supersedesSnapshotId s.supersedesSnapshotSha256

def SnapshotFields.payload (s : SnapshotFields) : Json :=
  .obj [("schema", .str "esscher.episodic_broker_truth_snapshot"), ("schema_version", .int 1),
    ("snapshot_id", .str s.snapshotId), ("observed_at", .str s.observedAt.isoformatZ),
    ("account_sha256", .str s.accountSha256), ("orders_sha256", .str s.ordersSha256),
    ("positions_sha256", .str s.positionsSha256), ("equity", .str s.equity),
    ("open_exposure", .str s.openExposure), ("is_flat", .bool s.isFlat),
    ("created_at", .str s.createdAt.isoformatZ),
    ("supersedes_snapshot_id", textOrNull s.supersedesSnapshotId),
    ("supersedes_snapshot_sha256", textOrNull s.supersedesSnapshotSha256)]

/-- `_parse_snapshot_payload`, of a payload with the right keys and schema. -/
def SnapshotFields.read (v : Json) : Option SnapshotFields := do
  return {
    snapshotId := ← identifier (v.get "snapshot_id")
    observedAt := ← parseTimestamp (v.get "observed_at")
    accountSha256 := ← sha256 (v.get "account_sha256")
    ordersSha256 := ← sha256 (v.get "orders_sha256")
    positionsSha256 := ← sha256 (v.get "positions_sha256")
    equity := ← textWhere isDecimalText (v.get "equity")
    openExposure := ← textWhere isNonnegativeText (v.get "open_exposure")
    isFlat := ← boolean (v.get "is_flat")
    createdAt := ← parseTimestamp (v.get "created_at")
    supersedesSnapshotId := ← nullable identifier (v.get "supersedes_snapshot_id")
    supersedesSnapshotSha256 := ← nullable sha256 (v.get "supersedes_snapshot_sha256") }

def snapshotKind : RecordKind SnapshotFields where
  schema := "esscher.episodic_broker_truth_snapshot"
  fields := ["schema", "schema_version", "snapshot_id", "observed_at", "account_sha256",
    "orders_sha256", "positions_sha256", "equity", "open_exposure", "is_flat", "created_at",
    "supersedes_snapshot_id", "supersedes_snapshot_sha256"]
  read := SnapshotFields.read
  check := SnapshotFields.check
  payload := SnapshotFields.payload
  identityColumn := "snapshot_id"
  orderBy := ["observed_at", "snapshot_id"]

abbrev BrokerTruthSnapshot := Record snapshotKind

/-! ### Canonical bytes -/

section Kind

variable {φ : Type} (kind : RecordKind φ)

/-- `decision_episode_bytes` and the like. -/
def recordBytes (r : Record kind) : List UInt8 := (kind.payload r.fields).canonicalBytes

/-- `decision_episode_sha256` and the like. -/
def recordSha256 (r : Record kind) : String := Sha256.hexdigest (recordBytes kind r)

def hasSchema (schema : String) (payload : Json) : Bool :=
  (payload.get "schema").isText schema &&
    match payload.get "schema_version" with
    | .int n => n == 1
    | _ => false

/-- `_parse_canonical`.  A number that is not an integer is refused by the reader of its field. -/
def parseRecord (raw : List UInt8) : Option (Record kind) := do
  let payload ← Json.loadsUnique raw
  if payload.hasKeys kind.fields && hasSchema kind.schema payload then
    let fields ← kind.read payload
    if h : kind.check fields = true then
      if recordBytes kind ⟨fields, h⟩ = raw then return ⟨fields, h⟩ else none
    else none
  else none

/-! ### Rows of the ledger -/

inductive SqlValue where
  | null
  | text (s : String)
  | integer (n : Int)
  deriving DecidableEq, Repr

structure EpisodeRow where
  columns : List (String × SqlValue)
  payloadSha256 : String
  payload : List UInt8
  deriving DecidableEq, Repr

def EpisodeRow.column (row : EpisodeRow) (name : String) : Option SqlValue :=
  (row.columns.find? fun c => c.1 == name).map Prod.snd

def textIn (columns : List (String × SqlValue)) (name : String) : String :=
  match columns.find? fun c => c.1 == name with
  | some (_, .text s) => s
  | _ => ""

def sqlValue : Json → SqlValue
  | .str s => .text s
  | .bool b => .integer (if b then 1 else 0)
  | .int n => .integer n
  | _ => .null

/-- The columns that repeat a payload: `_decision_values` and the like. -/
def valuesOf (payload : Json) : List (String × SqlValue) :=
  match payload with
  | .obj fields => (fields.filter fun kv => kv.1 != "schema" && kv.1 != "schema_version").map
      fun kv => (kv.1, sqlValue kv.2)
  | _ => []

def rowOf (r : Record kind) : EpisodeRow :=
  ⟨valuesOf (kind.payload r.fields), recordSha256 kind r, recordBytes kind r⟩

def EpisodeRow.identity (row : EpisodeRow) : String := textIn row.columns kind.identityColumn

/-- A table of one kind; its identities are the primary key. -/
structure EpisodeTable where
  rows : List EpisodeRow
  unique : (rows.map (EpisodeRow.identity kind)).Nodup

/-- What orders the rows of a `SELECT`. -/
def EpisodeRow.sortKey (row : EpisodeRow) : List String := kind.orderBy.map (textIn row.columns)

/-- `decision_episode_rows` and the like. -/
def episodeRows (table : EpisodeTable kind) : List EpisodeRow :=
  table.rows.mergeSort fun a b => decide (EpisodeRow.sortKey kind a ≤ EpisodeRow.sortKey kind b)

/-- The record of a row, whose digest and columns must match its payload. -/
def validatedRow (row : EpisodeRow) : Option (Record kind) := do
  if Sha256.hexdigest row.payload = row.payloadSha256 then
    let record ← parseRecord kind row.payload
    if (valuesOf (kind.payload record.fields)).all fun c => row.column c.1 == some c.2 then
      return record
    else none
  else none

/-- `_validated_rows` of a table: `_stored_decisions` and the like. -/
def stored (table : EpisodeTable kind) : Except EpisodicReason (List (Record kind)) :=
  match (episodeRows kind table).mapM (validatedRow kind) with
  | some records => .ok records
  | none => .error .storedRecordInvalid

inductive LedgerError where
  | columnsDiffer
  | identityNotText
  | immutableEpisodeConflict (identity : String)
  deriving DecidableEq, Repr

def EpisodeTable.insert {kind : RecordKind φ} (table : EpisodeTable kind) (row : EpisodeRow)
    (h : table.rows.find? (fun r => EpisodeRow.identity kind r == EpisodeRow.identity kind row) =
      none) : EpisodeTable kind where
  rows := table.rows ++ [row]
  unique := by
    rw [List.map_append, List.map_singleton, List.nodup_append]
    refine ⟨table.unique, List.nodup_singleton _, ?_⟩
    intro identity hmem other hother
    obtain ⟨r, hr, rfl⟩ := List.mem_map.mp hmem
    rw [List.mem_singleton.mp hother]
    have hne := List.find?_eq_none.mp h r hr
    rw [beq_iff_eq] at hne
    exact hne

/-- `_append_episode_row`: whether the row is new, and the table after it. -/
def appendEpisodeRow (table : EpisodeTable kind) (values : List (String × SqlValue))
    (payload : List UInt8) (payloadSha256 : String) :
    Except LedgerError (Bool × EpisodeTable kind) :=
  let columns := kind.fields.filter fun name => name != "schema" && name != "schema_version"
  let row : EpisodeRow := ⟨values, payloadSha256, payload⟩
  if !(columns.all (values.map Prod.fst).contains && (values.map Prod.fst).all columns.contains) then
    .error .columnsDiffer
  else match row.column kind.identityColumn with
    | some (.text identity) =>
      match h : table.rows.find?
          (fun r => EpisodeRow.identity kind r == EpisodeRow.identity kind row) with
      | some existing =>
        if existing.payloadSha256 = payloadSha256 ∧ existing.payload = payload then
          .ok (false, table)
        else .error (.immutableEpisodeConflict identity)
      | none => .ok (true, table.insert row h)
    | _ => .error .identityNotText

end Kind

structure EpisodeTables where
  decisions : EpisodeTable decisionKind
  outcomes : EpisodeTable outcomeKind
  snapshots : EpisodeTable snapshotKind

end EsscherMarket.Autonomy.Episodes
