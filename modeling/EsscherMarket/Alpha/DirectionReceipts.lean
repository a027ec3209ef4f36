import EsscherMarket.Lib.IsoFormat
import EsscherMarket.Lib.JsonText
import EsscherMarket.Strategy.Decision

/-!
# Direction receipts

`alpha/direction_receipts.py`: the attributable record of one directional decision for one event of
a frozen panel, and its canonical bytes.  The clocks of a receipt are timezone-aware.
-/

namespace EsscherMarket.Alpha

open Lib Strategy

/-- A float: its sign, its exact magnitude and its `repr`; or one that is not finite. -/
inductive PyFloat where
  | finite (negative : Bool) (magnitude : ℚ) (repr : String)
      (real : Json.isReal (Json.utf8 repr) = true)
  | nonFinite

/-- `isfinite(x)`. -/
def PyFloat.isFinite : PyFloat → Bool
  | finite .. => true
  | nonFinite => false

/-- The JSON number of a float; `allow_nan=False` refuses one that is not finite. -/
def PyFloat.json : PyFloat → Option Json
  | finite _ _ repr _ => some (.real repr)
  | nonFinite => none

inductive ProducerKind where
  | routeBound
  | synthetic
  deriving DecidableEq, Repr

def ProducerKind.value : ProducerKind → String
  | routeBound => "ROUTE_BOUND"
  | synthetic => "SYNTHETIC"

/-- `value.isoformat().replace("+00:00", "Z")`. -/
def iso (t : DateTime) : String :=
  if DateTime.offsetText t.tzinfo = "+00:00".toList then t.isoformatZ else t.isoformat

structure DirectionReceiptFields where
  eventId : String
  candidateId : String
  direction : Direction
  reasonCodes : List String
  decisionCutoffAt : DateTime
  latestEvidenceAt : DateTime
  featureSnapshotAt : DateTime
  marketBeta : PyFloat
  sectorBeta : PyFloat
  priceOnlyScore : PyFloat
  fundamentalScore : PyFloat
  numericScore : PyFloat
  producerKind : ProducerKind
  routeSha256 : Option String
  promptSha256 : Option String
  modelConfigSha256 : Option String
  classification : List String
  producedAt : DateTime
  decisionArtifactSha256 : String
  limitations : List String

/-- `bool(text)` of a text or `None`. -/
def truthyText : Option String → Bool
  | some s => s != ""
  | none => false

/-- `DirectionReceipt.__post_init__`. -/
def DirectionReceiptFields.check (r : DirectionReceiptFields) : Bool :=
  decide (r.latestEvidenceAt.micros ≤ r.decisionCutoffAt.micros) &&
  decide (r.featureSnapshotAt.micros ≤ r.decisionCutoffAt.micros) &&
  decide (r.decisionCutoffAt.micros ≤ r.producedAt.micros) &&
  match r.producerKind with
  | .synthetic => r.classification.contains "NOT_ALPHA_EVIDENCE"
  | .routeBound => truthyText r.routeSha256 && truthyText r.promptSha256 &&
      truthyText r.modelConfigSha256

/-- One immutable directional decision for one frozen event. -/
structure DirectionReceipt extends DirectionReceiptFields where
  accepted : toDirectionReceiptFields.check = true

/-- `direction_receipt_payload`, unless one of its numbers is not finite. -/
def directionReceiptPayload (r : DirectionReceipt) : Option Json := do
  let marketBeta ← r.marketBeta.json
  let sectorBeta ← r.sectorBeta.json
  let priceOnlyScore ← r.priceOnlyScore.json
  let fundamentalScore ← r.fundamentalScore.json
  let numericScore ← r.numericScore.json
  return .obj [("schema", .str "esscher.direction_receipt"), ("schema_version", .int 2),
    ("event_id", .str r.eventId), ("candidate_id", .str r.candidateId),
    ("direction", .str r.direction.value), ("reason_codes", .arr (r.reasonCodes.map .str)),
    ("decision_cutoff_at", .str (iso r.decisionCutoffAt)),
    ("latest_evidence_at", .str (iso r.latestEvidenceAt)),
    ("feature_snapshot_at", .str (iso r.featureSnapshotAt)), ("market_beta", marketBeta),
    ("sector_beta", sectorBeta), ("price_only_score", priceOnlyScore),
    ("fundamental_score", fundamentalScore), ("numeric_score", numericScore),
    ("producer_kind", .str r.producerKind.value), ("route_sha256", textOrNull r.routeSha256),
    ("prompt_sha256", textOrNull r.promptSha256),
    ("model_config_sha256", textOrNull r.modelConfigSha256),
    ("classification", .arr (r.classification.map .str)),
    ("produced_at", .str (iso r.producedAt)),
    ("decision_artifact_sha256", .str r.decisionArtifactSha256),
    ("limitations", .arr (r.limitations.map .str))]

/-- `hashlib.sha256(direction_receipt_bytes(receipt)).hexdigest()`. -/
def directionReceiptSha256 (r : DirectionReceipt) : Option String :=
  (directionReceiptPayload r).map Json.sha256

end EsscherMarket.Alpha
