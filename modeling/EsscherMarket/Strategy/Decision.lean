import EsscherMarket.Lib.Json

/-!
# Strategy decisions

`strategy/models.py`: the validator-owned direction of one event, the clocks and digests of the
strategy input it was made from, and the canonical digest of a decision
(`strategy/contracts.py`).  A decision carries the proof that its `__post_init__` accepted it;
that a summary is in normal form is left out.
-/

namespace EsscherMarket.Strategy

open Lib

/-- `alpha/models.py`. -/
inductive Direction where
  | up
  | down
  | uncertain
  deriving DecidableEq, Repr

def Direction.value : Direction → String
  | up => "UP"
  | down => "DOWN"
  | uncertain => "UNCERTAIN"

inductive DecisionDisposition where
  | accepted
  | abstained
  | rejected
  deriving DecidableEq, Repr

def DecisionDisposition.value : DecisionDisposition → String
  | accepted => "ACCEPTED"
  | abstained => "ABSTAINED"
  | rejected => "REJECTED"

inductive ReactionRelation where
  | continue
  | reverse
  | none
  | notApplicable
  deriving DecidableEq, Repr

def ReactionRelation.value : ReactionRelation → String
  | .continue => "CONTINUE"
  | .reverse => "REVERSE"
  | .none => "NONE"
  | .notApplicable => "NOT_APPLICABLE"

/-! ### Texts -/

def isAlphanumeric (c : Char) : Bool := c.isUpper || c.isLower || c.isDigit

theorem isAlphanumeric_iff {c : Char} : isAlphanumeric c = true ↔
    (65 ≤ c.toNat ∧ c.toNat ≤ 90 ∨ 97 ≤ c.toNat ∧ c.toNat ≤ 122) ∨
      48 ≤ c.toNat ∧ c.toNat ≤ 57 := by
  have hc : c.toNat = c.val.toNat := rfl
  rw [hc, isAlphanumeric]
  delta Char.isUpper Char.isLower
  simp only [Bool.or_eq_true, Char.isDigit, Bool.and_eq_true, decide_eq_true_eq, ge_iff_le,
    UInt32.le_iff_toNat_le]
  simp

/-- A text of 1 to 128 characters with a first and further characters of given kinds. -/
def matchesText (first further : Char → Bool) (s : String) : Bool :=
  match s.toList with
  | [] => false
  | c :: rest => first c && rest.all further && decide (rest.length ≤ 127)

/-- `_IDENTIFIER`. -/
def isIdentifier : String → Bool :=
  matchesText isAlphanumeric fun c => isAlphanumeric c || "._:/-".toList.contains c

/-- `_REASON_CODE`. -/
def isReasonCode : String → Bool :=
  matchesText Char.isUpper fun c => c.isUpper || c.isDigit || c == '_'

/-- `value == tuple(sorted(set(value)))` of texts. -/
def sortedUnique (values : List String) : Bool := decide (values.Pairwise (· < ·))

/-- `_require_normalized_text`, but for the normal form. -/
def isNormalizedText (maximum : Nat) (s : String) : Bool :=
  isExactText s && decide (s.length ≤ maximum) &&
    s.toList.all fun c => decide (32 ≤ c.toNat) && !(decide (127 ≤ c.toNat ∧ c.toNat < 160))

/-- `value.tzinfo != UTC` fails: the offset of UTC. -/
def isUtc (t : DateTime) : Bool := t.tzinfo == .utc || t.tzinfo == .offset 0

theorem isExactText_of_isIdentifier {s : String} (h : isIdentifier s = true) : strip s ≠ "" := by
  rw [isIdentifier, matchesText] at h
  split at h
  · cases h
  · rename_i c rest hs
    simp only [Bool.and_eq_true] at h
    have halnum := isAlphanumeric_iff.mp h.1.1
    refine strip_ne_empty_of_mem (c := c) (by rw [hs]; exact List.mem_cons_self) ?_
    have hrange : c.toNat < 128 ∧ 48 ≤ c.toNat := by omega
    simp [isSpace]
    omega

/-! ### Decisions -/

structure Contradiction where
  evidenceIds : String × String
  summary : String

def Contradiction.check (c : Contradiction) : Bool :=
  decide (c.evidenceIds.1 < c.evidenceIds.2) && isIdentifier c.evidenceIds.1 &&
    isIdentifier c.evidenceIds.2 && isNormalizedText 400 c.summary

structure Falsifier where
  evidenceId : String
  summary : String

def Falsifier.check (f : Falsifier) : Bool :=
  isIdentifier f.evidenceId && isNormalizedText 400 f.summary

/-- The fields of a validator-owned direction or abstention. -/
structure StrategyDecisionFields where
  eventId : String
  securityId : String
  candidateId : String
  cohortId : String
  policySha256 : String
  candidateManifestSha256 : String
  strategySnapshotSha256 : String
  featureReceiptSha256 : String
  reasonerExchangeSha256 : String
  reasonerDecisionSha256 : Option String
  producerBuildSha256 : String
  decisionAt : DateTime
  reasonerDirection : Option Direction
  direction : Direction
  disposition : DecisionDisposition
  reactionRelation : ReactionRelation
  evidenceIds : List String
  contradictions : List Contradiction
  unknowns : List String
  strongestFalsifier : Option Falsifier
  reasonCodes : List String
  summary : Option String

/-- An accepted decision keeps its direction; any other one is uncertain and says why. -/
def StrategyDecisionFields.checkDisposition (d : StrategyDecisionFields) : Bool :=
  (if d.disposition = .accepted then
    d.direction != .uncertain && d.reasonerDirection == some d.direction &&
      d.reactionRelation == .continue && d.reasonCodes == []
  else d.direction == .uncertain && d.reasonCodes != []) &&
  (if d.disposition = .abstained then
    d.reasonerDirection == some .uncertain && d.reactionRelation == .notApplicable
  else true)

/-- `StrategyDecision.__post_init__`. -/
def StrategyDecisionFields.check (d : StrategyDecisionFields) : Bool :=
  [d.eventId, d.securityId, d.candidateId, d.cohortId].all isIdentifier &&
  [d.policySha256, d.candidateManifestSha256, d.strategySnapshotSha256, d.featureReceiptSha256,
    d.reasonerExchangeSha256, d.producerBuildSha256].all (isLowerHex 64) &&
  d.reasonerDecisionSha256.all (isLowerHex 64) && isUtc d.decisionAt &&
  sortedUnique d.evidenceIds && d.evidenceIds.all isIdentifier &&
  sortedUnique d.unknowns && d.unknowns.all isReasonCode &&
  sortedUnique d.reasonCodes && d.reasonCodes.all isReasonCode &&
  d.contradictions.all Contradiction.check && d.strongestFalsifier.all Falsifier.check &&
  decide ((d.contradictions.map (·.evidenceIds)).Pairwise
    fun a b => a.1 < b.1 ∨ a.1 = b.1 ∧ a.2 < b.2) &&
  d.summary.all (isNormalizedText 800) && d.checkDisposition

/-- Validator-owned direction or abstention with no execution authority. -/
structure StrategyDecision extends StrategyDecisionFields where
  accepted : toStrategyDecisionFields.check = true

theorem StrategyDecision.strip_eventId (d : StrategyDecision) : strip d.eventId ≠ "" := by
  have h := d.accepted
  simp only [StrategyDecisionFields.check, Bool.and_eq_true, List.all_cons] at h
  exact isExactText_of_isIdentifier h.1.1.1.1.1.1.1.1.1.1.1.1.1.1.1

/-- `_timestamp_text`: the fraction of a second without its trailing zeros. -/
def timestampText (t : DateTime) : String :=
  let text := (DateTime.utc t.micros).isoformatZ
  if t.micros % 1000000 = 0 then text
  else String.ofList ((text.toList.dropLast.reverse.dropWhile (· == '0')).reverse ++ ['Z'])

def textOrNull : Option String → Json
  | some s => .str s
  | none => .null

def contradictionPayload (c : Contradiction) : Json :=
  .obj [("evidence_ids", .arr [.str c.evidenceIds.1, .str c.evidenceIds.2]),
    ("summary", .str c.summary)]

def falsifierPayload : Option Falsifier → Json
  | none => .null
  | some f => .obj [("evidence_id", .str f.evidenceId), ("summary", .str f.summary)]

/-- The direction-only `esscher.validated_decision/v1` object. -/
def strategyDecisionPayload (d : StrategyDecision) : Json :=
  .obj [
    ("authority", .str "DIRECTION_ONLY"),
    ("candidate_id", .str d.candidateId),
    ("candidate_manifest_sha256", .str d.candidateManifestSha256),
    ("cohort_id", .str d.cohortId),
    ("contradictions", .arr (d.contradictions.map contradictionPayload)),
    ("decision_at", .str (timestampText d.decisionAt)),
    ("direction", .str d.direction.value),
    ("disposition", .str d.disposition.value),
    ("event_id", .str d.eventId),
    ("evidence_ids", .arr (d.evidenceIds.map .str)),
    ("feature_receipt_sha256", .str d.featureReceiptSha256),
    ("policy_sha256", .str d.policySha256),
    ("producer_build_sha256", .str d.producerBuildSha256),
    ("reaction_relation", .str d.reactionRelation.value),
    ("reason_codes", .arr (d.reasonCodes.map .str)),
    ("reasoner_decision_sha256", textOrNull d.reasonerDecisionSha256),
    ("reasoner_direction", textOrNull (d.reasonerDirection.map Direction.value)),
    ("reasoner_exchange_sha256", .str d.reasonerExchangeSha256),
    ("schema", .str "esscher.validated_decision"),
    ("schema_version", .int 1),
    ("security_id", .str d.securityId),
    ("strategy_snapshot_sha256", .str d.strategySnapshotSha256),
    ("strongest_falsifier", falsifierPayload d.strongestFalsifier),
    ("summary", textOrNull d.summary),
    ("unknowns", .arr (d.unknowns.map .str))]

def strategyDecisionBytes (d : StrategyDecision) : List UInt8 :=
  (strategyDecisionPayload d).canonicalBytes

def strategyDecisionSha256 (d : StrategyDecision) : String := Sha256.hexdigest (strategyDecisionBytes d)

example : timestampText (.utc 1767225599500000) = "2025-12-31T23:59:59.5Z" ∧
    timestampText (.utc 1767225599000000) = "2025-12-31T23:59:59Z" := by decide

/-! ### The input of a decision -/

/-- What the permit bridge reads of a joined strategy input and of its snapshot. -/
structure StrategyInput where
  eventId : String
  candidateId : String
  cohortId : String
  policySha256 : String
  candidateEntryDeadlineAt : DateTime
  evidencePacketSha256 : String
  candidateManifestSha256 : String
  snapshotSha256 : String
  featureReceiptSha256 : String
  accepted : isLowerHex 64 evidencePacketSha256 = true ∧ isUtc candidateEntryDeadlineAt = true

end EsscherMarket.Strategy
