import Mathlib.Data.List.Sort
import EsscherMarket.Autonomy.Episodes
import EsscherMarket.Lib.Txn

/-!
# Summaries of episodic memory

`build_episodic_summary` of `autonomy/episodes.py`: what a decision may know of the decisions before
it.
-/

namespace EsscherMarket.Autonomy.Episodes

open Lib Strategy

/-! ### Rows of a summary -/

inductive Compatibility where
  | compatible
  | policyMismatch
  | modelConfigMismatch
  | policyAndModelMismatch
  deriving DecidableEq, Repr

def Compatibility.value : Compatibility → String
  | compatible => "COMPATIBLE"
  | policyMismatch => "POLICY_MISMATCH"
  | modelConfigMismatch => "MODEL_CONFIG_MISMATCH"
  | policyAndModelMismatch => "POLICY_AND_MODEL_MISMATCH"

inductive UnavailableReason where
  | noOutcome
  | outcomeAfterCutoff
  | outcomeObservedAfterCutoff
  | outcomeCreatedAfterCutoff
  | outcomeOpen
  | outcomePartial
  | outcomeManualRequired
  | routeFailure
  | reconciliationFailure
  | outcomeCanceledUnverified
  | outcomeBrokerNotFlat
  | outcomeLinkMismatch
  | incompatible (compatibility : Compatibility)
  deriving DecidableEq, Repr

def UnavailableReason.value : UnavailableReason → String
  | noOutcome => "NO_OUTCOME"
  | outcomeAfterCutoff => "OUTCOME_AFTER_CUTOFF"
  | outcomeObservedAfterCutoff => "OUTCOME_OBSERVED_AFTER_CUTOFF"
  | outcomeCreatedAfterCutoff => "OUTCOME_CREATED_AFTER_CUTOFF"
  | outcomeOpen => "OUTCOME_OPEN"
  | outcomePartial => "OUTCOME_PARTIAL"
  | outcomeManualRequired => "OUTCOME_MANUAL_REQUIRED"
  | routeFailure => "ROUTE_FAILURE"
  | reconciliationFailure => "RECONCILIATION_FAILURE"
  | outcomeCanceledUnverified => "OUTCOME_CANCELED_UNVERIFIED"
  | outcomeBrokerNotFlat => "OUTCOME_BROKER_NOT_FLAT"
  | outcomeLinkMismatch => "OUTCOME_LINK_MISMATCH"
  | incompatible c => c.value

/-- A bounded view of one prior decision and its outcome. -/
structure EpisodicSummaryRow where
  episodeId : String
  episodeSha256 : String
  eventId : String
  candidateId : String
  symbol : String
  occurredAt : DateTime
  decisionCutoffAt : DateTime
  sourcePolicySha256 : String
  modelConfigSha256 : String
  decisionSha256 : String
  disposition : DecisionDisposition
  direction : Direction
  compatibility : Compatibility
  outcomeId : Option String
  lifecycleOutcome : Option LifecycleOutcome
  pnlClassification : Option PnlClassification
  grossPnl : Option String
  netPnl : Option String
  outcomeUnavailableReason : Option UnavailableReason
  deriving DecidableEq, Repr

def EpisodicSummaryRow.checkOutcome (row : EpisodicSummaryRow) : Bool :=
  if row.compatibility ≠ .compatible then
    row.outcomeUnavailableReason == some (.incompatible row.compatibility) &&
      row.outcomeId.isNone && row.lifecycleOutcome.isNone && row.pnlClassification.isNone &&
      row.grossPnl.isNone && row.netPnl.isNone
  else match row.outcomeUnavailableReason with
    | some _ => row.grossPnl.isNone && row.netPnl.isNone
    | none => row.outcomeId.isSome && match row.lifecycleOutcome with
      | some .closed => row.pnlClassification == some .realized && row.grossPnl.isSome &&
          row.netPnl.isSome
      | some .canceled => row.pnlClassification == some .notApplicable && row.grossPnl.isNone &&
          row.netPnl.isNone
      | _ => false

/-- What `_summary_row_payload` demands. -/
def EpisodicSummaryRow.check (row : EpisodicSummaryRow) : Bool :=
  [row.episodeId, row.eventId, row.candidateId].all Strategy.isIdentifier && isSymbol row.symbol &&
  [row.episodeSha256, row.sourcePolicySha256, row.modelConfigSha256, row.decisionSha256].all
    (isLowerHex 64) &&
  row.outcomeId.all Strategy.isIdentifier && row.grossPnl.all isDecimalText && row.netPnl.all isDecimalText &&
  [row.occurredAt, row.decisionCutoffAt].all isClock &&
  decide (row.occurredAt.micros ≤ row.decisionCutoffAt.micros) &&
  ((row.disposition == .accepted) == (row.direction != .uncertain)) && row.checkOutcome

def EpisodicSummaryRow.payload (row : EpisodicSummaryRow) : Json :=
  .obj [("episode_id", .str row.episodeId), ("episode_sha256", .str row.episodeSha256),
    ("event_id", .str row.eventId), ("candidate_id", .str row.candidateId),
    ("symbol", .str row.symbol), ("occurred_at", .str row.occurredAt.isoformatZ),
    ("decision_cutoff_at", .str row.decisionCutoffAt.isoformatZ),
    ("source_policy_sha256", .str row.sourcePolicySha256),
    ("model_config_sha256", .str row.modelConfigSha256),
    ("decision_sha256", .str row.decisionSha256), ("disposition", .str row.disposition.value),
    ("direction", .str row.direction.value), ("compatibility", .str row.compatibility.value),
    ("outcome_id", textOrNull row.outcomeId),
    ("lifecycle_outcome", textOrNull (row.lifecycleOutcome.map LifecycleOutcome.value)),
    ("pnl_classification", textOrNull (row.pnlClassification.map PnlClassification.value)),
    ("gross_pnl", textOrNull row.grossPnl), ("net_pnl", textOrNull row.netPnl),
    ("outcome_unavailable_reason",
      textOrNull (row.outcomeUnavailableReason.map UnavailableReason.value))]

def compatibilityOf (d : DecisionFields) (policySha256 modelConfigSha256 : String) :
    Compatibility :=
  if d.sourcePolicySha256 ≠ policySha256 then
    if d.modelConfigSha256 ≠ modelConfigSha256 then .policyAndModelMismatch else .policyMismatch
  else if d.modelConfigSha256 ≠ modelConfigSha256 then .modelConfigMismatch
  else .compatible

/-- A pair that is compared as Python compares tuples. -/
def TupleKey (α β : Type) : Type := α ×ₗ β

instance {α β : Type} [LinearOrder α] [LinearOrder β] : LinearOrder (TupleKey α β) :=
  inferInstanceAs (LinearOrder (α ×ₗ β))

def tupleKey {α β : Type} (a : α) (b : β) : TupleKey α β := toLex (a, b)

def latestOutcomeForDecision (outcomes : List OutcomeEpisode) (decision : DecisionEpisode) :
    Option OutcomeEpisode :=
  (outcomes.filter fun o => o.fields.decisionEpisodeId == decision.fields.episodeId).argmax fun o =>
    tupleKey o.fields.terminalAt.micros (tupleKey o.fields.observedAt.micros
      (tupleKey o.fields.createdAt.micros o.fields.outcomeId))

def flatSnapshotAfter (snapshots : List BrokerTruthSnapshot) (terminalAt : DateTime) : Bool :=
  snapshots.any fun s => s.fields.isFlat && decide (terminalAt.micros ≤ s.fields.observedAt.micros)

def summaryRow (decision : DecisionEpisode) (compatibility : Compatibility)
    (outcome : Option OutcomeFields) (reason : Option UnavailableReason) : EpisodicSummaryRow :=
  let d := decision.fields
  { episodeId := d.episodeId
    episodeSha256 := recordSha256 decisionKind decision
    eventId := d.eventId
    candidateId := d.candidateId
    symbol := d.symbol
    occurredAt := d.occurredAt
    decisionCutoffAt := d.decisionCutoffAt
    sourcePolicySha256 := d.sourcePolicySha256
    modelConfigSha256 := d.modelConfigSha256
    decisionSha256 := d.decisionSha256
    disposition := d.disposition
    direction := d.direction
    compatibility := compatibility
    outcomeId := outcome.map (·.outcomeId)
    lifecycleOutcome := outcome.map (·.lifecycleOutcome)
    pnlClassification := outcome.map (·.pnlClassification)
    grossPnl := if reason.isNone then outcome.bind (·.grossPnl) else none
    netPnl := if reason.isNone then outcome.bind (·.netPnl) else none
    outcomeUnavailableReason := reason }

/-- Why the latest outcome of a compatible decision is not shown. -/
def outcomeReason (d : DecisionFields) (o : OutcomeFields) (asOf : DateTime)
    (snapshots : List BrokerTruthSnapshot) : Option UnavailableReason :=
  if o.eventId ≠ d.eventId then some .outcomeLinkMismatch
  else match o.lifecycleOutcome with
    | .routeFailed => some .routeFailure
    | .reconciliationFailed => some .reconciliationFailure
    | .stillOpen => some .outcomeOpen
    | .partlyFilled => some .outcomePartial
    | .manualRequired => some .outcomeManualRequired
    | terminal =>
      if asOf.micros ≤ o.terminalAt.micros then some .outcomeAfterCutoff
      else if asOf.micros < o.observedAt.micros then some .outcomeObservedAfterCutoff
      else if asOf.micros < o.createdAt.micros then some .outcomeCreatedAfterCutoff
      else if flatSnapshotAfter snapshots o.terminalAt then none
      else if terminal = .canceled then some .outcomeCanceledUnverified
      else some .outcomeBrokerNotFlat

def summaryRowForDecision (asOf : DateTime) (policySha256 modelConfigSha256 : String)
    (outcomes : List OutcomeEpisode) (snapshots : List BrokerTruthSnapshot)
    (decision : DecisionEpisode) : EpisodicSummaryRow :=
  let compatibility := compatibilityOf decision.fields policySha256 modelConfigSha256
  if compatibility ≠ .compatible then
    summaryRow decision compatibility none (some (.incompatible compatibility))
  else match latestOutcomeForDecision outcomes decision with
    | none => summaryRow decision compatibility none (some .noOutcome)
    | some outcome => summaryRow decision compatibility (some outcome.fields)
        (outcomeReason decision.fields outcome.fields asOf snapshots)

/-! ### The summary -/

/-- The arguments of `build_episodic_summary`. -/
structure SummaryArguments where
  asOf : DateTime
  policySha256 : String
  modelConfigSha256 : String
  candidateIds : List String
  limit : Int

structure EpisodicSummary where
  asOf : DateTime
  policySha256 : String
  modelConfigSha256 : String
  candidateIds : List String
  limit : Int
  rows : List EpisodicSummaryRow
  completedCount : Nat
  realizedCount : Nat
  netPnl : String
  routeFailureCount : Nat
  reconciliationFailureCount : Nat
  candidateFilterExcludedCount : Nat
  latestBrokerTruthSnapshotId : Option String
  latestBrokerTruthSnapshotSha256 : Option String
  summarySha256 : String

def canonicalDecimal (d : Decimal) : String :=
  let text := d.expand.fixedText.toList
  let result := if text.contains '.' then
      ((text.reverse.dropWhile (· == '0')).dropWhile (· == '.')).reverse
    else text
  if result = "-0".toList then "0" else String.ofList result

structure SummaryTotals where
  completed : Nat
  realized : Nat
  netPnl : String
  routeFailures : Nat
  reconciliationFailures : Nat

def summaryTotals (rows : List EpisodicSummaryRow) : SummaryTotals :=
  let completed := rows.filter fun row => row.outcomeUnavailableReason.isNone
  let realized := completed.filter fun row => row.lifecycleOutcome == some .closed
  let amounts := realized.filterMap fun row => row.netPnl.bind Decimal.parse
  { completed := completed.length
    realized := realized.length
    netPnl := canonicalDecimal (amounts.foldl Decimal.add (.ofNat 0))
    routeFailures := rows.countP fun row => row.outcomeUnavailableReason == some .routeFailure
    reconciliationFailures := rows.countP fun row =>
      row.outcomeUnavailableReason == some .reconciliationFailure }

def newestFirst {α : Type} (occurredAt : α → DateTime) (episodeId : α → String) (a b : α) : Bool :=
  decide (toLex ((occurredAt b).micros, episodeId b) ≤ toLex ((occurredAt a).micros, episodeId a))

def candidateIdTuple (ids : List String) : Except EpisodicReason (List String) := do
  throwIf (¬ids.all Strategy.isIdentifier) .invalidId
  throwIf (¬ids.Nodup) .invalidState
  return ids.mergeSort fun a b => decide (a ≤ b)

/-- `_summary_unsigned_payload`: what a summary must satisfy. -/
def EpisodicSummary.validate (s : EpisodicSummary) : Except EpisodicReason Unit := do
  throwIf (¬isClock s.asOf) .invalidClock
  throwIf (¬[s.policySha256, s.modelConfigSha256].all (isLowerHex 64)) .invalidHash
  let ids ← candidateIdTuple s.candidateIds
  throwIf (ids ≠ s.candidateIds) .nonCanonicalDocument
  throwIf (¬(1 ≤ s.limit ∧ s.limit ≤ 64)) .invalidState
  throwIf (s.limit < s.rows.length) .invalidState
  throwIf (¬(s.rows.map (·.episodeId)).Nodup) .invalidState
  throwIf (s.rows.mergeSort (newestFirst (·.occurredAt) (·.episodeId)) ≠ s.rows)
    .nonCanonicalDocument
  throwIf (¬s.rows.all EpisodicSummaryRow.check) .invalidState
  let totals := summaryTotals s.rows
  throwIf (¬isDecimalText s.netPnl) .invalidDecimal
  throwIf (s.completedCount < totals.completed ∨ s.realizedCount < totals.realized ∨
    s.completedCount < s.realizedCount ∨ s.routeFailureCount < totals.routeFailures ∨
    s.reconciliationFailureCount < totals.reconciliationFailures) .summarySemanticMismatch
  throwIf (¬s.latestBrokerTruthSnapshotId.all Strategy.isIdentifier) .invalidId
  throwIf (¬s.latestBrokerTruthSnapshotSha256.all (isLowerHex 64)) .invalidHash
  throwIf (s.latestBrokerTruthSnapshotId.isSome ≠ s.latestBrokerTruthSnapshotSha256.isSome)
    .invalidState

def EpisodicSummary.unsignedPayload (s : EpisodicSummary) : Json :=
  .obj [("schema", .str "esscher.episodic_summary"), ("schema_version", .int 1),
    ("as_of", .str s.asOf.isoformatZ), ("policy_sha256", .str s.policySha256),
    ("model_config_sha256", .str s.modelConfigSha256),
    ("candidate_ids", .arr (s.candidateIds.map .str)), ("limit", .int s.limit),
    ("rows", .arr (s.rows.map EpisodicSummaryRow.payload)),
    ("completed_count", .int s.completedCount), ("realized_count", .int s.realizedCount),
    ("net_pnl", .str s.netPnl), ("route_failure_count", .int s.routeFailureCount),
    ("reconciliation_failure_count", .int s.reconciliationFailureCount),
    ("candidate_filter_excluded_count", .int s.candidateFilterExcludedCount),
    ("latest_broker_truth_snapshot_id", textOrNull s.latestBrokerTruthSnapshotId),
    ("latest_broker_truth_snapshot_sha256", textOrNull s.latestBrokerTruthSnapshotSha256)]

/-- `_effective_records`: the records that no other one supersedes. -/
def effectiveRecords {α : Type} (identity : α → String) (supersedes : α → Option String)
    (records : List α) : List α :=
  records.filter fun r => !records.any fun s => supersedes s == some (identity r)

def availableDecision (asOf : DateTime) (d : DecisionEpisode) : Bool :=
  decide (d.fields.occurredAt.micros < asOf.micros) && decide (d.fields.createdAt.micros ≤ asOf.micros)

def availableOutcome (asOf : DateTime) (o : OutcomeEpisode) : Bool :=
  decide (o.fields.terminalAt.micros < asOf.micros) && decide (o.fields.observedAt.micros ≤ asOf.micros) &&
    decide (o.fields.createdAt.micros ≤ asOf.micros)

def availableSnapshot (asOf : DateTime) (s : BrokerTruthSnapshot) : Bool :=
  decide (s.fields.observedAt.micros ≤ asOf.micros) && decide (s.fields.createdAt.micros ≤ asOf.micros)

/-- The summary of the available records, before its own identity is known. -/
def draftSummary (arguments : SummaryArguments) (candidateIds : List String)
    (availableDecisions : List DecisionEpisode) (availableOutcomes : List OutcomeEpisode)
    (availableSnapshots : List BrokerTruthSnapshot) : EpisodicSummary :=
  let effective := effectiveRecords (fun d : DecisionEpisode => d.fields.episodeId)
    (fun d => d.fields.supersedesEpisodeId) availableDecisions
  let decisions := if candidateIds.isEmpty then effective
    else effective.filter fun d => candidateIds.contains d.fields.candidateId
  let ordered := decisions.mergeSort
    (newestFirst (fun d : DecisionEpisode => d.fields.occurredAt) (fun d => d.fields.episodeId))
  let outcomes := effectiveRecords (fun o : OutcomeEpisode => o.fields.outcomeId)
    (fun o => o.fields.supersedesOutcomeId) availableOutcomes
  let snapshots := effectiveRecords (fun s : BrokerTruthSnapshot => s.fields.snapshotId)
    (fun s => s.fields.supersedesSnapshotId) availableSnapshots
  let allRows := ordered.map (summaryRowForDecision arguments.asOf arguments.policySha256
    arguments.modelConfigSha256 outcomes snapshots)
  let totals := summaryTotals allRows
  let latest := snapshots.argmax fun s : BrokerTruthSnapshot =>
    tupleKey s.fields.observedAt.micros s.fields.snapshotId
  { asOf := arguments.asOf
    policySha256 := arguments.policySha256
    modelConfigSha256 := arguments.modelConfigSha256
    candidateIds := candidateIds
    limit := arguments.limit
    rows := allRows.take arguments.limit.toNat
    completedCount := totals.completed
    realizedCount := totals.realized
    netPnl := totals.netPnl
    routeFailureCount := totals.routeFailures
    reconciliationFailureCount := totals.reconciliationFailures
    candidateFilterExcludedCount := if candidateIds.isEmpty then 0
      else effective.countP fun d => !candidateIds.contains d.fields.candidateId
    latestBrokerTruthSnapshotId := latest.map (·.fields.snapshotId)
    latestBrokerTruthSnapshotSha256 := latest.map (recordSha256 snapshotKind)
    summarySha256 := String.ofList (List.replicate 64 '0') }

def EpisodicSummary.signed (draft : EpisodicSummary) : Except EpisodicReason EpisodicSummary := do
  draft.validate
  return { draft with summarySha256 := draft.unsignedPayload.sha256 }

def checkArguments (arguments : SummaryArguments) : Except EpisodicReason (List String) := do
  throwIf (¬isClock arguments.asOf) .invalidClock
  throwIf (¬[arguments.policySha256, arguments.modelConfigSha256].all (isLowerHex 64)) .invalidHash
  let candidateIds ← candidateIdTuple arguments.candidateIds
  throwIf (¬(1 ≤ arguments.limit ∧ arguments.limit ≤ 64)) .invalidState
  return candidateIds

def buildEpisodicSummary (tables : EpisodeTables) (arguments : SummaryArguments) :
    Except EpisodicReason EpisodicSummary := do
  let candidateIds ← checkArguments arguments
  let decisions ← stored decisionKind tables.decisions
  let outcomes ← stored outcomeKind tables.outcomes
  let snapshots ← stored snapshotKind tables.snapshots
  (draftSummary arguments candidateIds
    (decisions.filter (availableDecision arguments.asOf))
    (outcomes.filter (availableOutcome arguments.asOf))
    (snapshots.filter (availableSnapshot arguments.asOf))).signed

/-! ### The order of the stored records -/

theorem exists_of_mem_mapM {α β : Type} {f : α → Option β} {as : List α} {bs : List β} {b : β}
    (h : as.mapM f = some bs) (hb : b ∈ bs) : ∃ a ∈ as, f a = some b := by
  induction as generalizing bs with
  | nil =>
    obtain rfl := Option.some_inj.mp h
    cases hb
  | cons a rest ih =>
    rw [List.mapM_cons] at h
    obtain ⟨first, hfirst, h⟩ := Option.bind_eq_some_iff.mp h
    obtain ⟨more, hmore, h⟩ := Option.bind_eq_some_iff.mp h
    obtain rfl := Option.some_inj.mp h
    rcases List.mem_cons.mp hb with rfl | hb
    · exact ⟨a, List.mem_cons_self, hfirst⟩
    · obtain ⟨a', ha', hab⟩ := ih hmore hb
      exact ⟨a', List.mem_cons_of_mem _ ha', hab⟩

/-- Reading items one by one keeps a relation that each pair of readings keeps. -/
theorem pairwise_mapM {α β : Type} {f : α → Option β} {R : α → α → Prop} {S : β → β → Prop}
    {as : List α} {bs : List β} (h : as.mapM f = some bs)
    (hRS : ∀ a a' b b', f a = some b → f a' = some b' → R a a' → S b b') (hR : as.Pairwise R) :
    bs.Pairwise S := by
  induction as generalizing bs with
  | nil =>
    obtain rfl := Option.some_inj.mp h
    exact .nil
  | cons a rest ih =>
    rw [List.mapM_cons] at h
    obtain ⟨b, hb, h⟩ := Option.bind_eq_some_iff.mp h
    obtain ⟨more, hmore, h⟩ := Option.bind_eq_some_iff.mp h
    obtain rfl := Option.some_inj.mp h
    obtain ⟨hfirst, hrest⟩ := List.pairwise_cons.mp hR
    refine List.pairwise_cons.mpr ⟨?_, ih hmore hrest⟩
    intro b' hb'
    obtain ⟨a', ha', hab'⟩ := exists_of_mem_mapM hmore hb'
    exact hRS a a' b b' hb hab' (hfirst a' ha')

section Order

variable {φ : Type} (kind : RecordKind φ)

/-- The key columns of a kind are texts of its payload, and the identity is one of them. -/
structure OrderedKind : Prop where
  columns : ∀ r : φ, ∀ name ∈ kind.orderBy, ∃ s,
    (valuesOf (kind.payload r)).find? (fun c => c.1 == name) = some (name, .text s)
  identity : kind.identityColumn ∈ kind.orderBy

def recordKey (r : Record kind) : List String :=
  kind.orderBy.map (textIn (valuesOf (kind.payload r.fields)))

variable {kind}

theorem textIn_row (hkind : OrderedKind kind) {row : EpisodeRow} {r : Record kind}
    (h : validatedRow kind row = some r) {name : String} (hname : name ∈ kind.orderBy) :
    textIn row.columns name = textIn (valuesOf (kind.payload r.fields)) name := by
  obtain ⟨s, hs⟩ := hkind.columns r.fields name hname
  have hmem := List.mem_of_find?_eq_some hs
  have hcolumn : row.column name = some (.text s) := by
    rw [validatedRow] at h
    split at h
    · obtain ⟨record, -, h⟩ := Option.bind_eq_some_iff.mp h
      split at h
      · rename_i hall
        obtain rfl := Option.some_inj.mp h
        exact beq_iff_eq.mp (List.all_eq_true.mp hall _ hmem)
      · cases h
    · cases h
  rw [EpisodeRow.column, Option.map_eq_some_iff] at hcolumn
  obtain ⟨⟨found, value⟩, hfind, rfl⟩ := hcolumn
  rw [textIn, textIn, hfind, hs]

theorem sortKey_row (hkind : OrderedKind kind) {row : EpisodeRow} {r : Record kind}
    (h : validatedRow kind row = some r) : EpisodeRow.sortKey kind row = recordKey kind r :=
  List.map_congr_left fun _ hname => textIn_row hkind h hname

theorem episodeRows_sorted (hkind : OrderedKind kind) (table : EpisodeTable kind) :
    (episodeRows kind table).Pairwise fun a b =>
      EpisodeRow.sortKey kind a < EpisodeRow.sortKey kind b := by
  have hle : (episodeRows kind table).Pairwise fun a b =>
      EpisodeRow.sortKey kind a ≤ EpisodeRow.sortKey kind b := by
    have h : (episodeRows kind table).Pairwise fun a b =>
        decide (EpisodeRow.sortKey kind a ≤ EpisodeRow.sortKey kind b) = true := by
      refine List.pairwise_mergeSort ?_ ?_ table.rows
      · intro a b c hab hbc
        exact decide_eq_true (le_trans (of_decide_eq_true hab) (of_decide_eq_true hbc))
      · intro a b
        rcases le_total (EpisodeRow.sortKey kind a) (EpisodeRow.sortKey kind b) with h | h
        · rw [decide_eq_true h, Bool.true_or]
        · rw [decide_eq_true h, Bool.or_true]
    exact h.imp of_decide_eq_true
  have hdistinct : (episodeRows kind table).Pairwise fun a b =>
      EpisodeRow.identity kind a ≠ EpisodeRow.identity kind b := by
    have hperm := (List.mergeSort_perm table.rows fun a b =>
      decide (EpisodeRow.sortKey kind a ≤ EpisodeRow.sortKey kind b)).map (EpisodeRow.identity kind)
    exact List.pairwise_map.mp (hperm.nodup_iff.mpr table.unique)
  refine (hle.and hdistinct).imp ?_
  rintro a b ⟨hab, hne⟩
  refine lt_of_le_of_ne hab fun heq => hne ?_
  exact List.map_inj_left.mp heq _ hkind.identity

theorem stored_eq_ok {table : EpisodeTable kind} {records : List (Record kind)} :
    stored kind table = .ok records ↔
      (episodeRows kind table).mapM (validatedRow kind) = some records := by
  rw [stored]
  cases (episodeRows kind table).mapM (validatedRow kind) with
  | some found => exact ⟨fun h => congrArg some (Except.ok.inj h), fun h => congrArg Except.ok
      (Option.some_inj.mp h)⟩
  | none =>
    constructor
    · intro h
      cases h
    · intro h
      cases h

theorem stored_sorted (hkind : OrderedKind kind) {table : EpisodeTable kind}
    {records : List (Record kind)} (h : stored kind table = .ok records) :
    records.Pairwise fun r s => recordKey kind r < recordKey kind s := by
  refine pairwise_mapM (stored_eq_ok.mp h) ?_ (episodeRows_sorted hkind table)
  intro a b r s hr hs hab
  rw [← sortKey_row hkind hr, ← sortKey_row hkind hs]
  exact hab

end Order

end EsscherMarket.Autonomy.Episodes
