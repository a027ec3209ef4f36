import EsscherMarket.Alpha.DirectionReceipts
import EsscherMarket.Autonomy.EpisodicStore

/-!
# Shadow records in the episode tables

`alpha/shadow_ledger.py` records the evaluated events of a shadow run in the tables that
`autonomy/episodes.py` reads, under payloads of its own.
-/

namespace EsscherMarket.Alpha

open Lib Strategy Autonomy.Episodes

/-- `alpha/evaluation.py`: the evaluation of one signal over a price path. -/
structure EventEvaluation where
  eventId : String
  signal : Direction
  entryAt : DateTime
  exitAt : DateTime
  actualLatencyMs : Int
  residualReturn : PyFloat
  signedResidual : PyFloat
  admitted : Bool

/-- What `record_shadow_run` reads of a shadow run. -/
structure ShadowRunResult where
  accepted : Bool
  receipts : List DirectionReceipt
  symbols : String → Option String
  evaluations : String → Option EventEvaluation

/-- The other arguments of `record_shadow_run`. -/
structure ShadowBindings where
  candidateId : String
  policySha256 : String
  evidenceSha256 : String
  featureSha256 : String
  snapshotSha256 : String
  costs : String → Option Decimal

inductive ShadowError where
  | missingEvaluation
  | cutoffViolation
  | keyError
  | valueError
  | invalidOperation
  | ledger (error : LedgerError)
  deriving DecidableEq, Repr

/-- `hashlib.sha256(b"ESSCHER_SHADOW_GENESIS_SUMMARY").hexdigest()`. -/
def shadowGenesisSummarySha : String := Sha256.hexdigest (Json.utf8 "ESSCHER_SHADOW_GENESIS_SUMMARY")

def shadowUnboundDigest : String := Sha256.hexdigest (Json.utf8 "ESSCHER_SHADOW_UNBOUND_ROUTE")

/-- A number rounded to the nearest natural number, half to even. -/
def roundRat (q : ℚ) : Nat :=
  let floor := q.floor.toNat
  let rest := q - floor
  if 1 / 2 < rest ∨ rest = 1 / 2 ∧ floor % 2 = 1 then floor + 1 else floor

/-- `d.quantize(Decimal("0.000000000001"))`: twelve places, in at most 28 digits. -/
def quantize12 : Decimal → Option Decimal
  | .finite negative c e =>
    let c' := if -12 ≤ e then c * 10 ^ (e + 12).toNat else Decimal.roundHalfEven c (-12 - e).toNat
    if Decimal.digitCount c' ≤ Decimal.precision then some (.finite negative c' (-12)) else none
  | .infinite _ => none
  | .nan => some .nan

def theoreticalPnl (evaluation : EventEvaluation) : Option Decimal :=
  match evaluation.signedResidual with
  | .finite negative magnitude _ _ =>
    quantize12 (.finite negative (roundRat (magnitude * 10 ^ 12)) (-12))
  | .nonFinite => none

/-- `(gross - costs).quantize(_QUANTUM)`. -/
def netPnl (gross : Decimal) : Decimal → Option Decimal
  | .infinite _ => none
  | costs => quantize12 (gross.sub costs)

def shadowDecisionPayload (receipt : DirectionReceipt) (evaluation : EventEvaluation) :
    Option Json := do
  let receiptSha256 ← directionReceiptSha256 receipt
  let residualReturn ← evaluation.residualReturn.json
  let signedResidual ← evaluation.signedResidual.json
  return .obj [("schema", .str "esscher.shadow_decision_episode"), ("schema_version", .int 1),
    ("event_id", .str receipt.eventId), ("direction", .str receipt.direction.value),
    ("reason_codes", .arr (receipt.reasonCodes.map .str)),
    ("classification", .arr (receipt.classification.map .str)),
    ("producer_kind", .str receipt.producerKind.value),
    ("decision_receipt_sha256", .str receiptSha256),
    ("theoretical_expression", .obj [("entry_at", .str (iso evaluation.entryAt)),
      ("exit_at", .str (iso evaluation.exitAt)),
      ("actual_latency_ms", .int evaluation.actualLatencyMs),
      ("residual_return", residualReturn), ("signed_residual", signedResidual),
      ("admitted", .bool evaluation.admitted)])]

structure NewRow where
  values : List (String × SqlValue)
  payload : List UInt8

def NewRow.sha256 (row : NewRow) : String := Sha256.hexdigest row.payload

def boundDigest (digest : Option String) : String :=
  if truthyText digest then digest.getD "" else shadowUnboundDigest

def shadowDecisionEpisode (receipt : DirectionReceipt) (evaluation : EventEvaluation)
    (symbol : String) (bindings : ShadowBindings) : Option NewRow := do
  let payload ← shadowDecisionPayload receipt evaluation
  let receiptSha256 ← directionReceiptSha256 receipt
  return ⟨[("episode_id", .text payload.sha256), ("event_id", .text receipt.eventId),
    ("candidate_id", .text bindings.candidateId), ("symbol", .text symbol),
    ("occurred_at", .text (iso evaluation.entryAt)),
    ("decision_cutoff_at", .text (iso receipt.decisionCutoffAt)),
    ("source_policy_sha256", .text bindings.policySha256),
    ("source_evidence_sha256", .text bindings.evidenceSha256),
    ("source_feature_sha256", .text bindings.featureSha256),
    ("source_snapshot_sha256", .text bindings.snapshotSha256),
    ("prior_summary_sha256", .text shadowGenesisSummarySha),
    ("route_sha256", .text (boundDigest receipt.routeSha256)),
    ("prompt_sha256", .text (boundDigest receipt.promptSha256)),
    ("model_config_sha256", .text (boundDigest receipt.modelConfigSha256)),
    ("exchange_sha256", .text shadowUnboundDigest), ("decision_sha256", .text receiptSha256),
    ("disposition", .text (if evaluation.admitted then "SHADOW_ACCEPTED" else "SHADOW_ABSTAINED")),
    ("direction", .text receipt.direction.value), ("created_at", .text (iso receipt.producedAt)),
    ("supersedes_episode_id", .null), ("supersedes_episode_sha256", .null)],
    payload.canonicalBytes⟩

def shadowOutcomeEpisode (decisionEpisodeId : String) (evaluation : EventEvaluation)
    (costs : Decimal) (receipt : DirectionReceipt) : Option NewRow := do
  let gross ← theoreticalPnl evaluation
  let net ← netPnl gross costs
  let payload : Json := .obj [("schema", .str "esscher.shadow_outcome_episode"),
    ("schema_version", .int 1), ("event_id", .str receipt.eventId),
    ("decision_episode_id", .str decisionEpisodeId),
    ("lifecycle_outcome", .str "SHADOW_THEORETICAL_FLAT"),
    ("pnl_classification", .str "SHADOW_THEORETICAL"), ("gross_pnl", .str gross.toText),
    ("net_pnl", .str net.toText), ("costs", .str costs.toText),
    ("terminal_at", .str (iso evaluation.exitAt)), ("final_flat", .bool true),
    ("broker_truth", .bool false), ("classification", .arr (receipt.classification.map .str))]
  return ⟨[("outcome_id", .text payload.sha256), ("decision_episode_id", .text decisionEpisodeId),
    ("event_id", .text receipt.eventId), ("open_permit_id", .null), ("close_permit_id", .null),
    ("open_order_id", .null), ("close_order_id", .null),
    ("terminal_at", .text (iso evaluation.exitAt)), ("observed_at", .text (iso evaluation.exitAt)),
    ("lifecycle_outcome", .text "SHADOW_THEORETICAL_FLAT"),
    ("pnl_classification", .text "SHADOW_THEORETICAL"), ("gross_pnl", .text gross.toText),
    ("net_pnl", .text net.toText), ("reconciliation_sha256", .text payload.sha256),
    ("final_flat", .integer 1), ("supersedes_outcome_id", .null),
    ("supersedes_outcome_sha256", .null), ("created_at", .text (iso evaluation.exitAt))],
    payload.canonicalBytes⟩

def shadowRows (result : ShadowRunResult) (bindings : ShadowBindings) (receipt : DirectionReceipt) :
    Except ShadowError (NewRow × NewRow) := do
  let evaluation ← (result.evaluations receipt.eventId).elim (.error .missingEvaluation) .ok
  let symbol ← (result.symbols receipt.eventId).elim (.error .keyError) .ok
  throwIf (evaluation.entryAt.micros < receipt.decisionCutoffAt.micros) .cutoffViolation
  let decision ← (shadowDecisionEpisode receipt evaluation symbol bindings).elim
    (.error .valueError) .ok
  let outcome ← (shadowOutcomeEpisode decision.sha256 evaluation
    ((bindings.costs receipt.eventId).getD (.ofNat 0)) receipt).elim (.error .invalidOperation) .ok
  return (decision, outcome)

/-- `append_shadow_episode_pair`: what a failed append of the outcome leaves is the decision. -/
def appendShadowEpisodePair (tables : EpisodeTables) (result : ShadowRunResult)
    (bindings : ShadowBindings) (receipt : DirectionReceipt) :
    EpisodeTables × Except ShadowError Bool :=
  match shadowRows result bindings receipt with
  | .error e => (tables, .error e)
  | .ok (decision, outcome) =>
    match appendEpisodeRow decisionKind tables.decisions decision.values decision.payload
        decision.sha256 with
    | .error e => (tables, .error (.ledger e))
    | .ok (appended, decisions) =>
      match appendEpisodeRow outcomeKind tables.outcomes outcome.values outcome.payload
          outcome.sha256 with
      | .error e => ({ tables with decisions }, .error (.ledger e))
      | .ok (_, outcomes) => ({ tables with decisions, outcomes }, .ok appended)

/-- The loop of `record_shadow_run`: the tables after it, and the number of new decisions. -/
def recordReceipts (result : ShadowRunResult) (bindings : ShadowBindings) :
    List DirectionReceipt → EpisodeTables → EpisodeTables × Except ShadowError Nat
  | [], tables => (tables, .ok 0)
  | receipt :: rest, tables =>
    match appendShadowEpisodePair tables result bindings receipt with
    | (tables, .error e) => (tables, .error e)
    | (tables, .ok appended) =>
      let (tables, count) := recordReceipts result bindings rest tables
      (tables, count.map fun n => n + if appended then 1 else 0)

def recordShadowRun (tables : EpisodeTables) (result : ShadowRunResult)
    (bindings : ShadowBindings) : EpisodeTables × Except ShadowError Nat :=
  if result.accepted then recordReceipts result bindings result.receipts tables
  else (tables, .error .missingEvaluation)

/-! ### What the reader of decisions makes of them -/

theorem wellFormed_json {x : PyFloat} {v : Json} (h : x.json = some v) : v.wellFormed = true := by
  cases x with
  | finite negative magnitude repr real =>
    obtain rfl := Option.some_inj.mp h
    exact real
  | nonFinite => cases h

theorem wellFormed_texts (texts : List String) : (Json.arr (texts.map .str)).wellFormed = true := by
  rw [Json.wellFormed_arr]
  intro v hv
  obtain ⟨s, -, rfl⟩ := List.mem_map.mp hv
  rfl

/-- The reader of decisions refuses the payload of a shadow decision: its fields are others. -/
theorem parse_shadowDecision {receipt : DirectionReceipt} {evaluation : EventEvaluation}
    {payload : Json} (h : shadowDecisionPayload receipt evaluation = some payload) :
    parseRecord decisionKind payload.canonicalBytes = none := by
  obtain ⟨receiptSha256, -, h⟩ := Option.bind_eq_some_iff.mp h
  obtain ⟨residualReturn, hresidual, h⟩ := Option.bind_eq_some_iff.mp h
  obtain ⟨signedResidual, hsigned, h⟩ := Option.bind_eq_some_iff.mp h
  obtain rfl := Option.some_inj.mp h
  have hexpression : (Json.obj [("entry_at", .str (iso evaluation.entryAt)),
      ("exit_at", .str (iso evaluation.exitAt)),
      ("actual_latency_ms", .int evaluation.actualLatencyMs),
      ("residual_return", residualReturn), ("signed_residual", signedResidual),
      ("admitted", .bool evaluation.admitted)]).wellFormed = true := by
    refine Json.wellFormed_obj.mpr ⟨(by decide : ["entry_at", "exit_at",
      "actual_latency_ms", "residual_return", "signed_residual", "admitted"].Nodup), ?_⟩
    simp only [List.forall_mem_cons, Json.wellFormed_str, Json.wellFormed_int,
      Json.wellFormed_bool, wellFormed_json hresidual, wellFormed_json hsigned, List.not_mem_nil, false_imp_iff,
      implies_true, and_self]
  have hwell : (Json.obj [("schema", .str "esscher.shadow_decision_episode"),
      ("schema_version", .int 1), ("event_id", .str receipt.eventId),
      ("direction", .str receipt.direction.value),
      ("reason_codes", .arr (receipt.reasonCodes.map .str)),
      ("classification", .arr (receipt.classification.map .str)),
      ("producer_kind", .str receipt.producerKind.value),
      ("decision_receipt_sha256", .str receiptSha256),
      ("theoretical_expression", .obj [("entry_at", .str (iso evaluation.entryAt)),
        ("exit_at", .str (iso evaluation.exitAt)),
        ("actual_latency_ms", .int evaluation.actualLatencyMs),
        ("residual_return", residualReturn), ("signed_residual", signedResidual),
        ("admitted", .bool evaluation.admitted)])]).wellFormed = true := by
    refine Json.wellFormed_obj.mpr ⟨(by decide : ["schema", "schema_version", "event_id",
      "direction", "reason_codes", "classification", "producer_kind", "decision_receipt_sha256",
      "theoretical_expression"].Nodup), ?_⟩
    simp only [List.forall_mem_cons, Json.wellFormed_str, Json.wellFormed_int, wellFormed_texts,
      hexpression, List.not_mem_nil, false_imp_iff, implies_true, and_self]
  have hloads := Json.loadsWith_canonicalBytes hwell .unique
  rw [parseRecord, Json.loadsUnique, hloads, Option.bind_eq_bind, Option.bind_some,
    Json.hasKeys_sorted]
  rfl

/-- A row with such a payload is no stored decision. -/
theorem validatedRow_of_parse {φ : Type} {kind : RecordKind φ} {row : EpisodeRow}
    (h : parseRecord kind row.payload = none) : validatedRow kind row = none := by
  rw [validatedRow, h]
  split <;> rfl

/-- Where a table can be read, each of its rows can. -/
theorem validatedRow_of_stored {φ : Type} {kind : RecordKind φ} {table : EpisodeTable kind}
    {records : List (Record kind)} (h : stored kind table = .ok records) {row : EpisodeRow}
    (hrow : row ∈ table.rows) : validatedRow kind row ≠ none := by
  have hmem : row ∈ episodeRows kind table := (List.mergeSort_perm _ _).mem_iff.mpr hrow
  have hmap := stored_eq_ok.mp h
  clear h hrow
  generalize episodeRows kind table = rows at hmem hmap
  induction rows generalizing records with
  | nil => cases hmem
  | cons first rest ih =>
    rw [List.mapM_cons] at hmap
    obtain ⟨r, hr, hmap⟩ := Option.bind_eq_some_iff.mp hmap
    obtain ⟨more, hmore, -⟩ := Option.bind_eq_some_iff.mp hmap
    rcases List.mem_cons.mp hmem with rfl | hmem
    · rw [hr]
      exact Option.some_ne_none r
    · exact ih hmem hmore

theorem validatedRow_of_build {tables : EpisodeTables} {arguments : SummaryArguments}
    {summary : EpisodicSummary} (h : buildEpisodicSummary tables arguments = .ok summary)
    {row : EpisodeRow} (hrow : row ∈ tables.decisions.rows) :
    validatedRow decisionKind row ≠ none := by
  obtain ⟨candidateIds, hids, h⟩ := except_bind_eq_ok.mp h
  obtain ⟨ds, hds, -⟩ := except_bind_eq_ok.mp h
  exact validatedRow_of_stored hds hrow

/-! ### The rows that a run writes -/

section Rows

variable {tables : EpisodeTables} {result : ShadowRunResult} {bindings : ShadowBindings}
variable {receipt : DirectionReceipt} {evaluation : EventEvaluation}

def FiniteReceipt (receipt : DirectionReceipt) : Prop :=
  ∀ x ∈ [receipt.marketBeta, receipt.sectorBeta, receipt.priceOnlyScore, receipt.fundamentalScore,
    receipt.numericScore], x.isFinite = true

/-- The event of a receipt was evaluated, not before the receipt's cutoff, and all the numbers that
its two rows show are finite; the gross and the net result fit in the context. -/
structure Recordable (result : ShadowRunResult) (bindings : ShadowBindings)
    (receipt : DirectionReceipt) (evaluation : EventEvaluation) : Prop where
  evaluated : result.evaluations receipt.eventId = some evaluation
  symbol : (result.symbols receipt.eventId).isSome
  cutoff : receipt.decisionCutoffAt.micros ≤ evaluation.entryAt.micros
  finite : FiniteReceipt receipt
  residualReturn : evaluation.residualReturn.isFinite = true
  signedResidual : evaluation.signedResidual.isFinite = true
  pnl : ∃ gross net, theoreticalPnl evaluation = some gross ∧
    netPnl gross ((bindings.costs receipt.eventId).getD (.ofNat 0)) = some net

theorem json_of_isFinite {x : PyFloat} (h : x.isFinite = true) : ∃ v, x.json = some v := by
  cases x with
  | finite negative magnitude repr real => exact ⟨.real repr, rfl⟩
  | nonFinite => cases h

theorem isFinite_of_json {x : PyFloat} {v : Json} (h : x.json = some v) : x.isFinite = true := by
  cases x with
  | finite negative magnitude repr real => rfl
  | nonFinite => cases h

theorem directionReceiptSha256_isSome :
    (∃ digest, directionReceiptSha256 receipt = some digest) ↔ FiniteReceipt receipt := by
  constructor
  · rintro ⟨digest, h⟩
    obtain ⟨payload, h, -⟩ := Option.map_eq_some_iff.mp h
    obtain ⟨_, h₁, h⟩ := Option.bind_eq_some_iff.mp h
    obtain ⟨_, h₂, h⟩ := Option.bind_eq_some_iff.mp h
    obtain ⟨_, h₃, h⟩ := Option.bind_eq_some_iff.mp h
    obtain ⟨_, h₄, h⟩ := Option.bind_eq_some_iff.mp h
    obtain ⟨_, h₅, -⟩ := Option.bind_eq_some_iff.mp h
    simp only [FiniteReceipt, List.forall_mem_cons, isFinite_of_json h₁, isFinite_of_json h₂,
      isFinite_of_json h₃, isFinite_of_json h₄, isFinite_of_json h₅, List.not_mem_nil,
      false_imp_iff, implies_true, and_self]
  · intro h
    simp only [FiniteReceipt, List.forall_mem_cons, List.not_mem_nil, false_imp_iff, implies_true,
      and_true] at h
    obtain ⟨h₁, h₂, h₃, h₄, h₅⟩ := h
    obtain ⟨_, h₁⟩ := json_of_isFinite h₁
    obtain ⟨_, h₂⟩ := json_of_isFinite h₂
    obtain ⟨_, h₃⟩ := json_of_isFinite h₃
    obtain ⟨_, h₄⟩ := json_of_isFinite h₄
    obtain ⟨_, h₅⟩ := json_of_isFinite h₅
    rw [directionReceiptSha256, directionReceiptPayload, h₁, h₂, h₃, h₄, h₅]
    exact ⟨_, rfl⟩

theorem shadowDecisionPayload_eq_some (hfinite : FiniteReceipt receipt)
    (hreturn : evaluation.residualReturn.isFinite = true)
    (hsigned : evaluation.signedResidual.isFinite = true) :
    ∃ payload, shadowDecisionPayload receipt evaluation = some payload := by
  obtain ⟨digest, hdigest⟩ := directionReceiptSha256_isSome.mpr hfinite
  obtain ⟨_, hreturn⟩ := json_of_isFinite hreturn
  obtain ⟨_, hsigned⟩ := json_of_isFinite hsigned
  rw [shadowDecisionPayload, hdigest, hreturn, hsigned]
  exact ⟨_, rfl⟩

theorem Recordable.rows (h : Recordable result bindings receipt evaluation) {payload : Json}
    (hpayload : shadowDecisionPayload receipt evaluation = some payload) :
    ∃ decision outcome, shadowRows result bindings receipt = .ok (decision, outcome) ∧
      decision.payload = payload.canonicalBytes ∧
      (EpisodeRow.mk decision.values decision.sha256 decision.payload).column
        decisionKind.identityColumn = some (.text payload.sha256) ∧
      decision.values.map Prod.fst = decisionKind.fields.filter
        (fun name => name != "schema" && name != "schema_version") := by
  obtain ⟨symbol, hsymbol⟩ := Option.isSome_iff_exists.mp h.symbol
  obtain ⟨digest, hdigest⟩ := directionReceiptSha256_isSome.mpr h.finite
  obtain ⟨gross, net, hgross, hnet⟩ := h.pnl
  have hcutoff : ¬ evaluation.entryAt.micros < receipt.decisionCutoffAt.micros :=
    not_lt.mpr h.cutoff
  have hdecision : ∃ decision, shadowDecisionEpisode receipt evaluation symbol bindings =
      some decision ∧ decision.payload = payload.canonicalBytes ∧
      (EpisodeRow.mk decision.values decision.sha256 decision.payload).column
        decisionKind.identityColumn = some (.text payload.sha256) ∧
      decision.values.map Prod.fst = decisionKind.fields.filter
        (fun name => name != "schema" && name != "schema_version") := by
    rw [shadowDecisionEpisode, hpayload, hdigest]
    exact ⟨_, rfl, rfl, rfl, rfl⟩
  obtain ⟨decision, hdecision, hbytes, hid, hcolumns⟩ := hdecision
  have houtcome : ∃ outcome, shadowOutcomeEpisode decision.sha256 evaluation
      ((bindings.costs receipt.eventId).getD (.ofNat 0)) receipt = some outcome := by
    rw [shadowOutcomeEpisode, hgross]
    simp only [Option.bind_eq_bind, Option.bind_some, hnet]
    exact ⟨_, rfl⟩
  obtain ⟨outcome, houtcome⟩ := houtcome
  refine ⟨decision, outcome, ?_, hbytes, hid, hcolumns⟩
  rw [shadowRows, h.evaluated, hsymbol]
  refine except_bind_eq_ok.mpr ⟨evaluation, rfl, except_bind_eq_ok.mpr ⟨symbol, rfl, ?_⟩⟩
  refine except_bind_eq_ok.mpr ⟨(), throwIf_eq_ok.mpr hcutoff, ?_⟩
  refine except_bind_eq_ok.mpr ⟨decision, by rw [hdecision]; rfl, ?_⟩
  exact except_bind_eq_ok.mpr ⟨outcome, by rw [houtcome]; rfl, rfl⟩

/-- A receipt whose rows can be made is recordable. -/
theorem recordable_of_rows {rows : NewRow × NewRow}
    (h : shadowRows result bindings receipt = .ok rows) :
    ∃ evaluation, Recordable result bindings receipt evaluation := by
  have elim {α β : Type} {x : Option α} {e : β} {a : α}
      (h : x.elim (.error e) (.ok : α → Except β α) = .ok a) : x = some a := by
    cases x with
    | none => cases h
    | some b => exact congrArg some (Except.ok.inj h)
  obtain ⟨evaluation, hevaluation, h⟩ := except_bind_eq_ok.mp h
  obtain ⟨symbol, hsymbol, h⟩ := except_bind_eq_ok.mp h
  obtain ⟨_, hcutoff, h⟩ := except_bind_eq_ok.mp h
  obtain ⟨decision, hdecision, h⟩ := except_bind_eq_ok.mp h
  obtain ⟨outcome, houtcome, -⟩ := except_bind_eq_ok.mp h
  obtain ⟨payload, hpayload, hrest⟩ := Option.bind_eq_some_iff.mp (elim hdecision)
  obtain ⟨digest, hdigest, -⟩ := Option.bind_eq_some_iff.mp hrest
  obtain ⟨gross, hgross, houtcome⟩ := Option.bind_eq_some_iff.mp (elim houtcome)
  obtain ⟨net, hnet, -⟩ := Option.bind_eq_some_iff.mp houtcome
  obtain ⟨_, -, hpayload⟩ := Option.bind_eq_some_iff.mp hpayload
  obtain ⟨_, hreturn, hpayload⟩ := Option.bind_eq_some_iff.mp hpayload
  obtain ⟨_, hsigned, -⟩ := Option.bind_eq_some_iff.mp hpayload
  have hcutoff := throwIf_eq_ok.mp hcutoff
  exact ⟨evaluation, elim hevaluation, by rw [elim hsymbol]; rfl, not_lt.mp hcutoff,
    directionReceiptSha256_isSome.mp ⟨digest, hdigest⟩, isFinite_of_json hreturn,
    isFinite_of_json hsigned, gross, net, hgross, hnet⟩

end Rows

/-! ### Appended rows -/

section Append

variable {φ : Type} {kind : RecordKind φ} {table : EpisodeTable kind}
variable {values : List (String × SqlValue)} {payload : List UInt8} {digest : String}

theorem rows_subset_of_append {appended : Bool} {after : EpisodeTable kind}
    (h : appendEpisodeRow kind table values payload digest = .ok (appended, after)) :
    table.rows ⊆ after.rows := by
  unfold appendEpisodeRow at h
  dsimp only at h
  split at h
  · cases h
  · split at h
    · split at h
      · split at h
        · cases h
          exact List.Subset.refl _
        · cases h
      · cases h
        exact List.subset_append_left _ _
    · cases h

/-- The row that an append would write. -/
theorem append_cases {columns : List String}
    (hcolumns : columns = kind.fields.filter
      (fun name => name != "schema" && name != "schema_version"))
    (hvalues : values.map Prod.fst = columns) {identity : String}
    (hid : (EpisodeRow.mk values digest payload).column kind.identityColumn =
      some (.text identity)) :
    (∃ existing ∈ table.rows, EpisodeRow.identity kind existing = identity ∧
      (appendEpisodeRow kind table values payload digest =
          .error (.immutableEpisodeConflict identity) ∨
        existing.payload = payload)) ∨
    (∀ row ∈ table.rows, EpisodeRow.identity kind row ≠ identity) ∧
      ∃ after, appendEpisodeRow kind table values payload digest = .ok (true, after) ∧
        ⟨values, digest, payload⟩ ∈ after.rows := by
  have hsame : (columns.all (values.map Prod.fst).contains &&
      (values.map Prod.fst).all columns.contains) = true := by
    rw [hvalues, Bool.and_eq_true, List.all_eq_true]
    refine ⟨?_, ?_⟩
    · intro name hname
      exact List.contains_iff_mem.mpr hname
    · intro name hname
      exact List.contains_iff_mem.mpr hname
  have hidentity : EpisodeRow.identity kind ⟨values, digest, payload⟩ = identity := by
    obtain ⟨⟨name, value⟩, hfind, hvalue⟩ := Option.map_eq_some_iff.mp hid
    obtain rfl : value = .text identity := hvalue
    rw [EpisodeRow.identity, textIn, hfind]
  subst hcolumns
  unfold appendEpisodeRow
  dsimp only
  rw [hsame, Bool.not_true, if_neg Bool.false_ne_true, hid]
  dsimp only
  split
  · rename_i existing hfind
    refine Or.inl ⟨existing, List.mem_of_find?_eq_some hfind, ?_, ?_⟩
    · have hfound := List.find?_some hfind
      rw [beq_iff_eq, hidentity] at hfound
      exact hfound
    · split
      · rename_i hequal
        exact Or.inr hequal.2
      · exact Or.inl rfl
  · rename_i hfind
    refine Or.inr ⟨?_, _, rfl, List.mem_append_right _ (List.mem_singleton_self _)⟩
    intro row hrow
    have hne := List.find?_eq_none.mp hfind row hrow
    rw [beq_iff_eq, hidentity] at hne
    exact hne

end Append

section Runs

variable {tables : EpisodeTables} {result : ShadowRunResult} {bindings : ShadowBindings}

/-- The loop never takes a decision away. -/
theorem decisions_subset_of_pair (receipt : DirectionReceipt) :
    tables.decisions.rows ⊆
      (appendShadowEpisodePair tables result bindings receipt).1.decisions.rows := by
  unfold appendShadowEpisodePair
  split
  · exact List.Subset.refl _
  · split
    · exact List.Subset.refl _
    · rename_i happend
      split
      · exact rows_subset_of_append happend
      · exact rows_subset_of_append happend

theorem decisions_subset_of_receipts (receipts : List DirectionReceipt) (tables : EpisodeTables) :
    tables.decisions.rows ⊆ (recordReceipts result bindings receipts tables).1.decisions.rows := by
  induction receipts generalizing tables with
  | nil => exact List.Subset.refl _
  | cons receipt rest ih =>
    have hpair : tables.decisions.rows ⊆
        (appendShadowEpisodePair tables result bindings receipt).1.decisions.rows :=
      decisions_subset_of_pair receipt
    rw [recordReceipts]
    split
    · rename_i after e heq
      rw [heq] at hpair
      exact hpair
    · rename_i after appended heq
      rw [heq] at hpair
      exact List.Subset.trans hpair (ih after)

/-- The first receipt of a run can be recorded, and no decision has the digest of its payload for
its identity. -/
def WritesDecision (tables : EpisodeTables) (result : ShadowRunResult)
    (bindings : ShadowBindings) : Prop :=
  ∃ receipt rest evaluation payload, result.receipts = receipt :: rest ∧
    Recordable result bindings receipt evaluation ∧
    shadowDecisionPayload receipt evaluation = some payload ∧
    ∀ row ∈ tables.decisions.rows, EpisodeRow.identity decisionKind row ≠ payload.sha256

/-- A run whose first receipt is not written leaves the tables as they are. -/
theorem recordReceipts_of_error {receipt : DirectionReceipt} {rest : List DirectionReceipt}
    {e : ShadowError}
    (h : appendShadowEpisodePair tables result bindings receipt = (tables, .error e)) :
    (recordReceipts result bindings (receipt :: rest) tables).1 = tables := by
  rw [recordReceipts, h]

/-- Where the first receipt is written there is no summary afterwards: its row stays, and no summary
reads it. -/
theorem no_summary_of_writes {arguments : SummaryArguments} {summary : EpisodicSummary}
    (hwrites : WritesDecision tables result bindings) :
    buildEpisodicSummary (recordReceipts result bindings result.receipts tables).1 arguments ≠
      .ok summary := by
  obtain ⟨receipt, rest, evaluation, payload, hreceipts, hrecordable, hpayload, hfresh⟩ := hwrites
  intro hafter
  obtain ⟨decision, outcome, hrows, hbytes, hid, hcolumns⟩ := hrecordable.rows hpayload
  rcases append_cases rfl hcolumns hid with ⟨existing, hmem, hexisting, -⟩ | ⟨-, after, happend, hrow⟩
  · exact hfresh existing hmem hexisting
  · have hfirst : (appendShadowEpisodePair tables result bindings receipt).1.decisions =
        after := by
      rw [appendShadowEpisodePair, hrows]
      dsimp only
      rw [happend]
      dsimp only
      split <;> rfl
    have hstays : (EpisodeRow.mk decision.values decision.sha256 decision.payload) ∈
        (recordReceipts result bindings result.receipts tables).1.decisions.rows := by
      rw [hreceipts, recordReceipts]
      split
      · rename_i tables' e heq
        rw [heq] at hfirst
        rw [← hfirst] at hrow
        exact hrow
      · rename_i tables' appended heq
        rw [heq] at hfirst
        rw [← hfirst] at hrow
        exact decisions_subset_of_receipts rest tables' hrow
    refine validatedRow_of_build hafter hstays (validatedRow_of_parse ?_)
    change parseRecord decisionKind decision.payload = none
    rw [hbytes]
    exact parse_shadowDecision hpayload

end Runs

/-- The draft of a summary of a ledger without episodes. -/
def quietSummary : EpisodicSummary where
  asOf := halfPast.asOf
  policySha256 := halfPast.policySha256
  modelConfigSha256 := halfPast.modelConfigSha256
  candidateIds := []
  limit := 16
  rows := []
  completedCount := 0
  realizedCount := 0
  netPnl := canonicalDecimal (.ofNat 0)
  routeFailureCount := 0
  reconciliationFailureCount := 0
  candidateFilterExcludedCount := 0
  latestBrokerTruthSnapshotId := none
  latestBrokerTruthSnapshotSha256 := none
  summarySha256 := String.ofList (List.replicate 64 '0')

theorem build_noEpisodes : ∃ summary, buildEpisodicSummary noEpisodes halfPast = .ok summary := by
  have hids : candidateIdTuple [] = .ok [] := by
    rw [candidateIdTuple, List.mergeSort_nil]
    rfl
  have harguments : checkArguments halfPast = .ok [] := by
    have hclock : isClock halfPast.asOf = true := by decide
    have hhashes : [halfPast.policySha256, halfPast.modelConfigSha256].all (isLowerHex 64) =
        true := by decide
    simp only [checkArguments, except_bind_eq_ok, throwIf_eq_ok, not_not, hclock, hhashes]
    exact ⟨(), trivial, (), trivial, [], hids, (), by decide, rfl⟩
  have hbuild := @build_of_stored noEpisodes halfPast [] [] [] (stored_empty _) (stored_empty _)
    (stored_empty _)
  simp only [List.filter_nil, harguments] at hbuild
  have hordered : ([] : List DecisionEpisode).mergeSort (newestFirst
      (fun d : DecisionEpisode => d.fields.occurredAt) (fun d => d.fields.episodeId)) = [] :=
    List.mergeSort_nil
  have hdraft : draftSummary halfPast [] [] [] [] = quietSummary := by
    simp only [draftSummary, effectiveRecords, List.filter_nil, List.isEmpty_nil, if_true,
      hordered, List.map_nil, List.take_nil]
    rfl
  have hvalid : quietSummary.validate = .ok () := by
    have hclock : isClock quietSummary.asOf = true := by decide
    have hhashes : [quietSummary.policySha256, quietSummary.modelConfigSha256].all
        (isLowerHex 64) = true := by decide
    have hpnl : isDecimalText quietSummary.netPnl = true := by decide
    have hsorted : quietSummary.rows.mergeSort (newestFirst (·.occurredAt) (·.episodeId)) =
        quietSummary.rows := List.mergeSort_nil
    simp only [EpisodicSummary.validate, except_bind_eq_ok, throwIf_eq_ok, not_not]
    exact ⟨(), hclock, (), hhashes, [], hids, (), rfl, (), by decide, (), by decide, (),
      List.nodup_nil, (), hsorted, (), rfl, (), hpnl, (), by decide, (), rfl, (), rfl, rfl⟩
  have hsigned : ∃ summary, (draftSummary halfPast [] [] [] []).signed = .ok summary := by
    rw [hdraft]
    exact ⟨_, except_bind_eq_ok.mpr ⟨(), hvalid, rfl⟩⟩
  obtain ⟨summary, hsigned⟩ := hsigned
  exact ⟨summary, hbuild.trans (except_bind_eq_ok.mpr ⟨[], rfl, hsigned⟩)⟩

def zeroFloat : PyFloat := .finite false 0 "0.0" (by decide)

def newYearReceipt : DirectionReceipt where
  eventId := "event-1"
  candidateId := "candidate-1"
  direction := .up
  reasonCodes := []
  decisionCutoffAt := .utc 1767225600000000
  latestEvidenceAt := .utc 1767225600000000
  featureSnapshotAt := .utc 1767225600000000
  marketBeta := zeroFloat
  sectorBeta := zeroFloat
  priceOnlyScore := zeroFloat
  fundamentalScore := zeroFloat
  numericScore := zeroFloat
  producerKind := .synthetic
  routeSha256 := none
  promptSha256 := none
  modelConfigSha256 := none
  classification := ["NOT_ALPHA_EVIDENCE"]
  producedAt := .utc 1767225600000000
  decisionArtifactSha256 := String.ofList (List.replicate 64 'a')
  limitations := []
  accepted := by decide

/-- Its event, entered a second after the cutoff and closed flat. -/
def newYearEvaluation : EventEvaluation :=
  ⟨"event-1", .up, .utc 1767225601000000, .utc 1767227400000000, 0, zeroFloat, zeroFloat, true⟩

def quietBindings : ShadowBindings :=
  let digest := String.ofList (List.replicate 64 'a')
  ⟨"candidate-1", digest, digest, digest, digest, fun _ => none⟩

def newYearRun (receipts : List DirectionReceipt) : ShadowRunResult :=
  ⟨true, receipts, fun _ => some "SPY", fun _ => some newYearEvaluation⟩

theorem newYearReceipt_recordable :
    Recordable (newYearRun [newYearReceipt]) quietBindings newYearReceipt newYearEvaluation where
  evaluated := rfl
  symbol := rfl
  cutoff := by decide
  finite := by
    intro x hx
    simp only [List.mem_cons, List.not_mem_nil, or_false] at hx
    rcases hx with rfl | rfl | rfl | rfl | rfl <;> rfl
  residualReturn := rfl
  signedResidual := rfl
  pnl := ⟨.finite false 0 (-12), .finite false 0 (-12), by decide +kernel, by decide +kernel⟩

end EsscherMarket.Alpha
