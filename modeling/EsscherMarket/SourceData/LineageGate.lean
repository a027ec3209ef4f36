import EsscherMarket.Contracts.TickerIdentity

/-!
# The lineage gate

`sourcedata/lineage_gate.py`: the resolution of one event under the packaged policy and source
matrix, and its receipt.
-/

namespace EsscherMarket.SourceData

open Lib Contracts

inductive GateReason where
  | lineageMissing
  | lineageConflict
  | symbolReuseDetected
  | optionAdjustmentConflict
  | optionAdjustmentUnresolved
  | lineageDrift
  deriving DecidableEq, Repr

def mapLineageError : LineageReason → GateReason
  | .lineageMissing => .lineageMissing
  | .lineageConflict => .lineageConflict
  | .symbolReuseDetected => .symbolReuseDetected
  | .optionAdjustmentConflict => .optionAdjustmentConflict
  | .optionAdjustmentUnresolved => .optionAdjustmentUnresolved
  | _ => .lineageDrift

/-- How the gate ends without a report: it rejects, for a resolution with the day of the split, or
the parser's `ValueError` leaves it. -/
inductive GateFailure where
  | rejected (reason : GateReason) (exDate : Option Int)
  | valueError
  deriving DecidableEq, Repr

structure LineageGateReport where
  securityLineageSha256 : String
  resolution : LineageResolution

/-- The packaged resources and their frozen digests. -/
structure Packaged where
  policyBytes : List UInt8
  acceptedPolicySha256 : String
  matrixBytes : List UInt8
  matrixSha256 : String
  lineageBytes : List UInt8
  lineageSha256 : String

def loadSecurityLineage (f : Json.FloatRepr) (p : Packaged) :
    Except LineageFailure SecurityLineage := do
  throwIf (Sha256.hexdigest p.lineageBytes ≠ p.lineageSha256) (.rejected .digestMismatch)
  parseSecurityLineage f p.lineageBytes

def verifyUpstream (lineage : SecurityLineage) (policyBytes matrixBytes : List UInt8) :
    Except LineageReason Unit := do
  throwIf (Sha256.hexdigest policyBytes ≠ lineage.policySha256) .upstreamContractDrift
  throwIf (Sha256.hexdigest matrixBytes ≠ lineage.sourceMatrixSha256) .upstreamContractDrift

def gateFailure : LineageFailure → GateFailure
  | .rejected reason => .rejected (mapLineageError reason) none
  | .valueError => .valueError

def evaluateParsed (lineage : SecurityLineage) (eventId : String)
    (policyBytes matrixBytes : List UInt8) : Except GateFailure LineageGateReport := do
  (verifyUpstream lineage policyBytes matrixBytes).mapError fun reason =>
    .rejected (mapLineageError reason) none
  let resolution ← (resolveLineage lineage.toLineageFields eventId).mapError fun e =>
    .rejected (mapLineageError e.reason) e.exDate
  throwIf (resolution.activeAtCutoff = false) (.rejected .lineageMissing none)
  return ⟨lineage.sha256, resolution⟩

def evaluateLineage (f : Json.FloatRepr) (p : Packaged) (eventId : String)
    (lineageBytes matrixBytes : Option (List UInt8)) : Except GateFailure LineageGateReport := do
  throwIf (Sha256.hexdigest p.policyBytes ≠ p.acceptedPolicySha256) (.rejected .lineageDrift none)
  let selected := matrixBytes.getD p.matrixBytes
  throwIf (Sha256.hexdigest selected ≠ p.matrixSha256) (.rejected .lineageDrift none)
  let lineage ← (match lineageBytes with
    | none => loadSecurityLineage f p
    | some raw => parseSecurityLineage f raw).mapError gateFailure
  evaluateParsed lineage eventId p.policyBytes selected

/-! ### The receipt -/

/-- Texts between commas, as `json.dumps` separates them. -/
def joinSpaced : List (List UInt8) → List UInt8
  | [] => []
  | [t] => t
  | t :: u :: rest => t ++ Json.utf8 ", " ++ joinSpaced (u :: rest)

def spacedField (key : String) (value : List UInt8) : List UInt8 :=
  Json.renderString key ++ Json.utf8 ": " ++ value

def spacedTexts (texts : List String) : List UInt8 :=
  91 :: (joinSpaced (texts.map Json.renderString) ++ [93])

def sortedIds (actions : List ActionRecord) : List String :=
  (actions.map (·.actionId)).mergeSort fun a b => decide (a ≤ b)

/-- `lineage_receipt_bytes`; every text of a parsed lineage that it names is ASCII. -/
def lineageReceiptBytes (r : LineageResolution) : List UInt8 :=
  123 :: (joinSpaced [
    spacedField "action_ids" (spacedTexts (sortedIds r.actions)),
    spacedField "active_at_cutoff" (Json.utf8 (if r.activeAtCutoff then "true" else "false")),
    spacedField "event_id" (Json.renderString r.eventId),
    spacedField "issuer_id" (Json.renderString r.issuerId),
    spacedField "listing_id" (Json.renderString r.listingId),
    spacedField "option_adjustment_ids" (spacedTexts (sortedIds r.optionAdjustments)),
    spacedField "schema" (Json.renderString "esscher.lineage_receipt"),
    spacedField "schema_version" (Json.utf8 "1"),
    spacedField "security_id" (Json.renderString r.securityId),
    spacedField "ticker_at_cutoff" (Json.renderString r.tickerAtCutoff)] ++ [125])

def receiptOf (result : Except GateFailure LineageGateReport) : Except GateFailure (List UInt8) :=
  result.map fun report => lineageReceiptBytes report.resolution

/-! ### Two lineages with different futures -/

/-- The lineages agree but for actions after the day of the event's chain. -/
structure AgreeUpTo (eventId : String) (l l' : LineageFields) : Prop where
  rest : { l with actions := [] } = { l' with actions := [] }
  past : ∀ chain ∈ l.chains, chain.eventId = eventId →
    (l.actions.filter fun a => decide (a.exDate ≤ chain.cutoffDate)) =
      l'.actions.filter fun a => decide (a.exDate ≤ chain.cutoffDate)

/-- The futures make no difference for the event: the same actions, or the same day of the first
split without an option adjustment. -/
def SameFuture (eventId : String) (l l' : LineageFields) : Prop :=
  ∀ chain, (l.chains.find? fun c => c.eventId == eventId) = some chain →
    match pendingSplit chain (l.actionsForIssuer chain.issuerId),
        pendingSplit chain (l'.actionsForIssuer chain.issuerId) with
    | none, none => l.actionsForIssuer chain.issuerId = l'.actionsForIssuer chain.issuerId
    | some split, some split' => split.exDate = split'.exDate
    | _, _ => False

section Futures

variable {eventId : String} {l l' : LineageFields}

theorem AgreeUpTo.chains (h : AgreeUpTo eventId l l') : l.chains = l'.chains := by
  have hchains := congrArg LineageFields.chains h.rest
  exact hchains

theorem AgreeUpTo.listings (h : AgreeUpTo eventId l l') : l.listings = l'.listings := by
  have hlistings := congrArg LineageFields.listings h.rest
  exact hlistings

/-- The resolutions are the same exactly where the futures make no difference. -/
theorem resolveLineage_eq_iff (h : AgreeUpTo eventId l l') :
    resolveLineage l eventId = resolveLineage l' eventId ↔ SameFuture eventId l l' := by
  rw [resolveLineage, resolveLineage, ← h.chains, SameFuture]
  cases hchain : l.chains.find? fun c => c.eventId == eventId with
  | none => simp
  | some chain =>
    simp only [Option.some_inj, forall_eq']
    rw [resolveChain, resolveChain, ← h.listings]
    cases pendingSplit chain (l.actionsForIssuer chain.issuerId) with
    | none =>
      cases pendingSplit chain (l'.actionsForIssuer chain.issuerId) with
      | none =>
        constructor
        · intro heq
          exact congrArg LineageResolution.actions (Except.ok.inj heq)
        · intro heq
          dsimp only at heq ⊢
          rw [heq]
      | some split' => simp
    | some split =>
      cases pendingSplit chain (l'.actionsForIssuer chain.issuerId) with
      | none => simp
      | some split' => simp

/-- The receipt of the gate depends on the resolution and on the bound digests only. -/
theorem receiptOf_evaluateParsed {lineage lineage' : SecurityLineage}
    (hpolicy : lineage.policySha256 = lineage'.policySha256)
    (hmatrix : lineage.sourceMatrixSha256 = lineage'.sourceMatrixSha256)
    (hresolution : resolveLineage lineage.toLineageFields eventId =
      resolveLineage lineage'.toLineageFields eventId) (policyBytes matrixBytes : List UInt8) :
    receiptOf (evaluateParsed lineage eventId policyBytes matrixBytes) =
      receiptOf (evaluateParsed lineage' eventId policyBytes matrixBytes) := by
  rw [evaluateParsed, evaluateParsed, verifyUpstream, verifyUpstream, hpolicy, hmatrix, hresolution]
  cases hupstream : (do
      throwIf (Sha256.hexdigest policyBytes ≠ lineage'.policySha256)
        LineageReason.upstreamContractDrift
      throwIf (Sha256.hexdigest matrixBytes ≠ lineage'.sourceMatrixSha256)
        LineageReason.upstreamContractDrift) with
  | error e => rfl
  | ok u =>
    cases resolveLineage lineage'.toLineageFields eventId with
    | error e => rfl
    | ok resolution =>
      by_cases hactive : resolution.activeAtCutoff = false
      · simp only [except_mapError_ok, bind, Except.bind, throwIf, hactive, if_true, receiptOf,
          Except.map]
      · simp only [except_mapError_ok, bind, Except.bind, throwIf, hactive, receiptOf,
          Except.map, if_neg Bool.true_eq_false.mp]
        rfl

end Futures

/-- Two lineages that agree up to the event's day give the same resolution exactly where their
futures make no difference. -/
theorem lineageGate_iff {lineage lineage' : SecurityLineage} {eventId : String}
    (h : AgreeUpTo eventId lineage.toLineageFields lineage'.toLineageFields) :
    (resolveLineage lineage.toLineageFields eventId =
        resolveLineage lineage'.toLineageFields eventId ∧
      ∀ f raw raw', parseSecurityLineage f raw = .ok lineage →
        parseSecurityLineage f raw' = .ok lineage' → ∀ p matrixBytes,
        receiptOf (evaluateLineage f p eventId (some raw) matrixBytes) =
          receiptOf (evaluateLineage f p eventId (some raw') matrixBytes)) ↔
      SameFuture eventId lineage.toLineageFields lineage'.toLineageFields := by
  rw [← resolveLineage_eq_iff h]
  refine ⟨fun hsame => hsame.1, fun hsame => ⟨hsame, ?_⟩⟩
  intro f raw raw' hraw hraw' p matrixBytes
  have hpolicy := congrArg LineageFields.policySha256 h.rest
  have hmatrix := congrArg LineageFields.sourceMatrixSha256 h.rest
  have hparsed := receiptOf_evaluateParsed hpolicy hmatrix hsame p.policyBytes
    (matrixBytes.getD p.matrixBytes)
  rw [evaluateLineage, evaluateLineage]
  simp only [hraw, hraw', except_mapError_ok]
  rcases throwIf (Sha256.hexdigest p.policyBytes ≠ p.acceptedPolicySha256)
    (GateFailure.rejected .lineageDrift none) with e | u
  · rfl
  · rcases throwIf (Sha256.hexdigest (matrixBytes.getD p.matrixBytes) ≠ p.matrixSha256)
      (GateFailure.rejected .lineageDrift none) with e | u
    · rfl
    · exact hparsed

/-! ### A split of the following month -/

/-- A split one month after the day of the chain, without an option adjustment. -/
def laterSplit : PyJson :=
  objectOf [("action_id", textOf "SPLIT_A"), ("issuer_id", textOf "0000000001"),
    ("action_type", textOf "SPLIT"), ("ex_date", textOf "2026-02-02"), ("ratio_numerator", .int 2),
    ("ratio_denominator", .int 1), ("symbol_from", .null), ("symbol_to", .null),
    ("successor_issuer_id", .null), ("memo_id", .null), ("provenance", sampleProvenance)]

def beforeSplit : PyJson :=
  sampleLineage true [sampleIssuer "0000000001" "SEC_A"] []

def afterSplit : PyJson :=
  sampleLineage true [sampleIssuer "0000000001" "SEC_A"] [laterSplit]

/-- Two lineages agree up to the chain's day, and only the first of them resolves. -/
def splitDecides (x y : Except LineageReason LineageFields) : Bool :=
  match x, y with
  | .ok l, .ok l' => decide ({ l with actions := [] } = { l' with actions := [] } ∧
      (∀ chain ∈ l.chains, chain.eventId = "EVENT_A" →
        (l.actions.filter fun a => decide (a.exDate ≤ chain.cutoffDate)) =
          l'.actions.filter fun a => decide (a.exDate ≤ chain.cutoffDate)) ∧
      (resolveLineage l "EVENT_A").isOk = true ∧ (resolveLineage l' "EVENT_A").isOk = false)
  | _, _ => false

/-- The two documents are accepted and agree up to the chain's day, and only one of them resolves. -/
theorem laterSplit_accepted : ∃ l l', parseDocument literalRepr beforeSplit = .ok l ∧
    parseDocument literalRepr afterSplit = .ok l' ∧ AgreeUpTo "EVENT_A" l l' ∧
    resolveLineage l "EVENT_A" ≠ resolveLineage l' "EVENT_A" := by
  have hdecide : splitDecides (parseDocument literalRepr beforeSplit)
      (parseDocument literalRepr afterSplit) = true := by
    decide +kernel
  rcases hl : parseDocument literalRepr beforeSplit with e | l
  · rw [hl] at hdecide
    cases hdecide
  · rcases hl' : parseDocument literalRepr afterSplit with e | l'
    · rw [hl, hl'] at hdecide
      cases hdecide
    · rw [hl, hl'] at hdecide
      obtain ⟨hrest, hpast, hresolved, hrefused⟩ := of_decide_eq_true hdecide
      refine ⟨l, l', rfl, rfl, ⟨hrest, hpast⟩, ?_⟩
      intro heq
      rw [heq, hrefused] at hresolved
      cases hresolved

theorem lineageGate_laterSplit : ∃ l l', parseDocument literalRepr beforeSplit = .ok l ∧
    parseDocument literalRepr afterSplit = .ok l' ∧
    ((resolveLineage l "EVENT_A" = resolveLineage l' "EVENT_A" ∧
      ∀ f raw raw', parseSecurityLineage f raw = .ok ⟨l, ""⟩ →
        parseSecurityLineage f raw' = .ok ⟨l', ""⟩ → ∀ p matrixBytes,
        receiptOf (evaluateLineage f p "EVENT_A" (some raw) matrixBytes) =
          receiptOf (evaluateLineage f p "EVENT_A" (some raw') matrixBytes)) ↔
      SameFuture "EVENT_A" l l') := by
  obtain ⟨l, l', hl, hl', hagree, -⟩ := laterSplit_accepted
  exact ⟨l, l', hl, hl', @lineageGate_iff ⟨l, ""⟩ ⟨l', ""⟩ "EVENT_A" hagree⟩

/-- A split after the event's day refuses the event. -/
theorem later_split_refuses_event :
    ¬∀ (f : Json.FloatRepr) (doc doc' : PyJson) (l l' : LineageFields) (eventId : String),
      parseDocument f doc = .ok l → parseDocument f doc' = .ok l' → AgreeUpTo eventId l l' →
      resolveLineage l eventId = resolveLineage l' eventId := by
  intro h
  obtain ⟨l, l', hl, hl', hagree, hne⟩ := laterSplit_accepted
  exact hne (h _ _ _ _ _ _ hl hl' hagree)

end EsscherMarket.SourceData
