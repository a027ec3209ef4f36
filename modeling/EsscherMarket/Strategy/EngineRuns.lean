import Mathlib.Data.List.Sort
import EsscherMarket.Strategy.Engine

/-!
# Sequences of decision passes

* `passes_bounded`: while the route returns and its failed or late answers can be read, it is
  invoked at most once for each key and none of those passes accepts a direction.
-/

namespace EsscherMarket.Strategy.Engine

open Lib

/-! ### What the artifacts carry -/

/-- What an accepted joined input says of its fields. -/
structure StrategyInput.Facts (input : StrategyInput) : Prop where
  identifiers : [input.snapshot.eventId, input.snapshot.candidateId, input.snapshot.cohortId,
    input.snapshot.securityId].all isIdentifier = true
  registered : reasonerPolicyHashRegistry.any (fun row => row.1 == input.snapshot.candidateId) = true
  digests : [input.snapshot.policySha256, input.snapshot.evidencePacketSha256].all
    (isLowerHex 64) = true
  cutoffUtc : isUtc input.snapshot.decisionCutoffAt = true
  eligibilityCodes : input.snapshot.eligibilityReasonCodes.all isReasonCode = true
  healthCodes : input.snapshot.healthReasonCodes.all isReasonCode = true
  receiptUtc : isUtc input.featureReceipt.createdAt = true
  bindings : [input.candidateManifestSha256, input.snapshotSha256,
    input.featureReceiptSha256].all (isLowerHex 64) = true

theorem StrategyInput.facts (input : StrategyInput) : input.Facts := by
  have h := input.accepted
  simp only [StrategySnapshot.check, Bool.and_eq_true] at h
  obtain ⟨⟨⟨⟨⟨⟨⟨⟨⟨⟨hid, hreg⟩, hdig⟩, hcut⟩, helig⟩, hhealth⟩, -⟩, -⟩, hrec⟩, -⟩, hbind⟩ := h
  exact ⟨hid, hreg, hdig, hcut, helig, hhealth, hrec, hbind⟩

theorem isAware_of_isUtc {t : DateTime} (h : isUtc t = true) : t.isAware = true := by
  rw [isUtc, Bool.or_eq_true, beq_iff_eq, beq_iff_eq] at h
  rcases h with h | h <;> rw [DateTime.isAware, h] <;> decide

/-- What an accepted exchange says of its clocks and its error code. -/
structure ExchangeFacts (x : ReasonerExchange) : Prop where
  createdUtc : isUtc x.createdAt = true
  respondedUtc : x.respondedAt.all isUtc = true
  errorCode : x.status ≠ .completed → ∃ code, x.errorCode = some code ∧ isReasonCode code = true

theorem exchangeFacts (x : ReasonerExchange) : ExchangeFacts x := by
  have h := x.accepted
  simp only [ReasonerExchangeFields.check, Bool.and_eq_true, List.all_cons] at h
  obtain ⟨⟨⟨⟨⟨⟨-, hclocks⟩, hresponded⟩, -⟩, -⟩, -⟩, hstatus⟩ := h
  refine ⟨hclocks.2.2.1, hresponded, ?_⟩
  intro hne
  rw [ReasonerExchangeFields.checkStatus, if_neg hne] at hstatus
  cases hcode : x.errorCode with
  | none => rw [hcode] at hstatus; cases hstatus
  | some code => rw [hcode] at hstatus; exact ⟨code, rfl, hstatus⟩

/-! ### Reasons -/

theorem sortedUnique_sortedCodes (codes : List String) : sortedUnique (sortedCodes codes) = true := by
  have hle : (sortedCodes codes).Pairwise (· ≤ ·) := List.pairwise_mergeSort' (· ≤ ·) codes.dedup
  have hdistinct : (sortedCodes codes).Nodup :=
    (List.mergeSort_perm _ _).nodup_iff.mpr (List.nodup_dedup codes)
  rw [sortedUnique, decide_eq_true_eq]
  exact (hle.and hdistinct).imp fun {a b} h => lt_of_le_of_ne h.1 h.2

theorem mem_sortedCodes {codes : List String} {code : String} :
    code ∈ sortedCodes codes ↔ code ∈ codes := by
  rw [sortedCodes, (List.mergeSort_perm _ _).mem_iff, List.mem_dedup]

theorem mem_codesIf {condition : Bool} {codes : List String} {code : String} :
    code ∈ codesIf condition codes ↔ condition = true ∧ code ∈ codes := by
  rw [codesIf]
  split
  · rename_i h
    rw [h, eq_self_iff_true, true_and]
  · rename_i h
    exact ⟨fun hmem => absurd hmem List.not_mem_nil, fun hmem => absurd hmem.1 h⟩

theorem exchangeReasons_codes {input : StrategyInput} {x : ReasonerExchange}
    {errorCode : Option String} {reasons : List String}
    (h : exchangeReasons input x errorCode = .ok reasons)
    (hcode : errorCode.all isReasonCode = true) : ∀ code ∈ reasons, isReasonCode code = true := by
  have hinput := input.facts
  rw [exchangeReasons] at h
  simp only [except_bind_eq_ok, except_pure_eq_ok] at h
  obtain ⟨policyReasons, hpolicy, rfl⟩ := h
  rw [reasonerExchangePolicyReasons] at hpolicy
  simp only [except_bind_eq_ok, except_pure_eq_ok] at hpolicy
  obtain ⟨-, -, -, -, rfl⟩ := hpolicy
  intro code hmem
  simp only [List.mem_append, mem_codesIf, List.mem_cons, List.not_mem_nil, or_false,
    Option.mem_toList] at hmem
  have helig := List.all_eq_true.mp hinput.eligibilityCodes code
  have hhealth := List.all_eq_true.mp hinput.healthCodes code
  rcases hmem with ((((⟨-, rfl | h⟩ | ⟨-, rfl | h⟩) | ⟨-, rfl⟩) | h) | ⟨hne, h⟩) | h
  · decide
  · exact helig h
  · decide
  · exact hhealth h
  · decide
  · have hcodes : code ∈ ["REASONER_POLICY_MISMATCH", "REASONER_MODEL_CONFIG_MISMATCH",
        "CLOCK_MISMATCH", "LATE_RESPONSE"] := by
      simp only [List.mem_cons, List.not_mem_nil, or_false]
      tauto
    revert hcodes
    simp only [List.mem_cons, List.not_mem_nil, or_false]
    rintro (rfl | rfl | rfl | rfl) <;> decide
  · rw [bne_iff_ne] at hne
    obtain ⟨code', heq, hcode'⟩ := (exchangeFacts x).errorCode hne
    rcases h with rfl | h
    · cases x.status <;> decide
    · rw [heq, Option.some_inj] at h
      rw [← h]
      exact hcode'
  · rw [h] at hcode
    exact hcode

theorem answerReasons_codes (input : StrategyInput) (d : ReasonerDecision) :
    ∀ code ∈ answerReasons input d, isReasonCode code = true := by
  intro code hmem
  have hcodes : code ∈ ["UNSUPPORTED_CITATION", "UNSUPPORTED_UNKNOWN_CODE", "MATERIAL_UNKNOWN",
      "REASONER_UNCERTAIN", "MISSING_PRIMARY_CITATION", "MISSING_MARKET_CITATION",
      "MISSING_FALSIFIER", "CONFIRMATION_OPPOSED", "CONFIRMATION_NEUTRAL"] := by
    rw [answerReasons] at hmem
    split at hmem <;>
      simp only [List.mem_append, mem_codesIf, List.mem_cons, List.not_mem_nil, or_false] at hmem ⊢ <;>
      tauto
  have hall : ["UNSUPPORTED_CITATION", "UNSUPPORTED_UNKNOWN_CODE", "MATERIAL_UNKNOWN",
      "REASONER_UNCERTAIN", "MISSING_PRIMARY_CITATION", "MISSING_MARKET_CITATION",
      "MISSING_FALSIFIER", "CONFIRMATION_OPPOSED", "CONFIRMATION_NEUTRAL"].all
      isReasonCode = true := by
    decide
  exact List.all_eq_true.mp hall code hcodes

/-! ### The validator -/

/-- A direction without a reason against it is confirmed. -/
theorem relation_of_no_reasons {input : StrategyInput} {d : ReasonerDecision}
    (hdirection : d.decision ≠ .uncertain) (h : answerReasons input d = []) :
    reactionRelation input d.decision = .continue := by
  rw [answerReasons, if_neg hdirection] at h
  simp only [List.append_eq_nil_iff, codesIf, ite_eq_right_iff, List.cons_ne_nil, imp_false,
    Bool.not_eq_true, beq_eq_false_iff_ne, ne_eq] at h
  obtain ⟨-, ⟨-, hreverse⟩, hnone⟩ := h
  rw [reactionRelation, if_neg hdirection] at hreverse hnone ⊢
  cases hfeature : numericFeature input (confirmationFeatureId input.snapshot.candidateId) with
  | none =>
    rw [hfeature] at hnone
    exact absurd rfl hnone
  | some confirmation =>
    rw [hfeature] at hreverse hnone
    dsimp only at hreverse hnone ⊢
    split_ifs at hreverse hnone ⊢
    · exact absurd rfl hnone
    · rfl
    · exact absurd rfl hreverse

theorem no_reasons_of_accepted {reasons : List String} {direction : Option Direction}
    {relation : ReactionRelation} (h : (finalState reasons direction relation).2 = .accepted) :
    reasons = [] := by
  unfold finalState at h
  split at h
  · dsimp only at h
    split at h <;> cases h
  · split at h
    · rename_i hnone
      exact List.isEmpty_iff.mp hnone.1
    · cases h
  · cases h

section Validated

variable {input : StrategyInput} {x : ReasonerExchange} {answer : Option ReasonerDecision}
  {semantics errorCode : Option String} {build : String} {fromExchange : List String}

/-- The final state passes the check of a decision: it accepts only without a reason against. -/
theorem checkDisposition_final {fields : StrategyDecisionFields}
    (hdirection : fields.reasonerDirection = answer.map (·.decision))
    (hrelation : fields.reactionRelation = relationOf input fields.reasonerDirection)
    (hfinal : (fields.direction, fields.disposition) = finalState
      (allReasons input x answer fromExchange) fields.reasonerDirection fields.reactionRelation)
    (hcodes : fields.reasonCodes = sortedCodes (allReasons input x answer fromExchange)) :
    fields.checkDisposition = true := by
  have hempty : fields.reasonCodes = [] ↔ allReasons input x answer fromExchange = [] := by
    rw [hcodes, List.eq_nil_iff_forall_not_mem, List.eq_nil_iff_forall_not_mem]
    exact forall_congr' fun code => not_congr mem_sortedCodes
  rw [Prod.mk.injEq] at hfinal
  obtain ⟨hdir, hdisp⟩ := hfinal
  rw [StrategyDecisionFields.checkDisposition, hdir, hdisp]
  cases answer with
  | none =>
    have hne : fields.reasonCodes ≠ [] := by
      rw [Ne, hempty, allReasons]
      exact List.append_ne_nil_of_right_ne_nil _ (List.cons_ne_nil _ _)
    rw [hdirection]
    simpa [finalState] using hne
  | some d =>
    rw [Option.map_some] at hdirection
    rw [hdirection, relationOf] at hrelation
    rw [hdirection]
    by_cases huncertain : d.decision = .uncertain
    · have hne : fields.reasonCodes ≠ [] := by
        rw [Ne, hempty, allReasons, answerReasons, if_pos huncertain]
        simp
      have hnotApplicable : fields.reactionRelation = .notApplicable := by
        rw [hrelation]
        exact if_pos huncertain
      rw [huncertain, finalState, hnotApplicable]
      split_ifs <;> simp_all
    · have hconfirmed : allReasons input x (some d) fromExchange = [] →
          fields.reactionRelation = .continue := by
        intro hnone
        rw [hrelation]
        exact relation_of_no_reasons huncertain (List.append_eq_nil_iff.mp hnone).2
      rw [finalState.eq_2 _ _ _ huncertain]
      by_cases hnone : allReasons input x (some d) fromExchange = []
      · simp [hnone, hconfirmed hnone, hempty.mpr hnone, huncertain]
      · have hne : fields.reasonCodes ≠ [] := fun h => hnone (hempty.mp h)
        simp [hnone, hne]

theorem allReasons_codes (hcodes : ∀ code ∈ fromExchange, isReasonCode code = true) :
    ∀ code ∈ allReasons input x answer fromExchange, isReasonCode code = true := by
  intro code hmem
  rcases List.mem_append.mp hmem with hmem | hmem
  · exact hcodes code hmem
  · cases answer with
    | some d => exact answerReasons_codes input d code hmem
    | none =>
      rw [List.mem_singleton.mp hmem]
      cases x.status <;> decide

theorem validatedFields_check (hbuild : isLowerHex 64 build = true)
    (hsemantics : semantics.all (isLowerHex 64) = true)
    (hcodes : ∀ code ∈ fromExchange, isReasonCode code = true) :
    (validatedFields input x answer semantics build
      (allReasons input x answer fromExchange)).check = true := by
  have hinput := input.facts
  have hexchange := exchangeFacts x
  have hids := hinput.identifiers
  have hdigests := hinput.digests
  have hbindings := hinput.bindings
  simp only [List.all_cons, List.all_nil, Bool.and_eq_true, Bool.and_true] at hids hdigests hbindings
  have hdecided : isUtc (x.respondedAt.getD x.createdAt) = true := by
    have hresponded := hexchange.respondedUtc
    cases hr : x.respondedAt with
    | none => exact hexchange.createdUtc
    | some t => rw [hr] at hresponded; exact hresponded
  have hreasons : (sortedCodes (allReasons input x answer fromExchange)).all isReasonCode = true := by
    rw [List.all_eq_true]
    intro code hmem
    exact allReasons_codes hcodes code (mem_sortedCodes.mp hmem)
  have hdisposition := @checkDisposition_final input x answer fromExchange
    (validatedFields input x answer semantics build (allReasons input x answer fromExchange))
    rfl rfl rfl rfl
  rw [StrategyDecisionFields.check, Bool.and_eq_true]
  refine ⟨?_, hdisposition⟩
  have hsorted := sortedUnique_sortedCodes (allReasons input x answer fromExchange)
  have hsha := Json.isLowerHex_sha256 (reasonerExchangePayload x)
  cases answer with
  | none =>
    have hnil : sortedUnique [] = true := rfl
    simp only [validatedFields, hids, hdigests, hbindings, hbuild, hsemantics, hdecided, hreasons,
      hsorted, hsha, hnil, reasonerExchangeSha256, List.all_cons, List.all_nil, Option.map_none,
      Option.getD_none, Option.bind_none, Option.all_none, List.map_nil, List.Pairwise.nil,
      decide_true, Bool.and_true]
  | some d =>
    have hd := d.accepted
    simp only [ReasonerDecisionFields.check, Bool.and_eq_true] at hd
    simp only [validatedFields, hids, hdigests, hbindings, hbuild, hsemantics, hdecided, hreasons,
      hsorted, hsha, hd, reasonerExchangeSha256, List.all_cons, List.all_nil, Option.map_some,
      Option.getD_some, Option.bind_some, Option.all_some, Bool.and_true, Bool.true_and]
    exact hd.1.2

/-- The validator returns whenever clocks and answer can be compared and encoded, and accepts only
without a reason against. -/
theorem validate_isOk (hbuild : isLowerHex 64 build = true)
    (hexchange : exchangeReasons input x errorCode = .ok fromExchange)
    (hcode : errorCode.all isReasonCode = true)
    (hencodable : ∀ d, answer = some d → d.encodable = true) :
    ∃ decision, validateStrategyDecision input x answer build errorCode = .ok decision ∧
      (decision.disposition = .accepted → allReasons input x answer fromExchange = []) := by
  obtain ⟨semantics, hsemantics, hlower⟩ : ∃ semantics, semanticSha256 answer = .ok semantics ∧
      semantics.all (isLowerHex 64) = true := by
    cases answer with
    | none => exact ⟨none, rfl, rfl⟩
    | some d =>
      refine ⟨some (reasonerDecisionPayload d).sha256, ?_, Json.isLowerHex_sha256 _⟩
      rw [semanticSha256, reasonerDecisionSha256, hencodable d rfl]
      rfl
  have hcheck := @validatedFields_check input x answer semantics build fromExchange hbuild hlower
    (exchangeReasons_codes hexchange hcode)
  have hguard : ¬(errorCode.any fun code => !isReasonCode code) = true := by
    cases errorCode with
    | none => simp
    | some code => simpa using hcode
  refine ⟨⟨_, hcheck⟩, ?_, ?_⟩
  · simp only [validateStrategyDecision, throwIf, hbuild, Bool.not_true, Bool.false_eq_true,
      if_false, hexchange, if_neg hguard, hsemantics]
    exact dif_pos hcheck
  · intro haccepted
    change (finalState (allReasons input x answer fromExchange) (answer.map (·.decision))
      (relationOf input (answer.map (·.decision)))).2 = .accepted at haccepted
    exact no_reasons_of_accepted haccepted

end Validated

/-! ### Clocks -/

def timesOutAt (t : DateTime) : DateTime :=
  ⟨t.micros + hardTimeoutSeconds * DateTime.microsPerSecond, t.tzinfo⟩

theorem addSeconds_timeout {t : DateTime} (h : (timesOutAt t).InRange) :
    addSeconds t hardTimeoutSeconds = .ok (timesOutAt t) := by
  have hguard : ¬¬(timesOutAt t).InRange := not_not.mpr h
  rw [addSeconds]
  change ((throwIf (¬(timesOutAt t).InRange) EngineError.overflowError).bind fun _ => .ok (timesOutAt t)) = _
  rw [throwIf, if_neg hguard]
  rfl

theorem before_of_aware {a b : DateTime} (ha : a.isAware = true) (hb : b.isAware = true) :
    before a b = .ok (Decidable.decide (a.micros < b.micros)) := by
  rw [before, ha, hb]
  rfl

theorem earlier_of_aware {a b : DateTime} (ha : a.isAware = true) (hb : b.isAware = true) :
    earlier a b = .ok (if b.micros < a.micros then b else a) := by
  rw [earlier, before_of_aware hb ha]
  by_cases h : b.micros < a.micros
  · rw [if_pos h, decide_eq_true h]
    rfl
  · rw [if_neg h, decide_eq_false h]
    rfl

/-- The deadline of a pass: the timeout, or the cutoff when it comes first. -/
def passDeadline (input : StrategyInput) (startedAt : DateTime) : DateTime :=
  if input.snapshot.decisionCutoffAt.micros < (timesOutAt startedAt).micros then
    input.snapshot.decisionCutoffAt
  else timesOutAt startedAt

theorem deadlineFor_eq {input : StrategyInput} {startedAt : DateTime}
    (haware : startedAt.isAware = true) (h : (timesOutAt startedAt).InRange) :
    deadlineFor input startedAt = .ok (passDeadline input startedAt) := by
  have hcutoff := isAware_of_isUtc input.facts.cutoffUtc
  have hlater : (timesOutAt startedAt).isAware = true := haware
  rw [deadlineFor, addSeconds_timeout h]
  exact earlier_of_aware hlater hcutoff

/-! ### A pass without an invocation -/

/-- The identity's texts are those that an exchange takes. -/
def RouteIdentity.normalized (identity : RouteIdentity) : Bool :=
  isNormalizedText 256 identity.provider && isNormalizedText 256 identity.model &&
    identity.modelRevision.all (isNormalizedText 256)

/-- The clock rules of an exchange admit a pass that starts here without an invocation. -/
structure Admits (input : StrategyInput) (startedAt : DateTime) : Prop where
  timeout : (timesOutAt startedAt).InRange
  cutoff : input.snapshot.decisionCutoffAt.micros < startedAt.micros →
    (timesOutAt input.snapshot.decisionCutoffAt).InRange
  utc : isUtc startedAt = true ∨ input.snapshot.decisionCutoffAt.micros < startedAt.micros

theorem reasonerPolicyHashes_lower (candidateId : String) :
    isLowerHex 64 (reasonerPolicyHashes candidateId).1 = true ∧
      isLowerHex 64 (reasonerPolicyHashes candidateId).2.1 = true ∧
      isLowerHex 64 (reasonerPolicyHashes candidateId).2.2 = true := by
  have hrows : ∀ row ∈ reasonerPolicyHashRegistry, isLowerHex 64 row.2.1 = true ∧
      isLowerHex 64 row.2.2.1 = true ∧ isLowerHex 64 row.2.2.2 = true := by decide
  have hdefault : isLowerHex 64 outputSchemaSha256 = true := by decide
  rw [reasonerPolicyHashes]
  cases hfind : reasonerPolicyHashRegistry.find? fun row => row.1 == candidateId with
  | none => exact ⟨hdefault, hdefault, hdefault⟩
  | some row => exact hrows row (List.mem_of_find?_eq_some hfind)

theorem abortedFields_check {identity : RouteIdentity} {input : StrategyInput}
    {started deadline : DateTime} (code : EngineReason) (hidentity : identity.normalized = true)
    (hstarted : isUtc started = true) (hdeadline : isUtc deadline = true)
    (hle : started.micros ≤ deadline.micros) :
    (abortedFields identity input code started deadline).check = true := by
  have hinput := input.facts
  have hids := hinput.identifiers
  have hdigests := hinput.digests
  have hbindings := hinput.bindings
  obtain ⟨hroute, hprompt, hschema⟩ := reasonerPolicyHashes_lower input.snapshot.candidateId
  have hcode : isReasonCode code.value = true := by cases code <;> decide
  have hstatus : (abortedFields identity input code started deadline).checkStatus = true := by
    rw [ReasonerExchangeFields.checkStatus]
    exact hcode
  rw [RouteIdentity.normalized, Bool.and_eq_true, Bool.and_eq_true] at hidentity
  simp only [List.all_cons, List.all_nil, Bool.and_eq_true, Bool.and_true] at hids hdigests hbindings
  rw [ReasonerExchangeFields.check, hstatus]
  simp only [abortedFields, hids, hdigests, hbindings, hidentity, hroute, hprompt, hschema, hstarted,
    hdeadline, hle, RouteIdentity.modelConfigSha256, reasonerModelConfigSha256, engineBuildSha256,
    Json.isLowerHex_sha256, List.all_cons, List.all_nil, Option.all_none, decide_true, Bool.and_true]

theorem identityDecoding_printable : identityDecoding.printable = true := by decide +kernel

theorem engineBuildSha256_lower : isLowerHex 64 engineBuildSha256 = true := Json.isLowerHex_sha256 _

/-- The clocks of the aborted exchange: both are in UTC and in order, for a start before, inside
and after the window. -/
theorem abortedExchange_eq {identity : RouteIdentity} {input : StrategyInput} {startedAt : DateTime}
    (code : EngineReason) (hidentity : identity.normalized = true)
    (haware : startedAt.isAware = true) (h : Admits input startedAt) :
    ∃ x, abortedExchange identity input startedAt code = .ok x ∧
      x.decoding.printable = true ∧ (timesOutAt x.startedAt).InRange := by
  have hcutoffUtc := input.facts.cutoffUtc
  have hseconds : (0 : Int) < hardTimeoutSeconds * DateTime.microsPerSecond := by decide
  have hmicros : (timesOutAt startedAt).micros =
      startedAt.micros + hardTimeoutSeconds * DateTime.microsPerSecond := rfl
  have hdeadline : isUtc (passDeadline input startedAt) = true := by
    rw [passDeadline]
    split
    · exact hcutoffUtc
    · rename_i hlate
      rcases h.utc with hutc | hutc
      · exact hutc
      · omega
  obtain ⟨started, hstarted, hutc, hle, hrange⟩ : ∃ started,
      earlier startedAt (passDeadline input startedAt) = .ok started ∧ isUtc started = true ∧
        started.micros ≤ (passDeadline input startedAt).micros ∧ (timesOutAt started).InRange := by
    refine ⟨_, earlier_of_aware haware (isAware_of_isUtc hdeadline), ?_⟩
    split
    · rename_i hlate
      refine ⟨hdeadline, le_refl _, ?_⟩
      rw [passDeadline] at hlate ⊢
      split at hlate
      · rename_i hcut
        rw [if_pos hcut]
        exact h.cutoff hlate
      · omega
    · rename_i hearly
      refine ⟨?_, not_lt.mp hearly, h.timeout⟩
      rcases h.utc with hutc | hutc
      · exact hutc
      · rw [passDeadline, if_pos (by omega)] at hearly
        exact absurd hutc hearly
  have hcheck := @abortedFields_check identity input started (passDeadline input startedAt) code
    hidentity hutc hdeadline hle
  refine ⟨⟨_, hcheck⟩, ?_, identityDecoding_printable, hrange⟩
  rw [abortedExchange, deadlineFor_eq haware h.timeout]
  change ((earlier startedAt (passDeadline input startedAt)).bind _) = _
  rw [hstarted]
  exact dif_pos hcheck

theorem exchangeReasons_isOk {input : StrategyInput} {x : ReasonerExchange}
    (errorCode : Option String) (hprintable : x.decoding.printable = true)
    (h : (timesOutAt x.startedAt).InRange) :
    ∃ reasons, exchangeReasons input x errorCode = .ok reasons := by
  rw [exchangeReasons, reasonerExchangePolicyReasons, hprintable, addSeconds_timeout h]
  exact ⟨_, rfl⟩

/-- A pass without an invocation records a rejection. -/
theorem abort_rejects {identity : RouteIdentity} {call : Call} (code : EngineReason)
    (hidentity : identity.normalized = true) (haware : call.startedAt.isAware = true)
    (h : Admits call.input call.startedAt) :
    ∃ o, abort identity call code = .ok o ∧ o.decision.disposition ≠ .accepted := by
  obtain ⟨x, hx, hprintable, hrange⟩ := abortedExchange_eq code hidentity haware h
  obtain ⟨reasons, hreasons⟩ :=
    @exchangeReasons_isOk call.input x (some code.value) hprintable hrange
  have hcode : (some code.value).all isReasonCode = true := by cases code <;> decide
  obtain ⟨decision, hdecision, haccepted⟩ :=
    @validate_isOk call.input x none (some code.value) engineBuildSha256 reasons
      engineBuildSha256_lower hreasons hcode nofun
  refine ⟨outcome call false x decision, ?_, ?_⟩
  · rw [abort, except_bind_eq_ok]
    exact ⟨x, hx, except_bind_eq_ok.mpr ⟨decision, hdecision, rfl⟩⟩
  · intro hdisposition
    have hne : allReasons call.input x none reasons ≠ [] := by
      rw [allReasons]
      exact List.append_ne_nil_of_right_ne_nil _ (List.cons_ne_nil _ _)
    exact hne (haccepted hdisposition)

/-! ### A pass with an invocation -/

def Answered (tooDeep : List UInt8 → Bool) (x : ReasonerExchange) (raw : RawResponse) : Prop :=
  x.status = .completed ∧ ∃ bytes d, raw = .bytes bytes ∧
    (x.rawResponseSha256.any fun sha => Sha256.hexdigest bytes != sha) = false ∧
    parseReasonerDecision tooDeep bytes = .ok d

/-- The route raised, returned no result, or did not answer. -/
def Failed (tooDeep : List UInt8 → Bool) : RouteAnswer → Prop
  | .raised => True
  | .other => True
  | .result x raw => ¬Answered tooDeep x raw

/-- The route answered after the deadline that its exchange names, or after the deadline of the
call. -/
def Late (call : Call) : Prop :=
  ∃ x raw t, call.answer = .result x raw ∧ x.respondedAt = some t ∧
    (x.deadlineAt.micros < t.micros ∨
      min (timesOutAt call.startedAt).micros call.input.snapshot.decisionCutoffAt.micros < t.micros)

/-- The exchange and the raw response can be read: what is wrong with them is an error code. -/
structure Readable (tooDeep : List UInt8 → Bool) (x : ReasonerExchange) (raw : RawResponse) :
    Prop where
  printable : x.decoding.printable = true
  timeout : (timesOutAt x.startedAt).InRange
  other : raw = .other → x.status = .completed
  shallow : ∀ bytes, raw = .bytes bytes → x.status = .completed →
    (x.rawResponseSha256.any fun sha => Sha256.hexdigest bytes != sha) = false →
    tooDeep bytes = false ∧
      ∀ d, parseReasonerDecision tooDeep bytes = .ok d → d.encodable = true

/-- A text that is not nested too deep is an answer, or it is rejected. -/
theorem parse_error {tooDeep : List UInt8 → Bool} {raw : List UInt8} {e : EngineError}
    (hshallow : tooDeep raw = false) (h : parseReasonerDecision tooDeep raw = .error e) :
    e = .contractRejected := by
  rw [parseReasonerDecision, hshallow] at h
  simp only [Bool.false_eq_true] at h
  split at h
  · cases h
    rfl
  · split at h
    · cases h
    · cases h
      rfl

theorem readResponse_isOk {tooDeep : List UInt8 → Bool} {x : ReasonerExchange} {raw : RawResponse}
    (h : Readable tooDeep x raw) : ∃ answer errorCode,
      readResponse tooDeep x raw = .ok (answer, errorCode) ∧
      errorCode.all isReasonCode = true ∧ (∀ d, answer = some d → d.encodable = true) ∧
      (¬Answered tooDeep x raw → answer = none) := by
  have hdrift : isReasonCode "REASONER_RAW_HASH_MISMATCH" = true := by decide
  have hschema : isReasonCode "REASONER_SCHEMA_INVALID" = true := by decide
  cases raw with
  | absent =>
    refine ⟨none, _, rfl, ?_, nofun, fun _ => rfl⟩
    split
    · exact hschema
    · rfl
  | other =>
    refine ⟨none, some "REASONER_SCHEMA_INVALID", ?_, hschema, nofun, fun _ => rfl⟩
    rw [readResponse, if_pos (h.other rfl)]
    rfl
  | bytes raw =>
    cases hdrifted : x.rawResponseSha256.any fun sha => Sha256.hexdigest raw != sha with
    | true =>
      refine ⟨none, some "REASONER_RAW_HASH_MISMATCH", ?_, hdrift, nofun, fun _ => rfl⟩
      rw [readResponse, hdrifted]
      by_cases hcompleted : x.status = .completed
      · rw [if_pos hcompleted]
        rfl
      · rw [if_neg hcompleted]
        rfl
    | false =>
      by_cases hcompleted : x.status = .completed
      · obtain ⟨hshallow, hencodable⟩ := h.shallow raw rfl hcompleted hdrifted
        cases hparse : parseReasonerDecision tooDeep raw with
        | ok d =>
          refine ⟨some d, none, ?_, rfl, ?_, ?_⟩
          · simp only [readResponse, hdrifted, hcompleted, hparse, if_true]
            rfl
          · intro d' hd
            exact hencodable d' (hparse.trans (congrArg Except.ok (Option.some_inj.mp hd)))
          · intro hfailed
            exact absurd ⟨hcompleted, raw, d, rfl, hdrifted, hparse⟩ hfailed
        | error e =>
          refine ⟨none, some "REASONER_SCHEMA_INVALID", ?_, hschema, nofun, fun _ => rfl⟩
          simp only [readResponse, hdrifted, hcompleted, hparse, if_true,
            parse_error hshallow hparse]
          rfl
      · refine ⟨none, none, ?_, rfl, nofun, fun _ => rfl⟩
        simp only [readResponse, hdrifted, if_neg hcompleted]
        rfl

/-- A late response is a reason against, once its exchange started no later than the call. -/
theorem late_reasons {call : Call} {x : ReasonerExchange} {raw : RawResponse}
    {errorCode : Option String} {reasons : List String} (hlate : Late call)
    (hanswer : call.answer = .result x raw) (hstart : x.startedAt.micros ≤ call.startedAt.micros)
    (h : exchangeReasons call.input x errorCode = .ok reasons) : reasons ≠ [] := by
  obtain ⟨x', raw', t, hresult, hresponded, hlater⟩ := hlate
  obtain ⟨rfl, rfl⟩ := RouteAnswer.result.inj (hanswer.symm.trans hresult)
  simp only [exchangeReasons, reasonerExchangePolicyReasons, except_bind_eq_ok,
    except_pure_eq_ok] at h
  obtain ⟨policyReasons, ⟨-, -, timedOutAt, htimeout, rfl⟩, rfl⟩ := h
  have hmicros : timedOutAt.micros =
      x.startedAt.micros + hardTimeoutSeconds * DateTime.microsPerSecond := by
    rw [addSeconds] at htimeout
    simp only [except_bind_eq_ok, except_pure_eq_ok] at htimeout
    obtain ⟨-, -, rfl⟩ := htimeout
    rfl
  intro hnone
  simp only [List.append_eq_nil_iff, codesIf, ite_eq_right_iff, List.cons_ne_nil, imp_false,
    Bool.not_eq_true, bne_eq_false_iff_eq, hresponded, Option.any_some,
    decide_eq_false_iff_not, not_lt] at hnone
  obtain ⟨⟨⟨-, ⟨⟨-, hdeadline⟩, hontime⟩, -⟩, -⟩, -⟩ := hnone
  rcases hlater with hlater | hlater
  · exact absurd hlater (not_lt.mpr hontime)
  · have hcall : (timesOutAt call.startedAt).micros =
        call.startedAt.micros + hardTimeoutSeconds * DateTime.microsPerSecond := rfl
    omega

/-- An invoked pass whose answer failed or came late records a rejection. -/
theorem invoke_rejects {tooDeep : List UInt8 → Bool} {call : Call} {x : ReasonerExchange}
    {raw : RawResponse} (hanswer : call.answer = .result x raw) (h : Readable tooDeep x raw)
    (hstart : Late call → x.startedAt.micros ≤ call.startedAt.micros)
    (hbad : ¬Answered tooDeep x raw ∨ Late call) :
    ∃ decision, validateReasonerResponse tooDeep call.input x raw engineBuildSha256 = .ok decision ∧
      decision.disposition ≠ .accepted := by
  obtain ⟨answer, errorCode, hread, hcode, hencodable, hnone⟩ := readResponse_isOk h
  obtain ⟨reasons, hreasons⟩ := @exchangeReasons_isOk call.input x errorCode h.printable h.timeout
  obtain ⟨decision, hdecision, haccepted⟩ :=
    @validate_isOk call.input x answer errorCode engineBuildSha256 reasons
      engineBuildSha256_lower hreasons hcode hencodable
  refine ⟨decision, ?_, ?_⟩
  · rw [validateReasonerResponse, except_bind_eq_ok]
    exact ⟨(answer, errorCode), hread, hdecision⟩
  · intro hdisposition
    obtain ⟨hexchange, hrest⟩ := List.append_eq_nil_iff.mp (haccepted hdisposition)
    rcases hbad with hfailed | hlate
    · obtain rfl := hnone hfailed
      exact List.cons_ne_nil _ _ hrest
    · exact late_reasons hlate hanswer (hstart hlate) hreasons hexchange

/-! ### Sequences of passes -/

/-- What one pass owes: an outcome that does not accept, when the route was not invoked, failed or
came late. -/
def Bounded (tooDeep : List UInt8 → Bool) (call : Call) (pass : Pass) : Prop :=
  (pass.invoked = false ∨ Failed tooDeep call.answer ∨ Late call) →
    ∃ o, pass.result = .ok o ∧ o.decision.disposition ≠ .accepted

/-- A call under which the engine keeps its promises: the clock rules admit its start, and what the
route gives back can be read. -/
structure Sound (tooDeep : List UInt8 → Bool) (identity : RouteIdentity) (keys : List CallKey)
    (call : Call) : Prop where
  aware : call.startedAt.isAware = true
  aborted : preflightCode call.input call.startedAt ≠ .ok none ∨
    callKey identity call.input ∈ keys →
      identity.normalized = true ∧ Admits call.input call.startedAt
  answered : preflightCode call.input call.startedAt = .ok none →
    callKey identity call.input ∉ keys → ∃ x raw, call.answer = .result x raw ∧
      (¬Answered tooDeep x raw ∨ Late call → Readable tooDeep x raw) ∧
      (Late call → x.startedAt.micros ≤ call.startedAt.micros)

def AllSound (tooDeep : List UInt8 → Bool) (identity : RouteIdentity) :
    List CallKey → List Call → Prop
  | _, [] => True
  | keys, call :: calls => Sound tooDeep identity keys call ∧
      AllSound tooDeep identity (decide tooDeep identity keys call).keys calls

def invocations (identity : RouteIdentity) (key : CallKey) (runs : List (Call × Pass)) : Nat :=
  runs.countP fun run => run.2.invoked && callKey identity run.1.input == key

theorem preflightCode_isOk {input : StrategyInput} {startedAt : DateTime}
    (haware : startedAt.isAware = true) : ∃ code, preflightCode input startedAt = .ok code := by
  have hinput := input.facts
  rw [preflightCode, before_of_aware haware (isAware_of_isUtc hinput.receiptUtc),
    before_of_aware (isAware_of_isUtc hinput.cutoffUtc) haware]
  by_cases heligible : input.snapshot.eligibility ≠ .eligible
  · rw [if_pos heligible]
    exact ⟨_, rfl⟩
  · rw [if_neg heligible]
    by_cases hvalid : input.snapshot.dataHealth ≠ .valid
    · rw [if_pos hvalid]
      exact ⟨_, rfl⟩
    · rw [if_neg hvalid]
      cases Decidable.decide (startedAt.micros < input.featureReceipt.createdAt.micros)
      · cases Decidable.decide (input.snapshot.decisionCutoffAt.micros < startedAt.micros)
        · exact ⟨_, rfl⟩
        · exact ⟨_, rfl⟩
      · exact ⟨_, rfl⟩

/-- One sound pass: it invokes the route only for a new key, which it then keeps, and it is
bounded. -/
theorem decide_sound {tooDeep : List UInt8 → Bool} {identity : RouteIdentity}
    {keys : List CallKey} {call : Call} (h : Sound tooDeep identity keys call) :
    Bounded tooDeep call (decide tooDeep identity keys call) ∧
      ((decide tooDeep identity keys call).invoked = false ∧
          (decide tooDeep identity keys call).keys = keys ∨
        callKey identity call.input ∉ keys ∧
          (decide tooDeep identity keys call).keys = callKey identity call.input :: keys) := by
  have hrejects : ∀ code : EngineReason, (preflightCode call.input call.startedAt ≠ .ok none ∨
      callKey identity call.input ∈ keys) →
      ∃ o, abort identity call code = .ok o ∧ o.decision.disposition ≠ .accepted := by
    intro code hcase
    obtain ⟨hidentity, hstart⟩ := h.aborted hcase
    exact abort_rejects code hidentity h.aware hstart
  obtain ⟨preflight, hpreflight⟩ := @preflightCode_isOk call.input _ h.aware
  rw [decide, hpreflight]
  cases preflight with
  | some code =>
    have hne : preflightCode call.input call.startedAt ≠ .ok none := by
      rw [hpreflight]
      nofun
    exact ⟨fun _ => hrejects code (.inl hne), .inl ⟨rfl, rfl⟩⟩
  | none =>
    dsimp only
    by_cases hknown : callKey identity call.input ∈ keys
    · rw [if_pos (List.contains_iff_mem.mpr hknown)]
      exact ⟨fun _ => hrejects .duplicateReasonerCall (.inr hknown), .inl ⟨rfl, rfl⟩⟩
    · rw [if_neg fun hcontains => hknown (List.contains_iff_mem.mp hcontains)]
      obtain ⟨x, raw, hanswer, hreadable, hstart⟩ := h.answered hpreflight hknown
      rw [invoke, hanswer]
      refine ⟨?_, .inr ⟨hknown, rfl⟩⟩
      intro hcase
      rw [hanswer] at hcase
      have hbad : ¬Answered tooDeep x raw ∨ Late call := hcase.resolve_left Bool.noConfusion
      obtain ⟨decision, hdecision, hrejected⟩ :=
        invoke_rejects hanswer (hreadable hbad) hstart hbad
      exact ⟨outcome call true x decision, except_bind_eq_ok.mpr ⟨decision, hdecision, rfl⟩,
        hrejected⟩

theorem invocations_le {tooDeep : List UInt8 → Bool} {identity : RouteIdentity} (key : CallKey)
    (calls : List Call) : ∀ keys, AllSound tooDeep identity keys calls →
      invocations identity key (passes tooDeep identity keys calls) ≤ 1 ∧
      (key ∈ keys → invocations identity key (passes tooDeep identity keys calls) = 0) := by
  induction calls with
  | nil => intro keys _; exact ⟨Nat.zero_le 1, fun _ => rfl⟩
  | cons call calls ih =>
    intro keys h
    obtain ⟨hle, hzero⟩ := ih _ h.2
    rw [passes, invocations, List.countP_cons]
    rw [invocations] at hle hzero
    rcases (decide_sound h.1).2 with ⟨hskipped, hkeys⟩ | ⟨hnew, hkeys⟩
    · rw [hskipped, Bool.false_and, if_neg Bool.false_ne_true, Nat.add_zero]
      exact ⟨hle, fun hmem => hzero (by rw [hkeys]; exact hmem)⟩
    · rw [hkeys] at hle hzero ⊢
      by_cases hkey : callKey identity call.input = key
      · have hafter := hzero (hkey ▸ List.mem_cons_self)
        refine ⟨?_, fun hmem => absurd (hkey ▸ hmem) hnew⟩
        rw [hafter]
        split <;> omega
      · have hother : (callKey identity call.input == key) = false := beq_eq_false_iff_ne.mpr hkey
        rw [hother, Bool.and_false, if_neg Bool.false_ne_true, Nat.add_zero]
        exact ⟨hle, fun hmem => hzero (List.mem_cons_of_mem _ hmem)⟩

theorem bounded_of_mem {tooDeep : List UInt8 → Bool} {identity : RouteIdentity}
    (calls : List Call) : ∀ keys, AllSound tooDeep identity keys calls →
      ∀ run ∈ passes tooDeep identity keys calls, Bounded tooDeep run.1 run.2 := by
  induction calls with
  | nil => intro keys _ run hmem; cases hmem
  | cons call calls ih =>
    intro keys h run hmem
    rcases List.mem_cons.mp hmem with rfl | hmem
    · exact (decide_sound h.1).1
    · exact ih _ h.2 run hmem

/-- A joined macro input whose decision window is the first minute of 2026. -/
def firstMinute : StrategyInput where
  snapshot :=
    { eventId := "macro-event-1"
      candidateId := macroCandidate
      cohortId := "cohort-1"
      securityId := "SPY"
      policySha256 := outputSchemaSha256
      decisionCutoffAt := .utc 1767225660000000
      evidencePacketSha256 := outputSchemaSha256
      evidenceRefs := []
      eligibility := .eligible
      eligibilityReasonCodes := []
      dataHealth := .valid
      healthReasonCodes := []
      allowedUnknownCodes := []
      criticalUnknownCodes := [] }
  featureReceipt := ⟨.utc 1767225600000000, []⟩
  candidateManifestSha256 := outputSchemaSha256
  snapshotSha256 := outputSchemaSha256
  featureReceiptSha256 := outputSchemaSha256
  accepted := by decide

def firstIdentity : RouteIdentity := ⟨"synthetic", "synthetic-model", none⟩

def timedOut : ReasonerExchange where
  eventId := "macro-event-1"
  candidateId := macroCandidate
  policySha256 := outputSchemaSha256
  strategySnapshotSha256 := outputSchemaSha256
  featureReceiptSha256 := outputSchemaSha256
  evidencePacketSha256 := outputSchemaSha256
  routeSha256 := outputSchemaSha256
  promptSha256 := outputSchemaSha256
  outputSchemaSha256 := outputSchemaSha256
  modelConfigSha256 := outputSchemaSha256
  requestSha256 := outputSchemaSha256
  rawResponseSha256 := none
  provider := "synthetic"
  model := "synthetic-model"
  modelRevision := none
  decoding := identityDecoding
  startedAt := .utc 1767225610000000
  respondedAt := none
  deadlineAt := .utc 1767225618000000
  status := .timeout
  errorCode := some "REASONER_TIMEOUT"
  producerBuildSha256 := outputSchemaSha256
  createdAt := .utc 1767225618000000
  accepted := by decide

def timedOutCall : Call := ⟨firstMinute, .utc 1767225610000000, false, .result timedOut .absent⟩

end EsscherMarket.Strategy.Engine
