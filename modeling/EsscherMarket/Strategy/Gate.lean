import EsscherMarket.Strategy.EngineRuns

/-!
# The decision gate

What a joined input, an exchange and an answer must satisfy for the reasoner's direction to pass,
without reference to reason codes.
-/

namespace EsscherMarket.Strategy.Engine

open Lib

/-! ### The gates -/

def SameSign (direction : Direction) (value : ℚ) : Prop :=
  direction = .up ∧ 0 < value ∨ direction = .down ∧ value < 0

/-- The candidate's confirmation rule.  The magnitude is `abs` of a decimal, in its context. -/
def Confirms (input : StrategyInput) (direction : Direction) : Prop :=
  ∃ confirmation,
    numericFeature input (confirmationFeatureId input.snapshot.candidateId) = some confirmation ∧
    SameSign direction confirmation.toRat ∧
    if input.snapshot.candidateId = macroCandidate then
      1 ≤ confirmation.abs.toRat ∧
      (∃ volume, numericFeature input "market.spy_event_volume_ratio_20.v1" = some volume ∧
        5 / 4 ≤ volume.toRat) ∧
      ∃ vwapDistance,
        numericFeature input "market.spy_event_vwap_distance_bps.v1" = some vwapDistance ∧
        SameSign direction vwapDistance.toRat
    else 25 / 10000 ≤ confirmation.abs.toRat

structure ExchangeAdmitted (input : StrategyInput) (x : ReasonerExchange)
    (errorCode : Option String) : Prop where
  eligible : input.snapshot.eligibility = .eligible
  healthy : input.snapshot.dataHealth = .valid
  noError : errorCode = none
  completed : x.status = .completed
  event : x.eventId = input.snapshot.eventId
  candidate : x.candidateId = input.snapshot.candidateId
  policy : x.policySha256 = input.snapshot.policySha256
  snapshot : x.strategySnapshotSha256 = input.snapshotSha256
  featureReceipt : x.featureReceiptSha256 = input.featureReceiptSha256
  evidencePacket : x.evidencePacketSha256 = input.snapshot.evidencePacketSha256
  registered : (x.routeSha256, x.promptSha256, x.outputSchemaSha256) =
    reasonerPolicyHashes input.snapshot.candidateId
  modelConfig : x.modelConfigSha256 =
    reasonerModelConfigSha256 x.provider x.model x.modelRevision x.decoding
  temperature : x.decoding.temperature.toRat = Engine.temperature.toRat
  outputTokens : x.decoding.maxOutputTokens = maxOutputTokens
  afterReceipt : input.featureReceipt.createdAt.micros ≤ x.startedAt.micros
  beforeCutoff : x.startedAt.micros ≤ input.snapshot.decisionCutoffAt.micros
  deadline : x.deadlineAt.micros =
    min (timesOutAt x.startedAt).micros input.snapshot.decisionCutoffAt.micros
  responded : ∀ t, x.respondedAt = some t → t.micros ≤ x.deadlineAt.micros
  created : x.createdAt.micros ≤ input.snapshot.decisionCutoffAt.micros

def references (d : ReasonerDecision) : List String :=
  d.evidenceIds ++ d.contradictions.flatMap (fun c => [c.evidenceIds.1, c.evidenceIds.2]) ++
    d.strongestFalsifier.toList.map (·.evidenceId)

structure AnswerAdmitted (input : StrategyInput) (d : ReasonerDecision) : Prop where
  direction : d.decision = .up ∨ d.decision = .down
  known : ∀ id ∈ references d, ∃ ref ∈ input.snapshot.evidenceRefs, ref.evidenceId = id
  primary : ∃ ref ∈ input.snapshot.evidenceRefs, ref.evidenceId ∈ d.evidenceIds ∧
    ref.role.isPrimary = true
  market : ∃ ref ∈ input.snapshot.evidenceRefs, ref.evidenceId ∈ d.evidenceIds ∧
    ref.role.isMarket = true
  falsifier : ∃ f, d.strongestFalsifier = some f
  allowed : ∀ code ∈ d.unknowns, code ∈ input.snapshot.allowedUnknownCodes
  notCritical : ∀ code ∈ d.unknowns, code ∉ input.snapshot.criticalUnknownCodes
  confirmed : Confirms input d.decision

/-- The validator must accept this answer: there is one, and it passes every gate. -/
def Admitted (input : StrategyInput) (x : ReasonerExchange) (answer : Option ReasonerDecision)
    (errorCode : Option String) : Prop :=
  ExchangeAdmitted input x errorCode ∧ ∃ d, answer = some d ∧ AnswerAdmitted input d

/-- What the validator owes: the reasoner's direction where the gates hold, and an uncertain
direction with a reason everywhere else. -/
structure Gated (input : StrategyInput) (x : ReasonerExchange) (answer : Option ReasonerDecision)
    (errorCode : Option String) (decision : StrategyDecision) : Prop where
  accepted : decision.disposition = .accepted ↔ Admitted input x answer errorCode
  direction : decision.disposition = .accepted → answer.map (·.decision) = some decision.direction
  otherwise : decision.disposition ≠ .accepted →
    decision.direction = .uncertain ∧ decision.reasonCodes ≠ []

/-! ### The confirmation rule -/

section Confirmation

variable {input : StrategyInput} {direction : Direction} {confirmation : Decimal}

/-- A confirming feature of the direction's sign is weak exactly when the rule fails. -/
theorem weakConfirmation_eq_false (hsign : SameSign direction confirmation.toRat) :
    weakConfirmation input confirmation = false ↔
      if input.snapshot.candidateId = macroCandidate then
        1 ≤ confirmation.abs.toRat ∧
        (∃ volume, numericFeature input "market.spy_event_volume_ratio_20.v1" = some volume ∧
          5 / 4 ≤ volume.toRat) ∧
        ∃ vwapDistance,
          numericFeature input "market.spy_event_vwap_distance_bps.v1" = some vwapDistance ∧
          SameSign direction vwapDistance.toRat
      else 25 / 10000 ≤ confirmation.abs.toRat := by
  rw [weakConfirmation]
  by_cases hmacro : input.snapshot.candidateId = macroCandidate
  · rw [if_pos (beq_iff_eq.mpr hmacro), if_pos hmacro]
    cases hvolume : numericFeature input "market.spy_event_volume_ratio_20.v1" with
    | none => simp
    | some volume =>
      cases hvwap : numericFeature input "market.spy_event_vwap_distance_bps.v1" with
      | none => simp
      | some vwapDistance =>
        simp only [Option.some_inj, exists_eq_left', Bool.or_eq_false_iff, Bool.and_eq_false_iff,
          decide_eq_false_iff_not, not_lt, not_le]
        rcases hsign with ⟨rfl, hpos⟩ | ⟨rfl, hneg⟩
        · have hnotneg : ¬confirmation.toRat < 0 := not_lt.mpr hpos.le
          simp only [SameSign, not_le.mpr hpos, hpos.le, false_or, true_or, and_true, true_and,
            reduceCtorEq, false_and, or_false]
          tauto
        · simp only [SameSign, not_le.mpr hneg, hneg.le, false_or, true_or, and_true, true_and,
            reduceCtorEq, false_and]
          tauto
  · rw [if_neg (by simpa using hmacro), if_neg hmacro]
    simp only [decide_eq_false_iff_not, not_lt]

theorem reactionRelation_eq_continue (hdirection : direction ≠ .uncertain) :
    reactionRelation input direction = .continue ↔ Confirms input direction := by
  rw [reactionRelation, if_neg hdirection, Confirms]
  cases hfeature : numericFeature input (confirmationFeatureId input.snapshot.candidateId) with
  | none => simp
  | some confirmation =>
    simp only [Option.some_inj, exists_eq_left']
    by_cases hsign : SameSign direction confirmation.toRat
    · rw [← weakConfirmation_eq_false hsign]
      cases hweak : weakConfirmation input confirmation with
      | true => simp
      | false =>
        rw [if_neg Bool.false_ne_true, if_pos (show direction = .up ∧ 0 < confirmation.toRat ∨
          direction = .down ∧ confirmation.toRat < 0 from hsign)]
        simp [hsign]
    · have hsign' : ¬(direction = .up ∧ 0 < confirmation.toRat ∨
          direction = .down ∧ confirmation.toRat < 0) := hsign
      rw [if_neg hsign']
      constructor
      · intro h
        split at h <;> cases h
      · rintro ⟨h, -⟩
        exact absurd h hsign

theorem reactionRelation_applicable (hdirection : direction ≠ .uncertain) :
    reactionRelation input direction ≠ .notApplicable := by
  rw [reactionRelation, if_neg hdirection]
  split
  · exact fun h => (by cases h)
  · split_ifs <;> exact fun h => (by cases h)

end Confirmation

/-! ### Where there is no reason -/

theorem codesIf_eq_nil {condition : Bool} {code : String} {codes : List String} :
    codesIf condition (code :: codes) = [] ↔ condition = false := by
  cases condition <;> simp [codesIf]

theorem exchangeReasons_eq_nil {input : StrategyInput} {x : ReasonerExchange}
    {errorCode : Option String} {reasons : List String}
    (h : exchangeReasons input x errorCode = .ok reasons) :
    reasons = [] ↔ ExchangeAdmitted input x errorCode := by
  simp only [exchangeReasons, reasonerExchangePolicyReasons, except_bind_eq_ok,
    except_pure_eq_ok] at h
  obtain ⟨policyReasons, ⟨-, -, timedOutAt, htimeout, rfl⟩, rfl⟩ := h
  have hmicros : timedOutAt.micros = (timesOutAt x.startedAt).micros := by
    rw [addSeconds] at htimeout
    simp only [except_bind_eq_ok, except_pure_eq_ok] at htimeout
    obtain ⟨-, -, rfl⟩ := htimeout
    rfl
  have hresponded : (x.respondedAt.any fun t => Decidable.decide (x.deadlineAt.micros < t.micros)) = false ↔
      ∀ t, x.respondedAt = some t → t.micros ≤ x.deadlineAt.micros := by
    cases x.respondedAt <;> simp
  simp only [List.append_eq_nil_iff, codesIf_eq_nil, hresponded, hmicros, bne_eq_false_iff_eq,
    Bool.or_eq_false_iff, decide_eq_false_iff_not, not_not, not_lt, Prod.mk.injEq,
    Option.toList_eq_nil_iff]
  constructor
  · rintro ⟨⟨⟨⟨⟨h₁, h₂⟩, h₃, h₄, h₅, h₆, h₇, h₈⟩, ⟨⟨⟨⟨⟨⟨h₉, h₁₀⟩, h₁₁, h₁₂⟩, h₁₃, h₁₄⟩, h₁₅⟩, h₁₆⟩,
      h₁₇⟩⟩, h₁₈⟩, h₁₉⟩
    exact ⟨h₁, h₂, h₁₉, h₁₈, h₃, h₄, h₅, h₆, h₇, h₈, h₉, h₁₀, h₁₁, h₁₂, h₁₃, h₁₄, h₁₅, h₁₆, h₁₇⟩
  · intro hx
    exact ⟨⟨⟨⟨⟨hx.eligible, hx.healthy⟩, hx.event, hx.candidate, hx.policy, hx.snapshot,
      hx.featureReceipt, hx.evidencePacket⟩, ⟨⟨⟨⟨⟨⟨hx.registered, hx.modelConfig⟩, hx.temperature,
      hx.outputTokens⟩, hx.afterReceipt, hx.beforeCutoff⟩, hx.deadline⟩, hx.responded⟩,
      hx.created⟩⟩, hx.completed⟩, hx.noError⟩

theorem cited_any {refs : List EvidenceRef} {ids : List String} {p : EvidenceRole → Bool} :
    ((refs.filter fun ref => ids.contains ref.evidenceId).any fun ref => p ref.role) = true ↔
      ∃ ref ∈ refs, ref.evidenceId ∈ ids ∧ p ref.role = true := by
  simp only [List.any_eq_true, List.mem_filter, List.contains_iff_mem, and_assoc]

theorem answerReasons_eq_nil {input : StrategyInput} {d : ReasonerDecision} :
    answerReasons input d = [] ↔ AnswerAdmitted input d := by
  have hknown : ((references d).all (input.snapshot.evidenceRefs.map (·.evidenceId)).contains) = true ↔
      ∀ id ∈ references d, ∃ ref ∈ input.snapshot.evidenceRefs, ref.evidenceId = id := by
    simp only [List.all_eq_true, List.contains_iff_mem, List.mem_map]
  have hallowed : (d.unknowns.all input.snapshot.allowedUnknownCodes.contains) = true ↔
      ∀ code ∈ d.unknowns, code ∈ input.snapshot.allowedUnknownCodes := by
    simp only [List.all_eq_true, List.contains_iff_mem]
  have hcritical : (d.unknowns.any input.snapshot.criticalUnknownCodes.contains) = false ↔
      ∀ code ∈ d.unknowns, code ∉ input.snapshot.criticalUnknownCodes := by
    simp only [List.any_eq_false, List.contains_iff_mem]
  by_cases huncertain : d.decision = .uncertain
  · constructor
    · intro h
      rw [answerReasons, if_pos huncertain, List.append_eq_nil_iff] at h
      exact absurd h.2 (List.cons_ne_nil _ _)
    · intro h
      have hdirection := h.direction
      rw [huncertain] at hdirection
      rcases hdirection with h | h <;> cases h
  · have hdirection : d.decision = .up ∨ d.decision = .down := by
      cases hd : d.decision with
      | up => exact .inl rfl
      | down => exact .inr rfl
      | uncertain => exact absurd hd huncertain
    have hfalsifier : d.strongestFalsifier.isNone = false ↔ ∃ f, d.strongestFalsifier = some f := by
      rw [← Option.isSome_iff_exists, ← Option.not_isNone, Bool.not_eq_true']
    have hrelation : (reactionRelation input d.decision == .reverse) = false ∧
        (reactionRelation input d.decision == .none) = false ↔ Confirms input d.decision := by
      rw [← reactionRelation_eq_continue huncertain, beq_eq_false_iff_ne, beq_eq_false_iff_ne]
      have happlicable := @reactionRelation_applicable input d.decision huncertain
      cases hcase : reactionRelation input d.decision with
      | notApplicable => exact absurd hcase happlicable
      | _ => simp
    rw [answerReasons, if_neg huncertain]
    simp only [List.append_eq_nil_iff, codesIf_eq_nil, Bool.not_eq_false', cited_any, hallowed,
      hcritical, hfalsifier]
    constructor
    · rintro ⟨⟨⟨h₁, h₂⟩, h₃⟩, ⟨⟨⟨h₄, h₅⟩, h₆⟩, h₇⟩, h₈⟩
      exact ⟨hdirection, hknown.mp h₁, h₄, h₅, h₆, h₂, h₃, hrelation.mp ⟨h₇, h₈⟩⟩
    · intro h
      obtain ⟨hreverse, hnone⟩ := hrelation.mpr h.confirmed
      exact ⟨⟨⟨hknown.mpr h.known, h.allowed⟩, h.notCritical⟩,
        ⟨⟨⟨h.primary, h.market⟩, h.falsifier⟩, hreverse⟩, hnone⟩

theorem finalState_accepted {input : StrategyInput} {x : ReasonerExchange}
    {answer : Option ReasonerDecision} {fromExchange : List String} :
    (finalState (allReasons input x answer fromExchange) (answer.map (·.decision))
        (relationOf input (answer.map (·.decision)))).2 = .accepted ↔
      allReasons input x answer fromExchange = [] := by
  refine ⟨no_reasons_of_accepted, ?_⟩
  intro hnone
  cases answer with
  | none => exact absurd (List.append_eq_nil_iff.mp hnone).2 (List.cons_ne_nil _ _)
  | some d =>
    have hanswer : answerReasons input d = [] := (List.append_eq_nil_iff.mp hnone).2
    have hdirection := (answerReasons_eq_nil.mp hanswer).direction
    have hne : d.decision ≠ .uncertain := by
      intro huncertain
      rw [huncertain] at hdirection
      rcases hdirection with h | h <;> cases h
    rw [Option.map_some, relationOf, relation_of_no_reasons hne hanswer, hnone,
      finalState.eq_2 _ _ _ hne]
    rfl

/-! ### The validator -/

section Gate

variable {input : StrategyInput} {x : ReasonerExchange} {answer : Option ReasonerDecision}
  {build : String} {errorCode : Option String} {decision : StrategyDecision}

/-- What a call of the validator that returned has checked, and what it wrote. -/
theorem validate_eq_ok (h : validateStrategyDecision input x answer build errorCode = .ok decision) :
    isLowerHex 64 build = true ∧ errorCode.all isReasonCode = true ∧
      ∃ fromExchange semantics, exchangeReasons input x errorCode = .ok fromExchange ∧
        decision.toStrategyDecisionFields = validatedFields input x answer semantics build
          (allReasons input x answer fromExchange) := by
  simp only [validateStrategyDecision, except_bind_eq_ok, throwIf_eq_ok] at h
  obtain ⟨-, hbuild, fromExchange, hexchange, -, hcode, semantics, -, hfields⟩ := h
  refine ⟨by simpa using hbuild, ?_, fromExchange, semantics, hexchange, ?_⟩
  · cases errorCode with
    | none => rfl
    | some code => simpa using hcode
  · split at hfields
    · cases hfields
      rfl
    · cases hfields

theorem gated_of_ok (h : validateStrategyDecision input x answer build errorCode = .ok decision) :
    Gated input x answer errorCode decision := by
  obtain ⟨-, -, fromExchange, semantics, hexchange, hfields⟩ := validate_eq_ok h
  have hdisposition : decision.disposition = (finalState (allReasons input x answer fromExchange)
      (answer.map (·.decision)) (relationOf input (answer.map (·.decision)))).2 := by
    rw [hfields]
    rfl
  have hreasoner : decision.reasonerDirection = answer.map (·.decision) := by
    rw [hfields]
    rfl
  have hcheck : decision.checkDisposition = true := by
    have h := decision.accepted
    rw [StrategyDecisionFields.check, Bool.and_eq_true] at h
    exact h.2
  rw [StrategyDecisionFields.checkDisposition, Bool.and_eq_true] at hcheck
  refine ⟨?_, ?_, ?_⟩
  · rw [hdisposition, finalState_accepted, Admitted, ← exchangeReasons_eq_nil hexchange]
    cases answer with
    | none => simp [allReasons]
    | some d => simp [allReasons, answerReasons_eq_nil]
  · intro haccepted
    have hfirst := hcheck.1
    rw [if_pos haccepted] at hfirst
    simp only [Bool.and_eq_true, beq_iff_eq] at hfirst
    rw [← hreasoner, hfirst.1.1.2]
  · intro hrejected
    have hfirst := hcheck.1
    rw [if_neg hrejected] at hfirst
    simpa using hfirst

/-- The exchange can be judged when its settings can be written and its timeout is an instant. -/
theorem exchangeReasons_isOk_iff :
    (∃ reasons, exchangeReasons input x errorCode = .ok reasons) ↔
      x.decoding.printable = true ∧ (timesOutAt x.startedAt).InRange := by
  constructor
  · rintro ⟨reasons, h⟩
    simp only [exchangeReasons, reasonerExchangePolicyReasons, addSeconds, except_bind_eq_ok,
      throwIf_eq_ok, not_not] at h
    obtain ⟨-, ⟨-, hprintable, -, ⟨-, hrange, -⟩, -⟩, -⟩ := h
    exact ⟨by simpa using hprintable, hrange⟩
  · rintro ⟨hprintable, hrange⟩
    exact exchangeReasons_isOk errorCode hprintable hrange

end Gate

/-- An answer that is sure without naming any evidence. -/
def bareAnswer : ReasonerDecision where
  decision := .up
  evidenceIds := []
  contradictions := []
  unknowns := []
  strongestFalsifier := none
  summary := "Up."
  encodable := true
  accepted := by decide

def lastSeconds : ReasonerExchange where
  toReasonerExchangeFields :=
    { timedOut.toReasonerExchangeFields with
      startedAt := .utc 253402300794000000
      deadlineAt := .utc 253402300799000000
      createdAt := .utc 253402300799000000 }
  accepted := by decide

end EsscherMarket.Strategy.Engine
