import EsscherMarket.OptionEvents.Normalizer
import EsscherMarket.OptionEvents.Reducer

/-!
# The economics of option events

The normalizer reads the shares and the cash of an activity off its OCC symbol; the reducer expects
those of the legs of the permit.
-/

namespace EsscherMarket.OptionEvents

open Lib Strategy Execution

/-! ### Economics -/

theorem digitCount_thousand : Decimal.digitCount 1000 = 4 := by decide

/-- A strike of eight digits is read without loss. -/
theorem toRat_div_thousand {k : Nat} (hk : k < 10 ^ 8) :
    ((Decimal.ofNat k).div (.ofNat 1000)).toRat = k / 1000 := by
  rcases Nat.eq_zero_or_pos k with rfl | hpos
  · simp [Decimal.div, Decimal.ofNat, Decimal.toRat]
  have hcount : Decimal.digitCount k ≤ 8 := (Decimal.digitCount_le_iff (by decide)).mpr hk
  obtain ⟨n, hn⟩ : ∃ n : Nat, 4 - (Decimal.digitCount k : Int) + 28 + 1 = n + 3 :=
    ⟨30 - Decimal.digitCount k, by omega⟩
  have hshift : (Decimal.digitCount 1000 : Int) - Decimal.digitCount k + Decimal.precision + 1 =
      ((n + 3 : Nat) : Int) := by
    rw [digitCount_thousand]
    push_cast
    exact hn
  have hdividend : k * 10 ^ (n + 3) = k * 10 ^ n * 1000 := by
    rw [pow_add, mul_assoc]
    rfl
  have hvalue := Decimal.stripZeros_value (n + 3) (k * 10 ^ n) (0 - 0 - ((n + 3 : Nat) : Int))
  have hexact : ((k * 10 ^ n : Nat) : ℚ) * Decimal.pow10 (0 - 0 - ((n + 3 : Nat) : Int)) =
      k * Decimal.pow10 (-3) := by
    rw [Decimal.pow10_eq_zpow, Decimal.pow10_eq_zpow]
    push_cast
    rw [mul_assoc, ← zpow_natCast, ← zpow_add₀ (by norm_num)]
    congr 2
    ring
  have hk' : k < 10 ^ Decimal.precision := hk.trans (by decide)
  have hdiv : (Decimal.ofNat k).div (.ofNat 1000) =
      (Decimal.finite false (Decimal.stripZeros (n + 3) (k * 10 ^ n) (0 - 0 - ((n + 3 : Nat) : Int))).1
        (Decimal.stripZeros (n + 3) (k * 10 ^ n) (0 - 0 - ((n + 3 : Nat) : Int))).2).fix := by
    rw [Decimal.ofNat, Decimal.ofNat, Decimal.div, if_neg hpos.ne', hshift]
    dsimp only
    rw [Int.toNat_natCast, Int.toNat_neg_natCast, pow_zero, mul_one, hdividend,
      Nat.mul_div_cancel _ (by decide), Nat.mul_mod_left, if_neg (by decide)]
    rfl
  rw [hdiv, Decimal.toRat_fix_of_eq hk' (hvalue.trans hexact), Decimal.toRat, if_neg (by decide),
    one_mul, hvalue, hexact, Decimal.pow10_eq_zpow]
  norm_num
  ring

theorem occStrike_spec {symbol : String} {parts : OccParts} (h : parseOcc symbol = some parts) :
    (occStrike parts).isFinite = true ∧ (occStrike parts).toRat = parts.strike := by
  obtain ⟨k, hk, hstrike⟩ := strike_of_parseOcc h
  have hnum : (parts.strike * 1000).num = k := by
    have hmul : parts.strike * 1000 = (k : ℚ) := by
      rw [hstrike]
      ring
    rw [hmul]
    exact Rat.num_natCast k
  have hof : Decimal.ofInt (parts.strike * 1000).num = .ofNat k := by
    rw [hnum, Decimal.ofInt, Decimal.ofNat]
    simp
  rw [occStrike, hof, toRat_div_thousand hk, hstrike]
  exact ⟨Decimal.isFinite_div rfl rfl, rfl⟩

def hundred (given : Bool) : Decimal := .finite given 100 0

theorem toRat_hundred (given : Bool) : (hundred given).toRat = if given then -100 else 100 := by
  cases given <;> simp [hundred, Decimal.toRat, Decimal.pow10]

theorem toRat_hundred_ne_zero (given : Bool) : (hundred given).toRat ≠ 0 := by
  rw [toRat_hundred]
  cases given <;> norm_num

/-- What a hundred shares cost at a strike is exact. -/
theorem toRat_cash (given : Bool) {strike : Decimal} (hfinite : strike.isFinite = true) {k : Nat}
    (hk : k < 10 ^ 8) (hstrike : strike.toRat = k / 1000) :
    ((hundred given).times strike).neg.toRat = -((hundred given).toRat * strike.toRat) := by
  have hshort : k < 10 ^ Decimal.precision := hk.trans (by decide)
  have habs : |(hundred given).toRat * strike.toRat| = k * Decimal.pow10 (-1) := by
    have hnonneg : (0 : ℚ) ≤ k := Nat.cast_nonneg k
    rw [abs_mul, hstrike, abs_of_nonneg (by positivity : (0 : ℚ) ≤ k / 1000), toRat_hundred,
      Decimal.pow10_eq_zpow]
    cases given <;> norm_num <;> ring
  rw [Decimal.times, Decimal.toRat_neg_fix (Decimal.isFinite_mul rfl hfinite), ← Decimal.times,
    Decimal.toRat_times_of_abs rfl hfinite hshort habs]

theorem activityShareDelta_one {m : MappedActivity} (h : m.contracts = 1)
    (hkind : m.kind ≠ .expiry) :
    activityShareDelta m =
      hundred (xor (m.kind != .exercise) (m.parts.optionType == .put)) := by
  have hhundred : (Decimal.ofNat 1).times (.ofNat 100) = hundred false := by decide
  have hneg : (hundred false).neg = hundred true := by decide
  have hneg' : (hundred true).neg = hundred false := by decide
  rw [activityShareDelta, if_neg hkind, h, hhundred]
  cases hk : m.kind <;> cases ht : m.parts.optionType <;> simp [hneg, hneg'] <;> rfl

/-- One bound contract of a leg moves a hundred shares. -/
theorem shareDelta_one (optionType : OptionType) :
    shareDelta optionType (.ofInt 1) = hundred (optionType == .put) ∧
      shareDelta optionType (Decimal.ofInt 1).neg = hundred (optionType != .put) := by
  cases optionType <;> decide

structure LegOf (binding : OptionLifecycleBinding) (symbol : String) (short : Bool)
    (strike : Decimal) (parts : OccParts) : Prop where
  terms : legTerms binding symbol =
    some (if short then (Decimal.ofInt 1).neg else .ofInt 1, strike)
  occ : parseOcc symbol = some parts
  optionType : parts.optionType = binding.fields.optionType
  value : parts.strike = strike.toRat
  finite : strike.isFinite = true

/-- The economics of a normalized activity are the expected ones exactly when the long leg was
exercised or the short leg assigned. -/
theorem eventEconomicsValid_iff {binding : OptionLifecycleBinding} {event : NormalizedOptionEvent}
    {m : MappedActivity} {short : Bool} {strike : Decimal} (hevent : FromActivity event.fields m)
    (hleg : LegOf binding m.symbol short strike m.parts) (hone : m.contracts = 1) :
    eventEconomicsValid binding event = true ↔
      (m.kind = .exercise ∧ short = false) ∨ (m.kind = .assignment ∧ short = true) := by
  obtain ⟨k, hk, hocc⟩ := strike_of_parseOcc hevent.occ
  obtain ⟨hoccFinite, hoccStrike⟩ := occStrike_spec hevent.occ
  have hstrike : strike.toRat = k / 1000 := hleg.value ▸ hocc
  obtain ⟨hlong, hshort⟩ := shareDelta_one binding.fields.optionType
  have hsame : ∀ given, ((hundred given).times (occStrike m.parts)).neg.toRat =
      ((hundred given).times strike).neg.toRat := by
    intro given
    rw [toRat_cash given hoccFinite hk (hoccStrike.trans hocc),
      toRat_cash given hleg.finite hk hstrike, hoccStrike, hleg.value]
  have hone' : (Decimal.ofNat 1).toRat = ((Decimal.ofInt 1).abs).toRat ∧
      (Decimal.ofNat 1).toRat = ((Decimal.ofInt 1).neg.abs).toRat := ⟨rfl, rfl⟩
  have hsign : (0 ≤ (Decimal.ofInt 1).toRat ∧ ¬(Decimal.ofInt 1).toRat ≤ 0) ∧
      (¬0 ≤ (Decimal.ofInt 1).neg.toRat ∧ (Decimal.ofInt 1).neg.toRat ≤ 0) := by
    have hneg : (Decimal.ofInt 1).neg = .finite true 1 0 := rfl
    norm_num [hneg, Decimal.toRat_finite]
  rw [eventEconomicsValid, hevent.symbol, hleg.terms]
  simp only [hevent.contracts, hone, hevent.kind, hevent.shares, hevent.cash]
  rcases hevent.mapped with hkind | hkind | hkind
  · have hshares := activityShareDelta_one hone (by rw [hkind]; decide)
    cases short with
    | false => simp [hkind]
    | true =>
      have hgiven : xor (m.kind != .exercise) (m.parts.optionType == .put) =
          (binding.fields.optionType != .put) := by
        rw [hkind, hleg.optionType]
        exact Bool.true_xor _
      rw [hgiven] at hshares
      simp [hkind, hshares, hshort, hone'.2, hsign.2.1, hsame]
  · have hshares := activityShareDelta_one hone (by rw [hkind]; decide)
    cases short with
    | false =>
      have hgiven : xor (m.kind != .exercise) (m.parts.optionType == .put) =
          (binding.fields.optionType == .put) := by
        rw [hkind, hleg.optionType]
        exact Bool.false_xor _
      rw [hgiven] at hshares
      simp [hkind, hshares, hlong, hone'.1, hsame]
    | true => simp [hkind, hsign.2.2]
  · have hshares : (activityShareDelta m).toRat = 0 := by
      rw [activityShareDelta, if_pos hkind]
      exact Decimal.toRat_ofNat 0
    have hmoved : ∀ given, (0 : ℚ) ≠ (hundred given).toRat := fun given =>
      (toRat_hundred_ne_zero given).symm
    cases short with
    | false => simp [hkind, hshares, hlong, hmoved]
    | true => simp [hkind, hshares, hshort, hmoved]

theorem deltas_zero_iff {event : NormalizedOptionEvent} {m : MappedActivity}
    (hevent : FromActivity event.fields m) (hone : m.contracts = 1) :
    (event.fields.underlyingQuantityDelta.toRat = 0 ∧ event.fields.cashDelta.toRat = 0) ↔
      m.kind = .expiry := by
  rw [hevent.shares, hevent.cash]
  by_cases hkind : m.kind = .expiry
  · have hzero : ∀ d : Decimal, d.isFinite = true → ((Decimal.ofNat 0).times d).neg.toRat = 0 := by
      intro d hd
      have hproduct : ((Decimal.ofNat 0).toRat * d.toRat) = 0 := by
        rw [show (Decimal.ofNat 0).toRat = 0 from Decimal.toRat_ofNat 0, zero_mul]
      have hexact : ((Decimal.ofNat 0).times d).toRat = (Decimal.ofNat 0).toRat * d.toRat :=
        @Decimal.toRat_times_of_abs (.ofNat 0) d rfl hd 0 0 (by decide) (by rw [hproduct]; simp)
      rw [Decimal.times, Decimal.toRat_neg_fix (Decimal.isFinite_mul rfl hd), ← Decimal.times, hexact,
        hproduct, neg_zero]
    have hshares : activityShareDelta m = .ofNat 0 := by rw [activityShareDelta, if_pos hkind]
    rw [hshares]
    exact ⟨fun _ => hkind,
      fun _ => ⟨Decimal.toRat_ofNat 0, hzero _ (occStrike_spec hevent.occ).1⟩⟩
  · rw [activityShareDelta_one hone hkind]
    exact ⟨fun h => absurd h.1 (toRat_hundred_ne_zero _), fun h => absurd h hkind⟩

/-! ### The legs of a binding -/

theorem leg_occ (leg : OptionLeg) : ∃ parts, parseOcc leg.symbol = some parts ∧
    parts.optionType = leg.optionType ∧ parts.strike = leg.strike.toRat ∧
    leg.strike.isFinite = true := by
  have h := leg.accepted
  simp only [OptionLegFields.check, Bool.and_eq_true] at h
  have hparts := h.2
  split at hparts
  · cases hparts
  · rename_i parts hparse
    simp only [Bool.and_eq_true, beq_iff_eq] at hparts
    exact ⟨parts, hparse, hparts.1.2, hparts.2, h.1.1.2⟩

theorem optionType_shortLeg (p : DebitVerticalPermit) :
    p.shortLeg.optionType = p.longLeg.optionType := by
  have h := p.accepted
  simp only [DebitVerticalPermitFields.check, DebitVerticalPermitFields.checkTerms,
    DebitVerticalPermitFields.checkLegs, Bool.and_eq_true, beq_iff_eq] at h
  tauto

theorem legOf_create {K : Runtime.Contracts} {a : BindingArguments}
    {binding : OptionLifecycleBinding} (h : OptionLifecycleBinding.create K a = some binding) :
    (∃ parts, LegOf binding binding.fields.longSymbol false binding.fields.longStrike parts) ∧
      ∃ parts, LegOf binding binding.fields.shortSymbol true binding.fields.shortStrike parts := by
  have hfields := (OptionLifecycleBinding.create_eq_some.mp h).2
  have hquantity : binding.fields.quantity = 1 := by
    rw [hfields]
    exact a.permit.quantity_eq_one
  have hcheck := binding.accepted
  simp only [bindingKind, BindingFields.check, Bool.and_eq_true] at hcheck
  have hsymbols : binding.fields.longSymbol ≠ binding.fields.shortSymbol := by
    have := hcheck.1.1.1.1.1.1.1.1.1.1.1.2
    simpa using this
  obtain ⟨long, hlong, hlongType, hlongStrike, hlongFinite⟩ := leg_occ a.permit.longLeg
  obtain ⟨short, hshort, hshortType, hshortStrike, hshortFinite⟩ := leg_occ a.permit.shortLeg
  refine ⟨⟨long, ?_, ?_, ?_, ?_, ?_⟩, ⟨short, ?_, ?_, ?_, ?_, ?_⟩⟩
  · rw [legTerms, if_pos rfl, hquantity]
    rfl
  · rw [hfields]; exact hlong
  · rw [hfields]; exact hlongType
  · rw [hfields]; exact hlongStrike
  · rw [hfields]; exact hlongFinite
  · rw [legTerms, if_neg hsymbols.symm, if_pos rfl, hquantity]
    rfl
  · rw [hfields]; exact hshort
  · rw [hfields]; exact hshortType.trans (optionType_shortLeg a.permit)
  · rw [hfields]; exact hshortStrike
  · rw [hfields]; exact hshortFinite

def spyPositions : List PortfolioPosition :=
  [⟨.option, "SPY260918C00500000", .ofNat 1⟩, ⟨.option, "SPY260918C00505000", .ofInt (-1)⟩]

/-- The positions after the entry, on the fifteenth of July. -/
def spyActivation : OptionPortfolioObservation where
  fields := ⟨Runtime.July.sha 'b', Runtime.July.sha '4', (Runtime.July.at_ 900).micros,
    spyPositions, digestA, .syntheticFixture⟩
  accepted := by decide +kernel

theorem spyTerms_checkTerms_protocol :
    { spyTerms "OPPORTUNITY-1" digestA with
      executionProtocolSha256 := Runtime.July.sha '4' : DebitVerticalPermitFields }.checkTerms =
        true := by
  decide +kernel

def spyArguments : BindingArguments where
  arm := Runtime.July.arm
  lifecycle := .forCandidate Runtime.July.arm (Runtime.July.opportunity "OPPORTUNITY-1") "LIFECYCLE-1"
  permit := .ofTerms _ spyTerms_checkTerms_protocol
  reservationId := "RESERVATION-1"
  activationObservation := spyActivation
  expirationSessionDate := ⟨2026, 9, 18⟩
  expirationSessionClose := (Runtime.July.at_ 94800).micros
  expirationActivityHorizon := (Runtime.July.at_ 96000).micros
  calendarSha256 := digestA

theorem isAlphanumeric_of_isLowerHex {n : Nat} {s : String} (h : isLowerHex n s = true) :
    ∀ c ∈ s.toList, isAlphanumeric c = true := by
  intro c hc
  obtain ⟨b, hb, hascii⟩ := head_utf8EncodeChar c
  simp only [isLowerHex, Bool.and_eq_true, List.all_eq_true] at h
  have hhex := h.2 b (by rw [toUTF8_toList]; exact List.mem_flatMap.mpr ⟨c, hc, hb⟩)
  simp only [isHexByte, Bool.or_eq_true, Bool.and_eq_true, decide_eq_true_eq,
    UInt8.le_iff_toNat_le] at hhex
  simp at hhex
  have hsame : b.toNat = c.toNat := hascii (by omega)
  rw [isAlphanumeric_iff]
  omega

theorem isBoundedId_debitVerticalPermitId (p : DebitVerticalPermitFields) :
    isBoundedId (debitVerticalPermitId p) = true := by
  rw [debitVerticalPermitId, paperExecutionPermitId]
  generalize hdigest : Json.sha256 _ = digest
  have hhex : isLowerHex 64 digest = true := hdigest ▸ Json.isLowerHex_sha256 _
  have hrest : ("rd-permit-" ++ String.ofList (digest.toList.take 32)).toList =
      'r' :: ("d-permit-".toList ++ digest.toList.take 32) := by
    rw [String.toList_append, @String.toList_ofList (digest.toList.take 32)]
    rfl
  rw [isBoundedId, matchesText, hrest]
  simp only [Bool.and_eq_true, List.all_append, decide_eq_true_eq, List.length_append]
  refine ⟨⟨by decide, by decide, ?_⟩, ?_⟩
  · rw [List.all_eq_true]
    intro c hc
    rw [isAlphanumeric_of_isLowerHex hhex c (List.mem_of_mem_take hc)]
    rfl
  · have hlength : (digest.toList.take 32).length ≤ 32 := by
      rw [List.length_take]
      exact min_le_left _ _
    have htext : "d-permit-".toList.length = 9 := by decide
    omega

theorem check_spyArguments : spyArguments.fields.check = true := by
  have hlifecycle : isDigest spyArguments.fields.lifecycleSha256 = true := Json.isLowerHex_sha256 _
  have hopportunity : isDigest spyArguments.fields.opportunitySha256 = true :=
    Json.isLowerHex_sha256 _
  have hpermit : isDigest spyArguments.fields.permitSha256 = true := Json.isLowerHex_sha256 _
  have harm : isDigest spyArguments.fields.sessionArmSha256 = true := Json.isLowerHex_sha256 _
  have hobservation : isDigest spyArguments.fields.activationObservationSha256 = true :=
    Json.isLowerHex_sha256 _
  have hpermitId : isBoundedId spyArguments.fields.permitId = true :=
    isBoundedId_debitVerticalPermitId _
  simp only [BindingFields.check, Bool.and_eq_true, List.all_cons, List.all_nil, hlifecycle,
    hopportunity, hpermit, harm, hobservation, hpermitId]
  decide +kernel

def spyBinding : OptionLifecycleBinding := ⟨spyArguments.fields, check_spyArguments⟩

theorem create_spyArguments :
    OptionLifecycleBinding.create Runtime.July.contracts spyArguments = some spyBinding := by
  have harm : (Runtime.validateArm Runtime.July.contracts spyArguments.arm).isOk = true := by
    decide
  have hlifecycle : spyArguments.lifecycle.check = .ok () :=
    Runtime.ActiveLifecycleIdentity.check_forCandidate (by decide) (by decide)
      (by decide)
  have hpermitId : spyArguments.permit.permitId =
      debitVerticalPermitId spyArguments.permit.toDebitVerticalPermitFields := rfl
  have hothers : (spyArguments.lifecycle.sessionId == spyArguments.arm.sessionId) = true ∧
      (spyArguments.lifecycle.opportunityId == spyArguments.permit.eventRunId) = true ∧
      (spyArguments.permit.executionProtocolSha256 ==
        spyArguments.arm.executionProtocolSha256) = true ∧
      (spyArguments.activationObservation.fields.accountFingerprintSha256 ==
        spyArguments.arm.accountFingerprintSha256) = true ∧
      (spyArguments.activationObservation.fields.executionProtocolSha256 ==
        spyArguments.arm.executionProtocolSha256) = true := by decide
  have hquantities : decide ((positionQuantity spyArguments.activationObservation .option
      spyArguments.permit.longLeg.symbol).toRat = spyArguments.permit.quantity) = true ∧
    decide ((positionQuantity spyArguments.activationObservation .option
      spyArguments.permit.shortLeg.symbol).toRat = -spyArguments.permit.quantity) = true := by
    decide +kernel
  obtain ⟨hsession, hevent, hprotocol, haccount, hprotocol'⟩ := hothers
  refine OptionLifecycleBinding.create_eq_some.mpr ⟨?_, rfl⟩
  simp only [BindingArguments.bound, Bool.and_eq_true]
  refine ⟨⟨⟨⟨⟨⟨⟨⟨⟨harm, ?_⟩, hsession⟩, hevent⟩, beq_iff_eq.mpr hpermitId⟩, hprotocol⟩, haccount⟩,
    hprotocol'⟩, hquantities.1⟩, hquantities.2⟩
  rw [hlifecycle]
  rfl

/-- The exercise of the long leg, as the broker reports it. -/
def spyExercise : Json :=
  .obj [("activity_type", .str "OPEXC"), ("date", .str "2026-09-18"), ("id", .str "A1"),
    ("qty", .str "1"), ("symbol", .str "SPY260918C00500000"),
    ("transaction_time", .str "2026-09-18T20:00:00Z")]

def spyReaders : ActivityReaders where
  floats := ⟨id, fun _ => true, fun _ h _ => h, fun _ _ _ => ⟨rfl, rfl⟩⟩
  timestamp s := if s = "2026-09-18T20:00:00Z" then some (Runtime.July.at_ 94800).micros else none
  date s := if s = "2026-09-18" then some ⟨2026, 9, 18⟩ else none

def spyAcquisition : ActivityAcquisition where
  windowStart := (Runtime.July.at_ 0).micros
  windowEnd := (Runtime.July.at_ 96000).micros
  pages := [(Json.arr [spyExercise]).canonicalBytes]

def spyNormalizer : NormalizerArguments :=
  ⟨Runtime.July.sha 'b', Runtime.July.sha '4', .syntheticFixture⟩

def spyMapped : MappedActivity where
  kind := .exercise
  observedAt := (Runtime.July.at_ 94800).micros
  effectiveDate := ⟨2026, 9, 18⟩
  symbol := "SPY260918C00500000"
  parts := ⟨"SPY", ⟨2026, 9, 18⟩, .call, 500⟩
  contracts := 1

def spyEventFields : EventFields :=
  activityEventFields spyNormalizer "A1" spyExercise.sha256 spyMapped

theorem check_eventKind (fields : EventFields) : eventKind.check fields = fields.check := rfl

theorem check_spyEventFields : eventKind.check spyEventFields = true := by
  have hsha : isDigest spyExercise.sha256 = true := Json.isLowerHex_sha256 _
  rw [check_eventKind]
  simp only [EventFields.check, spyEventFields, activityEventFields, List.all_cons, List.all_nil,
    hsha, Bool.and_eq_true]
  decide +kernel

def spyEvent : NormalizedOptionEvent := ⟨spyEventFields, check_spyEventFields⟩

theorem create_eq_some {fields : EventFields} (h : eventKind.check fields = true) :
    NormalizedOptionEvent.create fields = some ⟨fields, h⟩ := dif_pos h

theorem pageItems_spyExercise :
    pageItems spyReaders (Json.arr [spyExercise]).canonicalBytes = some [spyExercise] := by
  have hread : Json.loads (Json.arr [spyExercise]).canonicalBytes = some (.arr [spyExercise]) :=
    Json.loads_canonicalBytes (by decide)
  rw [pageItems, hread]
  rfl

deriving instance DecidableEq for OccParts

theorem readMapped_spyExercise :
    readMapped spyReaders spyAcquisition .exercise spyExercise = .ok spyMapped := by
  have hocc : (parseOcc "SPY260918C00500000").filter (fun parts => decide (0 < parts.strike)) =
      some ⟨"SPY", ⟨2026, 9, 18⟩, .call, 500⟩ := by decide
  have hqty : positiveIntQty (.str "1") = some 1 := by decide
  have hextra : (mappedActivityExtraFields.all fun name => (spyExercise.field? name).isSome) =
      true := by decide
  have hwindow : spyAcquisition.windowStart ≤ (Runtime.July.at_ 94800).micros ∧
      (Runtime.July.at_ 94800).micros ≤ spyAcquisition.windowEnd := by decide
  have hsymbol : spyExercise.get "symbol" = .str "SPY260918C00500000" := rfl
  have hqty' : spyExercise.get "qty" = .str "1" := rfl
  rw [readMapped]
  refine except_bind_eq_ok.mpr ⟨(), throwIf_eq_ok.mpr (by simp [hextra]), ?_⟩
  refine except_bind_eq_ok.mpr ⟨(Runtime.July.at_ 94800).micros, rfl, ?_⟩
  refine except_bind_eq_ok.mpr ⟨(), throwIf_eq_ok.mpr (by simpa using hwindow), ?_⟩
  refine except_bind_eq_ok.mpr ⟨⟨2026, 9, 18⟩, rfl, ?_⟩
  rw [hsymbol, hqty']
  dsimp only
  rw [hocc, hqty]
  rfl

theorem normalizeActivity_spyExercise :
    normalizeActivity spyReaders spyAcquisition spyNormalizer ⟨[], [], [], 0, []⟩ spyExercise =
      some ⟨[spyEvent], [], [], 0, [("A1", spyExercise.sha256)]⟩ := by
  have hallowed : (fieldNames spyExercise).all allowedActivityFields.contains = true ∧
      (requiredActivityFields.all fun name => (spyExercise.field? name).isSome) = true := by
    decide
  have hkind : (mappedActivityTypes.find? fun item => item.1 == "OPEXC") =
    some ("OPEXC", .exercise) := rfl
  have hid : spyExercise.get "id" = .str "A1" := rfl
  have htype : spyExercise.get "activity_type" = .str "OPEXC" := rfl
  have hcodes : manualActivityTypes.contains "OPEXC" = false ∧
    skippedActivityTypes.contains "OPEXC" = false := by decide
  rw [normalizeActivity, hid, htype]
  dsimp only
  rw [if_neg (by decide), if_neg (by simp [hallowed.1]), if_neg (by simp [hallowed.2]), hcodes.1,
    hcodes.2, if_neg (by decide), if_neg (by decide), hkind]
  dsimp only
  rw [readMapped_spyExercise]
  dsimp only
  rw [NormalizerState.seenSha, List.find?_nil, Option.map_none]
  dsimp only
  rw [← spyEventFields, create_eq_some check_spyEventFields, ← spyEvent]
  rfl

theorem normalize_spyAcquisition :
    normalizeAccountActivities spyReaders spyAcquisition spyNormalizer =
      some ⟨[spyEvent], [], [], 0, [("A1", spyExercise.sha256)]⟩ := by
  have hpages : spyAcquisition.pages.mapM (pageItems spyReaders) = some [[spyExercise]] := by
    rw [spyAcquisition, List.mapM_cons, pageItems_spyExercise]
    rfl
  simp only [normalizeAccountActivities, hpages, Option.bind_eq_bind, Option.bind_some,
    List.flatten_cons, List.flatten_nil, List.append_nil, List.foldlM_cons, List.foldlM_nil,
    normalizeActivity_spyExercise, Option.pure_def, orderedEvents, List.mergeSort_singleton]

end EsscherMarket.OptionEvents
