import EsscherMarket.Lib.DecimalContext
import EsscherMarket.Lib.JsonFormat
import EsscherMarket.Risk.Policy

/-!
# The bytes of the V2 policy

`risk_policy_v2_bytes` and `parse_risk_policy_v2` of `risk/policy.py`.  The parser compares the seven
numbers with the owner's values, and each is written with the digits it was read with: `0.1` and
`0.10` are both the tier of ten percent.
-/

namespace EsscherMarket.Risk

open Lib

/-! ### The parser -/

def readV2Decimal (expected : Decimal) : Json → Option Decimal
  | .str s => do
    let result ← Decimal.parse s
    if result.isFinite ∧ result.toText = s ∧ result.toRat = expected.toRat then some result else none
  | _ => none

/-- `_v2_decimal` of each tier. -/
def readV2Tiers : Json → Option (Decimal × Decimal × Decimal)
  | .arr [first, second, third] => do
    return (← readV2Decimal (.cents 10) first, ← readV2Decimal (.cents 5) second,
      ← readV2Decimal (.cents 20) third)
  | _ => none

def readV2Text (expected : String) : Json → Option String := Json.readText (· == expected)

def readV2Sha256 (expected : String) : Json → Option String :=
  Json.readText fun s => isLowerHex 64 s && s == expected

def readV2Null : Json → Option Unit
  | .null => some ()
  | _ => none

def readV2True : Json → Option Bool
  | .bool true => some true
  | _ => none

def readV2Int : Json → Option Int
  | .int n => if n = 30 then some n else none
  | _ => none

/-- `parse_risk_policy_v2` of an object of the right keys, without the comparison of the bytes. -/
def readRiskPolicyV2 (v : Json) : Option RiskPolicyV2 := do
  if (v.get "schema").isText "esscher.paper_account_risk_policy" &&
      Json.readInt (v.get "schema_version") == some 2 && (v.get "run_mode").isText "PAPER" then
    let tiers ← readV2Tiers (v.get "risk_tiers")
    readV2Null (v.get "daily_loss_stop")
    readV2Null (v.get "trade_count_cap")
    readV2Null (v.get "open_expression_count_cap")
    let fields : RiskPolicyV2Fields := {
      policyId := ← readV2Text "PAPER_ACCOUNT_RISK_POLICY_V2" (v.get "policy_id")
      version := ← readV2Text "v2" (v.get "version")
      runMode := "PAPER"
      startingEquity := ← readV2Decimal (.ofNat 100000) (v.get "starting_equity")
      riskTiers := tiers
      maxPerUnderlyingOpenDebitFraction :=
        ← readV2Decimal (.cents 20) (v.get "max_per_underlying_open_debit_fraction")
      maxAggregateOpenDebitFraction :=
        ← readV2Decimal (.cents 50) (v.get "max_aggregate_open_debit_fraction")
      emergencyDrawdownFreezeFraction :=
        ← readV2Decimal (.cents 50) (v.get "emergency_drawdown_freeze_fraction")
      cashOnly := ← readV2True (v.get "cash_only")
      definedRiskOnly := ← readV2True (v.get "defined_risk_only")
      truthMaxAgeSeconds := ← readV2Int (v.get "truth_max_age_seconds")
      ownerPolicySha256 :=
        ← readV2Sha256 approvedOwnerPolicySha256 (v.get "owner_policy_sha256")
      constantsSourceSha256 :=
        ← readV2Sha256 approvedOwnerPolicySha256 (v.get "constants_source_sha256") }
    if h : fields.check = true then some ⟨fields, h⟩ else none
  else none

def riskPolicyV2Format : Json.Format RiskPolicyV2 where
  keys := ["schema", "schema_version", "policy_id", "version", "run_mode", "starting_equity",
    "risk_tiers", "max_per_underlying_open_debit_fraction", "max_aggregate_open_debit_fraction",
    "emergency_drawdown_freeze_fraction", "daily_loss_stop", "trade_count_cap",
    "open_expression_count_cap", "cash_only", "defined_risk_only", "truth_max_age_seconds",
    "owner_policy_sha256", "constants_source_sha256"]
  payload := riskPolicyV2Payload
  read := readRiskPolicyV2

def riskPolicyV2Bytes (p : RiskPolicyV2) : List UInt8 := riskPolicyV2Format.encode p

/-- `parse_risk_policy_v2`; `none` where it rejects. -/
def parseRiskPolicyV2 (raw : List UInt8) : Option RiskPolicyV2 := riskPolicyV2Format.decode raw

/-! ### Equal policies -/

namespace RiskPolicyV2

def numbers (p : RiskPolicyV2) : List Decimal :=
  [p.startingEquity, p.riskTiers.1, p.riskTiers.2.1, p.riskTiers.2.2,
    p.maxPerUnderlyingOpenDebitFraction, p.maxAggregateOpenDebitFraction,
    p.emergencyDrawdownFreezeFraction]

def others (p : RiskPolicyV2) : String × String × String × Bool × Bool × Int × String × String :=
  (p.policyId, p.version, p.runMode, p.cashOnly, p.definedRiskOnly, p.truthMaxAgeSeconds,
    p.ownerPolicySha256, p.constantsSourceSha256)

end RiskPolicyV2

/-- Equal policies: numbers are compared by their values. -/
structure SamePolicy (p q : RiskPolicyV2) : Prop where
  numbers : p.numbers.map Decimal.toRat = q.numbers.map Decimal.toRat
  others : p.others = q.others

def ownerNumbers : List Decimal :=
  [.ofNat 100000, .cents 10, .cents 5, .cents 20, .cents 20, .cents 50, .cents 50]

theorem RiskPolicyV2.owned (p : RiskPolicyV2) :
    (∀ d ∈ p.numbers, d.isFinite = true) ∧
    p.numbers.map Decimal.toRat = ownerNumbers.map Decimal.toRat ∧
    p.others = ("PAPER_ACCOUNT_RISK_POLICY_V2", "v2", "PAPER", true, true, 30,
      approvedOwnerPolicySha256, approvedOwnerPolicySha256) := by
  have h := p.accepted
  simp only [RiskPolicyV2Fields.check, isOwnerValue, Bool.and_eq_true, beq_iff_eq] at h
  obtain ⟨⟨⟨⟨⟨⟨⟨⟨⟨⟨⟨⟨⟨⟨hid, hversion⟩, hmode⟩, hequity⟩, hfirst⟩, hsecond⟩, hthird⟩, hunderlying⟩,
    haggregate⟩, hfreeze⟩, hcash⟩, hrisk⟩, hage⟩, howner⟩, hsource⟩ := h
  refine ⟨?_, ?_, ?_⟩
  · simp only [RiskPolicyV2.numbers, List.forall_mem_cons, hequity.1, hfirst.1, hsecond.1, hthird.1,
      hunderlying.1, haggregate.1, hfreeze.1, List.not_mem_nil, false_imp_iff, implies_true,
      and_self]
  · simp only [RiskPolicyV2.numbers, ownerNumbers, List.map_cons, List.map_nil, hequity.2, hfirst.2,
      hsecond.2, hthird.2, hunderlying.2, haggregate.2, hfreeze.2]
  · rw [RiskPolicyV2.others, hid, hversion, hmode, hcash, hrisk, hage, howner, hsource]

theorem samePolicy (p q : RiskPolicyV2) : SamePolicy p q :=
  ⟨p.owned.2.1.trans q.owned.2.1.symm, p.owned.2.2.trans q.owned.2.2.symm⟩

theorem RiskPolicyV2.ext_fields {p q : RiskPolicyV2}
    (h : p.toRiskPolicyV2Fields = q.toRiskPolicyV2Fields) : p = q := by
  cases p
  cases q
  cases h
  rfl

/-- A policy is its numbers: the other fields are the owner's. -/
theorem eq_of_numbers {p q : RiskPolicyV2} (h : p.numbers = q.numbers) : p = q := by
  have hothers := (samePolicy p q).others
  obtain ⟨⟨⟩, _⟩ := p
  obtain ⟨⟨⟩, _⟩ := q
  simp only [RiskPolicyV2.numbers, RiskPolicyV2.others, List.cons.injEq, Prod.mk.injEq,
    and_true] at h hothers
  obtain ⟨rfl, hfirst, hsecond, hthird, rfl, rfl, rfl⟩ := h
  obtain ⟨rfl, rfl, rfl, rfl, rfl, rfl, rfl, rfl⟩ := hothers
  congr
  exact Prod.ext hfirst (Prod.ext hsecond hthird)

/-! ### Reading what is written -/

section RoundTrip

variable {p q : RiskPolicyV2}

theorem readV2Decimal_toText {d expected : Decimal} (hd : d.isFinite = true)
    (h : d.toRat = expected.toRat) : readV2Decimal expected (.str d.toText) = some d := by
  rw [readV2Decimal, Decimal.parse_toText hd]
  exact if_pos ⟨hd, rfl, h⟩

theorem wellFormed_payload (p : RiskPolicyV2) : (riskPolicyV2Payload p).wellFormed = true := by
  have htiers : (Json.arr [.str p.riskTiers.1.toText, .str p.riskTiers.2.1.toText,
      .str p.riskTiers.2.2.toText]).wellFormed = true :=
    Json.wellFormed_texts [p.riskTiers.1.toText, p.riskTiers.2.1.toText, p.riskTiers.2.2.toText]
  refine Json.wellFormed_obj.mpr ⟨?_, ?_⟩
  · simp only [List.map_cons, List.map_nil]
    decide
  · simp only [List.forall_mem_cons, Json.wellFormed_str, Json.wellFormed_int,
      Json.wellFormed_bool, Json.wellFormed_null, htiers, List.not_mem_nil, false_imp_iff,
      implies_true, and_self]

theorem sorted_tiers (a b c : String) :
    (Json.arr [.str a, .str b, .str c]).sorted = .arr [.str a, .str b, .str c] := by
  rw [Json.sorted, Json.sortedItems_eq]
  rfl

theorem readRiskPolicyV2_payload {v : Json}
    (h : ∀ key, v.get key = ((riskPolicyV2Payload p).get key).sorted) :
    readRiskPolicyV2 v = some p := by
  have hp := p.accepted
  simp only [RiskPolicyV2Fields.check, isOwnerValue, Bool.and_eq_true, beq_iff_eq] at hp
  obtain ⟨⟨⟨⟨⟨⟨⟨⟨⟨⟨⟨⟨⟨⟨hid, hversion⟩, hmode⟩, hequity⟩, hfirst⟩, hsecond⟩, hthird⟩, hunderlying⟩,
    haggregate⟩, hfreeze⟩, hcash⟩, hrisk⟩, hage⟩, howner⟩, hsource⟩ := hp
  have hhex : isLowerHex 64 approvedOwnerPolicySha256 = true := by decide
  have htiers : readV2Tiers (.arr [.str p.riskTiers.1.toText, .str p.riskTiers.2.1.toText,
      .str p.riskTiers.2.2.toText]) = some p.riskTiers := by
    rw [readV2Tiers, readV2Decimal_toText hfirst.1 hfirst.2,
      readV2Decimal_toText hsecond.1 hsecond.2, readV2Decimal_toText hthird.1 hthird.2]
    rfl
  have hfields : (⟨"PAPER_ACCOUNT_RISK_POLICY_V2", "v2", "PAPER", p.startingEquity, p.riskTiers,
      p.maxPerUnderlyingOpenDebitFraction, p.maxAggregateOpenDebitFraction,
      p.emergencyDrawdownFreezeFraction, true, true, 30, approvedOwnerPolicySha256,
      approvedOwnerPolicySha256⟩ : RiskPolicyV2Fields) = p.toRiskPolicyV2Fields := by
    rw [← hid, ← hversion, ← hmode, ← hage]
    rw [RiskPolicyV2Fields.mk.injEq]
    exact ⟨rfl, rfl, rfl, rfl, rfl, rfl, rfl, rfl, hcash.symm, hrisk.symm, rfl, howner.symm,
      hsource.symm⟩
  simp only [readRiskPolicyV2, h, riskPolicyV2Payload, Json.get_cons, String.reduceEq, if_true,
    if_false, Json.sorted_str, Json.sorted_int, Json.sorted_bool, Json.sorted_null, sorted_tiers,
    hid, hversion, hmode, hcash, hrisk, hage, howner, hsource, Json.isText, Json.readInt,
    beq_self_eq_true, Bool.and_self, htiers, readV2Null, readV2True, readV2Int, readV2Text,
    readV2Sha256, Json.readText, hhex, readV2Decimal_toText hequity.1 hequity.2,
    readV2Decimal_toText hunderlying.1 hunderlying.2,
    readV2Decimal_toText haggregate.1 haggregate.2, readV2Decimal_toText hfreeze.1 hfreeze.2,
    Option.bind_eq_bind, Option.bind_some]
  rw [dif_pos (hfields ▸ p.accepted)]
  exact congrArg some (RiskPolicyV2.ext_fields hfields)

/-- A policy is read back from its bytes. -/
theorem parse_policyBytes (p : RiskPolicyV2) : parseRiskPolicyV2 (riskPolicyV2Bytes p) = some p :=
  Json.Format.decode_encode (wellFormed_payload p) rfl (fun _ h => readRiskPolicyV2_payload h) rfl

/-! ### The spelling of the numbers -/

def exponentOf : Json → Option Int
  | .str s => (Decimal.parse s).bind fun
    | .finite _ _ e => some e
    | _ => none
  | _ => none

def numberExponents (raw : List UInt8) : Option (List (Option Int)) :=
  (Json.loadsUnique raw).map fun v =>
    (v.get "starting_equity" :: (match v.get "risk_tiers" with
      | .arr tiers => tiers
      | _ => []) ++ [v.get "max_per_underlying_open_debit_fraction",
        v.get "max_aggregate_open_debit_fraction",
        v.get "emergency_drawdown_freeze_fraction"]).map exponentOf

theorem numberExponents_bytes (p : RiskPolicyV2) : numberExponents (riskPolicyV2Bytes p) =
    some (p.numbers.map fun d => exponentOf (.str d.toText)) := by
  have hloads : Json.loadsUnique (riskPolicyV2Bytes p) = some (riskPolicyV2Payload p).sorted :=
    Json.loadsWith_canonicalBytes (wellFormed_payload p) .unique
  have hget := Json.get_sorted (wellFormed_payload p)
  rw [numberExponents, hloads]
  simp only [Option.map_some, hget]
  simp only [riskPolicyV2Payload, Json.get_cons, String.reduceEq, if_true,
    if_false, Json.sorted_str, sorted_tiers, RiskPolicyV2.numbers, List.map_cons, List.map_nil,
    List.cons_append, List.nil_append]

/-- Numbers of one value other than zero and of one exponent are one. -/
theorem eq_of_exponent {d e : Decimal} (hd : d.isFinite = true) (he : e.isFinite = true)
    (hvalue : d.toRat = e.toRat) (hne : d.toRat ≠ 0)
    (hexponent : exponentOf (.str d.toText) = exponentOf (.str e.toText)) : d = e := by
  cases d with
  | finite n c x =>
    cases e with
    | finite m b y =>
      rw [exponentOf, exponentOf, Decimal.parse_toText hd, Decimal.parse_toText he] at hexponent
      obtain rfl : x = y := Option.some.inj hexponent
      have hten : (10 : ℚ) ^ x ≠ 0 := zpow_ne_zero x (by norm_num)
      rw [Decimal.toRat_finite, Decimal.toRat_finite] at hvalue
      rw [Decimal.toRat_finite] at hne
      have hsigned := mul_right_cancel₀ hten hvalue
      have hc : (c : ℚ) ≠ 0 := fun hzero => hne (by rw [hzero, mul_zero, zero_mul])
      have hcpos : (0 : ℚ) < c := lt_of_le_of_ne (Nat.cast_nonneg c) hc.symm
      have hbnonneg : (0 : ℚ) ≤ b := Nat.cast_nonneg b
      cases n <;> cases m <;> simp only [Bool.false_eq_true, if_true, if_false, one_mul,
        neg_mul] at hsigned
      · rw [Nat.cast_injective hsigned]
      · linarith
      · linarith
      · rw [Nat.cast_injective (neg_injective hsigned)]
    | _ => cases he
  | _ => cases hd

theorem ownerNumbers_ne_zero : ∀ x ∈ ownerNumbers.map Decimal.toRat, x ≠ 0 := by
  simp only [ownerNumbers, List.map_cons, List.map_nil, Decimal.toRat_ofNat, Decimal.toRat_cents,
    List.forall_mem_cons, List.not_mem_nil, false_imp_iff, implies_true, and_true]
  norm_num

/-- Numbers of the same values other than zero and of the same exponents are the same. -/
theorem eq_of_exponents {xs ys : List Decimal} (hxs : ∀ d ∈ xs, d.isFinite = true)
    (hys : ∀ d ∈ ys, d.isFinite = true) (hvalues : xs.map Decimal.toRat = ys.map Decimal.toRat)
    (hne : ∀ x ∈ xs.map Decimal.toRat, x ≠ 0)
    (hexponents : (xs.map fun d => exponentOf (.str d.toText)) =
      ys.map fun d => exponentOf (.str d.toText)) : xs = ys := by
  induction xs generalizing ys with
  | nil =>
    cases ys with
    | nil => rfl
    | cons y ys => cases hvalues
  | cons x xs ih =>
    cases ys with
    | nil => cases hvalues
    | cons y ys =>
      rw [List.map_cons, List.map_cons, List.cons.injEq] at hvalues hexponents
      rw [List.forall_mem_cons] at hxs hys
      rw [List.map_cons, List.forall_mem_cons] at hne
      rw [eq_of_exponent hxs.1 hys.1 hvalues.1 hne.1 hexponents.1,
        ih hxs.2 hys.2 hvalues.2 hne.2 hexponents.2]

end RoundTrip

/-- Accepted byte strings of equal policies are the same, with one digest, exactly if their numbers
have the same exponents; every policy is read back. -/
theorem policy_identity (raw raw' : List UInt8) (p p' : RiskPolicyV2) :
    (parseRiskPolicyV2 raw = some p → parseRiskPolicyV2 raw' = some p' →
      SamePolicy p p' → ((raw = raw' ∧ riskPolicyV2Sha256 p = riskPolicyV2Sha256 p') ↔
        numberExponents raw = numberExponents raw')) ∧
    parseRiskPolicyV2 (riskPolicyV2Bytes p) = some p := by
  refine ⟨fun hp hp' hsame => ⟨fun h => congrArg numberExponents h.1, fun h => ?_⟩,
    parse_policyBytes p⟩
  have hbytes : riskPolicyV2Bytes p = raw := Json.Format.encode_of_decode hp
  have hbytes' : riskPolicyV2Bytes p' = raw' := Json.Format.encode_of_decode hp'
  rw [← hbytes, ← hbytes', numberExponents_bytes, numberExponents_bytes, Option.some.injEq] at h
  have hne : ∀ x ∈ p.numbers.map Decimal.toRat, x ≠ 0 := by
    rw [p.owned.2.1]
    exact ownerNumbers_ne_zero
  have hnumbers := eq_of_exponents p.owned.1 p'.owned.1 hsame.numbers hne h
  obtain rfl := eq_of_numbers hnumbers
  exact ⟨hbytes.symm.trans hbytes', rfl⟩

def ownerPolicy (equity : Decimal) : RiskPolicyV2Fields where
  policyId := "PAPER_ACCOUNT_RISK_POLICY_V2"
  version := "v2"
  runMode := "PAPER"
  startingEquity := equity
  riskTiers := (.cents 10, .cents 5, .cents 20)
  maxPerUnderlyingOpenDebitFraction := .cents 20
  maxAggregateOpenDebitFraction := .cents 50
  emergencyDrawdownFreezeFraction := .cents 50
  cashOnly := true
  definedRiskOnly := true
  truthMaxAgeSeconds := 30
  ownerPolicySha256 := approvedOwnerPolicySha256
  constantsSourceSha256 := approvedOwnerPolicySha256

theorem ownerPolicy_check {equity : Decimal} (hfinite : equity.isFinite = true)
    (hvalue : equity.toRat = (Decimal.ofNat 100000).toRat) : (ownerPolicy equity).check = true := by
  have howner : ∀ n, isOwnerValue (.cents n) (.cents n) = true := by
    intro n
    rw [isOwnerValue, beq_self_eq_true]
    rfl
  have hequity : isOwnerValue equity (.ofNat 100000) = true := by
    rw [isOwnerValue, hfinite, hvalue, beq_self_eq_true]
    rfl
  simp only [RiskPolicyV2Fields.check, ownerPolicy, hequity, howner, beq_self_eq_true,
    Bool.and_self]

/-- The equity as `100000`. -/
def plainPolicy : RiskPolicyV2 := ⟨ownerPolicy (.ofNat 100000), ownerPolicy_check rfl rfl⟩

/-- The equity as `1E+5`. -/
def scientificPolicy : RiskPolicyV2 :=
  ⟨ownerPolicy (.finite false 1 5), ownerPolicy_check rfl (by
    rw [Decimal.toRat_finite, Decimal.toRat_ofNat]
    norm_num)⟩

theorem policy_identity_demo : riskPolicyV2Bytes plainPolicy = riskPolicyV2Bytes plainPolicy ∧
    riskPolicyV2Sha256 plainPolicy = riskPolicyV2Sha256 plainPolicy :=
  ((policy_identity _ _ plainPolicy plainPolicy).1 (parse_policyBytes plainPolicy)
    (parse_policyBytes plainPolicy) (samePolicy _ _)).mpr rfl

/-- Two byte strings are accepted as the owner's policy. -/
theorem two_spellings :
    ¬ ∀ raw raw' p p', parseRiskPolicyV2 raw = some p → parseRiskPolicyV2 raw' = some p' →
      SamePolicy p p' → raw = raw' := by
  intro h
  have hbytes := h _ _ plainPolicy scientificPolicy (parse_policyBytes plainPolicy)
    (parse_policyBytes scientificPolicy) (samePolicy _ _)
  have hparse := parse_policyBytes plainPolicy
  rw [hbytes, parse_policyBytes scientificPolicy, Option.some.injEq] at hparse
  have hequity : Decimal.finite false 1 5 = .ofNat 100000 :=
    congrArg (fun p : RiskPolicyV2 => p.startingEquity) hparse
  cases hequity

end EsscherMarket.Risk
