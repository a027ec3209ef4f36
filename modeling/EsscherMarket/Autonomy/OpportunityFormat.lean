import EsscherMarket.Autonomy.Universe
import EsscherMarket.Lib.DecimalPlain
import EsscherMarket.Lib.JsonFormat

/-!
# The bytes of an opportunity

`defined_risk_opportunity_bytes` and `parse_defined_risk_opportunity` of `autonomy/universe.py`.
-/

namespace EsscherMarket.Autonomy

open Lib

/-! ### The parser -/

def decimalField : Json → Option Decimal
  | .str s => do
    if Decimal.matchesPlain s then
      let parsed ← Decimal.parse s
      if parsed.isFinite ∧ decimalText parsed = s then some parsed else none
    else none
  | _ => none

def parseRiskTier (v : Json) : Option RiskTier := do
  let parsed ← decimalField v
  [RiskTier.fivePercent, .tenPercent, .twentyPercent].find? fun tier =>
    decide (tier.fraction.toRat = parsed.toRat)

/-- The fields of an opportunity, from an object of the right keys, and its `__post_init__`. -/
def readOpportunity (v : Json) : Option DefinedRiskOpportunity := do
  if (v.get "schema").isText "esscher.defined_risk_opportunity" &&
      Json.readInt (v.get "schema_version") == some 1 then
    let fields : DefinedRiskOpportunityFields := {
      opportunityId := ← Json.readText isIdentifier (v.get "opportunity_id")
      decisionId := ← Json.readText isIdentifier (v.get "decision_id")
      expressionId := ← Json.readText isIdentifier (v.get "expression_id")
      underlying := ← Json.readText isSymbol (v.get "underlying")
      riskTier := ← parseRiskTier (v.get "risk_tier")
      maxDebitPerContract := ← decimalField (v.get "max_debit_per_contract")
      decisionReady := ← Json.readBool (v.get "decision_ready") }
    (construct DefinedRiskOpportunityFields.check fields).toOption
  else none

def opportunityFormat : Json.Format DefinedRiskOpportunity where
  keys := ["schema", "schema_version", "opportunity_id", "decision_id", "expression_id",
    "underlying", "risk_tier", "max_debit_per_contract", "decision_ready"]
  payload := definedRiskOpportunityPayload
  read := readOpportunity

def definedRiskOpportunityBytes (o : DefinedRiskOpportunity) : List UInt8 :=
  opportunityFormat.encode o

/-- `parse_defined_risk_opportunity`; `none` where it rejects. -/
def parseDefinedRiskOpportunity (raw : List UInt8) : Option DefinedRiskOpportunity :=
  opportunityFormat.decode raw

/-- Equal opportunities: numbers are compared by their values. -/
structure SameOpportunity (o o' : DefinedRiskOpportunity) : Prop where
  debit : o.1.maxDebitPerContract.toRat = o'.1.maxDebitPerContract.toRat
  fields : { o.1 with maxDebitPerContract := o'.1.maxDebitPerContract } = o'.1

/-! ### Reading what is written -/

section RoundTrip

variable {d : Decimal} {o o' : DefinedRiskOpportunity}

theorem decimalField_decimalText (hd : d.isFinite) (hpos : 0 < d.toRat) :
    decimalField (.str (decimalText d)) = some d.normalize.expand := by
  have htext : decimalText d = d.plainText := if_neg hpos.ne'
  have hfinite : d.normalize.expand.isFinite = true := by
    obtain ⟨n, c, k, hexpand⟩ := Decimal.exists_expand d.normalize (Decimal.isFinite_normalize hd)
    rw [hexpand]
    rfl
  have hagain : decimalText d.normalize.expand = d.plainText := by
    rw [decimalText, Decimal.toRat_normalize_expand, if_neg hpos.ne',
      Decimal.plainText_normalize_expand]
  rw [htext, decimalField, if_pos (Decimal.matchesPlain_plainText hd),
    Decimal.parse_plainText_eq hd]
  exact if_pos ⟨hfinite, hagain⟩

theorem parseRiskTier_fraction (tier : RiskTier) :
    parseRiskTier (.str (decimalText tier.fraction)) = some tier := by
  cases tier <;> decide +kernel

/-- An opportunity as its bytes are read: the debit in plain form. -/
def rereadOpportunity (o : DefinedRiskOpportunity) : DefinedRiskOpportunityFields :=
  { o.1 with maxDebitPerContract := o.1.maxDebitPerContract.normalize.expand }

theorem check_reread (o : DefinedRiskOpportunity) : (rereadOpportunity o).check = .ok () := by
  obtain ⟨hid, hdecision, hexpression, hsymbol, hfinite, hpos⟩ :=
    DefinedRiskOpportunityFields.check_eq_ok.mp o.2
  refine DefinedRiskOpportunityFields.check_eq_ok.mpr
    ⟨hid, hdecision, hexpression, hsymbol, ?_, ?_⟩
  · obtain ⟨n, c, k, hexpand⟩ := Decimal.exists_expand o.1.maxDebitPerContract.normalize
      (Decimal.isFinite_normalize hfinite)
    rw [rereadOpportunity, hexpand]
    rfl
  · rw [rereadOpportunity, Decimal.toRat_normalize_expand]
    exact hpos

theorem readOpportunity_payload {v : Json}
    (h : ∀ key, v.get key = ((definedRiskOpportunityPayload o).get key).sorted) :
    readOpportunity v = some ⟨rereadOpportunity o, check_reread o⟩ := by
  obtain ⟨hid, hdecision, hexpression, hsymbol, hfinite, hpos⟩ :=
    DefinedRiskOpportunityFields.check_eq_ok.mp o.2
  have hconstruct : construct DefinedRiskOpportunityFields.check (rereadOpportunity o) =
      .ok ⟨rereadOpportunity o, check_reread o⟩ := construct_eq_ok.mpr rfl
  simp only [rereadOpportunity] at hconstruct
  simp only [readOpportunity, h, definedRiskOpportunityPayload, Json.get_cons, String.reduceEq,
    if_true, if_false, Json.sorted_str, Json.sorted_int, Json.sorted_bool, Json.isText,
    Json.readInt, beq_self_eq_true, Bool.and_self,
    Json.readText_str hid, Json.readText_str hdecision, Json.readText_str hexpression,
    Json.readText_str hsymbol, parseRiskTier_fraction, decimalField_decimalText hfinite hpos,
    Json.readBool, Option.bind_eq_bind, Option.bind_some, hconstruct]
  rfl

theorem payload_of_same (h : SameOpportunity o o') :
    definedRiskOpportunityPayload o = definedRiskOpportunityPayload o' := by
  obtain ⟨-, -, -, -, hfinite, hpos⟩ := DefinedRiskOpportunityFields.check_eq_ok.mp o.2
  obtain ⟨-, -, -, -, hfinite', -⟩ := DefinedRiskOpportunityFields.check_eq_ok.mp o'.2
  have htext : decimalText o.1.maxDebitPerContract = decimalText o'.1.maxDebitPerContract := by
    rw [decimalText, decimalText, ← h.debit, if_neg hpos.ne', if_neg hpos.ne',
      Decimal.plainText_congr hfinite hfinite' h.debit hpos.ne']
  rw [definedRiskOpportunityPayload, definedRiskOpportunityPayload, htext, ← h.fields]

theorem opportunityKeys_nodup : ["decision_id", "decision_ready", "expression_id",
    "max_debit_per_contract", "opportunity_id", "risk_tier", "schema", "schema_version",
    "underlying"].Nodup := by
  decide

theorem parse_bytes (o : DefinedRiskOpportunity) :
    parseDefinedRiskOpportunity (definedRiskOpportunityBytes o) =
      some ⟨rereadOpportunity o, check_reread o⟩ := by
  refine Json.Format.decode_encode ?_ rfl (fun v h => readOpportunity_payload h) ?_
  · refine Json.wellFormed_obj.mpr ⟨opportunityKeys_nodup, ?_⟩
    simp only [List.forall_mem_cons, Json.wellFormed_str, Json.wellFormed_int,
      Json.wellFormed_bool, List.not_mem_nil, false_imp_iff, implies_true, and_self]
  · exact payload_of_same ⟨Decimal.toRat_normalize_expand _, rfl⟩

end RoundTrip

/-- The format is canonical: the bytes of an opportunity are parsed to an equal one, and a byte
string is parsed only if it is those bytes. -/
theorem opportunity_canonical :
    (∀ o, ∃ o', parseDefinedRiskOpportunity (definedRiskOpportunityBytes o) = some o' ∧
      SameOpportunity o' o) ∧
    (∀ raw o, parseDefinedRiskOpportunity raw = some o → definedRiskOpportunityBytes o = raw) ∧
    ∀ o o', (SameOpportunity o o' ↔
        definedRiskOpportunityBytes o = definedRiskOpportunityBytes o') ∧
      (SameOpportunity o o' →
        definedRiskOpportunitySha256 o = definedRiskOpportunitySha256 o') := by
  have hsame : ∀ o, SameOpportunity ⟨rereadOpportunity o, check_reread o⟩ o :=
    fun o => ⟨Decimal.toRat_normalize_expand _, rfl⟩
  refine ⟨fun o => ⟨_, parse_bytes o, hsame o⟩,
    fun raw o h => Json.Format.encode_of_decode h, fun o o' => ⟨⟨fun h => ?_, fun h => ?_⟩, fun h => ?_⟩⟩
  · exact congrArg Json.canonicalBytes (payload_of_same h)
  · -- both are parsed to the same opportunity
    have hparse := parse_bytes o
    rw [h, parse_bytes o', Option.some.injEq, Subtype.mk.injEq] at hparse
    have hdebit : o'.1.maxDebitPerContract.normalize.expand =
        o.1.maxDebitPerContract.normalize.expand :=
      congrArg DefinedRiskOpportunityFields.maxDebitPerContract hparse
    refine ⟨?_, ?_⟩
    · rw [← Decimal.toRat_normalize_expand o.1.maxDebitPerContract, ← hdebit,
        Decimal.toRat_normalize_expand]
    · have hother := congrArg (fun fields : DefinedRiskOpportunityFields =>
        { fields with maxDebitPerContract := o'.1.maxDebitPerContract }) hparse
      exact hother.symm
  · rw [definedRiskOpportunitySha256, definedRiskOpportunitySha256, payload_of_same h]

def demoFields (debit : Decimal) : DefinedRiskOpportunityFields where
  opportunityId := "opportunity-1"
  decisionId := "decision-1"
  expressionId := "expression-1"
  underlying := "SPY"
  riskTier := .tenPercent
  maxDebitPerContract := debit
  decisionReady := true

theorem check_demo {debit : Decimal} (hfinite : debit.isFinite) (hpos : 0 < debit.toRat) :
    (demoFields debit).check = .ok () := by
  have hid : isIdentifier "opportunity-1" = true := by decide
  have hdecision : isIdentifier "decision-1" = true := by decide
  have hexpression : isIdentifier "expression-1" = true := by decide
  have hsymbol : isSymbol "SPY" = true := by decide
  exact DefinedRiskOpportunityFields.check_eq_ok.mpr
    ⟨hid, hdecision, hexpression, hsymbol, hfinite, hpos⟩

def demoCents : DefinedRiskOpportunity :=
  ⟨demoFields (.cents 15000), check_demo rfl (by norm_num [Decimal.toRat_cents])⟩

def demoTens : DefinedRiskOpportunity :=
  ⟨demoFields (.finite false 15 1), check_demo rfl (by norm_num [Decimal.toRat_finite])⟩

/-- `150.00` and `1.5E+2` are the same opportunity, with the same bytes. -/
theorem opportunity_canonical_demo :
    definedRiskOpportunityBytes demoCents = definedRiskOpportunityBytes demoTens ∧
      ∃ o', parseDefinedRiskOpportunity (definedRiskOpportunityBytes demoTens) = some o' ∧
        definedRiskOpportunityBytes o' = definedRiskOpportunityBytes demoCents := by
  have hsame : SameOpportunity demoCents demoTens := by
    refine ⟨?_, rfl⟩
    show (Decimal.cents 15000).toRat = (Decimal.finite false 15 1).toRat
    norm_num [Decimal.toRat_cents, Decimal.toRat_finite]
  obtain ⟨hparse, hbytes, hunique⟩ := opportunity_canonical
  have hequal := (hunique demoCents demoTens).1.mp hsame
  obtain ⟨o', ho', -⟩ := hparse demoTens
  exact ⟨hequal, o', ho', (hbytes _ o' ho').trans hequal.symm⟩

end EsscherMarket.Autonomy
