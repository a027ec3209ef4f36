import EsscherMarket.Lib.Json

/-!
# The risk policies

`risk/policy.py`: the immutable PAPER account policy and the owner-bound V2 policy, each with the
proof that its `__post_init__` accepted it, and their canonical identities.
-/

namespace EsscherMarket.Risk

open Lib

/-! ### The V1 policy -/

/-- The fields of one immutable PAPER account risk policy. -/
structure RiskPolicyFields where
  policyId : String
  version : String
  runMode : String
  accountCapital : Decimal
  perEventLossBudget : Decimal
  aggregateExposureLimit : Decimal
  dailyLossLimit : Decimal
  drawdownLimit : Decimal
  concentrationLimit : Decimal
  maxEntriesPerDay : Int
  maxOpenExpressions : Int
  closeOnlyEquityThreshold : Decimal
  truthMaxAgeSeconds : Int
  constantsSourceSha256 : String

def isPositive (d : Decimal) : Bool := d.isFinite && decide (0 < d.toRat)

/-- `RiskPolicy.__post_init__`. -/
def RiskPolicyFields.check (p : RiskPolicyFields) : Bool :=
  p.policyId != "" && p.version != "" && p.runMode == "PAPER" &&
  isPositive p.accountCapital && isPositive p.perEventLossBudget &&
  isPositive p.aggregateExposureLimit && isPositive p.dailyLossLimit &&
  isPositive p.drawdownLimit && isPositive p.concentrationLimit &&
  isPositive p.closeOnlyEquityThreshold && decide (0 < p.maxEntriesPerDay) &&
  decide (0 < p.maxOpenExpressions) && decide (0 < p.truthMaxAgeSeconds)

structure RiskPolicy extends RiskPolicyFields where
  accepted : toRiskPolicyFields.check = true

def RiskPolicy.constantsVerified (p : RiskPolicy) : Bool := isLowerHex 64 p.constantsSourceSha256

def riskPolicyPayload (p : RiskPolicy) : Json :=
  .obj [
    ("schema", .str "esscher.paper_account_risk_policy"),
    ("schema_version", .int 1),
    ("policy_id", .str p.policyId),
    ("version", .str p.version),
    ("run_mode", .str p.runMode),
    ("account_capital", .str p.accountCapital.toText),
    ("per_event_loss_budget", .str p.perEventLossBudget.toText),
    ("aggregate_exposure_limit", .str p.aggregateExposureLimit.toText),
    ("daily_loss_limit", .str p.dailyLossLimit.toText),
    ("drawdown_limit", .str p.drawdownLimit.toText),
    ("concentration_limit", .str p.concentrationLimit.toText),
    ("max_entries_per_day", .int p.maxEntriesPerDay),
    ("max_open_expressions", .int p.maxOpenExpressions),
    ("close_only_equity_threshold", .str p.closeOnlyEquityThreshold.toText),
    ("truth_max_age_seconds", .int p.truthMaxAgeSeconds),
    ("constants_source_sha256", .str p.constantsSourceSha256)]

def riskPolicySha256 (p : RiskPolicy) : String := (riskPolicyPayload p).sha256

/-! ### The V2 policy -/

/-- `_approved_owner_policy_sha256`: the digest of the packaged owner autonomy policy. -/
def approvedOwnerPolicySha256 : String :=
  "2d384954a2f9791f3d43c9870981f19c692fe9929c156ab961bb83ff472a4712"

/-- The fields of the owner-bound V2 policy.  The three caps that must be null are left out: each
has one value. -/
structure RiskPolicyV2Fields where
  policyId : String
  version : String
  runMode : String
  startingEquity : Decimal
  riskTiers : Decimal × Decimal × Decimal
  maxPerUnderlyingOpenDebitFraction : Decimal
  maxAggregateOpenDebitFraction : Decimal
  emergencyDrawdownFreezeFraction : Decimal
  cashOnly : Bool
  definedRiskOnly : Bool
  truthMaxAgeSeconds : Int
  ownerPolicySha256 : String
  constantsSourceSha256 : String

def isOwnerValue (d expected : Decimal) : Bool := d.isFinite && d.toRat == expected.toRat

/-- `RiskPolicyV2.__post_init__`. -/
def RiskPolicyV2Fields.check (p : RiskPolicyV2Fields) : Bool :=
  p.policyId == "PAPER_ACCOUNT_RISK_POLICY_V2" && p.version == "v2" && p.runMode == "PAPER" &&
  isOwnerValue p.startingEquity (.ofNat 100000) &&
  isOwnerValue p.riskTiers.1 (.cents 10) && isOwnerValue p.riskTiers.2.1 (.cents 5) &&
  isOwnerValue p.riskTiers.2.2 (.cents 20) &&
  isOwnerValue p.maxPerUnderlyingOpenDebitFraction (.cents 20) &&
  isOwnerValue p.maxAggregateOpenDebitFraction (.cents 50) &&
  isOwnerValue p.emergencyDrawdownFreezeFraction (.cents 50) &&
  p.cashOnly && p.definedRiskOnly && p.truthMaxAgeSeconds == 30 &&
  p.ownerPolicySha256 == approvedOwnerPolicySha256 &&
  p.constantsSourceSha256 == approvedOwnerPolicySha256

/-- The fixed owner-bound, cash-only autonomy policy for account-relative sizing. -/
structure RiskPolicyV2 extends RiskPolicyV2Fields where
  accepted : toRiskPolicyV2Fields.check = true

def RiskPolicyV2.constantsVerified (p : RiskPolicyV2) : Bool :=
  p.ownerPolicySha256 == approvedOwnerPolicySha256 &&
  p.constantsSourceSha256 == approvedOwnerPolicySha256

def riskPolicyV2Payload (p : RiskPolicyV2) : Json :=
  .obj [
    ("schema", .str "esscher.paper_account_risk_policy"),
    ("schema_version", .int 2),
    ("policy_id", .str p.policyId),
    ("version", .str p.version),
    ("run_mode", .str p.runMode),
    ("starting_equity", .str p.startingEquity.toText),
    ("risk_tiers", .arr [.str p.riskTiers.1.toText, .str p.riskTiers.2.1.toText,
      .str p.riskTiers.2.2.toText]),
    ("max_per_underlying_open_debit_fraction", .str p.maxPerUnderlyingOpenDebitFraction.toText),
    ("max_aggregate_open_debit_fraction", .str p.maxAggregateOpenDebitFraction.toText),
    ("emergency_drawdown_freeze_fraction", .str p.emergencyDrawdownFreezeFraction.toText),
    ("daily_loss_stop", .null),
    ("trade_count_cap", .null),
    ("open_expression_count_cap", .null),
    ("cash_only", .bool p.cashOnly),
    ("defined_risk_only", .bool p.definedRiskOnly),
    ("truth_max_age_seconds", .int p.truthMaxAgeSeconds),
    ("owner_policy_sha256", .str p.ownerPolicySha256),
    ("constants_source_sha256", .str p.constantsSourceSha256)]

def riskPolicyV2Sha256 (p : RiskPolicyV2) : String := (riskPolicyV2Payload p).sha256

/-- The owner's values, as far as the kernel computes with them. -/
theorem RiskPolicyV2.values (p : RiskPolicyV2) :
    p.runMode = "PAPER" ∧ p.cashOnly = true ∧ p.definedRiskOnly = true ∧
    p.constantsVerified = true ∧
    (p.riskTiers.1.toRat = (Decimal.cents 10).toRat ∧
      p.riskTiers.2.1.toRat = (Decimal.cents 5).toRat ∧
      p.riskTiers.2.2.toRat = (Decimal.cents 20).toRat) ∧
    (p.maxPerUnderlyingOpenDebitFraction.isFinite ∧
      p.maxPerUnderlyingOpenDebitFraction.toRat = (Decimal.cents 20).toRat) ∧
    (p.maxAggregateOpenDebitFraction.isFinite ∧
      p.maxAggregateOpenDebitFraction.toRat = (Decimal.cents 50).toRat) := by
  have h := p.accepted
  simp only [RiskPolicyV2Fields.check, isOwnerValue, Bool.and_eq_true, beq_iff_eq] at h
  simp only [RiskPolicyV2.constantsVerified, Bool.and_eq_true, beq_iff_eq]
  tauto

end EsscherMarket.Risk
