import EsscherMarket.Execution.Expression.Economics

/-!
# The production expression compiler

`execution/expression/compiler.py`: one validated decision, one market snapshot and one promoted
policy give one compiled expression or a stable reason for none.  The digests and the clock that a
compiled expression is bound to are a `Bindings`, which carries what `CompiledExpression` checks
of them.
-/

namespace EsscherMarket.Execution

open Lib
open Strategy (StrategyDecision isUtc)

/-- The identity of the event and the digests that a compiled expression is bound to. -/
structure Bindings where
  eventId : String
  decisionSha256 : String
  snapshotSha256 : String
  policySha256 : String
  gateDReportSha256 : String
  compiledAt : DateTime
  wellFormed : (eventId != "" && decisionSha256.length == 64 && snapshotSha256.length == 64 &&
    policySha256.length == 64 && gateDReportSha256.length == 64 && isUtc compiledAt) = true

namespace Bindings

variable (b : Bindings)

def fields (kind : ExpressionKind) (shares longOption debitVertical : Option Block) :
    CompiledExpressionFields where
  expressionKind := kind
  eventId := b.eventId
  decisionSha256 := b.decisionSha256
  snapshotSha256 := b.snapshotSha256
  policySha256 := b.policySha256
  gateDReportSha256 := b.gateDReportSha256
  compiledAt := b.compiledAt
  shares := shares
  longOption := longOption
  debitVertical := debitVertical

/-- `CompiledExpression.__post_init__` accepts the right number of filled blocks. -/
theorem check_fields {kind : ExpressionKind} {shares longOption debitVertical : Option Block}
    (h : ([shares, longOption, debitVertical].filter isFilled).length =
      if kind = .cashNoTrade then 0 else 1) :
    (b.fields kind shares longOption debitVertical).check = true := by
  have hw := b.wellFormed
  simp only [Bool.and_eq_true, isUtc] at hw
  simp only [CompiledExpressionFields.check, fields, Bool.and_eq_true, h]
  exact ⟨hw, beq_self_eq_true _⟩

def compileCash : CompiledExpression :=
  ⟨b.fields .cashNoTrade none none none, b.check_fields rfl⟩

end Bindings

variable (snapshot : ExpressionMarketSnapshot) (policy : PromotedExpressionPolicy) (b : Bindings)

def sharesBlock (directionIsUp : Bool) : Block :=
  [("symbol", .str snapshot.share.symbol),
   ("side", .str (if directionIsUp then "BUY" else "SELL_SHORT")),
   ("quantity", .int 1),
   ("order_type", .str "LIMIT"),
   ("price_rule", .str (if directionIsUp then "ASK" else "BID")),
   ("exposure", .str (if directionIsUp then snapshot.share.quote.ask
      else snapshot.share.quote.bid).toText),
   ("borrow_locate_sha256", if directionIsUp then .null
      else Strategy.textOrNull (snapshot.borrowLocate.map (·.contentSha256)))]

def compileShares (directionIsUp : Bool) : Except ExpressionRejected CompiledExpression := do
  let share := snapshot.share
  validateFeed share.feed "share.feed"
  validateExecutableData share.dataClass "share.data_class" policy.allowsIndicativeData
  validateQuote snapshot policy share.quote "share.quote"
  if directionIsUp = false then validateBorrowLocate snapshot policy snapshot.borrowLocate
  match (sharesEconomics snapshot policy b.eventId directionIsUp).outcome with
  | .rejected reason => .error ⟨reason, "shares"⟩
  | .compared _ _ _ =>
    pure ⟨b.fields .shares (some (sharesBlock snapshot directionIsUp)) none none, b.check_fields rfl⟩

def longOptionBlock (leg : OptionLeg) (dte : Int) (maxLoss : Decimal) : Block :=
  [("symbol", .str leg.symbol),
   ("underlying", .str leg.underlying),
   ("expiry", .str leg.expiry.isoformat),
   ("option_type", .str leg.optionType.value),
   ("strike", .str leg.strike.toText),
   ("side", .str "BUY"),
   ("position_intent", .str "BUY_TO_OPEN"),
   ("quantity", .int 1),
   ("order_type", .str "LIMIT"),
   ("dte", .int dte),
   ("premium_at_risk", .str maxLoss.toText),
   ("limit_price_rule", .str "ASK")]

def compileLongOption (directionIsUp : Bool) : Except ExpressionRejected CompiledExpression := do
  let contract ← selectLongContract snapshot policy directionIsUp
  validateOptionObservation snapshot policy contract s!"option.{contract.symbol}"
  let dte := contractDte contract snapshot.asof
  throwIf (dte < 1) ⟨.lifecycleCheckFailed, s!"option.{contract.symbol}.dte"⟩
  let leg ← buildOptionLeg contract .buy .buyToOpen
  match (optionEconomics policy b.eventId contract).outcome with
  | .rejected reason => .error ⟨reason, "long_option"⟩
  | .compared _ maxLoss _ =>
    pure ⟨b.fields .oneLongOption none (some (longOptionBlock leg dte maxLoss)) none,
      b.check_fields rfl⟩

def debitVerticalBlock (directionIsUp : Bool) (longLeg shortLeg : OptionLeg)
    (package : PackageObservation) (width maxLoss : Decimal) : Block :=
  [("underlying", .str snapshot.underlying),
   ("vertical_type", .str (if directionIsUp then VerticalType.bullCall else .bearPut).value),
   ("expiry", .str longLeg.expiry.isoformat),
   ("quantity", .int 1),
   ("order_type", .str "LIMIT"),
   ("legging", .str "ATOMIC_PACKAGE"),
   ("limit_price", .str package.netAsk.toText),
   ("limit_price_rule", .str "PACKAGE_NET_ASK"),
   ("width", .str width.toText),
   ("maximum_loss", .str maxLoss.toText),
   ("package_id", .str package.packageId),
   ("long_leg", legBlock longLeg),
   ("short_leg", legBlock shortLeg)]

def compileDebitVertical (directionIsUp : Bool) : Except ExpressionRejected CompiledExpression := do
  let geometry ← selectVerticalGeometry snapshot policy directionIsUp
  validateOptionObservation snapshot policy geometry.longLeg s!"vertical.{geometry.longLeg.symbol}"
  validateOptionObservation snapshot policy geometry.shortLeg s!"vertical.{geometry.shortLeg.symbol}"
  validateCrossLegSkew policy geometry.longLeg.quote geometry.shortLeg.quote
  throwIf (contractDte geometry.longLeg snapshot.asof < 1) ⟨.lifecycleCheckFailed, "vertical.dte"⟩
  let longLeg ← buildOptionLeg geometry.longLeg .buy .buyToOpen
  let shortLeg ← buildOptionLeg geometry.shortLeg .sell .sellToOpen
  let package ← selectPackage snapshot geometry
  validatePackage snapshot policy package s!"package.{package.packageId}"
  match (debitVerticalEconomics policy b.eventId package geometry.width).outcome with
  | .rejected reason => .error ⟨reason, "debit_vertical"⟩
  | .compared _ maxLoss _ =>
    pure ⟨b.fields .debitVertical none none (some (debitVerticalBlock snapshot directionIsUp longLeg
      shortLeg package geometry.width maxLoss)), b.check_fields rfl⟩

/-- The expression of a kind; `directionIsUp` is the direction of the decision. -/
def compileKind (directionIsUp : Bool) : ExpressionKind → Except ExpressionRejected CompiledExpression
  | .cashNoTrade => .ok b.compileCash
  | .shares => compileShares snapshot policy b directionIsUp
  | .oneLongOption => compileLongOption snapshot policy b directionIsUp
  | .debitVertical => compileDebitVertical snapshot policy b directionIsUp

theorem length_hexdigest (message : List UInt8) : (Sha256.hexdigest message).length = 64 := by
  simp [Sha256.hexdigest, length_hexBytes, Sha256.digestBytes, length_bytesBE]

/-- What a compiled expression checks of its bindings holds of computed digests. -/
theorem bindings_wellFormed {decision : StrategyDecision} {decisionBytes : List UInt8}
    {policySha256 gateDReportSha256 : String} {compiledAt : DateTime}
    (hutc : isUtc compiledAt = true)
    (hpolicy : policySha256 = promotedExpressionPolicySha256 policy)
    (hreport : policy.gateDReportSha256 = gateDReportSha256) :
    (decision.eventId != "" && (Sha256.hexdigest decisionBytes).length == 64 &&
      (expressionMarketSnapshotSha256 snapshot).length == 64 && policySha256.length == 64 &&
      gateDReportSha256.length == 64 && isUtc compiledAt) = true := by
  have hevent : decision.eventId ≠ "" := by
    intro h
    have hstrip := decision.strip_eventId
    rw [h] at hstrip
    exact hstrip rfl
  have hlength := policy.accepted
  simp only [PromotedExpressionPolicyFields.check, Bool.and_eq_true, beq_iff_eq] at hlength
  have hreport64 : gateDReportSha256.length = 64 := hreport ▸ by tauto
  simp [hevent, length_hexdigest, expressionMarketSnapshotSha256, hpolicy,
    promotedExpressionPolicySha256, hreport64, hutc]

/-- Compile the promoted expression or raise a stable reason. -/
def compileExpression (decision : StrategyDecision) (decisionBytes : List UInt8)
    (policySha256 gateDReportSha256 : String) (compiledAt : DateTime) :
    Except ExpressionRejected CompiledExpression :=
  if hutc : isUtc compiledAt = true then do
    throwIf (decision.disposition ≠ .accepted) ⟨.directionNotValidated, "decision.disposition"⟩
    throwIf (decision.direction = .uncertain) ⟨.directionNotValidated, "decision.direction"⟩
    throwIf (Sha256.hexdigest decisionBytes ≠ snapshot.decisionSha256)
      ⟨.decisionBindingMismatch, "snapshot.decision_sha256"⟩
    throwIf (snapshot.observationClockAt.micros < decision.decisionAt.micros)
      ⟨.timeInconsistent, "snapshot.observation_clock_at"⟩
    if hpolicy : policySha256 = promotedExpressionPolicySha256 policy then
      if hreport : policy.gateDReportSha256 = gateDReportSha256 then
        let bindings : Bindings := {
          eventId := decision.eventId
          decisionSha256 := Sha256.hexdigest decisionBytes
          snapshotSha256 := expressionMarketSnapshotSha256 snapshot
          policySha256 := policySha256
          gateDReportSha256 := gateDReportSha256
          compiledAt := compiledAt
          wellFormed := bindings_wellFormed snapshot policy hutc hpolicy hreport }
        compileKind snapshot policy bindings (decision.direction == .up) policy.expressionKind
      else .error ⟨.gateDReceiptMismatch, "policy.gate_d_report_sha256"⟩
    else .error ⟨.policyHashMismatch, "policy_sha256"⟩
  else .error ⟨.unsupportedInput, "compiled_at"⟩

/-- `COMPILED` with the expression, or `NO_PACKAGE` with the stable reason. -/
def compileOrNoPackage (decision : StrategyDecision) (decisionBytes : List UInt8)
    (policySha256 gateDReportSha256 : String) (compiledAt : DateTime) :
    CompiledExpression ⊕ ExpressionReason :=
  match compileExpression snapshot policy decision decisionBytes policySha256 gateDReportSha256
      compiledAt with
  | .ok compiled => .inl compiled
  | .error rejected => .inr rejected.reason

end EsscherMarket.Execution
