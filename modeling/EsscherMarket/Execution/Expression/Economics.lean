import EsscherMarket.Execution.Expression.Validation

/-!
# Quote-side after-cost economics

`execution/expression/economics.py`: the cost and the worst loss of one expression for one event,
priced at the side of the quote that the expression consumes, and the after-cost edge of the
compared rows.
-/

namespace EsscherMarket.Execution

open Lib

/-- The outcome of one expression for one event: compared, or rejected for a reason. -/
inductive EconomicsOutcome where
  | compared (entryCost maxLoss entrySpreadCost : Decimal)
  | rejected (reason : ExpressionReason)
  deriving DecidableEq, Repr

/-- One expression's quote-side economics for one event. -/
structure ExpressionEconomics where
  eventId : String
  expressionKind : ExpressionKind
  outcome : EconomicsOutcome
  deriving DecidableEq, Repr

namespace ExpressionEconomics

def compared (e : ExpressionEconomics) : Bool :=
  match e.outcome with
  | .compared _ _ _ => true
  | .rejected _ => false

def reason (e : ExpressionEconomics) : Option ExpressionReason :=
  match e.outcome with
  | .compared _ _ _ => none
  | .rejected r => some r

def entryCost (e : ExpressionEconomics) : Option Decimal :=
  match e.outcome with
  | .compared cost _ _ => some cost
  | .rejected _ => none

def maxLoss (e : ExpressionEconomics) : Option Decimal :=
  match e.outcome with
  | .compared _ loss _ => some loss
  | .rejected _ => none

def entrySpreadCost (e : ExpressionEconomics) : Option Decimal :=
  match e.outcome with
  | .compared _ _ spread => some spread
  | .rejected _ => none

end ExpressionEconomics

def contractMultiplier : Decimal := .ofNat 100

variable (snapshot : ExpressionMarketSnapshot) (policy : PromotedExpressionPolicy)

/-- Executable data is always admitted; indicative only under an explicitly flagged policy. -/
def dataClassAdmitted (dataClass : DataClass) : Bool :=
  dataClass == .executable || policy.allowsIndicativeData && dataClass == .indicative

def checkQuoteQuality (bid ask : Decimal) (bidSize askSize : Nat) : Option ExpressionReason :=
  let spreadBps := ((ask.sub bid).div ask).times (.ofNat 10000)
  if bid.toRat ≤ 0 ∨ ask.toRat ≤ 0 then some .noQuote
  else if ask.lt bid = true then some .crossedQuote
  else if bidSize < policy.minQuoteSize ∨ askSize < policy.minQuoteSize then some .insufficientSize
  else if policy.spreadMaxBps.lt spreadBps = true then some .spreadTooWide
  else none

/-- The cash/no-trade baseline carries no cost and no risk. -/
def cashEconomics (eventId : String) : ExpressionEconomics :=
  ⟨eventId, .cashNoTrade, .compared (.ofNat 0) (.ofNat 0) (.ofNat 0)⟩

/-- Share economics: buys cross the ask; shorts require borrow/locate. -/
def sharesEconomics (eventId : String) (directionIsUp : Bool) : ExpressionEconomics :=
  let share := snapshot.share
  let exposure := if directionIsUp then share.quote.ask else share.quote.bid
  let outcome : EconomicsOutcome :=
    if dataClassAdmitted policy share.dataClass = false then .rejected .indicativeOnly
    else match checkQuoteQuality policy share.quote.bid share.quote.ask share.quote.bidSize
        share.quote.askSize with
    | some reason => .rejected reason
    | none =>
      if directionIsUp = false ∧ snapshot.borrowLocate.isNone then .rejected .borrowLocateMissing
      else if policy.operationalLossBudget.lt exposure = true then .rejected .exposureBudgetExceeded
      else .compared exposure exposure share.quote.spread
  ⟨eventId, .shares, outcome⟩

/-- One long option economics: premium-at-risk priced at the ask. -/
def optionEconomics (eventId : String) (contract : OptionContractObservation) :
    ExpressionEconomics :=
  let premiumAtRisk := contract.quote.ask.times contractMultiplier
  let outcome : EconomicsOutcome :=
    if dataClassAdmitted policy contract.dataClass = false then .rejected .indicativeOnly
    else match checkQuoteQuality policy contract.quote.bid contract.quote.ask
        contract.quote.bidSize contract.quote.askSize with
    | some reason => .rejected reason
    | none =>
      if policy.operationalLossBudget.lt premiumAtRisk = true then .rejected .exposureBudgetExceeded
      else .compared premiumAtRisk premiumAtRisk (contract.quote.spread.times contractMultiplier)
  ⟨eventId, .oneLongOption, outcome⟩

/-- `min(a, b)`: the first one of equal numbers. -/
def minDecimal (a b : Decimal) : Decimal := if b.lt a then b else a

def debitVerticalEconomics (eventId : String) (package : PackageObservation) (width : Decimal) :
    ExpressionEconomics :=
  let spreadBps := ((package.netAsk.sub package.netBid).div package.netAsk).times (.ofNat 10000)
  let debit := package.netAsk.times contractMultiplier
  let widthValue := width.times contractMultiplier
  let maxLoss := minDecimal debit widthValue
  let outcome : EconomicsOutcome :=
    if dataClassAdmitted policy package.dataClass = false then .rejected .indicativeOnly
    else if package.netBid.toRat ≤ 0 ∨ package.netAsk.toRat ≤ 0 then .rejected .packageUnavailable
    else if package.netAsk.lt package.netBid = true then .rejected .crossedQuote
    else if package.size < policy.minQuoteSize then .rejected .insufficientSize
    else if policy.spreadMaxBps.lt spreadBps = true then .rejected .spreadTooWide
    else if debit.lt widthValue = false then .rejected .debitNotBelowWidth
    else if policy.operationalLossBudget.lt maxLoss = true then .rejected .exposureBudgetExceeded
    else .compared debit maxLoss ((package.netAsk.sub package.netBid).times contractMultiplier)
  ⟨eventId, .debitVertical, outcome⟩

/-- `sum(values, Decimal(0))`. -/
def sumDecimals (values : List Decimal) : Decimal := values.foldl Decimal.add (.ofNat 0)

/-- The drag of one compared row: its spread as a fraction of its entry cost. -/
def drag (e : ExpressionEconomics) : Option Decimal :=
  match e.outcome with
  | .compared cost _ spread => if 0 < cost.toRat then some (spread.div cost) else none
  | .rejected _ => none

/-- Preregistered after-cost edge versus the cash baseline; `none` when no event was compared. -/
def afterCostEdgeBasisPoints (economics : List ExpressionEconomics) (directionHits : Nat) :
    Option Decimal :=
  let compared := economics.filter (·.compared)
  let drags := compared.filterMap drag
  let meanDrag := if drags = [] then .ofNat 0 else (sumDecimals drags).div (.ofNat drags.length)
  let hitRate := (Decimal.ofNat directionHits).div (.ofNat compared.length)
  if compared = [] then none
  else some (((hitRate.sub (.finite false 5 (-1))).times (.ofNat 10000)).sub
    (meanDrag.times (.ofNat 10000)))

end EsscherMarket.Execution
