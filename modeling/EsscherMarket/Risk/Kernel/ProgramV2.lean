import EsscherMarket.Risk.Kernel.Program

/-!
# The risk kernel: V2 preview and entry

The V2 methods of `risk/kernel.py`: the portfolio built from consumed and pending debit, the
allocation preview, and the entry that binds an allocation, a permit and a reservation.
-/

namespace EsscherMarket.Risk

open Lib Execution Autonomy Prog

/-! ### Policy and truth -/

def v2Policy : KernelPolicy → Except LedgerError RiskPolicyV2
  | .v1 _ => .error (reject .unsupportedInput "risk_policy"
      "V2 authorization requires a RiskPolicyV2")
  | .v2 p => do
    throwIf (p.constantsVerified = false)
      (reject .policyUnverifiedConstant "risk_policy"
        "owner-policy and constants-source hashes must bind packaged policy bytes")
    return p

/-- The PAPER, cash-only and defined-risk check of the V2 methods. -/
def requireV2Paper (p : RiskPolicyV2) (detail : String) : Except LedgerError Unit :=
  throwIf (p.runMode ≠ "PAPER" ∨ p.cashOnly = false ∨ p.definedRiskOnly = false)
    (reject .policyNotPaperOnly "risk_policy_v2" detail)

/-- Broker truth with explicit unborrowed cash. -/
structure V2Truth where
  account : AccountSnapshot
  cash : Decimal
  positions : List PositionSnapshot
  orders : List OrderSnapshot

/-- The reads and checks of `_v2_fresh_truth`. -/
def readV2Truth (truth : Truth) (now : DateTime) (p : RiskPolicyV2) : TruthRead V2Truth := do
  let (account, positions, orders) ← readTruth truth now p.truthMaxAgeSeconds
  match account.cash with
  | none =>
    rejectTruth .contradictoryTruth "account.cash"
      "V2 requires a fresh explicit unborrowed-cash snapshot"
  | some cash =>
    if account.equity.isFinite = false ∨ account.equity.toRat ≤ 0 ∨ cash.isFinite = false ∨
        cash.toRat < 0 ∨ account.equity.toRat < cash.toRat then
      rejectTruth .contradictoryTruth "account"
        "equity/cash must be finite, positive-equity, and unborrowed"
    else return ⟨account, cash, positions, orders⟩

/-- `_v2_fresh_truth`: read every V2 truth surface once before the local transaction. -/
def v2FreshTruth (truth : Truth) (now : DateTime) (p : RiskPolicyV2) : KernelProg V2Truth :=
  orFailClosed (readV2Truth truth now p) now

/-- The emergency freeze at half of the starting equity. -/
def checkV2Freeze (p : RiskPolicyV2) (account : AccountSnapshot) (now : DateTime) :
    KernelProg Unit :=
  failClosedIf (account.equity.toRat ≤
      p.startingEquity.toRat * p.emergencyDrawdownFreezeFraction.toRat)
    .drawdownLimitBreached now
    (reject .drawdownLimitBreached "account.equity"
      "current equity is at or below the V2 50% starting-equity freeze threshold")

/-! ### The portfolio -/

/-- The running state of the loop over the open rows: the consumed debit, by underlying in the
order of first use, and the pending reservations. -/
structure V2Book where
  consumedTotal : ℚ
  consumed : List (String × ℚ)
  pending : List AllocationReservation

def V2Book.empty : V2Book := ⟨0, [], []⟩

/-- `d[key] = d.get(key, 0) + amount`. -/
def addDebit (key : String) (amount : ℚ) : List (String × ℚ) → List (String × ℚ)
  | [] => [(key, amount)]
  | (k, v) :: rest => if k = key then (k, v + amount) :: rest else (k, v) :: addDebit key amount rest

def v2RowAmount (cell : AmountText) (field : String) : Except LedgerError Decimal :=
  let path := "v2_reservations." ++ field
  match cell.value with
  | none => .error (reject .unknownExposure path
      ("durable amount is malformed: " ++ Decimal.syntaxError))
  | some d => do
    throwIf (d.isFinite = false ∨ d.toRat < 0 ∨ d.plainText ≠ cell.text)
      (reject .unknownExposure path "durable amount is non-finite, negative, or non-canonical")
    return d

/-- A pending row as an allocation reservation.  A rejection of one of its identifiers is a
`ValueError` too, so that every failure here gets the same typed reason. -/
def v2PendingReservation (v : V2ReservationRow) (underlying : String) (amount : Decimal) :
    Except LedgerError AllocationReservation :=
  let wrap (text : String) := reject .unknownExposure "v2_reservations"
    ("pending V2 row cannot become an allocation reservation: " ++ text)
  let exact (value field : String) : Except LedgerError String :=
    if isExactText value then .ok value
    else .error (wrap (RiskRejected.text ⟨.unsupportedInput, "v2_reservations." ++ field,
      "must be non-empty exact text"⟩))
  do
    let opportunityId ← exact v.opportunityId "opportunity_id"
    let opportunitySha256 ← exact v.opportunitySha256 "opportunity_sha256"
    let reservationId ← exact v.allocationReservationId "allocation_reservation_id"
    (construct AllocationReservationFields.check
      ⟨opportunityId, opportunitySha256, reservationId, underlying, v.quantity, amount⟩).mapError
        fun e => wrap e.text

def v2BookRow (policySha256 : String) (book : V2Book) (row : V2Row) :
    Except LedgerError V2Book := do
  throwIf (row.binding.policySha256 ≠ policySha256)
    (reject .unknownExposure "v2_reservations.policy_sha256"
      "open V2 exposure is bound to a different owner policy")
  let amount ← v2RowAmount row.binding.amount "amount"
  throwIf (amount.toRat ≤ 0)
    (reject .unknownExposure "v2_reservations.amount" "open debit must be positive")
  let underlying ← underlyingText row.binding.underlying "v2_reservations.underlying"
  match row.state with
  | .consumed => do
    throwIf (row.permitState ≠ .filled)
      (reject .unknownExposure "v2_reservations.permit_state"
        "consumed debit lacks broker-confirmed FILLED permit state")
    return { book with
      consumedTotal := book.consumedTotal + amount.toRat
      consumed := addDebit underlying amount.toRat book.consumed }
  | state => do
    throwIf (state ≠ .reserved ∨ ¬ (row.permitState = .issued ∨ row.permitState = .submitted))
      (reject .unknownExposure "v2_reservations.state"
        "open V2 state is not an attributable pending or consumed debit")
    throwIf (row.binding.quantity < 1)
      (reject .unknownExposure "v2_reservations.quantity"
        "pending quantity must be a positive integer")
    let reservation ← v2PendingReservation row.binding underlying amount
    return { book with pending := book.pending ++ [reservation] }

def v2BookRows (policySha256 : String) : V2Book → List V2Row → Except LedgerError V2Book
  | book, [] => .ok book
  | book, row :: rest => do
    let next ← v2BookRow policySha256 book row
    v2BookRows policySha256 next rest

def terminalOrderStates : List String :=
  ["FILLED", "CANCELLED", "CANCELED", "REJECTED", "EXPIRED"]

/-- The loop over the broker's orders. -/
def v2CheckOrders (known : List String) : List OrderSnapshot → Except LedgerError Unit
  | [] => .ok ()
  | order :: rest => do
    throwIf (order.isPartialFill = true)
      (reject .partialFillState "orders" "a partial fill leaves V2 debit exposure ambiguous")
    throwIf (order.status ∉ terminalOrderStates ∧ order.orderId ∉ known)
      (reject .unknownExposure "orders"
        "open broker order has no V2 permit/submission attribution")
    v2CheckOrders known rest

/-- The exposures of the consumed debit, in the order they are given. -/
def v2Exposures : List (String × ℚ) → Contract (List UnderlyingExposure)
  | [] => .ok []
  | (underlying, amount) :: rest => do
    let e ← construct UnderlyingExposureFields.check ⟨underlying, amount⟩
    let es ← v2Exposures rest
    return e :: es

/-- `sorted(d.items())`. -/
def sortedDebits (debits : List (String × ℚ)) : List (String × ℚ) :=
  debits.insertionSort fun a b => a.1 ≤ b.1

def v2PortfolioState (account : AccountSnapshot) (cash : Decimal) (book : V2Book) :
    Except LedgerError PortfolioState :=
  (do
    let exposures ← v2Exposures (sortedDebits book.consumed)
    construct PortfolioStateFields.check
      ⟨account.equity, cash, book.consumedTotal, exposures⟩).mapError
    fun e : UniverseContractRejected => reject .contradictoryTruth "portfolio"
      ("fresh cash/equity and consumed debit state conflict: " ++ e.text)

/-- `_v2_portfolio`: allocation truth from consumed rows plus only pending reservations. -/
def v2Portfolio (t : V2Truth) (policySha256 : String) :
    KernelProg (PortfolioState × List AllocationReservation) := do
  let nonV2 : Bool ← perform (S := ledgerSig) .hasNonV2OpenReservations
  raiseIf (nonV2 = true)
    (reject .unknownExposure "reservations"
      "an open reservation has no V2 opportunity/allocation binding")
  let rows ← perform (S := ledgerSig) .v2OpenReservationRows
  let book ← ofExcept (v2BookRows policySha256 .empty rows)
  raiseIf (∃ p ∈ t.positions, p.quantity.toRat ≠ 0 ∧ p.underlying ∉ book.consumed.map Prod.fst)
    (reject .unknownExposure "positions" "broker position has no consumed V2 debit attribution")
  let known ← perform (S := ledgerSig) .v2SubmittedOrderIds
  ofExcept (v2CheckOrders known t.orders)
  let portfolio ← ofExcept (v2PortfolioState t.account t.cash book)
  return (portfolio, book.pending)

def v2PortfolioOrFail (t : V2Truth) (policySha256 : String) (now : DateTime) :
    KernelProg (PortfolioState × List AllocationReservation) :=
  tryCatch (v2Portfolio t policySha256) fun e => match e with
    | .rejected ⟨.partialFillState, _, _⟩ => failClosed .partialFillState now e
    | .rejected _ => failClosed .contradictoryTruth now e
    | other => raise other

def v2Allocate (portfolio : PortfolioState) (o : DefinedRiskOpportunity)
    (existing : List AllocationReservation) : Except LedgerError AllocationDecision :=
  (allocateDefinedRisk portfolio o existing).mapError fun e =>
    reject .unknownExposure "allocation"
      ("pure defined-risk allocation could not be evaluated: " ++ e.text)

/-! ### The preview -/

/-- The first checks on opportunity and expression, with the texts of the calling method. -/
def checkV2Ready (o : DefinedRiskOpportunity) (compiled : CompiledExpression)
    (activePolicy unready kind : String) : Except LedgerError Unit := do
  throwIf (o.1.decisionReady = false)
    (reject .unsupportedInput "opportunity.decision_ready" unready)
  throwIf (compiled.expressionKind ≠ .debitVertical)
    (reject .unsupportedInput "compiled.expression_kind" kind)
  throwIf (compiled.policySha256 ≠ activePolicy)
    (reject .policyHashMismatch "compiled.policy_sha256"
      "compiled expression is not bound to the active V2 policy")

def hasTier (p : RiskPolicyV2) (tier : Decimal) : Bool :=
  tier.toRat == p.riskTiers.1.toRat || tier.toRat == p.riskTiers.2.1.toRat ||
  tier.toRat == p.riskTiers.2.2.toRat

/-- The opportunity names the compiled decision, expression and underlying, and a policy tier. -/
def checkV2Opportunity (p : RiskPolicyV2) (o : DefinedRiskOpportunity)
    (compiled : CompiledExpression) (compiledSymbol : String) : Except LedgerError Unit := do
  throwIf (o.1.decisionId ≠ compiled.decisionSha256)
    (reject .unsupportedInput "opportunity.decision_id"
      "opportunity decision identity differs from the compiled decision hash")
  throwIf (o.1.expressionId ≠ compiledExpressionSha256 compiled)
    (reject .unsupportedInput "opportunity.expression_id"
      "opportunity expression identity differs from the compiled expression hash")
  throwIf (o.1.underlying ≠ compiledSymbol)
    (reject .unsupportedInput "opportunity.underlying"
      "opportunity underlying differs from the compiled debit vertical")
  throwIf (hasTier p o.1.riskTier.fraction = false)
    (reject .policyUnverifiedConstant "opportunity.risk_tier"
      "opportunity tier is not an exact owner-approved V2 tier")

/-- A current-truth allocation calculation that cannot authorize an entry. -/
structure RiskAllocationPreviewV2 where
  opportunityId : String
  opportunitySha256 : String
  expressionSha256 : String
  policySha256 : String
  accountEquity : Decimal
  accountCash : Decimal
  controlState : ControlState
  allocation : AllocationDecision

/-- `preview_allocation_v2`: the current V2 allocation without creating any entry state. -/
def previewAllocationV2 (policy : KernelPolicy) (o : DefinedRiskOpportunity)
    (compiled : CompiledExpression) (truth : Truth) (now : DateTime) :
    KernelProg RiskAllocationPreviewV2 := do
  let current ← ofExcept (requireUtc now "now")
  let p ← ofExcept (v2Policy policy)
  ofExcept (requireV2Paper p "V2 previews require cash-backed PAPER defined-risk policy")
  let state ← requireEntryAllowed
  ofExcept (checkV2Ready o compiled policy.policySha256
    "unready opportunities cannot reach the V2 allocation preview"
    "V2 preview rejects shares, long options, cash, and non-atomic expressions")
  let compiledSymbol ← ofExcept (compiledUnderlying compiled)
  ofExcept (checkV2Opportunity p o compiled compiledSymbol)
  let t ← v2FreshTruth truth current p
  checkV2Freeze p t.account current
  let (portfolio, existing) ← v2PortfolioOrFail t policy.policySha256 current
  let allocation ← ofExcept (v2Allocate portfolio o existing)
  return ⟨o.1.opportunityId, definedRiskOpportunitySha256 o, compiledExpressionSha256 compiled,
    policy.policySha256, t.account.equity, t.cash, state, allocation⟩

/-! ### The V2 entry -/

structure EntryV2Args where
  eventId : String
  candidateId : String
  opportunity : DefinedRiskOpportunity
  compiled : CompiledExpression
  permit : DebitVerticalPermit
  truth : Truth
  now : DateTime

/-- One V2 allocation whose exact permit and reservation committed together. -/
structure RiskApprovalV2 where
  eventId : String
  candidateId : String
  opportunityId : String
  opportunitySha256 : String
  reservationId : String
  allocationReservationId : String
  riskTier : Autonomy.RiskTier
  quantity : Int
  maxLoss : Decimal
  accountEquity : Decimal
  accountCash : Decimal
  policySha256 : String
  permitId : String
  permitSha256 : String
  controlState : ControlState

/-- A valid V2 request with no current cash or debit capacity to reserve. -/
structure RiskAbstentionV2 where
  eventId : String
  candidateId : String
  opportunityId : String
  accountEquity : Decimal
  accountCash : Decimal
  allocation : AllocationDecision
  controlState : ControlState

inductive EntryV2Outcome where
  | approved (a : RiskApprovalV2)
  | abstained (a : RiskAbstentionV2)

/-- Where the part before the transaction ends: an abstention, or what to reserve. -/
inductive EntryV2Plan where
  | abstain (a : RiskAbstentionV2)
  | reserve (state : ControlState) (tier : Autonomy.RiskTier) (r : ReserveV2Args)

def compiledQuantity (c : CompiledExpression) : Except LedgerError Int :=
  let bad := reject .unsupportedInput "compiled.debit_vertical.quantity"
    "V2 requires an exact positive compiled vertical quantity"
  match c.debitVertical.bind (Block.get? · "quantity") with
  | some (.int n) => if n < 1 then .error bad else .ok n
  | _ => .error bad

/-- The exact terms: compiled quantity and loss, the opportunity's debit and the permit. -/
def checkV2Terms (o : DefinedRiskOpportunity) (compiled : CompiledExpression)
    (permit : DebitVerticalPermit) : Except LedgerError (Int × Decimal) := do
  let quantity ← compiledQuantity compiled
  let maxLoss ← expressionExposure compiled
  throwIf (maxLoss.isFinite = false ∨ maxLoss.toRat ≤ 0)
    (reject .unknownExposure "compiled.debit_vertical"
      "compiled maximum loss must be finite and positive")
  throwIf (o.1.maxDebitPerContract.toRat * quantity ≠ maxLoss.toRat)
    (reject .unsupportedInput "opportunity.max_debit_per_contract"
      "opportunity debit, compiled quantity, and maximum loss differ")
  throwIf (permit.quantity ≠ quantity ∨ permit.maximumLoss.toRat ≠ maxLoss.toRat)
    (reject .unsupportedInput "permit"
      "permit quantity or maximum loss differs from compiled allocation terms")
  return (quantity, maxLoss)

def entryV2ReserveArgs (p : RiskPolicyV2) (a : EntryV2Args) (event candidate symbol
    activePolicy reservationId : String) (t : V2Truth) (d : AllocationDecision) :
    ReserveV2Args where
  eventId := event
  candidateId := candidate
  underlying := symbol
  policySha256 := activePolicy
  decisionSha256 := a.compiled.decisionSha256
  expressionSha256 := compiledExpressionSha256 a.compiled
  opportunityId := a.opportunity.1.opportunityId
  opportunitySha256 := definedRiskOpportunitySha256 a.opportunity
  allocationReservationId := reservationId
  riskTier := a.opportunity.1.riskTier.fraction
  quantity := d.quantity
  amount := d.maxLoss
  accountEquity := t.account.equity
  accountCash := t.cash
  maxPerUnderlyingFraction := p.maxPerUnderlyingOpenDebitFraction
  maxAggregateFraction := p.maxAggregateOpenDebitFraction
  permit := a.permit
  now := a.now

/-- What to do with the allocation: abstain, or reserve it if it is exactly the expression's. -/
def entryV2Decide (p : RiskPolicyV2) (a : EntryV2Args) (event candidate symbol activePolicy : String)
    (state : ControlState) (t : V2Truth) (quantity : Int) (maxLoss : Decimal)
    (d : AllocationDecision) : Except LedgerError EntryV2Plan :=
  match d.status, d.reservationId with
  | .abstained, _ => .ok (.abstain ⟨event, candidate, a.opportunity.1.opportunityId,
      t.account.equity, t.cash, d, state⟩)
  | .allocated, reservationId =>
    let differs := reject .unsupportedInput "allocation"
      "allocated quantity, maximum loss, or reservation identity differs from expression"
    match reservationId with
    | none => .error differs
    | some id =>
      if d.quantity ≠ quantity ∨ d.maxLoss.toRat ≠ maxLoss.toRat then .error differs
      else .ok (.reserve state a.opportunity.1.riskTier
        (entryV2ReserveArgs p a event candidate symbol activePolicy id t d))

/-- `authorize_entry_v2` up to its reservation transaction. -/
def entryPlanV2 (policy : KernelPolicy) (a : EntryV2Args) : KernelProg EntryV2Plan := do
  let current ← ofExcept (requireUtc a.now "now")
  let p ← ofExcept (v2Policy policy)
  ofExcept (requireV2Paper p "V2 permits only cash-backed PAPER defined-risk debit verticals")
  let state ← requireEntryAllowed
  ofExcept (checkV2Ready a.opportunity a.compiled policy.policySha256
    "unready opportunities cannot reach the V2 permit path"
    "V2 rejects shares, long options, cash, and non-atomic expressions")
  let event ← identifierOf a.eventId "event_id"
  let candidate ← identifierOf a.candidateId "candidate_id"
  let compiledSymbol ← ofExcept (compiledUnderlying a.compiled)
  let compiledEvent ← identifierOf a.compiled.eventId "compiled.event_id"
  raiseIf (event ≠ compiledEvent)
    (reject .unsupportedInput "event_id" "caller event differs from the compiled expression")
  ofExcept (checkV2Opportunity p a.opportunity a.compiled compiledSymbol)
  let (event, symbol, activePolicy) ← validateCandidateBinding policy event compiledSymbol
    candidate a.compiled
  ofExcept (validatePermitBinding a.permit a.compiled activePolicy current)
  let (quantity, maxLoss) ← ofExcept (checkV2Terms a.opportunity a.compiled a.permit)
  let t ← v2FreshTruth a.truth current p
  checkV2Freeze p t.account current
  let (portfolio, existing) ← v2PortfolioOrFail t activePolicy current
  let d ← ofExcept (v2Allocate portfolio a.opportunity existing)
  ofExcept (entryV2Decide p a event candidate symbol activePolicy state t quantity maxLoss d)

/-- The receipt repeats every allocation and permit binding. -/
def receiptPreserves (receipt : V2ReservationReceipt) (r : ReserveV2Args) : Bool :=
  receipt.reservationId == r.allocationReservationId &&
  receipt.allocationReservationId == r.allocationReservationId &&
  receipt.opportunityId == r.opportunityId &&
  receipt.opportunitySha256 == r.opportunitySha256 &&
  receipt.riskTier.toRat == r.riskTier.toRat && receipt.quantity == r.quantity &&
  receipt.amount.toRat == r.amount.toRat &&
  receipt.accountEquity.toRat == r.accountEquity.toRat &&
  receipt.accountCash.toRat == r.accountCash.toRat && receipt.policySha256 == r.policySha256 &&
  receipt.permitId == r.permit.permitId &&
  receipt.permitSha256 == debitVerticalPermitSha256 r.permit

/-- The V2 reservation transaction, and the check of its receipt. -/
def entryV2Commit : EntryV2Plan → KernelProg EntryV2Outcome
  | .abstain a => return .abstained a
  | .reserve state tier r => do
    let receipt ← ledgerWrite (.reserveV2AndIssuePermit r)
    raiseIf (receiptPreserves receipt r = false)
      (reject .unsupportedInput "v2_authorization.receipt"
        "transaction receipt does not preserve every exact allocation/permit binding")
    return .approved ⟨r.eventId, r.candidateId, r.opportunityId, r.opportunitySha256,
      receipt.reservationId, receipt.allocationReservationId, tier, receipt.quantity,
      receipt.amount, receipt.accountEquity, receipt.accountCash, receipt.policySha256,
      receipt.permitId, receipt.permitSha256, state⟩

/-- `authorize_entry_v2`: atomically authorize one exact V2 defined-risk allocation or abstain. -/
def authorizeEntryV2 (policy : KernelPolicy) (a : EntryV2Args) : KernelProg EntryV2Outcome := do
  let plan ← entryPlanV2 policy a
  entryV2Commit plan

end EsscherMarket.Risk
