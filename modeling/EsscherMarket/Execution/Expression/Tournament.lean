import EsscherMarket.Execution.Expression.Economics

/-!
# The comparison of expressions

`execution/expression/tournament.py`: the economics of the four expressions for one event, the
summary of one expression over all events, and the promoted expression.  The summaries read the
economics from a dict keyed by event id; the report keeps one payload for each event given.
-/

namespace EsscherMarket.Execution

open Lib
open Strategy (Direction isUtc)

/-- One comparison event: validated decision plus immutable observations. -/
structure TournamentEvent where
  eventId : String
  decisionDirection : Direction
  decisionSha256 : String
  outcomeDirection : Option Direction
  snapshot : ExpressionMarketSnapshot
  exitClockAt : DateTime
  accepted : (eventId != "" && decisionDirection != .uncertain &&
    outcomeDirection != some .uncertain && isUtc exitClockAt &&
    decide (snapshot.observationClockAt.micros ≤ exitClockAt.micros)) = true

def TournamentEvent.isUp (e : TournamentEvent) : Bool := e.decisionDirection == .up

variable (policy : PromotedExpressionPolicy)

/-! ### The economics of one event -/

def rejectedEconomics (eventId : String) (kind : ExpressionKind) (reason : ExpressionReason) :
    ExpressionEconomics :=
  ⟨eventId, kind, .rejected reason⟩

def strictSharesEconomics (event : TournamentEvent) : ExpressionEconomics :=
  let snapshot := event.snapshot
  let checks : Except ExpressionRejected Unit := do
    validateFeed snapshot.share.feed "share.feed"
    validateExecutableData snapshot.share.dataClass "share.data_class" policy.allowsIndicativeData
    validateQuote snapshot policy snapshot.share.quote "share.quote"
    if event.isUp = false then validateBorrowLocate snapshot policy snapshot.borrowLocate
  match checks with
  | .error error => rejectedEconomics event.eventId .shares error.reason
  | .ok () => sharesEconomics snapshot policy event.eventId event.isUp

def longOptionContract (event : TournamentEvent) :
    Except ExpressionRejected OptionContractObservation := do
  let contract ← selectLongContract event.snapshot policy event.isUp
  validateOptionObservation event.snapshot policy contract s!"option.{contract.symbol}"
  pure contract

def strictVerticalEconomics (event : TournamentEvent) :
    Except ExpressionRejected ExpressionEconomics := do
  let snapshot := event.snapshot
  let geometry ← selectVerticalGeometry snapshot policy event.isUp
  validateOptionObservation snapshot policy geometry.longLeg s!"vertical.{geometry.longLeg.symbol}"
  validateOptionObservation snapshot policy geometry.shortLeg s!"vertical.{geometry.shortLeg.symbol}"
  validateCrossLegSkew policy geometry.longLeg.quote geometry.shortLeg.quote
  let package ← selectPackage snapshot geometry
  validatePackage snapshot policy package s!"package.{package.packageId}"
  pure (debitVerticalEconomics policy event.eventId package geometry.width)

/-- `_event_economics`: one row for each expression. -/
def eventEconomics (event : TournamentEvent) : List ExpressionEconomics :=
  [cashEconomics event.eventId, strictSharesEconomics policy event] ++
  match longOptionContract policy event with
  | .error error =>
    [rejectedEconomics event.eventId .oneLongOption error.reason,
      rejectedEconomics event.eventId .debitVertical error.reason]
  | .ok contract =>
    [optionEconomics policy event.eventId contract,
      match strictVerticalEconomics policy event with
      | .error error => rejectedEconomics event.eventId .debitVertical error.reason
      | .ok economics => economics]

/-- One row of a report, in the texts of the receipt. -/
structure EconomicsPayload where
  expressionKind : String
  outcome : String
  reason : Option String
  entryCost : Option String
  maxLoss : Option String
  entrySpreadCost : Option String
  deriving DecidableEq, Repr

def economicsPayload (item : ExpressionEconomics) : EconomicsPayload where
  expressionKind := item.expressionKind.value
  outcome := if item.compared then "COMPARED" else "REJECTED"
  reason := item.reason.map ExpressionReason.value
  entryCost := item.entryCost.map Decimal.toText
  maxLoss := item.maxLoss.map Decimal.toText
  entrySpreadCost := item.entrySpreadCost.map Decimal.toText

structure EventPayload where
  eventId : String
  decisionDirection : String
  decisionSha256 : String
  outcomeDirection : Option String
  snapshotSha256 : String
  decisionTimestamp : String
  exitClockAt : String
  economics : List EconomicsPayload
  deriving DecidableEq, Repr

def eventPayload (event : TournamentEvent) : EventPayload where
  eventId := event.eventId
  decisionDirection := event.decisionDirection.value
  decisionSha256 := event.decisionSha256
  outcomeDirection := event.outcomeDirection.map Direction.value
  snapshotSha256 := expressionMarketSnapshotSha256 event.snapshot
  decisionTimestamp := event.snapshot.observationClockAt.isoformatZ
  exitClockAt := event.exitClockAt.isoformatZ
  economics := (eventEconomics policy event).map economicsPayload

/-! ### Summaries -/

abbrev EconomicsTable : Type := List (String × List ExpressionEconomics)

/-- `table[key] = value`: a key that is present keeps its place. -/
def setItem (table : EconomicsTable) (key : String) (value : List ExpressionEconomics) :
    EconomicsTable :=
  if table.any (·.1 == key) then table.map fun entry => if entry.1 == key then (key, value) else entry
  else table ++ [(key, value)]

/-- `table[key]` of a key that is present. -/
def getItem (table : EconomicsTable) (key : String) : List ExpressionEconomics :=
  ((table.find? (·.1 == key)).map Prod.snd).getD []

def allEconomics (events : List TournamentEvent) : EconomicsTable :=
  events.foldl (fun table event => setItem table event.eventId (eventEconomics policy event)) []

/-- `_direction_hit_row`: one directional hit only for compared rows of one expression. -/
def directionHitRow (event : TournamentEvent) (rows : List ExpressionEconomics)
    (kind : ExpressionKind) : Nat :=
  if kind = .cashNoTrade ∨ event.outcomeDirection = none then 0
  else if (rows.filter fun item => item.expressionKind == kind && item.compared) = [] then 0
  else if event.outcomeDirection = some event.decisionDirection then 1 else 0

def countReason (reason : String) : List (String × Nat) → List (String × Nat)
  | [] => [(reason, 1)]
  | (r, n) :: rest =>
    if reason = r then (r, n + 1) :: rest
    else if reason < r then (reason, 1) :: (r, n) :: rest
    else (r, n) :: countReason reason rest

/-- `max(values, default=Decimal(0))`: the first one of equal numbers. -/
def maxDecimals : List Decimal → Decimal
  | [] => .ofNat 0
  | d :: rest => rest.foldl (fun best d => if best.lt d then d else best) d

structure ExpressionSummary where
  expressionKind : String
  eventsTotal : Nat
  eventsCompared : Nat
  eventsRejected : Nat
  rejectionCounts : List (String × Nat)
  totalEntryCost : String
  worstMaxLoss : String
  directionHits : Option Nat
  afterCostEdgeBps : Option String
  deriving DecidableEq, Repr

/-- `_summarize`, of the rows that `economicsOf` gives for each event. -/
def summarize (events : List TournamentEvent)
    (economicsOf : TournamentEvent → List ExpressionEconomics) (kind : ExpressionKind) :
    ExpressionSummary :=
  let rows := events.flatMap fun event => (economicsOf event).filter (·.expressionKind == kind)
  let compared := rows.filter (·.compared)
  let rejected := rows.filter fun row => !row.compared
  let reasons := rejected.map fun row => (row.reason.map ExpressionReason.value).getD "UNKNOWN"
  let hits := if kind = .cashNoTrade then 0
    else (events.map fun event => directionHitRow event (economicsOf event) kind).sum
  { expressionKind := kind.value
    eventsTotal := events.length
    eventsCompared := compared.length
    eventsRejected := rejected.length
    rejectionCounts := reasons.foldl (fun counts reason => countReason reason counts) []
    totalEntryCost := (sumDecimals (compared.filterMap (·.entryCost))).toText
    worstMaxLoss := (maxDecimals (compared.filterMap (·.maxLoss))).toText
    directionHits := if kind = .cashNoTrade then none else some hits
    afterCostEdgeBps := (afterCostEdgeBasisPoints rows hits).map Decimal.toText }

/-! ### Promotion -/

/-- What one expression contributes to the promotion: its edge, or the reason against it. -/
def qualify (summary : ExpressionSummary) : Decimal ⊕ String :=
  if summary.eventsCompared < policy.evidenceMinEvents then .inr "INSUFFICIENT_EVENTS"
  else match summary.afterCostEdgeBps with
    | none => .inr "NO_COMPARED_EVENTS"
    | some text =>
      let edge := (Decimal.parse text).getD .nan
      if edge.lt policy.evidenceThreshold = true then .inr "BELOW_EVIDENCE_THRESHOLD" else .inl edge

def promotionKey (entry : ExpressionKind × Decimal) : ℚ ×ₗ String :=
  toLex (entry.2.neg.toRat, entry.1.value)

/-- The expressions that can be promoted, with what the summary says of each. -/
def promotable : List ExpressionKind := [.debitVertical, .oneLongOption, .shares]

/-- `sorted(set(texts))`. -/
def sortedSet (texts : List String) : List String :=
  (texts.foldl (fun counts text => countReason text counts) []).map Prod.fst

/-- `_promote`: the promoted expression, and the sorted reasons where there is none. -/
def promote (summaryOf : ExpressionKind → ExpressionSummary) :
    Option ExpressionKind × List String :=
  let qualified := promotable.filterMap fun kind =>
    match qualify policy (summaryOf kind) with
    | .inl edge => some (kind, edge)
    | .inr _ => none
  let reasons := promotable.filterMap fun kind =>
    match qualify policy (summaryOf kind) with
    | .inl _ => none
    | .inr reason => some reason
  match qualified.argmin promotionKey with
  | none => (none, sortedSet reasons)
  | some best => (some best.1, [])
/-! ### The report -/

/-- The canonical comparison receipt. -/
structure GateDReport where
  reportId : String
  policySha256 : String
  evaluatedAt : DateTime
  eventPayloads : List EventPayload
  summaries : List ExpressionSummary
  promoted : Option ExpressionKind
  promotionReasonCodes : List String
  optionHistoryStatus : String
  optionHistoryBlockers : List String
  deriving DecidableEq, Repr

inductive TournamentError where
  | rejected (error : ExpressionRejected)
  | valueError (message : String)
  deriving DecidableEq, Repr

def expressionOrder : List ExpressionKind := [.cashNoTrade, .shares, .oneLongOption, .debitVertical]

/-- Compare every expression over identical events and emit the receipt. -/
def runGateDTournament (reportId : String) (policySha256 : String) (events : List TournamentEvent)
    (evaluatedAt : DateTime) : Except TournamentError GateDReport := do
  throwIf (events = []) (.rejected ⟨.unsupportedInput, "tournament.events"⟩)
  throwIf (isUtc evaluatedAt = false) (.rejected ⟨.unsupportedInput, "tournament.evaluated_at"⟩)
  throwIf (policySha256 ≠ promotedExpressionPolicySha256 policy)
    (.rejected ⟨.policyHashMismatch, "policy_sha256"⟩)
  let table := allEconomics policy events
  let summaryOf := summarize events fun event => getItem table event.eventId
  let optionRows := (table.flatMap Prod.snd).filter (·.expressionKind == .oneLongOption)
  let available := optionRows.any (·.compared)
  let (promoted, reasons) := promote policy summaryOf
  -- the rest of what `GateDReport` checks holds by construction
  throwIf (reportId = "") (.valueError "report_id must be non-empty text")
  pure {
    reportId := reportId
    policySha256 := policySha256
    evaluatedAt := evaluatedAt
    eventPayloads := events.map (eventPayload policy)
    summaries := expressionOrder.map summaryOf
    promoted := promoted
    promotionReasonCodes := reasons
    optionHistoryStatus := if available then "AVAILABLE" else "NOT_RUN"
    optionHistoryBlockers := if available then []
      else sortedSet (optionRows.filterMap fun row => row.reason.map ExpressionReason.value) }

end EsscherMarket.Execution
