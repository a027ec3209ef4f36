import EsscherMarket.Risk.Ledger.Operations

/-!
# The risk ledger: the two atomic reservation paths

`reserve_and_issue_permit` (V1) and `reserve_v2_and_issue_permit`: one transaction that rechecks
candidate, abstention and capacities and then stores the reservation with its permit.

Also the account snapshots and the control state.
-/

namespace EsscherMarket.Risk

open Lib Execution Txn

/-! ### The frozen candidate -/

/-- The candidate check both paths make: frozen, under the active policy, and identical. -/
def requireFrozen (detail event candidate policy decision expression : String) :
    LedgerTxn Unit := do
  let found ← select (·.candidateForEvent event)
  let frozen ← orRaise found
    (reject .unsupportedInput s!"candidate.{event}" "a matching immutable candidate was not frozen")
  raiseIf (frozen.policySha256 ≠ policy)
    (reject .policyHashMismatch s!"candidate.{event}.policy_sha256" detail)
  raiseIf (frozen.candidateId ≠ candidate)
    (reject .unsupportedInput s!"candidate.{event}.candidate_id"
      "authorization identity differs from the frozen candidate")
  raiseIf (frozen.decisionSha256 ≠ decision)
    (reject .unsupportedInput s!"candidate.{event}.decision_sha256"
      "authorization identity differs from the frozen candidate")
  raiseIf (frozen.expressionSha256 ≠ expression)
    (reject .unsupportedInput s!"candidate.{event}.expression_sha256"
      "authorization identity differs from the frozen candidate")

/-! ### The V1 path -/

structure ReserveArgs where
  eventId : String
  underlying : String
  candidateId : String
  riskPolicySha256 : String
  decisionSha256 : String
  expressionSha256 : String
  amount : Decimal
  aggregateLimit : Decimal
  maxOpenExpressions : Int
  maxEntriesPerDay : Int
  permit : DebitVerticalPermit
  now : DateTime

/-- The argument checks of `reserve_and_issue_permit`. -/
def checkReserveArgs (a : ReserveArgs) : Except LedgerError Unit := do
  let _ ← identifier a.eventId "authorization.event_id"
  let _ ← underlyingText a.underlying "authorization.underlying"
  let _ ← identifier a.candidateId "authorization.candidate_id"
  let _ ← sha256Text a.riskPolicySha256 "authorization.risk_policy_sha256"
  let _ ← sha256Text a.decisionSha256 "authorization.decision_sha256"
  let _ ← sha256Text a.expressionSha256 "authorization.expression_sha256"
  let _ ← amountOf a.amount "authorization.amount"
  let _ ← positiveLimit a.aggregateLimit "authorization.aggregate_limit"
  let _ ← positiveInt a.maxOpenExpressions "authorization.max_open_expressions"
  let _ ← positiveInt a.maxEntriesPerDay "authorization.max_entries_per_day"
  throwIf (a.permit.permitId ≠ debitVerticalPermitId a.permit.toDebitVerticalPermitFields)
    (reject .unsupportedInput "authorization.permit_id"
      "must equal the canonical permit identity")
  let _ ← timestamp a.now "authorization.now"
  return ()

def reservePayload (a : ReserveArgs) : Json :=
  .obj [
    ("event_id", .str a.eventId),
    ("candidate_id", .str a.candidateId),
    ("reservation_id", .str ("rsv-" ++ a.eventId)),
    ("permit_id", .str a.permit.permitId),
    ("permit_sha256", .str (debitVerticalPermitSha256 a.permit)),
    ("risk_policy_sha256", .str a.riskPolicySha256),
    ("decision_sha256", .str a.decisionSha256),
    ("compiled_expression_sha256", .str a.expressionSha256),
    ("exposure", .str a.amount.toText)]

def recheckBudgets (a : ReserveArgs) : LedgerTxn Unit := do
  let s ← select id
  raiseIf (a.maxEntriesPerDay ≤ s.entriesToday a.now)
    (reject .entryCountLimitReached "entries_today" "entry count has reached the policy limit")
  raiseIf (a.maxOpenExpressions ≤ s.openReservationCount)
    (reject .expressionLimitReached "open_expressions"
      "open expression count has reached the policy limit")
  let held ← lift s.openReservationTotal
  raiseIf (a.aggregateLimit.toRat < held + a.amount.toRat)
    (reject .budgetExceeded "aggregate_exposure" "aggregate exposure exceeds the policy limit")

/-- `reserve_and_issue_permit`: atomically recheck budgets and persist reservation, permit, and
receipts.  Returns the reservation, the permit and the permit digest. -/
def reserveAndIssuePermit (a : ReserveArgs) : LedgerTxn (String × String × String) := do
  lift (checkReserveArgs a)
  immediateOr (fun message => reject .duplicateEventReservation s!"reservation.{a.eventId}"
      ("duplicate or inconsistent reservation: " ++ message)) do
    let s ← select id
    raiseIf (s.notRunExists a.eventId)
      (reject .notRunEvent s!"event.{a.eventId}" "event is marked NOT_RUN")
    requireFrozen "frozen candidate does not bind the active policy" a.eventId a.candidateId
      a.riskPolicySha256 a.decisionSha256 a.expressionSha256
    raiseIf (s.reservationForEvent a.eventId).isSome
      (reject .duplicateEventReservation s!"reservation.{a.eventId}"
        "a reservation already exists for this event")
    recheckBudgets a
    insertReservation
      (newReservation ("rsv-" ++ a.eventId) a.eventId (.ofStr a.amount) a.underlying a.now)
    insertPermit (newPermit a.permit.permitId a.eventId ("rsv-" ++ a.eventId)
      (debitVerticalPermitSha256 a.permit) a.now)
    appendPassport .reservationHeld (reservePayload a) a.now
    appendPassport .permitIssued (reservePayload a) a.now
    return ("rsv-" ++ a.eventId, a.permit.permitId, debitVerticalPermitSha256 a.permit)

/-! ### V2 amounts -/

/-- The one canonical form of a non-negative amount: `0`, or without exponent and trailing
zeros. -/
def v2Canonical (d : Decimal) : Decimal := if d.toRat = 0 then .ofNat 0 else d.normalize.expand

/-- `_v2_decimal_text` of a checked amount. -/
def v2DecimalText (d : Decimal) : String := if d.toRat = 0 then "0" else d.plainText

/-- The column after storing `_v2_decimal_text(d)`. -/
def v2AmountText (d : Decimal) : AmountText := ⟨v2DecimalText d, some (v2Canonical d)⟩

def v2StoredAmount (cell : AmountText) (path : String) (positive : Bool) :
    Except LedgerError Decimal :=
  match cell.value with
  | none => .error (reject .exposureNotCalculable path
      ("stored amount is malformed: " ++ Decimal.syntaxError))
  | some d => do
    let result ← amountOf d path
    throwIf (positive ∧ result.toRat ≤ 0)
      (reject .exposureNotCalculable path "stored amount must be positive")
    throwIf (v2DecimalText result ≠ cell.text)
      (reject .exposureNotCalculable path "stored amount is not canonical")
    return result

/-! ### V2 rows -/

/-- A V2 binding with the states of its reservation and its permit. -/
structure V2Row where
  binding : V2ReservationRow
  state : ReservationState
  permitState : PermitState
  deriving DecidableEq

namespace Ledger

/-- `JOIN reservations … JOIN permits …` for one V2 binding. -/
def v2Join (s : Ledger) (v : V2ReservationRow) : Option V2Row := do
  let r ← s.reservations.find? fun r => r.reservationId = v.reservationId
  let p ← s.permits.find? fun p => p.permitId = v.permitId
  return ⟨v, r.state, p.state⟩

def v2ReservationForEvent (s : Ledger) (event : String) : Option V2Row :=
  s.v2Reservations.findSome? fun v => if v.eventId = event then s.v2Join v else none

def v2ReservationForOpportunity (s : Ledger) (opportunity : String) : Option V2Row :=
  s.v2Reservations.findSome? fun v => if v.opportunityId = opportunity then s.v2Join v else none

/-- `v2_open_reservation_rows`: the V2 rows still consuming debit capacity, by reservation. -/
def v2OpenReservationRows (s : Ledger) : List V2Row :=
  ((s.v2Reservations.filterMap s.v2Join).filter fun row => row.state.isOpen).insertionSort
    fun a b => a.binding.reservationId ≤ b.binding.reservationId

/-- The V2 binding of a reservation (`LEFT JOIN v2_reservations`). -/
def v2Binding (s : Ledger) (r : ReservationRow) : Option V2ReservationRow :=
  s.v2Reservations.find? fun v => v.reservationId = r.reservationId

def hasNonV2OpenReservations (s : Ledger) : Bool :=
  s.openReservations.any fun r => (s.v2Binding r).isNone

def v2SubmittedOrderIds (s : Ledger) : List String :=
  (s.submissions.filter fun r => s.v2Reservations.any fun v => v.permitId = r.permitId).map
    (·.brokerOrderId)

end Ledger

/-! ### The V2 path -/

structure ReserveV2Args where
  eventId : String
  candidateId : String
  underlying : String
  policySha256 : String
  decisionSha256 : String
  expressionSha256 : String
  opportunityId : String
  opportunitySha256 : String
  allocationReservationId : String
  riskTier : Decimal
  quantity : Int
  amount : Decimal
  accountEquity : Decimal
  accountCash : Decimal
  maxPerUnderlyingFraction : Decimal
  maxAggregateFraction : Decimal
  permit : DebitVerticalPermit
  now : DateTime

structure V2ReservationReceipt where
  eventId : String
  candidateId : String
  reservationId : String
  allocationReservationId : String
  opportunityId : String
  opportunitySha256 : String
  riskTier : RiskTier
  quantity : Int
  amount : Decimal
  accountEquity : Decimal
  accountCash : Decimal
  policySha256 : String
  permitId : String
  permitSha256 : String
  deriving DecidableEq

def v2RiskTier (value : Decimal) (path : String) : Except LedgerError RiskTier := do
  let tier ← positiveLimit value path
  match RiskTier.ofDecimal tier with
  | some t => return t
  | none => throw (reject .unsupportedInput path "must be an approved V2 risk tier")

/-- The argument checks of `reserve_v2_and_issue_permit`; returns the tier. -/
def checkReserveV2Args (a : ReserveV2Args) : Except LedgerError RiskTier := do
  let _ ← identifier a.eventId "v2_authorization.event_id"
  let _ ← identifier a.candidateId "v2_authorization.candidate_id"
  let _ ← underlyingText a.underlying "v2_authorization.underlying"
  let _ ← sha256Text a.policySha256 "v2_authorization.policy_sha256"
  let _ ← sha256Text a.decisionSha256 "v2_authorization.decision_sha256"
  let _ ← sha256Text a.expressionSha256 "v2_authorization.expression_sha256"
  let _ ← identifier a.opportunityId "v2_authorization.opportunity_id"
  let _ ← sha256Text a.opportunitySha256 "v2_authorization.opportunity_sha256"
  let _ ← sha256Text a.allocationReservationId "v2_authorization.allocation_reservation_id"
  let tier ← v2RiskTier a.riskTier "v2_authorization.risk_tier"
  let _ ← positiveInt a.quantity "v2_authorization.quantity"
  let _ ← positiveLimit a.amount "v2_authorization.amount"
  let _ ← positiveLimit a.accountEquity "v2_authorization.account_equity"
  let _ ← amountOf a.accountCash "v2_authorization.account_cash"
  throwIf (a.accountEquity.toRat < a.accountCash.toRat)
    (reject .contradictoryTruth "v2_authorization.account_cash"
      "unborrowed cash exceeds current equity")
  let _ ← positiveLimit a.maxPerUnderlyingFraction "v2_authorization.max_per_underlying_fraction"
  let _ ← positiveLimit a.maxAggregateFraction "v2_authorization.max_aggregate_fraction"
  throwIf (a.maxPerUnderlyingFraction.toRat ≠ (Decimal.cents 20).toRat ∨
      a.maxAggregateFraction.toRat ≠ (Decimal.cents 50).toRat)
    (reject .policyUnverifiedConstant "v2_authorization.capacity_fractions"
      "V2 fractions must be the owner-approved 20%/50% constants")
  throwIf (a.permit.permitId ≠ debitVerticalPermitId a.permit.toDebitVerticalPermitFields)
    (reject .unsupportedInput "v2_authorization.permit_id"
      "must equal the canonical permit identity")
  throwIf (a.permit.eventRunId ≠ a.eventId ∨ a.permit.decisionSha256 ≠ a.decisionSha256 ∨
      a.permit.policySha256 ≠ a.policySha256 ∨ a.permit.underlying ≠ a.underlying ∨
      a.permit.quantity ≠ a.quantity ∨ a.permit.maximumLoss.toRat ≠ a.amount.toRat)
    (reject .unsupportedInput "v2_authorization.permit"
      "permit identity, quantity, or maximum loss differs from V2 allocation")
  let _ ← timestamp a.now "v2_authorization.now"
  return tier

def v2NewBinding (a : ReserveV2Args) (tier : RiskTier) : V2ReservationRow where
  reservationId := a.allocationReservationId
  eventId := a.eventId
  candidateId := a.candidateId
  underlying := a.underlying
  decisionSha256 := a.decisionSha256
  expressionSha256 := a.expressionSha256
  opportunityId := a.opportunityId
  opportunitySha256 := a.opportunitySha256
  allocationReservationId := a.allocationReservationId
  riskTier := tier
  quantity := a.quantity
  amount := v2AmountText a.amount
  accountEquity := v2AmountText a.accountEquity
  accountCash := v2AmountText a.accountCash
  policySha256 := a.policySha256
  permitId := a.permit.permitId
  permitSha256 := debitVerticalPermitSha256 a.permit
  createdAt := a.now

/-- `all(row[key] == value for key, value in expected.items())`: every stored column but
`created_at` has the value this call would store. -/
def matchesExpected (row expected : V2ReservationRow) : Bool :=
  row.reservationId == expected.reservationId && row.eventId == expected.eventId &&
  row.candidateId == expected.candidateId && row.underlying == expected.underlying &&
  row.decisionSha256 == expected.decisionSha256 &&
  row.expressionSha256 == expected.expressionSha256 &&
  row.opportunityId == expected.opportunityId &&
  row.opportunitySha256 == expected.opportunitySha256 &&
  row.allocationReservationId == expected.allocationReservationId &&
  row.riskTier == expected.riskTier && row.quantity == expected.quantity &&
  row.amount.text == expected.amount.text &&
  row.accountEquity.text == expected.accountEquity.text &&
  row.accountCash.text == expected.accountCash.text &&
  row.policySha256 == expected.policySha256 && row.permitId == expected.permitId &&
  row.permitSha256 == expected.permitSha256

/-- The running sums of the capacity check. -/
structure V2Totals where
  consumedTotal : ℚ
  reservedTotal : ℚ
  consumedUnderlying : ℚ
  reservedUnderlying : ℚ

def V2Totals.add (t : V2Totals) (symbol : String) (r : ReservationRow) (amount : ℚ) : V2Totals :=
  let mine := if r.underlying = symbol then amount else 0
  match r.state with
  | .consumed => { t with
      consumedTotal := t.consumedTotal + amount, consumedUnderlying := t.consumedUnderlying + mine }
  | _ => { t with
      reservedTotal := t.reservedTotal + amount, reservedUnderlying := t.reservedUnderlying + mine }

def v2OpenAmount (s : Ledger) (r : ReservationRow) : Except LedgerError Decimal :=
  match s.v2Binding r with
  | none => .error (reject .unknownExposure "v2_authorization.open_reservations"
      "an open reservation has no V2 attribution")
  | some v => do
    let reservationAmount ← v2StoredAmount r.amount "reservations.amount" true
    let v2Amount ← v2StoredAmount v.amount "v2_reservations.amount" true
    throwIf (reservationAmount.toRat ≠ v2Amount.toRat)
      (reject .contradictoryTruth "v2_authorization.open_reservations"
        "reservation and V2 amount bindings differ")
    return reservationAmount

def v2Accumulate (s : Ledger) (symbol : String) :
    V2Totals → List ReservationRow → Except LedgerError V2Totals
  | t, [] => .ok t
  | t, r :: rest => do
    let amount ← v2OpenAmount s r
    v2Accumulate s symbol (t.add symbol r amount.toRat) rest

def v2Totals (s : Ledger) (symbol : String) : Except LedgerError V2Totals :=
  v2Accumulate s symbol ⟨0, 0, 0, 0⟩ s.openReservations

def v2CapacityChecks (a : ReserveV2Args) (tier : RiskTier) (t : V2Totals) : LedgerTxn Unit := do
  raiseIf (tier.toRat * a.accountEquity.toRat < a.amount.toRat)
    (reject .budgetExceeded "v2_authorization.risk_tier"
      "allocation exceeds its owner-approved tier capacity")
  raiseIf (a.maxAggregateFraction.toRat * a.accountEquity.toRat <
      t.consumedTotal + t.reservedTotal + a.amount.toRat)
    (reject .budgetExceeded "v2_authorization.aggregate"
      "aggregate open debit exceeds the 50% current-equity cap")
  raiseIf (a.maxPerUnderlyingFraction.toRat * a.accountEquity.toRat <
      t.consumedUnderlying + t.reservedUnderlying + a.amount.toRat)
    (reject .concentrationLimitBreached "v2_authorization.underlying"
      "per-underlying open debit exceeds the 20% current-equity cap")
  raiseIf (a.accountCash.toRat - t.reservedTotal < a.amount.toRat)
    (reject .budgetExceeded "v2_authorization.cash"
      "pending reserved debit exceeds current unborrowed cash")

def reserveV2Payload (a : ReserveV2Args) (tier : RiskTier) : Json :=
  .obj [
    ("event_id", .str a.eventId),
    ("candidate_id", .str a.candidateId),
    ("underlying", .str a.underlying),
    ("decision_sha256", .str a.decisionSha256),
    ("expression_sha256", .str a.expressionSha256),
    ("opportunity_id", .str a.opportunityId),
    ("opportunity_sha256", .str a.opportunitySha256),
    ("reservation_id", .str a.allocationReservationId),
    ("allocation_reservation_id", .str a.allocationReservationId),
    ("risk_tier", .str tier.value),
    ("quantity", .int a.quantity),
    ("amount", .str (v2DecimalText a.amount)),
    ("account_equity", .str (v2DecimalText a.accountEquity)),
    ("account_cash", .str (v2DecimalText a.accountCash)),
    ("policy_sha256", .str a.policySha256),
    ("risk_policy_sha256", .str a.policySha256),
    ("permit_id", .str a.permit.permitId),
    ("permit_sha256", .str (debitVerticalPermitSha256 a.permit))]

def v2ReceiptFromRow (v : V2ReservationRow) : Except LedgerError V2ReservationReceipt := do
  let event ← identifier v.eventId "v2_reservations.event_id"
  let candidate ← identifier v.candidateId "v2_reservations.candidate_id"
  let reservation ← sha256Text v.reservationId "v2_reservations.reservation_id"
  let allocation ← sha256Text v.allocationReservationId
    "v2_reservations.allocation_reservation_id"
  let opportunity ← identifier v.opportunityId "v2_reservations.opportunity_id"
  let digest ← sha256Text v.opportunitySha256 "v2_reservations.opportunity_sha256"
  let quantity ← positiveInt v.quantity "v2_reservations.quantity"
  let amount ← v2StoredAmount v.amount "v2_reservations.amount" true
  let equity ← v2StoredAmount v.accountEquity "v2_reservations.account_equity" true
  let cash ← v2StoredAmount v.accountCash "v2_reservations.account_cash" false
  let policy ← sha256Text v.policySha256 "v2_reservations.policy_sha256"
  let permit ← identifier v.permitId "v2_reservations.permit_id"
  let permitSha256 ← sha256Text v.permitSha256 "v2_reservations.permit_sha256"
  return ⟨event, candidate, reservation, allocation, opportunity, digest, v.riskTier, quantity,
    amount, equity, cash, policy, permit, permitSha256⟩

def v2NewReceipt (a : ReserveV2Args) (tier : RiskTier) : V2ReservationReceipt :=
  ⟨a.eventId, a.candidateId, a.allocationReservationId, a.allocationReservationId,
    a.opportunityId, a.opportunitySha256, tier, a.quantity, a.amount, a.accountEquity,
    a.accountCash, a.policySha256, a.permit.permitId, debitVerticalPermitSha256 a.permit⟩

/-- The V2 binding that the event or the opportunity already has.  A call that finds one never
writes: it is an exact replay, or it is rejected. -/
def v2Existing (s : Ledger) (a : ReserveV2Args) : Option V2Row :=
  (s.v2ReservationForEvent a.eventId).or (s.v2ReservationForOpportunity a.opportunityId)

/-- The event and the opportunity are bound to different reservations. -/
def v2SplitBinding (s : Ledger) (a : ReserveV2Args) : Bool :=
  match s.v2ReservationForEvent a.eventId, s.v2ReservationForOpportunity a.opportunityId with
  | some e, some o => e.binding.reservationId != o.binding.reservationId
  | _, _ => false

/-- The replay path: return the stored binding of an identical call that is still `RESERVED` and
`ISSUED`. -/
def v2Replay (a : ReserveV2Args) (tier : RiskTier) (row : V2Row) :
    LedgerTxn V2ReservationReceipt := do
  let s ← select id
  raiseIf (v2SplitBinding s a)
    (reject .duplicateEventReservation s!"v2_reservation.{a.eventId}"
      "event and opportunity are already bound to different reservations")
  raiseIf (¬ matchesExpected row.binding (v2NewBinding a tier))
    (reject .duplicateEventReservation s!"v2_reservation.{a.eventId}"
      "event or opportunity was already bound to different exact values")
  raiseIf (¬ (row.state = .reserved ∧ row.permitState = .issued))
    (reject .eventLifecycleInvalid s!"v2_reservation.{a.eventId}"
      "an exact replay is only valid before submission or consumption")
  lift (v2ReceiptFromRow row.binding)

/-- The new reservation, permit, binding and receipts of the V2 path. -/
def v2Store (a : ReserveV2Args) (tier : RiskTier) : LedgerTxn V2ReservationReceipt := do
  insertReservation
    (newReservation a.allocationReservationId a.eventId (v2AmountText a.amount) a.underlying a.now)
  insertPermit (newPermit a.permit.permitId a.eventId a.allocationReservationId
    (debitVerticalPermitSha256 a.permit) a.now)
  insertV2Reservation (v2NewBinding a tier)
  appendPassport .reservationHeld (reserveV2Payload a tier) a.now
  appendPassport .permitIssued (reserveV2Payload a tier) a.now
  return v2NewReceipt a tier

/-- `reserve_v2_and_issue_permit`: atomically bind a V2 allocation, exact permit, and capacity
reservation. -/
def reserveV2AndIssuePermit (a : ReserveV2Args) : LedgerTxn V2ReservationReceipt := do
  let tier ← lift (checkReserveV2Args a)
  immediateOr (fun message => reject .duplicateEventReservation s!"v2_reservation.{a.eventId}"
      ("duplicate or inconsistent V2 reservation: " ++ message)) do
    let s ← select id
    raiseIf (s.notRunExists a.eventId)
      (reject .notRunEvent s!"event.{a.eventId}" "event is marked NOT_RUN")
    requireFrozen "frozen candidate does not bind the active V2 policy" a.eventId a.candidateId
      a.policySha256 a.decisionSha256 a.expressionSha256
    match v2Existing s a with
    | some row => v2Replay a tier row
    | none => do
      raiseIf (s.reservationForEvent a.eventId).isSome
        (reject .duplicateEventReservation s!"reservation.{a.eventId}"
          "a non-V2 reservation already exists for this event")
      let totals ← lift (v2Totals s a.underlying)
      v2CapacityChecks a tier totals
      v2Store a tier

/-! ### Account snapshots and the control state -/

def recordAccountSnapshot (equity : Decimal) (now : DateTime) : LedgerTxn Unit := do
  let value ← lift (finiteDecimal equity "account.equity")
  let observed ← lift (timestamp now "account.observed_at")
  write fun s => s.withAccountSnapshots (s.accountSnapshots ++ [⟨value, observed⟩])

/-- The larger of a running peak and one more value. -/
def peakStep (peak : Option Decimal) (row : AccountSnapshotRow) : Option Decimal :=
  match peak with
  | none => some row.equity
  | some p => if p.toRat < row.equity.toRat then some row.equity else some p

def Ledger.intradayPeakEquity (s : Ledger) (now : DateTime) : Decimal :=
  ((s.accountSnapshots.filter fun row => row.observedAt.utcDay = now.utcDay).foldl peakStep
    none).getD (.ofNat 0)

def setControlState (state : ControlState) (reason : Option String) (now : DateTime) :
    LedgerTxn Unit := do
  let updated ← lift (timestamp now "control_state.updated_at")
  write fun s => s.withControlState (some ⟨state, reason, updated⟩)

/-- `set_control_state_with_passport`: state and passport receipt in one transaction. -/
def setControlStateWithPassport (state : ControlState) (reason : Option String)
    (eventPayload : Json) (now : DateTime) : LedgerTxn Unit :=
  immediate do
    setControlState state reason now
    appendPassport .controlStateChanged eventPayload now

/-- `get_control_state`: before any startup reconciliation, `ENTRY_DISABLED`. -/
def Ledger.getControlState (s : Ledger) : ControlState × Option String :=
  match s.controlState with
  | none => (.entryDisabled, some "startup reconciliation is required")
  | some row => (row.state, row.reason)

end EsscherMarket.Risk
