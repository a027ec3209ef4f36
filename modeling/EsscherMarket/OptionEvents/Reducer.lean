import EsscherMarket.OptionEvents.Records

/-!
# The reconciliation of option events

`reconcile_option_events` of `runtime/option_events.py`.  The order in which the events are given
does not matter (`reconcileOptionEvents_perm`).
-/

namespace EsscherMarket.OptionEvents

open Lib Strategy Execution

/-! ### The reducer -/

/-- `_leg_terms`: the signed contracts and the strike of a leg. -/
def legTerms (binding : OptionLifecycleBinding) (symbol : String) : Option (Decimal × Decimal) :=
  let b := binding.fields
  let quantity := Decimal.ofInt b.quantity
  if symbol = b.longSymbol then some (quantity, b.longStrike)
  else if symbol = b.shortSymbol then some (quantity.neg, b.shortStrike)
  else none

def shareDelta (optionType : OptionType) (signedContracts : Decimal) : Decimal :=
  let delta := signedContracts.times (.ofNat 100)
  if optionType = .put then delta.neg else delta

def eventEconomicsValid (binding : OptionLifecycleBinding) (event : NormalizedOptionEvent) : Bool :=
  let e := event.fields
  match legTerms binding e.optionSymbol with
  | none => false
  | some (signedContracts, strike) =>
    let delta := shareDelta binding.fields.optionType signedContracts
    decide ((Decimal.ofNat e.contracts).toRat = signedContracts.abs.toRat) &&
    !(e.kind == .assignment && decide (0 ≤ signedContracts.toRat)) &&
    !(e.kind == .exercise && decide (signedContracts.toRat ≤ 0)) &&
    decide (e.underlyingQuantityDelta.toRat = delta.toRat) &&
    decide (e.cashDelta.toRat = (delta.times strike).neg.toRat)

/-- `sum(values, start=Decimal(0))`. -/
def decimalSum (values : List Decimal) : Decimal := values.foldl Decimal.add (.ofNat 0)

/-- `tuple(sorted(set(reasons)))`. -/
def reasonCodes (reasons : List String) : List String :=
  reasons.dedup.mergeSort fun a b => decide (a ≤ b)

/-- `tuple(sorted(event.event_sha256 for event in events))`. -/
def eventDigests (events : List NormalizedOptionEvent) : List String :=
  (events.map Signed.sha256).mergeSort fun a b => decide (a ≤ b)

/-- The fields of the receipt that `_receipt` makes. -/
def receiptFields (binding : OptionLifecycleBinding) (observation : OptionPortfolioObservation)
    (coverage : OptionActivityCoverage) (events : List NormalizedOptionEvent)
    (state : OptionReconciliationState) (reasons : List String) : ReceiptFields :=
  let b := binding.fields
  let underlying := positionQuantity observation .equity b.underlyingSymbol
  { bindingSha256 := binding.sha256
    sessionId := b.sessionId
    lifecycleId := b.lifecycleId
    observationSha256 := observation.sha256
    activityCoverageSha256 := coverage.sha256
    eventSha256s := eventDigests events
    state
    reasonCodes := reasonCodes reasons
    observedAt := observation.fields.observedAt
    longOptionQuantity := positionQuantity observation .option b.longSymbol
    shortOptionQuantity := positionQuantity observation .option b.shortSymbol
    underlyingQuantity := underlying
    underlyingQuantityDelta := underlying.sub b.baselineUnderlyingQuantity
    eventCashDelta := decimalSum (events.map (·.fields.cashDelta))
    evidenceClass := observation.fields.evidenceClass }

def receipt (binding : OptionLifecycleBinding) (observation : OptionPortfolioObservation)
    (coverage : OptionActivityCoverage) (events : List NormalizedOptionEvent)
    (state : OptionReconciliationState) (reasons : List String) :
    Except String OptionEventReconciliationReceipt :=
  let fields := receiptFields binding observation coverage events state reasons
  if h : fields.check = true then .ok ⟨fields, h⟩ else .error "receipt is invalid"

def eventBound (binding : OptionLifecycleBinding) (observation : OptionPortfolioObservation)
    (coverage : OptionActivityCoverage) (event : NormalizedOptionEvent) : Bool :=
  let b := binding.fields
  let e := event.fields
  e.accountFingerprintSha256 == b.accountFingerprintSha256 &&
  e.executionProtocolSha256 == b.executionProtocolSha256 &&
  e.evidenceClass == observation.fields.evidenceClass &&
  decide (b.activationObservedAt ≤ e.observedAt ∧ e.observedAt ≤ observation.fields.observedAt ∧
    coverage.fields.windowStart ≤ e.observedAt ∧ e.observedAt ≤ coverage.fields.windowEnd) &&
  decide (dateKey (dateOf b.activationObservedAt) ≤ dateKey e.effectiveDate ∧
    dateKey e.effectiveDate ≤ dateKey b.optionExpiry) &&
  e.underlyingSymbol == b.underlyingSymbol

/-- What `reconcile_option_events` refuses; the events are in order. -/
def checkInputs (binding : OptionLifecycleBinding) (observation : OptionPortfolioObservation)
    (coverage : OptionActivityCoverage) (events : List NormalizedOptionEvent) :
    Except String Unit := do
  let b := binding.fields
  let o := observation.fields
  let c := coverage.fields
  throwIf (¬(events.map (·.fields.activityId)).Nodup) "event activity IDs must be unique"
  throwIf (c.eventSha256s ≠ eventDigests events)
    "activity coverage does not bind the normalized event set"
  throwIf (o.accountFingerprintSha256 ≠ b.accountFingerprintSha256 ∨
      o.executionProtocolSha256 ≠ b.executionProtocolSha256 ∨
      o.evidenceClass ≠ b.activationEvidenceClass)
    "observation authority does not match the lifecycle binding"
  throwIf (c.accountFingerprintSha256 ≠ b.accountFingerprintSha256 ∨
      c.executionProtocolSha256 ≠ b.executionProtocolSha256 ∨
      c.evidenceClass ≠ b.activationEvidenceClass ∨ c.observedAt ≠ o.observedAt)
    "activity coverage does not match observation authority or clock"
  throwIf (o.observedAt < b.activationObservedAt)
    "current observation predates lifecycle activation"
  throwIf (¬events.all (eventBound binding observation coverage))
    "event authority, evidence, clock, or underlying is unbound"

def coverageComplete (binding : OptionLifecycleBinding) (observation : OptionPortfolioObservation)
    (coverage : OptionActivityCoverage) : Bool :=
  coverage.fields.complete &&
  decide (coverage.fields.windowStart ≤ binding.fields.activationObservedAt ∧
    coverage.fields.windowEnd = observation.fields.observedAt)

def quietOutcome (binding : OptionLifecycleBinding) (observation : OptionPortfolioObservation)
    (coverage : OptionActivityCoverage) : OptionReconciliationState × List String :=
  let b := binding.fields
  let now := observation.fields.observedAt
  let complete := coverageComplete binding observation coverage
  let expected := Decimal.ofInt b.quantity
  let unchanged :=
    decide ((positionQuantity observation .option b.longSymbol).toRat = expected.toRat) &&
    decide ((positionQuantity observation .option b.shortSymbol).toRat = expected.neg.toRat) &&
    decide ((positionQuantity observation .equity b.underlyingSymbol).toRat =
      b.baselineUnderlyingQuantity.toRat)
  if complete && unchanged && decide (now < b.expirationSessionClose) then
    (.activeUnchanged, ["BOUND_POSITIONS_UNCHANGED"])
  else
    (.manualReconciliationRequired,
      (if complete then [] else ["ACCOUNT_ACTIVITY_COVERAGE_INCOMPLETE"]) ++
      [if now < b.expirationSessionClose then "UNATTRIBUTED_POSITION_CHANGE"
        else if now < b.expirationActivityHorizon then "EXPIRY_ACTIVITY_HORIZON_OPEN"
        else "EXPIRY_ACTIVITY_EVIDENCE_MISSING"])

def isExercise (event : NormalizedOptionEvent) : Bool :=
  event.fields.kind == .assignment || event.fields.kind == .exercise

def exerciseReasons (binding : OptionLifecycleBinding) (observation : OptionPortfolioObservation)
    (events : List NormalizedOptionEvent) : List String :=
  let b := binding.fields
  let exercises := events.filter isExercise
  if exercises.isEmpty then [] else
    (if exercises.all (eventEconomicsValid binding) then []
      else ["OPTION_EVENT_ECONOMICS_CONTRADICTORY"]) ++
    (let expected := b.baselineUnderlyingQuantity.add
        (decimalSum (exercises.map (·.fields.underlyingQuantityDelta)))
      if (positionQuantity observation .equity b.underlyingSymbol).toRat = expected.toRat then []
      else ["RESULTING_UNDERLYING_POSITION_CONTRADICTORY"]) ++
    (if exercises.all fun e =>
        decide ((positionQuantity observation .option e.fields.optionSymbol).toRat = 0) then []
      else ["OPTION_POSITION_ACTIVITY_CONTRADICTORY"]) ++
    ["ASSIGNMENT_OR_EXERCISE_REQUIRES_MANUAL_RECONCILIATION"]

/-- Both legs expired, and nothing else happened. -/
def completeExpiry (binding : OptionLifecycleBinding) (observation : OptionPortfolioObservation)
    (coverage : OptionActivityCoverage) (events : List NormalizedOptionEvent) : Bool :=
  let b := binding.fields
  let symbols := events.map (·.fields.optionSymbol)
  events.all (fun e => e.fields.kind == .expiry) && events.length == 2 &&
  symbols.contains b.longSymbol && symbols.contains b.shortSymbol &&
  symbols.all (fun s => s == b.longSymbol || s == b.shortSymbol) &&
  events.all (fun e => decide ((e.fields.contracts : Int) = b.quantity) &&
    e.fields.effectiveDate == b.expirationSessionDate &&
    decide (e.fields.underlyingQuantityDelta.toRat = 0) && decide (e.fields.cashDelta.toRat = 0)) &&
  coverageComplete binding observation coverage &&
  decide (b.expirationActivityHorizon ≤ observation.fields.observedAt) &&
  decide ((positionQuantity observation .option b.longSymbol).toRat = 0) &&
  decide ((positionQuantity observation .option b.shortSymbol).toRat = 0) &&
  decide ((positionQuantity observation .equity b.underlyingSymbol).toRat =
    b.baselineUnderlyingQuantity.toRat)

def eventOutcome (binding : OptionLifecycleBinding) (observation : OptionPortfolioObservation)
    (coverage : OptionActivityCoverage) (events : List NormalizedOptionEvent) :
    OptionReconciliationState × List String :=
  let b := binding.fields
  let reasonIf (c : Bool) (reason : String) : List String := if c then [reason] else []
  let kindIs (kind : OptionEventKind) : Bool := events.any fun e => e.fields.kind == kind
  let reasons :=
    reasonIf (!coverageComplete binding observation coverage)
      "ACCOUNT_ACTIVITY_COVERAGE_INCOMPLETE" ++
    reasonIf (events.any fun e =>
        e.fields.optionSymbol != b.longSymbol && e.fields.optionSymbol != b.shortSymbol)
      "UNMATCHED_OPTION_ACTIVITY" ++
    reasonIf (kindIs .exerciseRejectedBuyingPower) "EXERCISE_REJECTED_BUYING_POWER" ++
    reasonIf (kindIs .brokerSellOut) "BROKER_SELL_OUT_REQUIRES_MANUAL_RECONCILIATION" ++
    reasonIf (kindIs .contractAdjustment) "CONTRACT_ADJUSTMENT_REQUIRES_MANUAL_RECONCILIATION" ++
    exerciseReasons binding observation events
  let complete := completeExpiry binding observation coverage events
  if complete && reasons.isEmpty then
    (.expiryFlatAttested, ["BOTH_LEGS_EXPIRY_AND_BOUND_POSITIONS_FLAT_ATTESTED"])
  else
    let reasons := reasons ++ reasonIf (kindIs .expiry && !complete)
      "EXPIRY_EVIDENCE_INCOMPLETE_OR_CONTRADICTORY"
    (.manualReconciliationRequired,
      if reasons.isEmpty then ["OPTION_ACTIVITY_REQUIRES_MANUAL_RECONCILIATION"] else reasons)

def reconcileOptionEvents (binding : OptionLifecycleBinding)
    (observation : OptionPortfolioObservation) (coverage : OptionActivityCoverage)
    (events : List NormalizedOptionEvent) : Except String OptionEventReconciliationReceipt := do
  let ordered := orderedEvents events
  checkInputs binding observation coverage ordered
  let outcome := if ordered.isEmpty then quietOutcome binding observation coverage
    else eventOutcome binding observation coverage ordered
  receipt binding observation coverage ordered outcome.1 outcome.2

/-! ### The order of the events -/

theorem nodup_ids_orderedEvents {events events' : List NormalizedOptionEvent}
    (h : events.Perm events') :
    ((orderedEvents events).map (·.fields.activityId)).Nodup ↔
      ((orderedEvents events').map (·.fields.activityId)).Nodup := by
  have hperm : (orderedEvents events).Perm (orderedEvents events') :=
    (List.mergeSort_perm events _).trans (h.trans (List.mergeSort_perm events' _).symm)
  exact (hperm.map _).nodup_iff

theorem orderedEvents_perm {events events' : List NormalizedOptionEvent} (h : events.Perm events')
    (hnodup : ((orderedEvents events).map (·.fields.activityId)).Nodup) :
    orderedEvents events = orderedEvents events' := by
  have hperm : (orderedEvents events).Perm (orderedEvents events') :=
    (List.mergeSort_perm events _).trans (h.trans (List.mergeSort_perm events' _).symm)
  have hsorted : ∀ l : List NormalizedOptionEvent, (orderedEvents l).Pairwise
      fun a b => decide (a.fields.activityId ≤ b.fields.activityId) = true := by
    intro l
    apply List.pairwise_mergeSort
    · intro a b c hab hbc
      exact decide_eq_true (le_trans (of_decide_eq_true hab) (of_decide_eq_true hbc))
    · intro a b
      simpa using le_total a.fields.activityId b.fields.activityId
  refine List.Perm.eq_of_pairwise ?_ (hsorted events) (hsorted events') hperm
  intro a b ha hb hab hba
  have hid : a.fields.activityId = b.fields.activityId :=
    le_antisymm (of_decide_eq_true hab) (of_decide_eq_true hba)
  exact List.inj_on_of_nodup_map hnodup ha (hperm.mem_iff.mpr hb) hid

theorem reconcileOptionEvents_perm (binding : OptionLifecycleBinding)
    (observation : OptionPortfolioObservation) (coverage : OptionActivityCoverage)
    {events events' : List NormalizedOptionEvent} (h : events.Perm events') :
    reconcileOptionEvents binding observation coverage events =
      reconcileOptionEvents binding observation coverage events' := by
  by_cases hnodup : ((orderedEvents events).map (·.fields.activityId)).Nodup
  · rw [reconcileOptionEvents, orderedEvents_perm h hnodup, ← reconcileOptionEvents]
  · -- both orders are refused for the repeated id
    have hnodup' := mt (nodup_ids_orderedEvents h).mpr hnodup
    have hrefused : ∀ l : List NormalizedOptionEvent,
        ¬((orderedEvents l).map (·.fields.activityId)).Nodup →
        reconcileOptionEvents binding observation coverage l =
          .error "event activity IDs must be unique" := by
      intro l hl
      rw [reconcileOptionEvents, checkInputs, throwIf, if_pos hl]
      rfl
    rw [hrefused events hnodup, hrefused events' hnodup']

end EsscherMarket.OptionEvents
