/-!
# Risk reasons and the control-state machine

`risk/reasons.py` and `risk/controls.py`: the rejection codes, the control states, and the
deterministic transition of the control state for one trigger.
-/

namespace EsscherMarket.Risk

inductive ControlState where
  | active
  | entryDisabled
  | closeOnly
  | kill
  | manualRequired
  deriving DecidableEq, Repr

def ControlState.value : ControlState → String
  | active => "ACTIVE"
  | entryDisabled => "ENTRY_DISABLED"
  | closeOnly => "CLOSE_ONLY"
  | kill => "KILL"
  | manualRequired => "MANUAL_REQUIRED"

/-- Machine-readable rejection reasons of the risk kernel. -/
inductive RiskReason where
  | policyUnverifiedConstant
  | policyHashMismatch
  | policyNotPaperOnly
  | controlStateBlocksEntry
  | duplicateEventReservation
  | immutableEventReplay
  | notRunEvent
  | eventLifecycleInvalid
  | permitLifecycleInvalid
  | budgetExceeded
  | dailyLossLimitBreached
  | drawdownLimitBreached
  | concentrationLimitBreached
  | entryCountLimitReached
  | expressionLimitReached
  | unknownExposure
  | exposureNotCalculable
  | staleAccountTruth
  | stalePositionTruth
  | staleOrderTruth
  | staleClock
  | staleQuote
  | contradictoryTruth
  | unknownRoute
  | missingCapability
  | nonFlatState
  | partialFillState
  | reservationNotReleased
  | ledgerMigrationRequired
  | passportVerificationFailed
  | unsupportedInput
  deriving DecidableEq, Repr

def RiskReason.value : RiskReason → String
  | policyUnverifiedConstant => "POLICY_UNVERIFIED_CONSTANT"
  | policyHashMismatch => "POLICY_HASH_MISMATCH"
  | policyNotPaperOnly => "POLICY_NOT_PAPER_ONLY"
  | controlStateBlocksEntry => "CONTROL_STATE_BLOCKS_ENTRY"
  | duplicateEventReservation => "DUPLICATE_EVENT_RESERVATION"
  | immutableEventReplay => "IMMUTABLE_EVENT_REPLAY"
  | notRunEvent => "NOT_RUN_EVENT"
  | eventLifecycleInvalid => "EVENT_LIFECYCLE_INVALID"
  | permitLifecycleInvalid => "PERMIT_LIFECYCLE_INVALID"
  | budgetExceeded => "BUDGET_EXCEEDED"
  | dailyLossLimitBreached => "DAILY_LOSS_LIMIT_BREACHED"
  | drawdownLimitBreached => "DRAWDOWN_LIMIT_BREACHED"
  | concentrationLimitBreached => "CONCENTRATION_LIMIT_BREACHED"
  | entryCountLimitReached => "ENTRY_COUNT_LIMIT_REACHED"
  | expressionLimitReached => "EXPRESSION_LIMIT_REACHED"
  | unknownExposure => "UNKNOWN_EXPOSURE"
  | exposureNotCalculable => "EXPOSURE_NOT_CALCULABLE"
  | staleAccountTruth => "STALE_ACCOUNT_TRUTH"
  | stalePositionTruth => "STALE_POSITION_TRUTH"
  | staleOrderTruth => "STALE_ORDER_TRUTH"
  | staleClock => "STALE_CLOCK"
  | staleQuote => "STALE_QUOTE"
  | contradictoryTruth => "CONTRADICTORY_TRUTH"
  | unknownRoute => "UNKNOWN_ROUTE"
  | missingCapability => "MISSING_CAPABILITY"
  | nonFlatState => "NON_FLAT_STATE"
  | partialFillState => "PARTIAL_FILL_STATE"
  | reservationNotReleased => "RESERVATION_NOT_RELEASED"
  | ledgerMigrationRequired => "LEDGER_MIGRATION_REQUIRED"
  | passportVerificationFailed => "PASSPORT_VERIFICATION_FAILED"
  | unsupportedInput => "UNSUPPORTED_INPUT"

/-- A deterministic fail-closed risk error: the reason, the field it names and the detail. -/
structure RiskRejected where
  reason : RiskReason
  path : String
  detail : String
  deriving DecidableEq, Repr

/-- `str(error)`. -/
def RiskRejected.text (e : RiskRejected) : String := s!"{e.reason.value} at {e.path}: {e.detail}"

/-- Events that drive control-state transitions. -/
inductive ControlTrigger where
  | drawdownLimitBreached
  | dailyLossLimitBreached
  | staleTruth
  | contradictoryTruth
  | partialFillState
  | nonFlatState
  | closeOnlyEquityThreshold
  | concentrationLimitBreached
  | killRequest
  | manualRequiredRequest
  | resolved
  deriving DecidableEq, Repr

def ControlTrigger.value : ControlTrigger → String
  | drawdownLimitBreached => "DRAWDOWN_LIMIT_BREACHED"
  | dailyLossLimitBreached => "DAILY_LOSS_LIMIT_BREACHED"
  | staleTruth => "STALE_TRUTH"
  | contradictoryTruth => "CONTRADICTORY_TRUTH"
  | partialFillState => "PARTIAL_FILL_STATE"
  | nonFlatState => "NON_FLAT_STATE"
  | closeOnlyEquityThreshold => "CLOSE_ONLY_EQUITY_THRESHOLD"
  | concentrationLimitBreached => "CONCENTRATION_LIMIT_BREACHED"
  | killRequest => "KILL_REQUEST"
  | manualRequiredRequest => "MANUAL_REQUIRED_REQUEST"
  | resolved => "RESOLVED"

/-- The table `_TRANSITIONS`. -/
def transitions : ControlState → ControlTrigger → Option ControlState
  | .active, .drawdownLimitBreached => some .entryDisabled
  | .active, .dailyLossLimitBreached => some .entryDisabled
  | .active, .staleTruth => some .entryDisabled
  | .active, .concentrationLimitBreached => some .entryDisabled
  | .active, .contradictoryTruth => some .manualRequired
  | .active, .partialFillState => some .manualRequired
  | .active, .nonFlatState => some .closeOnly
  | .active, .closeOnlyEquityThreshold => some .closeOnly
  | .active, .manualRequiredRequest => some .manualRequired
  | .entryDisabled, .staleTruth => some .entryDisabled
  | .entryDisabled, .contradictoryTruth => some .manualRequired
  | .entryDisabled, .partialFillState => some .manualRequired
  | .entryDisabled, .nonFlatState => some .closeOnly
  | .entryDisabled, .resolved => some .active
  | .manualRequired, .staleTruth => some .entryDisabled
  | .manualRequired, .contradictoryTruth => some .manualRequired
  | .manualRequired, .partialFillState => some .manualRequired
  | .manualRequired, .nonFlatState => some .closeOnly
  | .manualRequired, .resolved => some .active
  | .closeOnly, .staleTruth => some .entryDisabled
  | .closeOnly, .contradictoryTruth => some .manualRequired
  | .closeOnly, .partialFillState => some .manualRequired
  | .closeOnly, .nonFlatState => some .closeOnly
  | .closeOnly, .resolved => some .active
  | _, _ => none

def nextControlState (current : ControlState) (trigger : ControlTrigger) :
    Except RiskRejected ControlState :=
  if trigger = .killRequest then .ok .kill
  else if current = .kill then
    if trigger = .resolved then
      .error ⟨.controlStateBlocksEntry, "control_state",
        "KILL is terminal; restart requires explicit operator action"⟩
    else .ok .kill
  else .ok ((transitions current trigger).getD .manualRequired)

/-- New entries are permitted only in the `ACTIVE` state. -/
def entryAllowed (state : ControlState) : Bool := state == .active

theorem entryAllowed_iff {state : ControlState} : entryAllowed state = true ↔ state = .active := by
  cases state <;> decide

/-- `KILL` is terminal: every transition out of it that is returned leads back to it. -/
theorem nextControlState_kill {trigger : ControlTrigger} {next : ControlState}
    (h : nextControlState .kill trigger = .ok next) : next = .kill := by
  cases trigger <;> simp_all [nextControlState]

end EsscherMarket.Risk
