import EsscherMarket.Lib.Dict
import EsscherMarket.SourceData.Adjustments

/-!
# Frozen betas and residual momentum

Daily returns are keyed by the session that ends them.  The regression and the momentum of the
days before an event use the sessions at which all three series have a return.
-/

namespace EsscherMarket.SourceData

open Lib Lib.Decimal

def betaWindowSessions : Nat := 252

def betaReactionGapSessions : Nat := 21

def volatilitySessions : Nat := 20

structure FrozenBeta where
  betaMarket : Decimal
  betaSector : Decimal
  alignedObservationCount : Nat
  conditionNumber : Decimal
  windowStartDate : SessionDate
  windowEndDate : SessionDate
deriving Repr, DecidableEq

def validBars (series : AdjustmentOutcome) : List AdjustedClose := series.series.filter (·.valid)

/-- The valid bars by date; bars of one date stay in their order. -/
def orderedBars (series : AdjustmentOutcome) : List AdjustedClose :=
  (validBars series).mergeSort fun a b => decide (a.sessionDate ≤ b.sessionDate)

def dailyLogReturns (series : AdjustmentOutcome) :
    Except CollectorError (Dict SessionDate Decimal) := do
  throwIf ((validBars series).length < 2) (reject .marketObservationMissing
    s!"daily_returns.{series.symbol}" "at least two valid sessions are required")
  (pairwise (orderedBars series)).foldlM (fun returns pair => do
    let value ← logReturn collectorContext pair.1.adjustedClose pair.2.adjustedClose
    return returns.insert pair.2.sessionDate value) ∅

/-- `sorted(set(dates))`. -/
def sortedDates (dates : List SessionDate) : List SessionDate :=
  dates.dedup.mergeSort fun a b => decide (a ≤ b)

def selectBetaWindow (sessionDates : List SessionDate) (reactionSessionDate : SessionDate) :
    Except CollectorError (List SessionDate) := do
  let ordered := sortedDates sessionDates
  throwIf (reactionSessionDate ∉ ordered) (reject .clockMismatch "beta_window.reaction_session"
    "reaction session is absent from the session calendar")
  let index : Int := ordered.idxOf reactionSessionDate
  let windowEndIndex := index - betaReactionGapSessions
  let windowStartIndex := windowEndIndex - betaWindowSessions + 1
  throwIf (windowStartIndex < 0) (reject .betaInsufficientObservations "beta_window"
    s!"the calendar must contain {betaWindowSessions + betaReactionGapSessions} sessions before the reaction session")
  return (ordered.drop windowStartIndex.toNat).take betaWindowSessions

def alignedSessions (window : List SessionDate)
    (stockReturns marketReturns sectorReturns : Dict SessionDate Decimal) : List SessionDate :=
  window.filter fun session =>
    decide (session ∈ stockReturns ∧ session ∈ marketReturns ∧ session ∈ sectorReturns)

/-- What the features of the days before an event are computed from. -/
structure FeatureBuildInput where
  beta : FrozenBeta
  stockReturns : Dict SessionDate Decimal
  marketReturns : Dict SessionDate Decimal
  sectorReturns : Dict SessionDate Decimal
  reactionSessionDate : SessionDate

def preEventDates (inputs : FeatureBuildInput) : List SessionDate :=
  (inputs.stockReturns.keys.filter fun d =>
    decide (d ∈ inputs.marketReturns ∧ d ∈ inputs.sectorReturns)).mergeSort
    (fun a b => decide (a ≤ b)) |>.filter fun d => decide (d < inputs.reactionSessionDate)

/-- The sessions that the residual momentum uses: the last twenty, or none of fewer. -/
def momentumSessions (inputs : FeatureBuildInput) : Except CollectorError (List SessionDate) := do
  let dates := preEventDates inputs
  throwIf (dates.length < volatilitySessions) (reject .featureDependencyMissing
    "features.pre_event_residual_momentum"
    s!"exactly {volatilitySessions} pre-event sessions are required")
  return dates.drop (dates.length - volatilitySessions)

end EsscherMarket.SourceData
