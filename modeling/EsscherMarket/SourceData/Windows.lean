import EsscherMarket.SourceData.Adjustments

/-!
# Observation windows

The trades and sessions that a source returns, the clocks of a reaction session and the window of
one symbol.  An instant is its number of microseconds since 1970-01-01T00:00:00Z, and a date is the
number of days since then.
-/

namespace EsscherMarket.SourceData

open Lib Lib.Decimal

abbrev Instant := Int

def dayMicros : Int := 86400000000

/-- The zone `America/New_York`, as `zoneinfo` has it. -/
structure TradingZone where
  /-- `utcoffset()` at an instant. -/
  offsetAt : Instant → Int
  /-- `utcoffset()` of a reading of the wall clock, with `fold=0`. -/
  offsetOf : Int → Int

def TradingZone.wallClock (zone : TradingZone) (t : Instant) : Int := t + zone.offsetAt t

/-- A time of the day, as the policy writes it. -/
structure WallTime where
  hour : Nat
  minute : Nat
  second : Nat
  valid : hour < 24 ∧ minute < 60 ∧ second < 60
deriving DecidableEq

def WallTime.micros (time : WallTime) : Int :=
  ((time.hour * 60 + time.minute) * 60 + time.second : Nat) * 1000000

def localTimeToUtc (zone : TradingZone) (sessionDate : SessionDate) (wallTime : WallTime) :
    Instant :=
  let reading := sessionDate * dayMicros + wallTime.micros
  reading - zone.offsetOf reading

/-- One exchange session from the official calendar. -/
structure SessionRecord where
  sessionId : String
  sessionDate : SessionDate
  openAt : Instant
  closeAt : Instant
  fullRegular : Bool
deriving DecidableEq

/-- One consolidated last-sale print with its raw observation time. -/
structure Trade where
  symbol : String
  sessionId : String
  observedAt : Instant
  price : Decimal
  size : Nat
  saleCondition : String
  price_pos : 0 < price.toRat
  size_pos : 0 < size
deriving DecidableEq

structure CohortClock where
  cohortId : String
  observationStart : WallTime
  observationEnd : WallTime
  evidenceCutoff : WallTime
  decisionCutoff : WallTime
  candidateEntryDeadline : WallTime
deriving DecidableEq

/-- Frozen policy clocks realized for one reaction session. -/
structure CaptureClocks where
  session : SessionRecord
  observationWindowStartAt : Instant
  observationWindowEndAt : Instant
  evidenceCutoffAt : Instant
  decisionCutoffAt : Instant
  candidateEntryDeadlineAt : Instant

def policyClock (clocks : List CohortClock) (cohortId : String) :
    Except CollectorError CohortClock :=
  match clocks.filter fun clock => clock.cohortId == cohortId with
  | [clock] => .ok clock
  | _ => .error (reject .clockMismatch s!"policy.clocks.{cohortId}"
      "cohort must select exactly one registered clock")

def secondOfDay (reading : Int) : Int := reading % dayMicros / 1000000

def deriveClocks (zone : TradingZone) (policy : List CohortClock) (cohortId : String)
    (reactionSession : SessionRecord) : Except CollectorError CaptureClocks := do
  let sessionId := reactionSession.sessionId
  let localOpen := zone.wallClock reactionSession.openAt
  let localClose := zone.wallClock reactionSession.closeAt
  throwIf (reactionSession.fullRegular = false) (reject .clockMismatch s!"session.{sessionId}"
    "reaction session must be a full regular session")
  throwIf (secondOfDay localOpen ≠ 34200 ∨ secondOfDay localClose ≠ 57600 ∨
      localOpen / dayMicros ≠ localClose / dayMicros ∨
      localOpen / dayMicros ≠ reactionSession.sessionDate)
    (reject .clockMismatch s!"session.{sessionId}"
      "reaction session must run 09:30-16:00 America/New_York")
  let clock ← policyClock policy cohortId
  let at_ := localTimeToUtc zone reactionSession.sessionDate
  return ⟨reactionSession, at_ clock.observationStart, at_ clock.observationEnd,
    at_ clock.evidenceCutoff, at_ clock.decisionCutoff, at_ clock.candidateEntryDeadline⟩

def continuousSaleCondition : String := "REGULAR_CONTINUOUS"

def Trade.continuous (trade : Trade) : Bool := trade.saleCondition == continuousSaleCondition

def Trade.eligible (symbol : String) (windowStartAt windowEndAt : Instant) (trade : Trade) : Bool :=
  trade.symbol == symbol && decide (windowStartAt ≤ trade.observedAt) &&
    decide (trade.observedAt ≤ windowEndAt) && trade.continuous

/-- `_eligible_trades`: two of them at one instant are refused. -/
def eligibleTrades (trades : List Trade) (symbol : String) (windowStartAt windowEndAt : Instant) :
    Except CollectorError (List Trade) :=
  let eligible := trades.filter (Trade.eligible symbol windowStartAt windowEndAt)
  if (eligible.map Trade.observedAt).Nodup then
    .ok (eligible.mergeSort fun a b => decide (a.observedAt ≤ b.observedAt))
  else .error (reject .duplicateObservation s!"window.{symbol}"
    "duplicate continuous observation at one timestamp")

/-- One symbol's synchronized opening-window observations. -/
structure SymbolWindow where
  symbol : String
  firstObservedAt : Instant
  firstPrice : Decimal
  lastObservedAt : Instant
  lastPrice : Decimal
  windowVwap : Decimal
  windowVolume : Nat
  tradeCount : Nat

def startDelayMax : Int := 15000000

def endAgeMax : Int := 15000000

def volumeOf (trades : List Trade) : Nat := (trades.map Trade.size).sum

/-- `notional += trade.price * trade.size`. -/
def notionalOf (trades : List Trade) : Decimal :=
  trades.foldl (fun notional trade => collectorContext.add notional
    (collectorContext.mul trade.price (ofNat trade.size))) (ofNat 0)

def buildSymbolWindow (symbol : String) (trades : List Trade)
    (windowStartAt windowEndAt : Instant) : Except CollectorError SymbolWindow := do
  let eligible ← eligibleTrades trades symbol windowStartAt windowEndAt
  match eligible.head?, eligible.getLast? with
  | some first, some last =>
    throwIf (windowStartAt + startDelayMax < first.observedAt)
      (reject .marketObservationMissing s!"window.{symbol}.start"
        "first observation exceeds the frozen start-delay bound")
    throwIf (last.observedAt < windowEndAt - endAgeMax)
      (reject .marketObservationStale s!"window.{symbol}.end"
        "final observation exceeds the frozen end-age bound")
    let volume := volumeOf eligible
    return ⟨symbol, first.observedAt, first.price, last.observedAt, last.price,
      collectorContext.div (notionalOf eligible) (ofNat volume), volume, eligible.length⟩
  | _, _ => .error (reject .marketObservationMissing s!"window.{symbol}"
      "no continuous observations inside the registered window")

end EsscherMarket.SourceData
