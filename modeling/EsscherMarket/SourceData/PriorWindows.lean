import EsscherMarket.Lib.Dict
import EsscherMarket.SourceData.Windows

/-!
# The windows of the prior sessions

What `sourcedata/compiler.py` compares the reaction session with: the volumes of twenty prior
sessions and, for a macro release, the returns of sixty.
-/

namespace EsscherMarket.SourceData

open Lib Lib.Decimal

def relativeVolumePriorSessions : Nat := 20

def normalizationPriorSessions : Nat := 60

def marketProxy : String := "SPY"

structure Sources where
  sessions : String → SessionDate → SessionDate → List SessionRecord
  windowTrades : String → String → List Trade

/-- `xs[-n:]`. -/
def lastItems {α : Type} (n : Nat) (xs : List α) : List α := xs.drop (xs.length - n)

def byDate (sessions : List SessionRecord) : List SessionRecord :=
  sessions.mergeSort fun a b => decide (a.sessionDate ≤ b.sessionDate)

/-! ### Earnings -/

def earningsPriorSessions (sources : Sources) (exchangeMic : String) (reaction : SessionRecord) :
    List SessionRecord :=
  lastItems relativeVolumePriorSessions (byDate ((sources.sessions exchangeMic
    (reaction.sessionDate - 40) (reaction.sessionDate - 1)).filter (·.fullRegular)))

/-- `sum(trade.size for trade in eligible) if eligible else None`. -/
def priorWindowVolume (trades : List Trade) : Option Nat :=
  let eligible := trades.filter Trade.continuous
  if eligible.isEmpty then none else some (volumeOf eligible)

/-- `prior_window_volumes` of an earnings capture, by session. -/
def priorWindowVolumes (sources : Sources) (ticker : String) (sessions : List SessionRecord) :
    Dict String (Option Nat) :=
  sessions.foldl (fun volumes session => volumes.insert session.sessionId
    (priorWindowVolume (sources.windowTrades ticker session.sessionId))) ∅

/-- The volumes that `_build_relative_volume` takes the median of. -/
def EntersRelativeVolume (volumes : Dict String (Option Nat)) (windowSessionId sessionId : String)
    (volume : Nat) : Prop :=
  volumes.lookup sessionId = some (some volume) ∧ sessionId ≠ windowSessionId ∧ 0 < volume

/-! ### Macro releases -/

/-- `ordered_prior`. -/
def macroPriorSessions (sources : Sources) (reaction : SessionRecord) : List SessionRecord :=
  byDate ((sources.sessions "XNYS" (reaction.sessionDate - 120) (reaction.sessionDate - 1)).filter
    fun session => session.fullRegular && decide (session.sessionDate < reaction.sessionDate))

/-- `instant.replace(year=…, month=…, day=…)`: the same time of the day in UTC, at another date. -/
def replaceDate (t : Instant) (date : SessionDate) : Instant := date * dayMicros + t % dayMicros

/-- The trades of a prior session between which its return is taken. -/
def normalizationTrades (clocks : CaptureClocks) (session : SessionRecord) (trades : List Trade) :
    List Trade :=
  trades.filter fun trade => trade.continuous &&
    decide (replaceDate clocks.observationWindowStartAt session.sessionDate ≤ trade.observedAt) &&
    decide (trade.observedAt ≤ replaceDate clocks.observationWindowEndAt session.sessionDate)

/-! ### The window of the wall clock -/

/-- A trade whose wall clock lies in the cohort's window on the date of the session. -/
def InWindow (zone : TradingZone) (clock : CohortClock) (session : SessionRecord)
    (trade : Trade) : Prop :=
  session.sessionDate * dayMicros + clock.observationStart.micros ≤
      zone.wallClock trade.observedAt ∧
    zone.wallClock trade.observedAt ≤
      session.sessionDate * dayMicros + clock.observationEnd.micros

instance (zone : TradingZone) (clock : CohortClock) (session : SessionRecord) (trade : Trade) :
    Decidable (InWindow zone clock session trade) :=
  inferInstanceAs (Decidable (_ ∧ _))

def tradesInWindow (zone : TradingZone) (clock : CohortClock) (session : SessionRecord)
    (trades : List Trade) : List Trade :=
  trades.filter fun trade => trade.continuous && decide (InWindow zone clock session trade)

/-- Every prior volume that enters the relative volume of an earnings capture is the volume of its
session's window. -/
def EarningsCountsWindow (zone : TradingZone) (clock : CohortClock) (sources : Sources)
    (exchangeMic ticker : String) (reaction : SessionRecord) : Prop :=
  let sessions := earningsPriorSessions sources exchangeMic reaction
  ∀ session ∈ sessions, ∀ volume,
    EntersRelativeVolume (priorWindowVolumes sources ticker sessions) reaction.sessionId
      session.sessionId volume →
    volume = volumeOf (tradesInWindow zone clock session
      (sources.windowTrades ticker session.sessionId))

/-- Every prior volume and return of a macro capture is that of its session's window. -/
def MacroCountsWindow (zone : TradingZone) (clock : CohortClock) (sources : Sources)
    (clocks : CaptureClocks) : Prop :=
  let sessions := macroPriorSessions sources clocks.session
  let trades := fun session : SessionRecord => sources.windowTrades marketProxy session.sessionId
  (∀ session ∈ lastItems relativeVolumePriorSessions sessions, ∀ volume,
    priorWindowVolume (trades session) = some volume →
      volume = volumeOf (tradesInWindow zone clock session (trades session))) ∧
  ∀ session ∈ lastItems normalizationPriorSessions sessions,
    2 ≤ (normalizationTrades clocks session (trades session)).length →
      normalizationTrades clocks session (trades session) =
        tradesInWindow zone clock session (trades session)

def OnlyInWindow (zone : TradingZone) (clock : CohortClock) (session : SessionRecord)
    (trades : List Trade) : Prop :=
  ∀ trade ∈ trades, trade.continuous = true → InWindow zone clock session trade

/-- The instants of the reaction session's window, moved to the date of another session. -/
def InMovedWindow (zone : TradingZone) (clock : CohortClock) (reaction session : SessionRecord)
    (trade : Trade) : Prop :=
  replaceDate (localTimeToUtc zone reaction.sessionDate clock.observationStart)
      session.sessionDate ≤ trade.observedAt ∧
    trade.observedAt ≤ replaceDate (localTimeToUtc zone reaction.sessionDate clock.observationEnd)
      session.sessionDate

/-! ### When they are the same -/

/-- Part of some shares is all of them only if nothing is left out. -/
theorem volumeOf_filter_eq_iff {trades : List Trade} {p : Trade → Bool} :
    volumeOf trades = volumeOf (trades.filter p) ↔ ∀ trade ∈ trades, p trade = true := by
  induction trades with
  | nil => exact iff_of_true rfl fun trade h => (List.not_mem_nil h).elim
  | cons first rest ih =>
    have hle : volumeOf (rest.filter p) ≤ volumeOf rest :=
      (List.filter_sublist.map Trade.size).sum_le_sum fun _ _ => Nat.zero_le _
    have hcons : volumeOf (first :: rest) = first.size + volumeOf rest := by
      rw [volumeOf, List.map_cons, List.sum_cons]
      rfl
    rw [List.forall_mem_cons, ← ih, hcons]
    by_cases hp : p first = true
    · have hfilter : volumeOf ((first :: rest).filter p) =
          first.size + volumeOf (rest.filter p) := by
        rw [List.filter_cons_of_pos hp, volumeOf, List.map_cons, List.sum_cons]
        rfl
      rw [hfilter, Nat.add_left_cancel_iff]
      exact ⟨fun h => ⟨hp, h⟩, fun h => h.2⟩
    · rw [List.filter_cons_of_neg hp]
      have hpos := first.size_pos
      refine iff_of_false ?_ fun h => hp h.1
      omega

variable {zone : TradingZone} {clock : CohortClock} {sources : Sources}

theorem tradesInWindow_eq (session : SessionRecord) (trades : List Trade) :
    tradesInWindow zone clock session trades = (trades.filter Trade.continuous).filter
      fun trade => decide (InWindow zone clock session trade) := by
  rw [tradesInWindow, List.filter_filter]
  exact List.filter_congr fun trade _ => Bool.and_comm _ _

/-- The volume of a whole session is that of its window exactly when nothing lies elsewhere. -/
theorem priorWindowVolume_iff (session : SessionRecord) (trades : List Trade) :
    (∀ volume, priorWindowVolume trades = some volume →
      volume = volumeOf (tradesInWindow zone clock session trades)) ↔
    OnlyInWindow zone clock session trades := by
  have hall : (∀ trade ∈ trades.filter Trade.continuous,
      decide (InWindow zone clock session trade) = true) ↔ OnlyInWindow zone clock session trades := by
    constructor
    · intro h trade hmem hcontinuous
      exact of_decide_eq_true (h trade (List.mem_filter.mpr ⟨hmem, hcontinuous⟩))
    · intro h trade hmem
      obtain ⟨hmem, hcontinuous⟩ := List.mem_filter.mp hmem
      exact decide_eq_true (h trade hmem hcontinuous)
  rw [tradesInWindow_eq, ← hall, ← volumeOf_filter_eq_iff, priorWindowVolume]
  cases heligible : trades.filter Trade.continuous with
  | nil =>
    refine iff_of_true ?_ rfl
    intro volume h
    cases h
  | cons first rest =>
    constructor
    · intro h
      exact h _ rfl
    · intro h volume hvolume
      obtain rfl := Option.some_inj.mp hvolume
      exact h

theorem priorWindowVolume_pos {trades : List Trade} {volume : Nat}
    (h : priorWindowVolume trades = some volume) : 0 < volume := by
  rw [priorWindowVolume] at h
  cases heligible : trades.filter Trade.continuous with
  | nil =>
    rw [heligible] at h
    cases h
  | cons first rest =>
    rw [heligible] at h
    obtain rfl := Option.some_inj.mp h
    exact Nat.lt_of_lt_of_le first.size_pos (Nat.le_add_right _ _)

theorem filter_eq_filter_iff {α : Type} {xs : List α} {p q : α → Bool} :
    xs.filter p = xs.filter q ↔ ∀ x ∈ xs, (p x = true ↔ q x = true) := by
  constructor
  · intro h x hx
    constructor
    · intro hp
      exact (List.mem_filter.mp (h ▸ List.mem_filter.mpr ⟨hx, hp⟩)).2
    · intro hq
      exact (List.mem_filter.mp (h ▸ List.mem_filter.mpr ⟨hx, hq⟩ : x ∈ xs.filter p)).2
  · intro h
    exact List.filter_congr fun x hx => Bool.eq_iff_iff.mpr (h x hx)

/-- A dictionary filled with a function of its keys. -/
theorem lookup_foldl_insert {κ α β : Type} [DecidableEq κ] (key : β → κ) (value : κ → α)
    {xs : List β} {start : Dict κ α} {k : κ}
    (h : k ∈ xs.map key ∨ start.lookup k = some (value k)) :
    (xs.foldl (fun d x => d.insert (key x) (value (key x))) start).lookup k = some (value k) := by
  induction xs generalizing start with
  | nil =>
    rcases h with h | h
    · cases h
    · exact h
  | cons x xs ih =>
    rw [List.foldl_cons]
    refine ih ?_
    by_cases hk : k = key x
    · right
      rw [hk]
      exact AList.lookup_insert start
    · rcases h with h | h
      · rcases List.mem_cons.mp h with h | h
        · exact absurd h hk
        · exact Or.inl h
      · right
        rw [AList.lookup_insert_ne hk]
        exact h

theorem deriveClocks_spec {policy : List CohortClock} {cohortId : String}
    {reaction : SessionRecord} {clocks : CaptureClocks}
    (hclock : policyClock policy cohortId = .ok clock)
    (h : deriveClocks zone policy cohortId reaction = .ok clocks) :
    clocks.session = reaction ∧
      clocks.observationWindowStartAt =
        localTimeToUtc zone reaction.sessionDate clock.observationStart ∧
      clocks.observationWindowEndAt =
        localTimeToUtc zone reaction.sessionDate clock.observationEnd := by
  obtain ⟨_, -, h⟩ := except_bind_eq_ok.mp h
  obtain ⟨_, -, h⟩ := except_bind_eq_ok.mp h
  obtain ⟨found, hfound, h⟩ := except_bind_eq_ok.mp h
  obtain rfl := Except.ok.inj (hclock.symm.trans hfound)
  obtain rfl := Except.ok.inj h
  exact ⟨rfl, rfl, rfl⟩

def autumn2026 : TradingZone where
  offsetAt t := if t < 1793512800000000 then -14400000000 else -18000000000
  offsetOf reading := if reading < 1793498400000000 then -14400000000 else -18000000000

def joltsClock : CohortClock where
  cohortId := "BLS_JOLTS"
  observationStart := ⟨10, 0, 0, by decide⟩
  observationEnd := ⟨10, 15, 0, by decide⟩
  evidenceCutoff := ⟨10, 15, 15, by decide⟩
  decisionCutoff := ⟨10, 16, 5, by decide⟩
  candidateEntryDeadline := ⟨10, 17, 0, by decide⟩

def electionDay : SessionRecord := ⟨"XNYS-2026-11-03", 20760, 1793716200000000, 1793739600000000, true⟩

def lastFriday : SessionRecord := ⟨"XNYS-2026-10-30", 20756, 1793367000000000, 1793390400000000, true⟩

def proxyTrade (t : Instant) : Trade where
  symbol := marketProxy
  sessionId := "XNYS-2026-10-30"
  observedAt := t
  price := .ofNat 600
  size := 100
  saleCondition := continuousSaleCondition
  price_pos := by decide +kernel
  size_pos := by decide

def oneSession (trades : List Trade) : Sources := ⟨fun _ _ _ => [lastFriday], fun _ _ => trades⟩

def electionClocks : CaptureClocks :=
  ⟨electionDay, 1793718000000000, 1793718900000000, 1793718915000000, 1793718965000000,
    1793719020000000⟩

theorem policyClock_jolts : policyClock [joltsClock] "BLS_JOLTS" = .ok joltsClock := rfl

theorem deriveClocks_electionDay :
    deriveClocks autumn2026 [joltsClock] "BLS_JOLTS" electionDay = .ok electionClocks := by
  refine except_bind_eq_ok.mpr ⟨(), throwIf_eq_ok.mpr (by decide), ?_⟩
  refine except_bind_eq_ok.mpr ⟨(), throwIf_eq_ok.mpr (by decide), ?_⟩
  exact except_bind_eq_ok.mpr ⟨joltsClock, policyClock_jolts, by rfl⟩

theorem earningsPriorSessions_oneSession (trades : List Trade) :
    earningsPriorSessions (oneSession trades) "XNYS" electionDay = [lastFriday] := by
  have hfilter : [lastFriday].filter (·.fullRegular) = [lastFriday] := rfl
  rw [earningsPriorSessions, oneSession, hfilter, byDate, List.mergeSort_singleton]
  rfl

theorem macroPriorSessions_oneSession (trades : List Trade) :
    macroPriorSessions (oneSession trades) electionDay = [lastFriday] := by
  have hfilter : [lastFriday].filter (fun session => session.fullRegular &&
      decide (session.sessionDate < electionDay.sessionDate)) = [lastFriday] := by decide
  rw [macroPriorSessions, oneSession, hfilter, byDate, List.mergeSort_singleton]

end EsscherMarket.SourceData
