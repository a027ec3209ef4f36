import Mathlib.Data.List.Sort
import EsscherMarket.SourceData.Betas

/-!
# Which sessions two or three series measure alike

A series skips its own invalid bars and keys a return by the date that ends it.  Two series with
a return at one date therefore need not have measured the same interval.
-/

namespace EsscherMarket.SourceData

open Lib Lib.Decimal

def validDates (series : AdjustmentOutcome) : List SessionDate :=
  (validBars series).map (·.sessionDate)

/-- A valid bar ends a return at `d`: it is not the first one. -/
def Observed (series : AdjustmentOutcome) (d : SessionDate) : Prop :=
  d ∈ validDates series ∧ (2 ≤ (validDates series).count d ∨ ∃ e ∈ validDates series, e < d)

instance (series : AdjustmentOutcome) (d : SessionDate) : Decidable (Observed series d) :=
  inferInstanceAs (Decidable (_ ∧ _))

/-- The series has at least two valid bars, and every valid close is positive. -/
structure HasReturns (series : AdjustmentOutcome) : Prop where
  two : 2 ≤ (validBars series).length
  positive : ∀ bar ∈ validBars series, 0 < bar.adjustedClose.toRat

/-- The two session dates between which the return at `d` is computed. -/
def returnSpan (series : AdjustmentOutcome) (d : SessionDate) :
    Option (SessionDate × SessionDate) :=
  (lastPair (·.sessionDate) (orderedBars series) d).map fun p =>
    (p.1.sessionDate, p.2.sessionDate)

section Series

variable {series : AdjustmentOutcome}

theorem orderedBars_perm : (orderedBars series).Perm (validBars series) :=
  List.mergeSort_perm _ _

theorem orderedBars_sorted :
    (orderedBars series).Pairwise fun a b => a.sessionDate ≤ b.sessionDate := by
  have hsorted := @List.pairwise_mergeSort AdjustedClose
    (fun a b => decide (a.sessionDate ≤ b.sessionDate))
    (fun a b c hab hbc => by
      simp only [decide_eq_true_eq] at *
      exact le_trans hab hbc)
    (fun a b => by
      simp only [Bool.or_eq_true, decide_eq_true_eq]
      exact le_total a.sessionDate b.sessionDate)
    (validBars series)
  exact hsorted.imp fun h => by simpa using h

theorem count_orderedBars (d : SessionDate) :
    ((orderedBars series).map (·.sessionDate)).count d = (validDates series).count d :=
  (orderedBars_perm.map _).count_eq d

theorem lastPair_isSome_iff {d : SessionDate} :
    (lastPair (·.sessionDate) (orderedBars series) d).isSome ↔ Observed series d := by
  have hmem := (@orderedBars_perm series).map (·.sessionDate)
  rw [lastPair_isSome orderedBars_sorted, count_orderedBars, hmem.mem_iff, Observed]
  refine and_congr Iff.rfl (or_congr Iff.rfl ?_)
  constructor
  · rintro ⟨bar, hbar, hlt⟩
    exact ⟨bar.sessionDate, List.mem_map_of_mem (orderedBars_perm.mem_iff.mp hbar), hlt⟩
  · rintro ⟨e, he, hlt⟩
    obtain ⟨bar, hbar, rfl⟩ := List.mem_map.mp he
    exact ⟨bar, orderedBars_perm.mem_iff.mpr hbar, hlt⟩

/-- The interval of an observed date starts at the last valid bar before it; at the date itself
when two bars have that date. -/
theorem span_spec {d : SessionDate} (h : Observed series d) :
    ∃ start, returnSpan series d = some (start, d) ∧ start ∈ validDates series ∧ start ≤ d ∧
      (start = d ↔ 2 ≤ (validDates series).count d) ∧
      ∀ e ∈ validDates series, e < d → e ≤ start := by
  obtain ⟨p, hp⟩ := Option.isSome_iff_exists.mp (lastPair_isSome_iff.mpr h)
  have hspec := lastPair_spec orderedBars_sorted hp
  have hfirst := (mem_of_mem_pairwise hspec.mem).1
  refine ⟨p.1.sessionDate, ?_, ?_, hspec.start_le, ?_, ?_⟩
  · rw [returnSpan, hp, Option.map_some, hspec.end_eq]
  · exact List.mem_map_of_mem (orderedBars_perm.mem_iff.mp hfirst)
  · rw [hspec.start_eq, count_orderedBars]
  · intro e he hlt
    obtain ⟨bar, hbar, rfl⟩ := List.mem_map.mp he
    exact hspec.start_max bar (orderedBars_perm.mem_iff.mpr hbar) hlt

/-- A series has daily returns exactly when it has two valid bars and positive closes. -/
theorem dailyLogReturns_isOk_iff :
    (∃ returns, dailyLogReturns series = .ok returns) ↔ HasReturns series := by
  constructor
  · rintro ⟨returns, h⟩
    rw [dailyLogReturns, except_bind_eq_ok] at h
    obtain ⟨u, hguard, hloop⟩ := h
    have htwo := not_lt.mp (throwIf_eq_ok.mp hguard)
    refine ⟨htwo, ?_⟩
    intro bar hbar
    have hlen : 2 ≤ (orderedBars series).length := by rw [orderedBars_perm.length_eq]; exact htwo
    obtain ⟨p, hp, hpbar⟩ := exists_mem_pairwise hlen (orderedBars_perm.mem_iff.mpr hbar)
    have hpositive := logReturn_isOk_iff.mp ((lookup_foldlM_insert hloop 0).1 p hp)
    rcases hpbar with rfl | rfl
    · exact hpositive.1
    · exact hpositive.2
  · intro h
    have hpairs : ∀ p ∈ pairwise (orderedBars series),
        ∃ v, logReturn collectorContext p.1.adjustedClose p.2.adjustedClose = .ok v := by
      intro p hp
      obtain ⟨hfirst, hsecond⟩ := mem_of_mem_pairwise hp
      exact logReturn_isOk_iff.mpr ⟨h.positive _ (orderedBars_perm.mem_iff.mp hfirst),
        h.positive _ (orderedBars_perm.mem_iff.mp hsecond)⟩
    obtain ⟨returns, hreturns⟩ := @foldlM_insert_isOk _ _ _ _ _ _
      (fun p : AdjustedClose × AdjustedClose => p.2.sessionDate) _ hpairs ∅
    refine ⟨returns, ?_⟩
    rw [dailyLogReturns, throwIf, if_neg (not_lt.mpr h.two)]
    exact hreturns

theorem lookup_dailyLogReturns {returns : Dict SessionDate Decimal}
    (h : dailyLogReturns series = .ok returns) (d : SessionDate) :
    match lastPair (·.sessionDate) (orderedBars series) d with
    | some p => ∃ v, logReturn collectorContext p.1.adjustedClose p.2.adjustedClose = .ok v ∧
        returns.lookup d = some v
    | none => returns.lookup d = none := by
  rw [dailyLogReturns, except_bind_eq_ok] at h
  obtain ⟨-, -, hloop⟩ := h
  have hlast := (lookup_foldlM_insert hloop d).2
  rw [AList.lookup_empty] at hlast
  cases hpair : lastPair (fun bar => bar.sessionDate) (orderedBars series) d with
  | some p =>
    rw [lastPair] at hpair
    rw [hpair] at hlast
    exact hlast
  | none =>
    rw [lastPair] at hpair
    rw [hpair] at hlast
    exact hlast

theorem mem_returns_iff {returns : Dict SessionDate Decimal}
    (h : dailyLogReturns series = .ok returns) {d : SessionDate} :
    d ∈ returns ↔ Observed series d := by
  have hlookup := lookup_dailyLogReturns h d
  rw [← lastPair_isSome_iff, ← AList.lookup_isSome]
  cases hpair : lastPair (fun bar => bar.sessionDate) (orderedBars series) d with
  | some p =>
    rw [hpair] at hlookup
    obtain ⟨v, -, hv⟩ := hlookup
    rw [hv]
    simp
  | none =>
    rw [hpair] at hlookup
    rw [hlookup]
    exact Iff.rfl

end Series

/-! ### Three series -/

/-- The three returns at `d` are computed between the same two session dates. -/
def SameInterval (stock market sector : AdjustmentOutcome) (d : SessionDate) : Prop :=
  returnSpan stock d = returnSpan market d ∧ returnSpan market d = returnSpan sector d

/-- The three series last have a valid bar before `d` on one date: on `d` itself with two bars each,
or earlier with no later bar between. -/
def SameStart (stock market sector : AdjustmentOutcome) (d : SessionDate) : Prop :=
  (∀ s ∈ [stock, market, sector], 2 ≤ (validDates s).count d) ∨
  (∀ s ∈ [stock, market, sector], (validDates s).count d < 2) ∧
    ∃ start < d, ∀ s ∈ [stock, market, sector],
      start ∈ validDates s ∧ ∀ e ∈ validDates s, e < d → e ≤ start

/-- Every series observes `d`. -/
def AllObserved (stock market sector : AdjustmentOutcome) (d : SessionDate) : Prop :=
  ∀ s ∈ [stock, market, sector], Observed s d

instance (stock market sector : AdjustmentOutcome) (d : SessionDate) :
    Decidable (AllObserved stock market sector d) :=
  inferInstanceAs (Decidable (∀ s ∈ [stock, market, sector], Observed s d))

theorem sameStart_of_spans {stock market sector : AdjustmentOutcome} {d : SessionDate}
    (h : AllObserved stock market sector d) :
    SameInterval stock market sector d ↔ SameStart stock market sector d := by
  have hstart : ∀ s ∈ [stock, market, sector], ∃ start, returnSpan s d = some (start, d) ∧
      start ∈ validDates s ∧ start ≤ d ∧ (start = d ↔ 2 ≤ (validDates s).count d) ∧
      ∀ e ∈ validDates s, e < d → e ≤ start := fun s hs => span_spec (h s hs)
  obtain ⟨a, ha, hamem, hale, haeq, hamax⟩ := hstart stock (by simp)
  obtain ⟨b, hb, hbmem, hble, hbeq, hbmax⟩ := hstart market (by simp)
  obtain ⟨c, hc, hcmem, hcle, hceq, hcmax⟩ := hstart sector (by simp)
  have hspan : SameInterval stock market sector d ↔ a = b ∧ b = c := by
    rw [SameInterval, ha, hb, hc]
    simp
  rw [hspan, SameStart]
  simp only [List.mem_cons, List.not_mem_nil, or_false, forall_eq_or_imp, forall_eq]
  constructor
  · rintro ⟨rfl, rfl⟩
    rcases eq_or_ne a d with had | had
    · exact .inl ⟨haeq.mp had, hbeq.mp had, hceq.mp had⟩
    · have hcount : ∀ {n : Nat}, (a = d ↔ 2 ≤ n) → n < 2 := fun hiff =>
        not_le.mp fun htwo => had (hiff.mpr htwo)
      refine .inr ⟨⟨hcount haeq, hcount hbeq, hcount hceq⟩, a, lt_of_le_of_ne hale had, ?_⟩
      exact ⟨⟨hamem, hamax⟩, ⟨hbmem, hbmax⟩, hcmem, hcmax⟩
  · rintro (⟨ha2, hb2, hc2⟩ | ⟨⟨ha2, hb2, hc2⟩, start, hlt, ⟨⟨hsa, hma⟩, ⟨hsb, hmb⟩, hsc, hmc⟩⟩)
    · rw [haeq.mpr ha2, hbeq.mpr hb2, hceq.mpr hc2]
      exact ⟨rfl, rfl⟩
    · -- each start is the latest valid date before `d`
      have hunique : ∀ {x : SessionDate} {s : AdjustmentOutcome}, x ∈ validDates s → x ≤ d →
          (x = d ↔ 2 ≤ (validDates s).count d) → (∀ e ∈ validDates s, e < d → e ≤ x) →
          (validDates s).count d < 2 → start ∈ validDates s →
          (∀ e ∈ validDates s, e < d → e ≤ start) → x = start := by
        intro x s hx hxd hiff hmax hcount hmem hstart
        have hne : x ≠ d := fun heq => absurd (hiff.mp heq) (not_le.mpr hcount)
        have hxlt : x < d := lt_of_le_of_ne hxd hne
        exact le_antisymm (hstart x hx hxlt) (hmax start hmem hlt)
      rw [hunique hamem hale haeq hamax ha2 hsa hma, hunique hbmem hble hbeq hbmax hb2 hsb hmb,
        hunique hcmem hcle hceq hcmax hc2 hsc hmc]
      exact ⟨rfl, rfl⟩

/-! ### The sessions that count -/

/-- `estimate_betas` counts `d` as aligned. -/
def CountedByBetas (stock market sector : AdjustmentOutcome) (sessionDates : List SessionDate)
    (reactionSessionDate d : SessionDate) : Prop :=
  ∃ window stockReturns marketReturns sectorReturns,
    selectBetaWindow sessionDates reactionSessionDate = .ok window ∧
    dailyLogReturns stock = .ok stockReturns ∧ dailyLogReturns market = .ok marketReturns ∧
    dailyLogReturns sector = .ok sectorReturns ∧
    d ∈ alignedSessions window stockReturns marketReturns sectorReturns

/-- The residual momentum before the reaction uses `d`. -/
def UsedByMomentum (stock market sector : AdjustmentOutcome)
    (reactionSessionDate d : SessionDate) : Prop :=
  ∃ inputs recent, dailyLogReturns stock = .ok inputs.stockReturns ∧
    dailyLogReturns market = .ok inputs.marketReturns ∧
    dailyLogReturns sector = .ok inputs.sectorReturns ∧
    inputs.reactionSessionDate = reactionSessionDate ∧
    momentumSessions inputs = .ok recent ∧ d ∈ recent

def commonDates (stock market sector : AdjustmentOutcome) (reactionSessionDate : SessionDate) :
    List SessionDate :=
  (validDates stock).dedup.filter fun d =>
    decide (d < reactionSessionDate ∧ AllObserved stock market sector d)

/-- `d` is one of the last twenty dates before the reaction that every series observes, and there
are that many. -/
def Recent (stock market sector : AdjustmentOutcome) (reactionSessionDate d : SessionDate) :
    Prop :=
  d ∈ commonDates stock market sector reactionSessionDate ∧
  volatilitySessions ≤ (commonDates stock market sector reactionSessionDate).length ∧
  ((commonDates stock market sector reactionSessionDate).filter (d < ·)).length <
    volatilitySessions

/-- `d` is in the beta window of the calendar. -/
def InBetaWindow (sessionDates : List SessionDate) (reactionSessionDate d : SessionDate) : Prop :=
  ∃ window, selectBetaWindow sessionDates reactionSessionDate = .ok window ∧ d ∈ window

/-- The last `n` elements of a strictly increasing list are those that fewer than `n` exceed. -/
theorem mem_drop_iff {δ : Type} [LinearOrder δ] {xs : List δ} (hsorted : xs.Pairwise (· < ·))
    {n : Nat} {d : δ} :
    d ∈ xs.drop (xs.length - n) ↔ d ∈ xs ∧ (xs.filter (d < ·)).length < n := by
  induction xs with
  | nil => simp
  | cons x xs ih =>
    obtain ⟨hx, hrest⟩ := List.pairwise_cons.mp hsorted
    rcases Nat.lt_or_ge xs.length n with hlong | hshort
    · have hall : (x :: xs).length - n = 0 := by rw [List.length_cons]; omega
      rw [hall, List.drop_zero]
      refine ⟨fun hd => ⟨hd, ?_⟩, And.left⟩
      -- `d` itself is not among those that exceed it
      have hlt : ((x :: xs).filter (d < ·)).length < (x :: xs).length := by
        rw [List.length_filter_lt_length_iff_exists]
        exact ⟨d, hd, by simp⟩
      rw [List.length_cons] at hlt
      omega
    · have hdrop : (x :: xs).length - n = xs.length - n + 1 := by rw [List.length_cons]; omega
      rw [hdrop, List.drop_succ_cons, ih hrest]
      constructor
      · rintro ⟨hd, hcount⟩
        refine ⟨List.mem_cons_of_mem x hd, ?_⟩
        rw [List.filter_cons, if_neg (by simpa using (hx d hd).le)]
        exact hcount
      · rintro ⟨hd, hcount⟩
        rcases List.mem_cons.mp hd with rfl | hd
        · have hgreater : xs.filter (d < ·) = xs :=
            List.filter_eq_self.mpr fun y hy => by simpa using hx y hy
          rw [List.filter_cons, if_neg (by simp), hgreater] at hcount
          omega
        · rw [List.filter_cons, if_neg (by simpa using (hx d hd).le)] at hcount
          exact ⟨hd, hcount⟩

section Counted

variable {stock market sector : AdjustmentOutcome}
  {stockReturns marketReturns sectorReturns : Dict SessionDate Decimal}
  (hstock : dailyLogReturns stock = .ok stockReturns)
  (hmarket : dailyLogReturns market = .ok marketReturns)
  (hsector : dailyLogReturns sector = .ok sectorReturns)

include hstock hmarket hsector

theorem allObserved_iff {d : SessionDate} : AllObserved stock market sector d ↔
    d ∈ stockReturns ∧ d ∈ marketReturns ∧ d ∈ sectorReturns := by
  rw [mem_returns_iff hstock, mem_returns_iff hmarket, mem_returns_iff hsector, AllObserved]
  simp only [List.mem_cons, List.not_mem_nil, or_false, forall_eq_or_imp, forall_eq]

theorem mem_alignedSessions_iff {window : List SessionDate} {d : SessionDate} :
    d ∈ alignedSessions window stockReturns marketReturns sectorReturns ↔
      d ∈ window ∧ AllObserved stock market sector d := by
  rw [alignedSessions, List.mem_filter, decide_eq_true_eq, allObserved_iff hstock hmarket hsector]

/-- The dates before the event are those that every series observes, in strictly increasing
order. -/
theorem preEventDates_spec (beta : FrozenBeta) (reaction : SessionDate) :
    (preEventDates ⟨beta, stockReturns, marketReturns, sectorReturns, reaction⟩).Perm
      (commonDates stock market sector reaction) ∧
    (preEventDates ⟨beta, stockReturns, marketReturns, sectorReturns, reaction⟩).Pairwise
      (· < ·) := by
  have hnodup : (stockReturns.keys.filter fun d =>
      decide (d ∈ marketReturns ∧ d ∈ sectorReturns)).Nodup :=
    stockReturns.keys_nodup.filter _
  have hperm := List.mergeSort_perm (stockReturns.keys.filter fun d =>
    decide (d ∈ marketReturns ∧ d ∈ sectorReturns)) fun a b => decide (a ≤ b)
  have hle := List.pairwise_mergeSort' (· ≤ ·)
    (stockReturns.keys.filter fun d => decide (d ∈ marketReturns ∧ d ∈ sectorReturns))
  have hdistinct := hperm.nodup_iff.mpr hnodup
  have hlt := (hle.and hdistinct).imp fun {a b} h => lt_of_le_of_ne h.1 h.2
  refine ⟨?_, hlt.filter _⟩
  apply (List.perm_ext_iff_of_nodup (hdistinct.filter _) ((List.nodup_dedup _).filter _)).mpr
  intro d
  rw [List.mem_filter, List.mem_filter, hperm.mem_iff, List.mem_filter, List.mem_dedup]
  simp only [decide_eq_true_eq, allObserved_iff hstock hmarket hsector]
  have hkey : d ∈ stockReturns.keys ↔ d ∈ stockReturns := AList.mem_keys.symm
  rw [hkey]
  constructor
  · rintro ⟨⟨hs, hm, hx⟩, hbefore⟩
    exact ⟨((mem_returns_iff hstock).mp hs).1, hbefore, hs, hm, hx⟩
  · rintro ⟨-, hbefore, hs, hm, hx⟩
    exact ⟨⟨hs, hm, hx⟩, hbefore⟩

theorem mem_momentumSessions_iff {beta : FrozenBeta} {reaction d : SessionDate} :
    (∃ recent, momentumSessions ⟨beta, stockReturns, marketReturns, sectorReturns, reaction⟩ =
      .ok recent ∧ d ∈ recent) ↔ Recent stock market sector reaction d := by
  obtain ⟨hperm, hsorted⟩ := preEventDates_spec hstock hmarket hsector beta reaction
  obtain ⟨dates, hdates⟩ :
      ∃ dates, preEventDates ⟨beta, stockReturns, marketReturns, sectorReturns, reaction⟩ = dates :=
    ⟨_, rfl⟩
  rw [hdates] at hperm hsorted
  have hfilter := (hperm.filter (d < ·)).length_eq
  rw [Recent, ← hperm.mem_iff, ← hperm.length_eq, ← hfilter]
  simp only [momentumSessions, hdates]
  by_cases hfew : dates.length < volatilitySessions
  · rw [throwIf, if_pos hfew]
    constructor
    · rintro ⟨recent, h, -⟩
      cases h
    · rintro ⟨-, hlen, -⟩
      omega
  · rw [throwIf, if_neg hfew]
    constructor
    · rintro ⟨recent, h, hd⟩
      injection h with hrecent
      subst hrecent
      obtain ⟨hmem, hcount⟩ := (mem_drop_iff hsorted).mp hd
      exact ⟨hmem, not_lt.mp hfew, hcount⟩
    · rintro ⟨hmem, -, hcount⟩
      exact ⟨_, rfl, (mem_drop_iff hsorted).mpr ⟨hmem, hcount⟩⟩

end Counted

/-- The sessions that count are measured alike exactly when the series have their last valid bar
before each of them on one date. -/
theorem sameInterval_iff (stock market sector : AdjustmentOutcome) (sessionDates : List SessionDate)
    (reaction : SessionDate) :
    (∀ d, CountedByBetas stock market sector sessionDates reaction d ∨
        UsedByMomentum stock market sector reaction d → SameInterval stock market sector d) ↔
      (HasReturns stock → HasReturns market → HasReturns sector →
        ∀ d, AllObserved stock market sector d →
          InBetaWindow sessionDates reaction d ∨ Recent stock market sector reaction d →
          SameStart stock market sector d) := by
  constructor
  · intro h hstock hmarket hsector d hobserved hcounts
    obtain ⟨stockReturns, hs⟩ := dailyLogReturns_isOk_iff.mpr hstock
    obtain ⟨marketReturns, hm⟩ := dailyLogReturns_isOk_iff.mpr hmarket
    obtain ⟨sectorReturns, hx⟩ := dailyLogReturns_isOk_iff.mpr hsector
    rw [← sameStart_of_spans hobserved]
    apply h d
    rcases hcounts with ⟨window, hwindow, hd⟩ | hrecent
    · left
      exact ⟨window, stockReturns, marketReturns, sectorReturns, hwindow, hs, hm, hx,
        (mem_alignedSessions_iff hs hm hx).mpr ⟨hd, hobserved⟩⟩
    · right
      obtain ⟨recent, hrun, hd⟩ := (@mem_momentumSessions_iff _ _ _ _ _ _ hs hm hx
        ⟨ofNat 0, ofNat 0, 0, ofNat 0, 0, 0⟩ _ _).mpr hrecent
      exact ⟨_, recent, hs, hm, hx, rfl, hrun, hd⟩
  · rintro h d (⟨window, _, _, _, hwindow, hs, hm, hx, hd⟩ |
      ⟨⟨beta, _, _, _, _⟩, recent, hs, hm, hx, rfl, hrun, hd⟩)
    · obtain ⟨hin, hobserved⟩ := (mem_alignedSessions_iff hs hm hx).mp hd
      exact (sameStart_of_spans hobserved).mpr (h (dailyLogReturns_isOk_iff.mp ⟨_, hs⟩)
        (dailyLogReturns_isOk_iff.mp ⟨_, hm⟩) (dailyLogReturns_isOk_iff.mp ⟨_, hx⟩) d hobserved
        (.inl ⟨window, hwindow, hin⟩))
    · have hrecent := (mem_momentumSessions_iff hs hm hx).mp ⟨recent, hrun, hd⟩
      have hobserved : AllObserved stock market sector d := by
        have hcommon := (List.mem_filter.mp hrecent.1).2
        exact (of_decide_eq_true hcommon).2
      exact (sameStart_of_spans hobserved).mpr (h (dailyLogReturns_isOk_iff.mp ⟨_, hs⟩)
        (dailyLogReturns_isOk_iff.mp ⟨_, hm⟩) (dailyLogReturns_isOk_iff.mp ⟨_, hx⟩) d hobserved
        (.inr hrecent))

/-- Twenty-five sessions of one close, those of `gaps` invalid. -/
def flatSeries (gaps : List SessionDate) : AdjustmentOutcome where
  symbol := "FLAT"
  series := (List.range' 1 25).map fun day =>
    ⟨s!"session-{day}", day, ofNat 1, 100, decide ((day : SessionDate) ∉ gaps)⟩
  appliedReceiptIds := []
  splitFactorsByDate := []

/-- The stock has no valid bar on day 24: the momentum before day 26 sets its return of two days
against the market's return of one. -/
theorem momentum_mixes_intervals :
    UsedByMomentum (flatSeries [24]) (flatSeries []) (flatSeries []) 26 25 ∧
      ¬SameInterval (flatSeries [24]) (flatSeries []) (flatSeries []) 25 := by
  have hreturns : ∀ gaps ∈ [[24], ([] : List SessionDate)], HasReturns (flatSeries gaps) := by
    intro gaps hgaps
    have hcloses : ∀ bar ∈ validBars (flatSeries gaps), 0 < bar.adjustedClose.toRat := by
      intro bar hbar
      obtain ⟨day, -, rfl⟩ := List.mem_map.mp (List.mem_filter.mp hbar).1
      rw [toRat_ofNat, Nat.cast_one]
      exact one_pos
    refine ⟨?_, hcloses⟩
    rcases List.mem_cons.mp hgaps with rfl | hgaps
    · decide
    · rw [List.mem_singleton.mp hgaps]
      decide
  have hobserved : AllObserved (flatSeries [24]) (flatSeries []) (flatSeries []) 25 := by
    decide
  have hrecent : Recent (flatSeries [24]) (flatSeries []) (flatSeries []) 26 25 := by
    refine ⟨?_, ?_, ?_⟩ <;> decide
  obtain ⟨stockReturns, hs⟩ := dailyLogReturns_isOk_iff.mpr (hreturns [24] (by simp))
  obtain ⟨marketReturns, hm⟩ := dailyLogReturns_isOk_iff.mpr (hreturns [] (by simp))
  refine ⟨?_, ?_⟩
  · obtain ⟨recent, hrun, hd⟩ := (@mem_momentumSessions_iff _ _ _ _ _ _ hs hm hm
      ⟨ofNat 0, ofNat 0, 0, ofNat 0, 0, 0⟩ _ _).mpr hrecent
    exact ⟨_, recent, hs, hm, hm, rfl, hrun, hd⟩
  · rw [sameStart_of_spans hobserved]
    rintro (htwo | ⟨-, start, hlt, hstart⟩)
    · exact absurd (htwo _ List.mem_cons_self) (by decide)
    · -- the market's last bar is of day 24, which the stock does not have
      have hmarket := (hstart (flatSeries []) (by simp)).2 24 (by decide) (by decide)
      have hday : start = 24 := le_antisymm (Int.lt_add_one_iff.mp hlt) hmarket
      have hstock := (hstart (flatSeries [24]) List.mem_cons_self).1
      rw [hday] at hstock
      exact absurd hstock (by decide)

end EsscherMarket.SourceData
