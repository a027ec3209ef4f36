import EsscherMarket.Lib.OrderStatistics
import EsscherMarket.Lib.PyTypes
import EsscherMarket.Lib.Txn
import Mathlib.Data.Prod.Lex
import Mathlib.Data.String.Basic

/-!
# The reject-only screen

`alpha/qfast.py`: a panel of signed returns is screened for reasons to reject its candidate method.
Returns are rational numbers here.
-/

namespace EsscherMarket.Alpha.QFast

open Lib

inductive QFastStatus where
  | insufficientData
  | rejected
  | notRejectedSmallSample
  deriving DecidableEq, Repr

/-- `1e-12`, the number of double precision. -/
def numericalEpsilon : ℚ := 4951760157141521 / 2 ^ 92

/-- `PanelRow`: a mapping has each of its keys once. -/
structure PanelRow where
  eventId : String
  signedReturns : List (String × ℚ)
  admitted : List (String × Bool)
  named : strip eventId ≠ ""
  mappings : (signedReturns.map (·.1)).Nodup ∧ (admitted.map (·.1)).Nodup
  sameMethods : ∀ method, method ∈ signedReturns.map (·.1) ↔ method ∈ admitted.map (·.1)
  nonempty : signedReturns ≠ []
  abstains : ∀ entry ∈ admitted, entry.2 = false → signedReturns.lookup entry.1 = some 0

namespace PanelRow

/-- `row.signed_returns[method]`. -/
def signedReturn (row : PanelRow) (method : String) : ℚ := (row.signedReturns.lookup method).getD 0

/-- `row.admitted[method]`. -/
def isAdmitted (row : PanelRow) (method : String) : Bool := (row.admitted.lookup method).getD false

/-- `sorted(set(row.signed_returns))`. -/
def methods (row : PanelRow) : List String := (row.signedReturns.map (·.1)).insertionSort (· ≤ ·)

end PanelRow

structure MethodMetrics where
  eligibleEvents : Nat
  admittedEvents : Nat
  coverage : ℚ
  meanAll : ℚ
  medianAll : ℚ
  meanAdmitted : Option ℚ
  medianAdmitted : Option ℚ
  deriving DecidableEq, Repr

structure QFastReport where
  status : QFastStatus
  claim : String
  eventCount : Nat
  metrics : List (String × MethodMetrics)
  strongestBaseline : Option String
  candidateAdvantage : Option ℚ
  leaveBestOutMean : Option ℚ
  rejectReasons : List String
  deriving DecidableEq, Repr

def ofValues (statistic : List ℚ → ℚ) (values : List ℚ) : Option ℚ :=
  if values = [] then none else some (statistic values)

def allReturns (rows : List PanelRow) (method : String) : List ℚ :=
  rows.map (·.signedReturn method)

def admittedReturns (rows : List PanelRow) (method : String) : List ℚ :=
  allReturns (rows.filter (·.isAdmitted method)) method

def methodMetrics (rows : List PanelRow) (method : String) : MethodMetrics where
  eligibleEvents := rows.length
  admittedEvents := (admittedReturns rows method).length
  coverage := if rows = [] then 0 else (admittedReturns rows method).length / rows.length
  meanAll := (ofValues mean (allReturns rows method)).getD 0
  medianAll := (ofValues median (allReturns rows method)).getD 0
  meanAdmitted := ofValues mean (admittedReturns rows method)
  medianAdmitted := ofValues median (admittedReturns rows method)

/-- The baseline of the greatest mean, and of the last name among those. -/
def strongestBaseline (rows : List PanelRow) (baselines : List String) : Option String :=
  baselines.argmax fun method => toLex ((methodMetrics rows method).meanAll, method)

def rejectReasons (candidate : MethodMetrics) (candidateAdvantage leaveBestOutMean : Option ℚ) :
    List String :=
  (if candidate.meanAll ≤ numericalEpsilon then ["non_positive_mean"] else []) ++
  (if candidate.medianAll < -numericalEpsilon then ["negative_median"] else []) ++
  (if candidateAdvantage.any (· < -numericalEpsilon) then ["loses_to_strongest_baseline"] else []) ++
  (if leaveBestOutMean.any (· < -numericalEpsilon) then ["best_event_fragility"] else [])

def emptyReport : QFastReport :=
  ⟨.insufficientData, "NOT_ALPHA_EVIDENCE", 0, [], none, none, none, []⟩

def report (rows : List PanelRow) (minimumEvents : Int) (candidateMethod : String)
    (methods : List String) : QFastReport :=
  let candidate := methodMetrics rows candidateMethod
  let strongest := strongestBaseline rows (methods.filter (· ≠ candidateMethod))
  let candidateAdvantage := strongest.map fun method =>
    candidate.meanAll - (methodMetrics rows method).meanAll
  let leaveBestOutMean := ofValues mean (leaveBestOut (allReturns rows candidateMethod))
  let reasons := rejectReasons candidate candidateAdvantage leaveBestOutMean
  { status :=
      if (rows.length : Int) < minimumEvents then .insufficientData
      else if reasons ≠ [] then .rejected
      else .notRejectedSmallSample
    claim := "NOT_ALPHA_EVIDENCE"
    eventCount := rows.length
    metrics := methods.map fun method => (method, methodMetrics rows method)
    strongestBaseline := strongest
    candidateAdvantage := candidateAdvantage
    leaveBestOutMean := leaveBestOutMean
    rejectReasons := reasons }

/-- Run the preregistered reject-only screen over every eligible event; errors are the texts of the
`ValueError`s. -/
def runQFast (rows : List PanelRow) (minimumEvents : Int) (candidateMethod : String) :
    Except String QFastReport := do
  throwIf (minimumEvents < 2) "minimum_events must be at least two"
  throwIf (¬(rows.map (·.eventId)).Nodup) "event IDs must be unique"
  match rows with
  | [] => pure emptyReport
  | first :: _ =>
    throwIf (candidateMethod ∉ first.methods) s!"missing candidate method: {candidateMethod}"
    throwIf (∃ row ∈ rows, row.methods ≠ first.methods)
      "every panel row must contain the same methods"
    pure (report rows minimumEvents candidateMethod first.methods)

variable {rows rows' : List PanelRow} {minimumEvents : Int} {candidateMethod : String}

theorem runQFast_eq_ok {r : QFastReport} : runQFast rows minimumEvents candidateMethod = .ok r ↔
    2 ≤ minimumEvents ∧ (rows.map (·.eventId)).Nodup ∧
      ((rows = [] ∧ r = emptyReport) ∨
        ∃ methods, rows ≠ [] ∧ candidateMethod ∈ methods ∧ (∀ row ∈ rows, row.methods = methods) ∧
          r = report rows minimumEvents candidateMethod methods) := by
  simp only [runQFast, except_bind_eq_ok, throwIf_eq_ok, not_lt, not_not]
  cases rows with
  | nil =>
    simp only [except_pure_eq_ok]
    constructor
    · rintro ⟨-, hminimum, -, hunique, heq⟩
      exact ⟨hminimum, hunique, Or.inl ⟨trivial, heq.symm⟩⟩
    · rintro ⟨hminimum, hunique, ⟨-, rfl⟩ | ⟨-, hne, -⟩⟩
      · exact ⟨(), hminimum, (), hunique, rfl⟩
      · exact absurd rfl hne
  | cons first rest =>
    simp only [except_bind_eq_ok, throwIf_eq_ok, except_pure_eq_ok, not_not, not_exists, not_and]
    constructor
    · rintro ⟨-, hminimum, -, hunique, -, hcandidate, -, hsame, heq⟩
      exact ⟨hminimum, hunique, Or.inr ⟨first.methods, List.cons_ne_nil _ _, hcandidate, hsame,
        heq.symm⟩⟩
    · rintro ⟨hminimum, hunique, ⟨hnil, -⟩ | ⟨methods, -, hcandidate, hsame, rfl⟩⟩
      · exact absurd hnil (List.cons_ne_nil _ _)
      · have hfirst := hsame first List.mem_cons_self
        refine ⟨(), hminimum, (), hunique, (), ?_, (), fun row hrow => ?_, ?_⟩
        · rw [hfirst]
          exact hcandidate
        · rw [hfirst, hsame row hrow]
        · rw [hfirst]

/-! ### The order of the rows -/

theorem ofValues_perm {statistic : List ℚ → ℚ}
    (hstatistic : ∀ {l m : List ℚ}, l.Perm m → statistic l = statistic m) {l m : List ℚ}
    (h : l.Perm m) : ofValues statistic l = ofValues statistic m := by
  have hnil : l = [] ↔ m = [] := ⟨fun heq => List.nil_perm.mp (heq ▸ h),
    fun heq => List.perm_nil.mp (heq ▸ h)⟩
  rw [ofValues, ofValues, hstatistic h]
  simp only [hnil]

theorem methodMetrics_perm (h : rows.Perm rows') (method : String) :
    methodMetrics rows method = methodMetrics rows' method := by
  have hall : (allReturns rows method).Perm (allReturns rows' method) := h.map _
  have hadmitted : (admittedReturns rows method).Perm (admittedReturns rows' method) :=
    (h.filter _).map _
  have hnil : rows = [] ↔ rows' = [] := ⟨fun heq => List.nil_perm.mp (heq ▸ h),
    fun heq => List.perm_nil.mp (heq ▸ h)⟩
  simp only [methodMetrics, h.length_eq, hadmitted.length_eq, hnil, ofValues_perm mean_perm hall,
    ofValues_perm median_perm hall, ofValues_perm mean_perm hadmitted,
    ofValues_perm median_perm hadmitted]

theorem report_perm (h : rows.Perm rows') (methods : List String) :
    report rows minimumEvents candidateMethod methods =
      report rows' minimumEvents candidateMethod methods := by
  have hmetrics : methodMetrics rows = methodMetrics rows' := funext (methodMetrics_perm h)
  have hreturns : (allReturns rows candidateMethod).Perm (allReturns rows' candidateMethod) := h.map _
  have hleave : ofValues mean (leaveBestOut (allReturns rows candidateMethod)) =
      ofValues mean (leaveBestOut (allReturns rows' candidateMethod)) := by
    have hlength : (leaveBestOut (allReturns rows candidateMethod)).length =
        (leaveBestOut (allReturns rows' candidateMethod)).length := by
      rw [length_leaveBestOut, length_leaveBestOut, hreturns.length_eq]
    rw [ofValues, ofValues, mean_leaveBestOut_perm hreturns]
    simp only [← List.length_eq_zero_iff, hlength]
  have hstrongest : strongestBaseline rows = strongestBaseline rows' := by
    funext baselines
    rw [strongestBaseline, hmetrics, strongestBaseline]
  simp only [report, hstrongest, hmetrics, hleave, h.length_eq]

/-- The order of the rows does not matter. -/
theorem runQFast_perm (h : rows.Perm rows') (r : QFastReport) :
    runQFast rows minimumEvents candidateMethod = .ok r ↔
      runQFast rows' minimumEvents candidateMethod = .ok r := by
  have hone : ∀ {rows rows' : List PanelRow}, rows.Perm rows' →
      runQFast rows minimumEvents candidateMethod = .ok r →
      runQFast rows' minimumEvents candidateMethod = .ok r := by
    intro rows rows' h hrun
    obtain ⟨hminimum, hunique, hcases⟩ := runQFast_eq_ok.mp hrun
    have hunique' := (h.map PanelRow.eventId).nodup_iff.mp hunique
    refine runQFast_eq_ok.mpr ⟨hminimum, hunique', ?_⟩
    rcases hcases with ⟨rfl, heq⟩ | ⟨methods, hne, hcandidate, hsame, rfl⟩
    · exact Or.inl ⟨List.nil_perm.mp h, heq⟩
    · refine Or.inr ⟨methods, ?_, hcandidate, fun row hrow => hsame row (h.mem_iff.mpr hrow),
        report_perm h methods⟩
      rintro rfl
      exact hne (List.perm_nil.mp h)
  exact ⟨hone h, hone h.symm⟩

/-! ### Better panels -/

/-- The row of an event in which the candidate did not do worse and no baseline better. -/
structure Improves (candidateMethod : String) (row row' : PanelRow) : Prop where
  eventId : row'.eventId = row.eventId
  methods : row'.methods = row.methods
  candidate : row.signedReturn candidateMethod ≤ row'.signedReturn candidateMethod
  baselines : ∀ method ≠ candidateMethod, row'.signedReturn method ≤ row.signedReturn method

theorem ofValues_getD_mono {statistic : List ℚ → ℚ}
    (hstatistic : ∀ {l m : List ℚ}, List.Forall₂ (· ≤ ·) l m → statistic l ≤ statistic m)
    {l m : List ℚ} (h : List.Forall₂ (· ≤ ·) l m) :
    (ofValues statistic l).getD 0 ≤ (ofValues statistic m).getD 0 := by
  cases h with
  | nil => exact le_rfl
  | cons hab hrest =>
    rw [ofValues, ofValues, if_neg (List.cons_ne_nil _ _), if_neg (List.cons_ne_nil _ _)]
    exact hstatistic (.cons hab hrest)

variable (h : List.Forall₂ (Improves candidateMethod) rows rows')
include h

theorem candidate_returns :
    List.Forall₂ (· ≤ ·) (allReturns rows candidateMethod) (allReturns rows' candidateMethod) := by
  rw [allReturns, allReturns, List.forall₂_map_left_iff, List.forall₂_map_right_iff]
  exact h.imp fun _ _ himproves => himproves.candidate

theorem baseline_returns {method : String} (hmethod : method ≠ candidateMethod) :
    List.Forall₂ (· ≤ ·) (allReturns rows' method) (allReturns rows method) := by
  rw [allReturns, allReturns, List.forall₂_map_left_iff, List.forall₂_map_right_iff]
  exact h.flip.imp fun _ _ himproves => himproves.baselines method hmethod

theorem candidate_metrics :
    (methodMetrics rows candidateMethod).meanAll ≤ (methodMetrics rows' candidateMethod).meanAll ∧
      (methodMetrics rows candidateMethod).medianAll ≤
        (methodMetrics rows' candidateMethod).medianAll :=
  ⟨ofValues_getD_mono mean_mono (candidate_returns h),
    ofValues_getD_mono median_mono (candidate_returns h)⟩

theorem baseline_mean {method : String} (hmethod : method ≠ candidateMethod) :
    (methodMetrics rows' method).meanAll ≤ (methodMetrics rows method).meanAll :=
  ofValues_getD_mono mean_mono (baseline_returns h hmethod)

/-- The strongest baseline of the better panel is at most as strong as the one before. -/
theorem strongest_mean {methods : List String} {strongest' : String}
    (hstrongest' : strongestBaseline rows' (methods.filter (· ≠ candidateMethod)) =
      some strongest') : ∃ strongest, strongestBaseline rows
        (methods.filter (· ≠ candidateMethod)) = some strongest ∧
      (methodMetrics rows' strongest').meanAll ≤ (methodMetrics rows strongest).meanAll := by
  have hmem := List.argmax_mem hstrongest'
  have hbaseline : strongest' ≠ candidateMethod := by
    simpa using (List.mem_filter.mp hmem).2
  cases hstrongest : strongestBaseline rows (methods.filter (· ≠ candidateMethod)) with
  | none =>
    rw [strongestBaseline, List.argmax_eq_none] at hstrongest
    rw [hstrongest] at hmem
    cases hmem
  | some strongest =>
    have hgreatest : (methodMetrics rows strongest').meanAll ≤
        (methodMetrics rows strongest).meanAll :=
      Prod.Lex.monotone_fst _ _ (List.le_of_mem_argmax hmem hstrongest)
    exact ⟨strongest, rfl, (baseline_mean h hbaseline).trans hgreatest⟩

omit h in
theorem any_lt_mono {old new : Option ℚ} {bound : ℚ} (hle : ∀ y ∈ new, ∃ x ∈ old, x ≤ y)
    (hnew : new.any (· < bound) = true) : old.any (· < bound) = true := by
  cases new with
  | none => cases hnew
  | some y =>
    obtain ⟨x, hx, hxy⟩ := hle y rfl
    rw [Option.mem_def.mp hx]
    simp only [Option.any_some, decide_eq_true_eq] at hnew ⊢
    exact lt_of_le_of_lt hxy hnew

/-- A better panel has no new reason to be rejected. -/
theorem rejectReasons_improved (methods : List String) :
    (report rows' minimumEvents candidateMethod methods).rejectReasons ⊆
      (report rows minimumEvents candidateMethod methods).rejectReasons := by
  obtain ⟨hmean, hmedian⟩ := candidate_metrics h
  have hreturns := candidate_returns h
  have hadvantage : ∀ y ∈ (report rows' minimumEvents candidateMethod methods).candidateAdvantage,
      ∃ x ∈ (report rows minimumEvents candidateMethod methods).candidateAdvantage, x ≤ y := by
    intro y hy
    obtain ⟨strongest', hstrongest', rfl⟩ := Option.map_eq_some_iff.mp hy
    obtain ⟨strongest, hstrongest, hle⟩ := strongest_mean h hstrongest'
    refine ⟨_, Option.map_eq_some_iff.mpr ⟨strongest, hstrongest, rfl⟩, ?_⟩
    linarith
  have hleave : ∀ y ∈ (report rows' minimumEvents candidateMethod methods).leaveBestOutMean,
      ∃ x ∈ (report rows minimumEvents candidateMethod methods).leaveBestOutMean, x ≤ y := by
    intro y hy
    have hlength : (leaveBestOut (allReturns rows candidateMethod)).length =
        (leaveBestOut (allReturns rows' candidateMethod)).length := by
      rw [length_leaveBestOut, length_leaveBestOut, hreturns.length_eq]
    simp only [report, ofValues, ← List.length_eq_zero_iff, hlength, Option.mem_def] at hy ⊢
    split at hy
    · cases hy
    · rename_i hsome
      cases hy
      rw [if_neg hsome]
      exact ⟨_, rfl, mean_leaveBestOut_mono hreturns⟩
  have hreason : ∀ {p q : Prop} [Decidable p] [Decidable q] {reason text : String}, (p → q) →
      reason ∈ (if p then [text] else []) → reason ∈ (if q then [text] else []) := by
    intro p q _ _ reason text himp hmem
    split at hmem
    · rename_i hp
      rwa [if_pos (himp hp)]
    · cases hmem
  intro reason hmem
  simp only [report, rejectReasons, List.mem_append] at hmem ⊢
  rcases hmem with ((hmem | hmem) | hmem) | hmem
  · exact Or.inl (Or.inl (Or.inl (hreason (fun hle => hmean.trans hle) hmem)))
  · exact Or.inl (Or.inl (Or.inr (hreason (fun hlt => lt_of_le_of_lt hmedian hlt) hmem)))
  · exact Or.inl (Or.inr (hreason (any_lt_mono hadvantage) hmem))
  · exact Or.inr (hreason (any_lt_mono hleave) hmem)

theorem map_eq_of_improves {α : Type} {f : PanelRow → α}
    (hf : ∀ {row row'}, Improves candidateMethod row row' → f row' = f row) :
    rows'.map f = rows.map f := by
  induction h with
  | nil => rfl
  | cons himproves _ ih => rw [List.map_cons, List.map_cons, hf himproves, ih]

theorem status_improved (methods : List String)
    (hstatus : (report rows minimumEvents candidateMethod methods).status = .notRejectedSmallSample) :
    (report rows' minimumEvents candidateMethod methods).status = .notRejectedSmallSample := by
  have hreasons := @rejectReasons_improved rows rows' minimumEvents candidateMethod h methods
  have hlength := h.length_eq
  have heq : ∀ rows, (report rows minimumEvents candidateMethod methods).status =
      if (rows.length : Int) < minimumEvents then .insufficientData
      else if (report rows minimumEvents candidateMethod methods).rejectReasons ≠ [] then .rejected
      else .notRejectedSmallSample := fun _ => rfl
  rw [heq] at hstatus ⊢
  rw [← hlength]
  by_cases hshort : (rows.length : Int) < minimumEvents
  · rw [if_pos hshort] at hstatus
    cases hstatus
  · rw [if_neg hshort] at hstatus ⊢
    by_cases hnone : (report rows minimumEvents candidateMethod methods).rejectReasons = []
    · rw [hnone, List.subset_nil] at hreasons
      rw [if_neg (not_not.mpr hreasons)]
    · rw [if_pos hnone] at hstatus
      cases hstatus

/-- A better panel is screened as well and has no new reason to be rejected. -/
theorem runQFast_improved {r : QFastReport}
    (hrun : runQFast rows minimumEvents candidateMethod = .ok r) :
    ∃ r', runQFast rows' minimumEvents candidateMethod = .ok r' ∧
      r'.rejectReasons ⊆ r.rejectReasons ∧
      (r.status = .notRejectedSmallSample → r'.status = .notRejectedSmallSample) := by
  obtain ⟨hminimum, hunique, hcases⟩ := runQFast_eq_ok.mp hrun
  have hids := map_eq_of_improves h (f := PanelRow.eventId) Improves.eventId
  have hmethods := map_eq_of_improves h (f := PanelRow.methods) Improves.methods
  rw [← hids] at hunique
  rcases hcases with ⟨rfl, rfl⟩ | ⟨methods, hne, hcandidate, hsame, rfl⟩
  · have hnil := List.forall₂_nil_left_iff.mp h
    exact ⟨emptyReport, runQFast_eq_ok.mpr ⟨hminimum, hunique, Or.inl ⟨hnil, rfl⟩⟩,
      List.Subset.refl _, id⟩
  · have hne' : rows' ≠ [] := by
      rintro rfl
      exact hne (List.forall₂_nil_right_iff.mp h)
    have hsame' : ∀ row ∈ rows', row.methods = methods := by
      intro row hrow
      have hmem := List.mem_map_of_mem (f := PanelRow.methods) hrow
      rw [hmethods] at hmem
      obtain ⟨old, hold, heq⟩ := List.mem_map.mp hmem
      rw [← heq, hsame old hold]
    exact ⟨report rows' minimumEvents candidateMethod methods, runQFast_eq_ok.mpr
      ⟨hminimum, hunique, Or.inr ⟨methods, hne', hcandidate, hsame', rfl⟩⟩,
      rejectReasons_improved h methods, status_improved h methods⟩

omit h

/-- The screen gives one report for all orders of the rows, and worse candidates or better baselines
add no pass. -/
theorem runQFast_perm_and_improved (minimumEvents : Int) (candidateMethod : String) :
    (∀ rows rows' : List PanelRow, rows.Perm rows' → ∀ r,
      runQFast rows minimumEvents candidateMethod = .ok r ↔
        runQFast rows' minimumEvents candidateMethod = .ok r) ∧
    ∀ rows rows' : List PanelRow, List.Forall₂ (Improves candidateMethod) rows rows' → ∀ r,
      runQFast rows minimumEvents candidateMethod = .ok r →
        ∃ r', runQFast rows' minimumEvents candidateMethod = .ok r' ∧
          r'.rejectReasons ⊆ r.rejectReasons ∧
          (r.status = .notRejectedSmallSample → r'.status = .notRejectedSmallSample) :=
  ⟨fun _ _ h r => runQFast_perm h r, fun _ _ h _ hrun => runQFast_improved h hrun⟩

theorem Improves.refl (row : PanelRow) : Improves candidateMethod row row :=
  ⟨rfl, rfl, le_rfl, fun _ _ => le_rfl⟩

/-- One row that is better makes a better panel. -/
theorem improves_one {row row' : PanelRow} (before after : List PanelRow)
    (h : Improves candidateMethod row row') :
    List.Forall₂ (Improves candidateMethod) (before ++ row :: after) (before ++ row' :: after) :=
  List.rel_append (List.forall₂_same.mpr fun row _ => .refl row)
    (.cons h (List.forall₂_same.mpr fun row _ => .refl row))

end EsscherMarket.Alpha.QFast
