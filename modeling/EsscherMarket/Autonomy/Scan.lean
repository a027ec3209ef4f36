import EsscherMarket.Autonomy.Universe
import Mathlib.Data.Prod.Lex

/-!
# The liquid-universe scan

`autonomy/universe.py`, the scan part: observations, their exclusion reasons and readiness, the rank
key and `scan_universe`.
-/

namespace EsscherMarket.Autonomy

open Lib

/-! ### Observations -/

/-- Normalized product classification for one observed symbol. -/
inductive ProductKind where
  | usCommonStock
  | usExchangeTradedProduct
  | otc
  | warrant
  | right
  | unit
  | leveragedInverseEtp
  | nonUsProduct
  deriving DecidableEq, Repr

def eligibleProductKinds : List ProductKind := [.usCommonStock, .usExchangeTradedProduct]

/-- The route a scan candidate is collected for. -/
inductive UniverseLane where
  | marketAnchor
  | catalystStock
  deriving DecidableEq, Repr

inductive Readiness where
  | scanEligible
  | decisionReady
  deriving DecidableEq, Repr

inductive ScanExclusionReason where
  | inactiveProduct
  | untradableProduct
  | excludedProductKind
  | ineligibleMarketAnchor
  | priceBelowFloor
  | quoteMissing
  | quoteStale
  | quoteClockSkew
  | quoteOneSided
  | quoteCrossed
  | spreadTooWide
  | optionLiquidityInsufficient
  deriving DecidableEq, Repr

inductive ReadinessReason where
  | optionPageIncomplete
  | newsPageIncomplete
  | noContemporaneousNews
  deriving DecidableEq, Repr

def underlyingPriceFloor : Decimal := .ofNat 5

def maxStockSpreadBps : Decimal := .ofNat 100

def minActiveOptionContracts : Int := 20

def maxQuoteAge : Int := 900 * DateTime.microsPerSecond

def marketAnchorSymbols : List String := ["QQQ", "SPY"]

def timestamp (value : DateTime) (path : String) : Contract Unit :=
  throwIf (value.isAware = false ∨ DateTime.offsetMinutes value.tzinfo ≠ 0)
    ⟨.invalidClock, path, "must be an explicit UTC datetime"⟩

def finiteDecimal (value : Decimal) (path : String) : Contract Unit :=
  throwIf (value.isFinite = false) ⟨.invalidDecimal, path, "must be finite"⟩

def count (value : Int) (path : String) : Contract Unit :=
  throwIf (value < 0) ⟨.invalidCount, path, "must not be negative"⟩

def optional {α : Type} (check : α → Contract Unit) : Option α → Contract Unit
  | some a => check a
  | none => .ok ()

/-- The fields of `UniverseObservation`: one supplied active or mover observation. -/
structure UniverseObservationFields where
  symbol : String
  productKind : ProductKind
  lane : UniverseLane
  active : Bool
  tradable : Bool
  last : Option Decimal
  bid : Option Decimal
  ask : Option Decimal
  quotedAt : Option DateTime
  observedAt : DateTime
  optionContractsActive : Int
  optionPageComplete : Bool
  newsRecords : Int
  newsPageComplete : Bool
  ivAvailable : Option Bool
  greeksAvailable : Option Bool
  activityRank : Option Int
  absoluteMovement : Option Decimal

def UniverseObservationFields.check (o : UniverseObservationFields) : Contract Unit := do
  Autonomy.symbol o.symbol "symbol"
  optional (finiteDecimal · "last") o.last
  optional (finiteDecimal · "bid") o.bid
  optional (finiteDecimal · "ask") o.ask
  optional (timestamp · "quoted_at") o.quotedAt
  timestamp o.observedAt "observed_at"
  count o.optionContractsActive "option_contracts_active"
  count o.newsRecords "news_records"
  optional (fun rank => throwIf (rank < 1)
    ⟨.invalidRank, "activity_rank", "must be a positive integer rank or null"⟩) o.activityRank
  optional (finiteDecimal · "absolute_movement") o.absoluteMovement
  optional (fun movement => throwIf (movement.toRat < 0)
    ⟨.invalidDecimal, "absolute_movement", "must not be negative"⟩) o.absoluteMovement

abbrev UniverseObservation : Type := { o : UniverseObservationFields // o.check = .ok () }

/-- One scan-eligible observation with explicit readiness and facts. -/
structure ScanCandidate where
  symbol : String
  lane : UniverseLane
  productKind : ProductKind
  readiness : Readiness
  readinessReasons : List ReadinessReason
  last : Decimal
  bid : Decimal
  ask : Decimal
  spreadBps : Decimal
  quotedAt : DateTime
  observedAt : DateTime
  optionContractsActive : Int
  optionPageComplete : Bool
  newsRecords : Int
  newsPageComplete : Bool
  ivAvailable : Option Bool
  greeksAvailable : Option Bool
  activityRank : Option Int
  absoluteMovement : Option Decimal

/-- One excluded observation with every applicable exclusion reason. -/
structure ScanRejection where
  symbol : String
  reasons : List ScanExclusionReason

structure UniverseScanResult where
  asOf : DateTime
  candidates : List ScanCandidate
  rejections : List ScanRejection

/-! ### Eligibility -/

def spreadBps (bid ask : Decimal) : Except DecimalSignal Decimal := do
  let difference ← Decimal.minus ask bid
  let scaled ← Decimal.product (.ofNat 20000) difference
  let total ← Decimal.plus bid ask
  Decimal.dividedBy scaled total

def reasonIf (c : Prop) [Decidable c] (reason : ScanExclusionReason) : List ScanExclusionReason :=
  if c then [reason] else []

def quoteReasons (bid ask : Decimal) (quotedAt asOf : DateTime) :
    Except DecimalSignal (List ScanExclusionReason) := do
  let clock := if asOf.micros < quotedAt.micros then [.quoteClockSkew]
    else reasonIf (maxQuoteAge < asOf.micros - quotedAt.micros) .quoteStale
  if bid.toRat ≤ 0 ∨ ask.toRat ≤ 0 then return clock ++ [.quoteOneSided]
  else if ask.toRat < bid.toRat then return clock ++ [.quoteCrossed]
  else
    let spread ← spreadBps bid ask
    return clock ++ reasonIf (maxStockSpreadBps.toRat < spread.toRat) .spreadTooWide

def quotedReasons (o : UniverseObservation) (asOf : DateTime) :
    Except DecimalSignal (List ScanExclusionReason) :=
  match o.1.last, o.1.bid, o.1.ask, o.1.quotedAt with
  | some _, some bid, some ask, some quotedAt => quoteReasons bid ask quotedAt asOf
  | _, _, _, _ => .ok [.quoteMissing]

def exclusionReasons (o : UniverseObservation) (asOf : DateTime) :
    Except DecimalSignal (List ScanExclusionReason) := do
  let product := reasonIf (o.1.active = false) .inactiveProduct ++
    reasonIf (o.1.tradable = false) .untradableProduct ++
    reasonIf (o.1.productKind ∉ eligibleProductKinds) .excludedProductKind ++
    reasonIf (o.1.lane = .marketAnchor ∧ o.1.symbol ∉ marketAnchorSymbols)
      .ineligibleMarketAnchor ++
    reasonIf (∃ last ∈ o.1.last, last.toRat < underlyingPriceFloor.toRat) .priceBelowFloor
  let quote ← quotedReasons o asOf
  return product ++ quote ++
    reasonIf (o.1.optionContractsActive < minActiveOptionContracts) .optionLiquidityInsufficient

def readiness (o : UniverseObservation) : Readiness × List ReadinessReason :=
  let page := if o.1.optionPageComplete = false then [.optionPageIncomplete] else []
  let news := if o.1.lane = .catalystStock then
      if o.1.newsPageComplete = false then [.newsPageIncomplete]
      else if o.1.newsRecords < 1 then [.noContemporaneousNews] else []
    else []
  match page ++ news with
  | [] => (.decisionReady, [])
  | blockers => (.scanEligible, blockers)

def candidate (o : UniverseObservation) : Computed ScanCandidate :=
  match o.1.last, o.1.bid, o.1.ask, o.1.quotedAt with
  | some last, some bid, some ask, some quotedAt => do
    let spread ← arithmetic (spreadBps bid ask)
    return {
      symbol := o.1.symbol
      lane := o.1.lane
      productKind := o.1.productKind
      readiness := (readiness o).1
      readinessReasons := (readiness o).2
      last := last
      bid := bid
      ask := ask
      spreadBps := spread
      quotedAt := quotedAt
      observedAt := o.1.observedAt
      optionContractsActive := o.1.optionContractsActive
      optionPageComplete := o.1.optionPageComplete
      newsRecords := o.1.newsRecords
      newsPageComplete := o.1.newsPageComplete
      ivAvailable := o.1.ivAvailable
      greeksAvailable := o.1.greeksAvailable
      activityRank := o.1.activityRank
      absoluteMovement := o.1.absoluteMovement }
  | _, _, _, _ => .error .assertion

/-! ### The scan -/

/-- The rank of a candidate: lane, age, spread, activity rank, movement, news and symbol. -/
abbrev RankKey : Type := ℕ ×ₗ ℤ ×ₗ ℚ ×ₗ Bool ×ₗ ℤ ×ₗ Bool ×ₗ ℚ ×ₗ ℕ ×ₗ String

/-- The movement in a key: larger movements come first. -/
def rankedMovement : Option Decimal → Except DecimalSignal Decimal
  | some movement => Decimal.negated movement
  | none => .ok (.ofNat 0)

def rankKey (c : ScanCandidate) (asOf : DateTime) : Except DecimalSignal RankKey := do
  let movement ← rankedMovement c.absoluteMovement
  return toLex (if c.lane = .marketAnchor then 0 else 1,
    toLex (asOf.micros - c.quotedAt.micros,
    toLex (c.spreadBps.toRat,
    toLex (c.activityRank.isNone,
    toLex (c.activityRank.getD 0,
    toLex (c.absoluteMovement.isNone,
    toLex (movement.toRat,
    toLex (if 1 ≤ c.newsRecords then 0 else 1, c.symbol))))))))

def validateSymbols (seen : List String) (index : Nat) : List UniverseObservation → Contract Unit
  | [] => .ok ()
  | o :: rest => do
    throwIf (o.1.symbol ∈ seen) ⟨.duplicateSymbol, s!"observations[{index}].symbol",
      s!"duplicate symbol {o.1.symbol}"⟩
    validateSymbols (o.1.symbol :: seen) (index + 1) rest

def classify (asOf : DateTime) :
    List UniverseObservation → Computed (List ScanCandidate × List ScanRejection)
  | [] => .ok ([], [])
  | o :: rest => do
    let reasons ← arithmetic (exclusionReasons o asOf)
    if reasons = [] then
      let c ← candidate o
      let (candidates, rejections) ← classify asOf rest
      return (c :: candidates, rejections)
    else
      let (candidates, rejections) ← classify asOf rest
      return (candidates, ⟨o.1.symbol, reasons⟩ :: rejections)

def keyed (asOf : DateTime) :
    List ScanCandidate → Except DecimalSignal (List (ScanCandidate × RankKey))
  | [] => .ok []
  | c :: rest => do
    let key ← rankKey c asOf
    let others ← keyed asOf rest
    return (c, key) :: others

def scanUniverse (observations : List UniverseObservation) (asOf : DateTime) :
    Computed UniverseScanResult := do
  contract (timestamp asOf "as_of")
  contract (validateSymbols [] 0 observations)
  let (candidates, rejections) ← classify asOf observations
  let keys ← arithmetic (keyed asOf candidates)
  return ⟨asOf, (keys.mergeSort fun a b => decide (a.2 ≤ b.2)).map (·.1),
    rejections.mergeSort fun a b => decide (a.symbol ≤ b.symbol)⟩

/-! ### The range of the context -/

/-- The spread of a quote is in the range of the context. -/
structure SpreadInRange (bid ask : Decimal) : Prop where
  sum : bid.toRat + ask.toRat < Decimal.overflowLimit
  notTiny : (10 : ℚ) ^ Decimal.etiny < 2 * (bid.toRat + ask.toRat)
  difference : ∀ d, Decimal.minus ask bid = .ok d → 20000 * d.toRat < Decimal.overflowLimit

section Spread

open Decimal

theorem result_eq_ok {d r : Decimal} : d.result = .ok r ↔ d.bound = some r := by
  rw [Decimal.result]
  split
  · rename_i hbound
    rw [hbound]
    simp
  · rename_i hbound
    rw [hbound]
    simp

/-- An operation returns exactly below the limit. -/
theorem exists_result_iff {d : Decimal} (hd : d.isFinite = true) :
    (∃ r, d.result = .ok r) ↔ |d.toRat| < overflowLimit := by
  simp only [result_eq_ok]
  rw [← not_le, ← bound_eq_none_iff hd, ← Option.isSome_iff_exists, Option.isSome_iff_ne_none]

/-- A returned magnitude is at most doubled. -/
theorem result_double {d r : Decimal} (hd : d.isFinite = true) (h : d.result = .ok r) :
    r.isFinite = true ∧ |r.toRat| ≤ 2 * |d.toRat| ∧ (r.toRat ≠ 0 → |d.toRat| ≤ 2 * |r.toRat|) :=
  ⟨isFinite_bound hd (result_eq_ok.mp h), bound_double hd (result_eq_ok.mp h)⟩

theorem result_nonneg {d r : Decimal} (hd : d.isFinite = true) (h : d.result = .ok r)
    (hnonneg : 0 ≤ d.toRat) : 0 ≤ r.toRat :=
  toRat_bound_nonneg hd (result_eq_ok.mp h) hnonneg

variable {bid ask : Decimal} (hbid : bid.isFinite = true) (hask : ask.isFinite = true)
  (hpos : 0 < bid.toRat) (hle : bid.toRat ≤ ask.toRat)

include hbid hask hpos hle

/-- The spread of an uncrossed quote is computed exactly if it is in range. -/
theorem spreadBps_iff : (∃ s, spreadBps bid ask = .ok s) ↔ SpreadInRange bid ask := by
  have hneg := isFinite_copyNegate hbid
  have hdifference : (sum ask bid.copyNegate).toRat = ask.toRat - bid.toRat := by
    rw [toRat_sum hask hneg, toRat_copyNegate]
    ring
  have hsum : (sum bid ask).toRat = bid.toRat + ask.toRat := toRat_sum hbid hask
  have hscaled : ∀ d : Decimal, d.isFinite = true →
      (Decimal.mul (.ofNat 20000) d).toRat = 20000 * d.toRat := by
    intro d hd
    rw [toRat_mul rfl hd, toRat_ofNat]
    norm_num
  have hsumpos : 0 < bid.toRat + ask.toRat := by linarith
  constructor
  · rintro ⟨s, hs⟩
    simp only [spreadBps, except_bind_eq_ok] at hs
    obtain ⟨d, hd, scaled, hscaledOk, total, htotal, hquotient⟩ := hs
    have hdfinite := (result_double (isFinite_sum hask hneg) hd).1
    refine ⟨?_, ?_, ?_⟩
    · have h := (exists_result_iff (isFinite_sum hbid hask)).mp ⟨total, htotal⟩
      rw [hsum, abs_of_pos hsumpos] at h
      exact h
    · by_contra hsmall
      have hzero : total.toRat = 0 := by
        rw [toRat_bound_eq_zero_iff (isFinite_sum hbid hask) (result_eq_ok.mp htotal), hsum,
          abs_of_pos hsumpos]
        exact not_lt.mp hsmall
      rw [dividedBy, if_pos hzero] at hquotient
      cases hquotient
    · intro d' hd'
      rw [hd] at hd'
      cases hd'
      have h := (exists_result_iff (isFinite_mul rfl hdfinite)).mp ⟨scaled, hscaledOk⟩
      rw [hscaled d hdfinite] at h
      exact lt_of_le_of_lt (le_abs_self _) h
  · intro h
    have hdiff : |(sum ask bid.copyNegate).toRat| < overflowLimit := by
      rw [hdifference, abs_of_nonneg (by linarith)]
      have := h.sum
      linarith
    obtain ⟨d, hd⟩ := (exists_result_iff (isFinite_sum hask hneg)).mpr hdiff
    obtain ⟨hdfinite, hddouble, -⟩ := result_double (isFinite_sum hask hneg) hd
    have hdnonneg : 0 ≤ d.toRat :=
      result_nonneg (isFinite_sum hask hneg) hd (by rw [hdifference]; linarith)
    rw [hdifference, abs_of_nonneg hdnonneg, abs_of_nonneg (by linarith)] at hddouble
    have hscaledLt : |(Decimal.mul (.ofNat 20000) d).toRat| < overflowLimit := by
      rw [hscaled d hdfinite, abs_of_nonneg (by linarith)]
      exact h.difference d hd
    have hmulfinite : (Decimal.mul (.ofNat 20000) d).isFinite = true := isFinite_mul rfl hdfinite
    obtain ⟨scaled, hscaledOk⟩ := (exists_result_iff hmulfinite).mpr hscaledLt
    obtain ⟨hsfinite, hsdouble, -⟩ := result_double hmulfinite hscaledOk
    rw [hscaled d hdfinite, abs_of_nonneg (by linarith : (0 : ℚ) ≤ 20000 * d.toRat)] at hsdouble
    have htotalLt : |(sum bid ask).toRat| < overflowLimit := by
      rw [hsum, abs_of_pos hsumpos]
      exact h.sum
    obtain ⟨total, htotal⟩ := (exists_result_iff (isFinite_sum hbid hask)).mpr htotalLt
    obtain ⟨htfinite, -, htdouble⟩ := result_double (isFinite_sum hbid hask) htotal
    have hne : total.toRat ≠ 0 := by
      intro hzero
      rw [toRat_bound_eq_zero_iff (isFinite_sum hbid hask) (result_eq_ok.mp htotal), hsum,
        abs_of_pos hsumpos] at hzero
      exact absurd h.notTiny (not_lt.mpr hzero)
    have htdouble := htdouble hne
    rw [hsum, abs_of_pos hsumpos] at htdouble
    -- the quotient is far below the limit
    have htpos : 0 < |total.toRat| := abs_pos.mpr hne
    have hratio : |scaled.toRat| / |total.toRat| ≤ 160000 := by
      rw [div_le_iff₀ htpos]
      linarith
    have hquotientLt : |(quotient scaled total).toRat| < overflowLimit := by
      have hbound := abs_quotient_le hsfinite htfinite hne
      have hlarge : (320000 : ℚ) < overflowLimit := lt_overflowLimit (by norm_num)
      linarith
    obtain ⟨s, hs⟩ := (exists_result_iff (isFinite_quotient hsfinite htfinite)).mpr hquotientLt
    refine ⟨s, ?_⟩
    simp only [spreadBps, except_bind_eq_ok]
    refine ⟨d, hd, scaled, hscaledOk, total, htotal, ?_⟩
    rw [dividedBy, if_neg hne]
    exact hs

end Spread

/-- An observation is in the range of the context: the spread of an uncrossed quote with positive
prices, and the movement of a candidate. -/
structure InRange (asOf : DateTime) (o : UniverseObservation) : Prop where
  spread : ∀ last bid ask quotedAt, o.1.last = some last → o.1.bid = some bid → o.1.ask = some ask →
    o.1.quotedAt = some quotedAt → 0 < bid.toRat → bid.toRat ≤ ask.toRat → SpreadInRange bid ask
  movement : ∀ movement, o.1.absoluteMovement = some movement →
    exclusionReasons o asOf = .ok [] → movement.toRat < Decimal.overflowLimit

/-! ### What an observation becomes -/

theorem optional_eq_ok {α : Type} {check : α → Contract Unit} {value : Option α} {u : Unit} :
    optional check value = .ok u ↔ ∀ a, value = some a → check a = .ok u := by
  cases value with
  | none => simp [optional]
  | some a => simp [optional]

theorem observation_finite (o : UniverseObservation) :
    (∀ d, o.1.bid = some d → d.isFinite = true) ∧ (∀ d, o.1.ask = some d → d.isFinite = true) ∧
    ∀ d, o.1.absoluteMovement = some d → d.isFinite = true ∧ 0 ≤ d.toRat := by
  have h := o.2
  simp only [UniverseObservationFields.check, except_bind_eq_ok, optional_eq_ok, finiteDecimal,
    throwIf_eq_ok, Bool.not_eq_false, not_lt] at h
  obtain ⟨_, -, _, -, _, hbid, _, hask, _, -, _, -, _, -, _, -, _, -, _, hmovement, hnonneg⟩ := h
  exact ⟨hbid, hask, fun d hd => ⟨hmovement d hd, hnonneg d hd⟩⟩

section Observation

variable {o : UniverseObservation} {asOf : DateTime}

theorem exclusionReasons_iff : (∃ reasons, exclusionReasons o asOf = .ok reasons) ↔
    ∀ last bid ask quotedAt, o.1.last = some last → o.1.bid = some bid → o.1.ask = some ask →
      o.1.quotedAt = some quotedAt → 0 < bid.toRat → bid.toRat ≤ ask.toRat →
      SpreadInRange bid ask := by
  obtain ⟨hbid, hask, -⟩ := observation_finite o
  have hquote : (∃ reasons, exclusionReasons o asOf = .ok reasons) ↔
      ∃ reasons, quotedReasons o asOf = .ok reasons := by
    simp only [exclusionReasons, except_bind_eq_ok, except_pure_eq_ok]
    constructor
    · rintro ⟨_, quote, h, -⟩
      exact ⟨quote, h⟩
    · rintro ⟨quote, h⟩
      exact ⟨_, quote, h, rfl⟩
  rw [hquote, quotedReasons]
  cases hl : o.1.last with
  | none => simp
  | some last =>
    cases hb : o.1.bid with
    | none => simp
    | some bid =>
      cases ha : o.1.ask with
      | none => simp
      | some ask =>
        cases hq : o.1.quotedAt with
        | none => simp
        | some quotedAt =>
          have hiff : (∃ reasons, quoteReasons bid ask quotedAt asOf = .ok reasons) ↔
              (0 < bid.toRat → bid.toRat ≤ ask.toRat → SpreadInRange bid ask) := by
            rw [quoteReasons]
            by_cases hone : bid.toRat ≤ 0 ∨ ask.toRat ≤ 0
            · simp only [if_pos hone]
              refine iff_of_true ⟨_, rfl⟩ ?_
              intro hpos hle
              rcases hone with hone | hone <;> linarith
            · simp only [if_neg hone]
              rw [not_or, not_le, not_le] at hone
              by_cases hcrossed : ask.toRat < bid.toRat
              · simp only [if_pos hcrossed]
                exact iff_of_true ⟨_, rfl⟩ fun _ hle => absurd hcrossed (not_lt.mpr hle)
              · simp only [if_neg hcrossed]
                have hle := not_lt.mp hcrossed
                have hspread := spreadBps_iff (hbid bid hb) (hask ask ha) hone.1 hle
                constructor
                · rintro ⟨reasons, hreasons⟩ - -
                  simp only [except_bind_eq_ok] at hreasons
                  obtain ⟨s, hs, -⟩ := hreasons
                  exact hspread.mp ⟨s, hs⟩
                · intro h
                  obtain ⟨s, hs⟩ := hspread.mpr (h hone.1 hle)
                  exact ⟨_, by rw [hs]; rfl⟩
          constructor
          · rintro hok last' bid' ask' quotedAt' ⟨⟩ ⟨⟩ ⟨⟩ ⟨⟩
            exact hiff.mp hok
          · intro h
            exact hiff.mpr (h last bid ask quotedAt rfl rfl rfl rfl)

/-- An observation without reasons has an uncrossed quote with positive prices. -/
theorem eligible_quote (h : exclusionReasons o asOf = .ok []) : ∃ last bid ask quotedAt spread,
    o.1.last = some last ∧ o.1.bid = some bid ∧ o.1.ask = some ask ∧
    o.1.quotedAt = some quotedAt ∧ spreadBps bid ask = .ok spread := by
  simp only [exclusionReasons, except_bind_eq_ok, except_pure_eq_ok, List.append_eq_nil_iff] at h
  obtain ⟨quote, hquote, ⟨-, rfl⟩, -⟩ := h
  unfold quotedReasons at hquote
  split at hquote
  · rename_i last bid ask quotedAt hl hb ha hq
    rw [quoteReasons] at hquote
    by_cases hone : bid.toRat ≤ 0 ∨ ask.toRat ≤ 0
    · simp [if_pos hone, except_pure_eq_ok] at hquote
    · simp only [if_neg hone] at hquote
      by_cases hcrossed : ask.toRat < bid.toRat
      · simp [if_pos hcrossed, except_pure_eq_ok] at hquote
      · simp only [if_neg hcrossed, except_bind_eq_ok] at hquote
        obtain ⟨spread, hspread, -⟩ := hquote
        exact ⟨last, bid, ask, quotedAt, spread, hl, hb, ha, hq, hspread⟩
  · cases hquote

/-- An observation without reasons becomes a candidate. -/
theorem exists_candidate (h : exclusionReasons o asOf = .ok []) :
    ∃ c, candidate o = .ok c ∧ c.symbol = o.1.symbol ∧
      c.absoluteMovement = o.1.absoluteMovement := by
  obtain ⟨last, bid, ask, quotedAt, spread, hl, hb, ha, hq, hspread⟩ := eligible_quote h
  simp only [candidate, hl, hb, ha, hq, hspread]
  exact ⟨_, rfl, rfl, rfl⟩

theorem rankKey_iff {c : ScanCandidate}
    (hmovement : ∀ d, c.absoluteMovement = some d → d.isFinite = true ∧ 0 ≤ d.toRat) :
    (∃ key, rankKey c asOf = .ok key) ↔
      ∀ d, c.absoluteMovement = some d → d.toRat < Decimal.overflowLimit := by
  simp only [rankKey, except_bind_eq_ok, except_pure_eq_ok]
  cases hc : c.absoluteMovement with
  | none => simp [rankedMovement]
  | some d =>
    obtain ⟨hfinite, hnonneg⟩ := hmovement d hc
    have hiff : (∃ m, Decimal.negated d = .ok m) ↔ d.toRat < Decimal.overflowLimit := by
      cases d with
      | finite n k e =>
        have habs : |(Decimal.finite (k != 0 && !n) k e).toRat| = |(Decimal.finite n k e).toRat| := by
          rw [Decimal.abs_toRat_finite, Decimal.abs_toRat_finite]
        rw [Decimal.negated, exists_result_iff rfl, habs, abs_of_nonneg hnonneg]
      | _ => cases hfinite
    constructor
    · rintro ⟨key, m, hm, -⟩ d' ⟨⟩
      exact hiff.mp ⟨m, hm⟩
    · intro h
      obtain ⟨m, hm⟩ := hiff.mpr (h d rfl)
      exact ⟨_, m, hm, rfl⟩

end Observation

/-! ### The scan as a whole -/

inductive Classified (asOf : DateTime) :
    List UniverseObservation → List ScanCandidate → List ScanRejection → Prop where
  | nil : Classified asOf [] [] []
  | candidate {o : UniverseObservation} {c : ScanCandidate} {os : List UniverseObservation}
      {cs : List ScanCandidate} {rs : List ScanRejection}
      (hreasons : exclusionReasons o asOf = .ok []) (hc : candidate o = .ok c)
      (rest : Classified asOf os cs rs) : Classified asOf (o :: os) (c :: cs) rs
  | rejection {o : UniverseObservation} {reasons : List ScanExclusionReason}
      {os : List UniverseObservation} {cs : List ScanCandidate} {rs : List ScanRejection}
      (hreasons : exclusionReasons o asOf = .ok reasons) (hne : reasons ≠ [])
      (rest : Classified asOf os cs rs) :
      Classified asOf (o :: os) cs (⟨o.1.symbol, reasons⟩ :: rs)

section Scan

variable {asOf : DateTime} {os os' : List UniverseObservation} {cs cs' : List ScanCandidate}
  {rs rs' : List ScanRejection}

theorem classify_eq_ok : classify asOf os = .ok (cs, rs) ↔ Classified asOf os cs rs := by
  constructor
  · intro h
    induction os generalizing cs rs with
    | nil =>
      cases h
      exact .nil
    | cons o rest ih =>
      rw [classify] at h
      simp only [except_bind_eq_ok, arithmetic_eq_ok] at h
      obtain ⟨reasons, hreasons, h⟩ := h
      split_ifs at h with hnil
      · simp only [except_bind_eq_ok, except_pure_eq_ok] at h
        obtain ⟨c, hc, ⟨cs', rs'⟩, hrest, h⟩ := h
        cases h
        exact .candidate (hnil ▸ hreasons) hc (ih hrest)
      · simp only [except_bind_eq_ok, except_pure_eq_ok] at h
        obtain ⟨⟨cs', rs'⟩, hrest, h⟩ := h
        cases h
        exact .rejection hreasons hnil (ih hrest)
  · intro h
    induction h with
    | nil => rfl
    | candidate hreasons hc _ ih =>
      rw [classify]
      simp only [except_bind_eq_ok, arithmetic_eq_ok]
      refine ⟨[], hreasons, ?_⟩
      rw [if_pos rfl, hc, ih]
      rfl
    | rejection hreasons hne _ ih =>
      rw [classify]
      simp only [except_bind_eq_ok, arithmetic_eq_ok]
      refine ⟨_, hreasons, ?_⟩
      rw [if_neg hne, ih]
      rfl

/-- The observations are classified exactly if their spreads are computed. -/
theorem exists_classified : (∃ cs rs, Classified asOf os cs rs) ↔
    ∀ o ∈ os, ∃ reasons, exclusionReasons o asOf = .ok reasons := by
  constructor
  · rintro ⟨cs, rs, h⟩
    induction h with
    | nil => simp
    | candidate hreasons _ _ ih =>
      intro o ho
      rcases List.mem_cons.mp ho with rfl | ho
      · exact ⟨[], hreasons⟩
      · exact ih o ho
    | rejection hreasons _ _ ih =>
      intro o ho
      rcases List.mem_cons.mp ho with rfl | ho
      · exact ⟨_, hreasons⟩
      · exact ih o ho
  · intro h
    induction os with
    | nil => exact ⟨[], [], .nil⟩
    | cons o rest ih =>
      obtain ⟨reasons, hreasons⟩ := h o List.mem_cons_self
      obtain ⟨cs, rs, hrest⟩ := ih fun o' ho' => h o' (List.mem_cons_of_mem o ho')
      by_cases hnil : reasons = []
      · rw [hnil] at hreasons
        obtain ⟨c, hc, -⟩ := exists_candidate hreasons
        exact ⟨c :: cs, rs, .candidate hreasons hc hrest⟩
      · exact ⟨cs, _, .rejection hreasons hnil hrest⟩

/-- The classification of a permutation is a permutation. -/
theorem Classified.perm (h : Classified asOf os cs rs) (hperm : os.Perm os') :
    ∃ cs' rs', Classified asOf os' cs' rs' ∧ cs.Perm cs' ∧ rs.Perm rs' := by
  induction hperm generalizing cs rs with
  | nil => exact ⟨cs, rs, h, .refl _, .refl _⟩
  | cons o _ ih =>
    cases h with
    | candidate hreasons hc rest =>
      obtain ⟨cs', rs', hrest, hcs, hrs⟩ := ih rest
      exact ⟨_, _, .candidate hreasons hc hrest, hcs.cons _, hrs⟩
    | rejection hreasons hne rest =>
      obtain ⟨cs', rs', hrest, hcs, hrs⟩ := ih rest
      exact ⟨_, _, .rejection hreasons hne hrest, hcs, hrs.cons _⟩
  | swap o o' l =>
    cases h with
    | candidate hreasons hc rest =>
      cases rest with
      | candidate hreasons' hc' rest =>
        exact ⟨_, _, .candidate hreasons' hc' (.candidate hreasons hc rest), .swap _ _ _, .refl _⟩
      | rejection hreasons' hne' rest =>
        exact ⟨_, _, .rejection hreasons' hne' (.candidate hreasons hc rest), .refl _, .refl _⟩
    | rejection hreasons hne rest =>
      cases rest with
      | candidate hreasons' hc' rest =>
        exact ⟨_, _, .candidate hreasons' hc' (.rejection hreasons hne rest), .refl _, .refl _⟩
      | rejection hreasons' hne' rest =>
        exact ⟨_, _, .rejection hreasons' hne' (.rejection hreasons hne rest), .refl _,
          .swap _ _ _⟩
  | trans _ _ ih ih' =>
    obtain ⟨cs₁, rs₁, h₁, hcs₁, hrs₁⟩ := ih h
    obtain ⟨cs₂, rs₂, h₂, hcs₂, hrs₂⟩ := ih' h₁
    exact ⟨cs₂, rs₂, h₂, hcs₁.trans hcs₂, hrs₁.trans hrs₂⟩

/-- Each symbol is a candidate's or a rejection's. -/
theorem Classified.symbols (h : Classified asOf os cs rs) :
    (cs.map (·.symbol) ++ rs.map (·.symbol)).Perm (os.map (·.1.symbol)) := by
  induction h with
  | nil => exact .refl _
  | candidate hreasons hc _ ih =>
    obtain ⟨c', hc', hsymbol, -⟩ := exists_candidate hreasons
    rw [hc] at hc'
    cases hc'
    rw [List.map_cons, List.map_cons, List.cons_append, hsymbol]
    exact ih.cons _
  | rejection _ _ _ ih =>
    rw [List.map_cons, List.map_cons]
    exact List.perm_middle.trans (ih.cons _)

theorem Classified.mem_candidate (h : Classified asOf os cs rs) {c : ScanCandidate} (hc : c ∈ cs) :
    ∃ o ∈ os, exclusionReasons o asOf = .ok [] ∧ c.absoluteMovement = o.1.absoluteMovement := by
  induction h with
  | nil => cases hc
  | @candidate o c' os cs rs hreasons hok _ ih =>
    rcases List.mem_cons.mp hc with rfl | hc
    · obtain ⟨c', hc', -, hmovement⟩ := exists_candidate hreasons
      rw [hok] at hc'
      cases hc'
      exact ⟨o, List.mem_cons_self, hreasons, hmovement⟩
    · obtain ⟨o', ho', hrest⟩ := ih hc
      exact ⟨o', List.mem_cons_of_mem o ho', hrest⟩
  | rejection _ _ _ ih =>
    obtain ⟨o', ho', hrest⟩ := ih hc
    exact ⟨o', List.mem_cons_of_mem _ ho', hrest⟩

/-- An observation without reasons leaves a candidate with its movement. -/
theorem Classified.exists_mem (h : Classified asOf os cs rs) {o : UniverseObservation} (ho : o ∈ os)
    (hreasons : exclusionReasons o asOf = .ok []) :
    ∃ c ∈ cs, c.absoluteMovement = o.1.absoluteMovement := by
  induction h with
  | nil => cases ho
  | candidate hreasons' hok _ ih =>
    rcases List.mem_cons.mp ho with rfl | ho
    · obtain ⟨c', hc', -, hmovement⟩ := exists_candidate hreasons
      rw [hok] at hc'
      cases hc'
      exact ⟨_, List.mem_cons_self, hmovement⟩
    · obtain ⟨c, hc, hmovement⟩ := ih ho
      exact ⟨c, List.mem_cons_of_mem _ hc, hmovement⟩
  | rejection hreasons' hne _ ih =>
    rcases List.mem_cons.mp ho with rfl | ho
    · rw [hreasons] at hreasons'
      cases hreasons'
      exact absurd rfl hne
    · exact ih ho

end Scan

/-! ### The order of the candidates -/

theorem validateSymbols_eq_ok {seen : List String} {index : Nat} {os : List UniverseObservation}
    {u : Unit} : validateSymbols seen index os = .ok u ↔
      (os.map (·.1.symbol)).Nodup ∧ ∀ o ∈ os, o.1.symbol ∉ seen := by
  induction os generalizing seen index with
  | nil => simp [validateSymbols]
  | cons o rest ih =>
    rw [validateSymbols]
    simp only [except_bind_eq_ok, throwIf_eq_ok, exists_const, ih, List.map_cons, List.nodup_cons,
      forall_eq_or_imp, List.mem_cons, not_or, List.mem_map, not_exists, not_and]
    constructor
    · rintro ⟨ho, hnodup, hseen⟩
      exact ⟨⟨fun o' ho' => (hseen o' ho').1, hnodup⟩, ho, fun o' ho' => (hseen o' ho').2⟩
    · rintro ⟨⟨hother, hnodup⟩, ho, hseen⟩
      exact ⟨ho, hnodup, fun o' ho' => ⟨hother o' ho', hseen o' ho'⟩⟩

def symbolOf (key : RankKey) : String :=
  (ofLex (ofLex (ofLex (ofLex (ofLex (ofLex (ofLex (ofLex key).2).2).2).2).2).2).2).2

theorem symbolOf_rankKey {c : ScanCandidate} {asOf : DateTime} {key : RankKey}
    (h : rankKey c asOf = .ok key) : symbolOf key = c.symbol := by
  simp only [rankKey, except_bind_eq_ok, except_pure_eq_ok] at h
  obtain ⟨movement, -, rfl⟩ := h
  rfl

theorem keyed_eq_ok {asOf : DateTime} {cs : List ScanCandidate}
    {ks : List (ScanCandidate × RankKey)} : keyed asOf cs = .ok ks ↔
      ks.map (·.1) = cs ∧ ∀ k ∈ ks, rankKey k.1 asOf = .ok k.2 := by
  induction cs generalizing ks with
  | nil =>
    rw [keyed]
    constructor
    · rintro ⟨⟩
      simp
    · rintro ⟨h, -⟩
      rw [List.map_eq_nil_iff.mp h]
  | cons c rest ih =>
    rw [keyed]
    simp only [except_bind_eq_ok, except_pure_eq_ok]
    constructor
    · rintro ⟨key, hkey, others, hothers, rfl⟩
      obtain ⟨hmap, hall⟩ := ih.mp hothers
      refine ⟨by rw [List.map_cons, hmap], ?_⟩
      intro k hk
      rcases List.mem_cons.mp hk with rfl | hk
      · exact hkey
      · exact hall k hk
    · rintro ⟨hmap, hall⟩
      obtain ⟨k, others, rfl, hk, hothers⟩ := List.map_eq_cons_iff.mp hmap
      refine ⟨k.2, ?_, others, ih.mpr ⟨hothers, ?_⟩, ?_⟩
      · rw [← hk]
        exact hall k List.mem_cons_self
      · exact fun k' hk' => hall k' (List.mem_cons_of_mem k hk')
      · rw [← hk]

theorem exists_keyed {asOf : DateTime} {cs : List ScanCandidate} :
    (∃ ks, keyed asOf cs = .ok ks) ↔ ∀ c ∈ cs, ∃ key, rankKey c asOf = .ok key := by
  constructor
  · rintro ⟨ks, hks⟩ c hc
    obtain ⟨hmap, hall⟩ := keyed_eq_ok.mp hks
    rw [← hmap] at hc
    obtain ⟨k, hk, rfl⟩ := List.mem_map.mp hc
    exact ⟨k.2, hall k hk⟩
  · intro h
    induction cs with
    | nil => exact ⟨[], rfl⟩
    | cons c rest ih =>
      obtain ⟨key, hkey⟩ := h c List.mem_cons_self
      obtain ⟨ks, hks⟩ := ih fun c' hc' => h c' (List.mem_cons_of_mem c hc')
      refine ⟨(c, key) :: ks, ?_⟩
      rw [keyed, hkey, hks]
      rfl

def ranked (ks : List (ScanCandidate × RankKey)) : List (ScanCandidate × RankKey) :=
  ks.mergeSort fun a b => decide (a.2 ≤ b.2)

theorem pairwise_ranked (ks : List (ScanCandidate × RankKey)) :
    (ranked ks).Pairwise fun a b => a.2 ≤ b.2 := by
  have hsorted : (ranked ks).Pairwise fun a b => decide (a.2 ≤ b.2) = true := by
    apply List.pairwise_mergeSort
    · intro a b c hab hbc
      exact decide_eq_true (le_trans (of_decide_eq_true hab) (of_decide_eq_true hbc))
    · intro a b
      simpa using le_total a.2 b.2
  exact hsorted.imp of_decide_eq_true

section Ranking

variable {asOf : DateTime} {cs cs' : List ScanCandidate} {ks ks' : List (ScanCandidate × RankKey)}

theorem keys_injective (hkeys : keyed asOf cs = .ok ks) (hsymbols : (cs.map (·.symbol)).Nodup)
    {a b : ScanCandidate × RankKey} (ha : a ∈ ks) (hb : b ∈ ks) (h : a.2 = b.2) : a = b := by
  obtain ⟨hmap, hall⟩ := keyed_eq_ok.mp hkeys
  rw [← hmap, List.map_map] at hsymbols
  refine List.inj_on_of_nodup_map hsymbols ha hb ?_
  show a.1.symbol = b.1.symbol
  rw [← symbolOf_rankKey (hall a ha), ← symbolOf_rankKey (hall b hb), h]

/-- The key is total: the candidates are in strict order. -/
theorem ranked_strict (hkeys : keyed asOf cs = .ok ks) (hsymbols : (cs.map (·.symbol)).Nodup) :
    ((ranked ks).map (·.1)).Pairwise fun a b => ∃ ka kb, rankKey a asOf = .ok ka ∧
      rankKey b asOf = .ok kb ∧ ka < kb := by
  obtain ⟨hmap, hall⟩ := keyed_eq_ok.mp hkeys
  have hnodup : ks.Nodup := by
    rw [← hmap, List.map_map] at hsymbols
    exact hsymbols.of_map
  have hnodup' : (ranked ks).Nodup := (List.mergeSort_perm ks _).nodup_iff.mpr hnodup
  rw [List.pairwise_map]
  refine ((pairwise_ranked ks).and hnodup').imp_of_mem ?_
  rintro a b ha hb ⟨hle, hne⟩
  have ha' := List.mem_mergeSort.mp ha
  have hb' := List.mem_mergeSort.mp hb
  refine ⟨a.2, b.2, hall a ha', hall b hb', lt_of_le_of_ne hle ?_⟩
  intro heq
  exact hne (keys_injective hkeys hsymbols ha' hb' heq)

/-- The order of the candidates does not matter. -/
theorem ranked_perm (hkeys : keyed asOf cs = .ok ks) (hkeys' : keyed asOf cs' = .ok ks')
    (hsymbols : (cs.map (·.symbol)).Nodup) (hperm : cs.Perm cs') : ranked ks = ranked ks' := by
  obtain ⟨hmap, hall⟩ := keyed_eq_ok.mp hkeys
  obtain ⟨hmap', hall'⟩ := keyed_eq_ok.mp hkeys'
  have hksPerm : ks.Perm ks' := by
    have hinjective : Function.Injective
        fun k : ScanCandidate × RankKey => (k.1, some k.2) := by
      rintro ⟨c, k⟩ ⟨c', k'⟩ h
      simpa using h
    have hmapped : ∀ {ks : List (ScanCandidate × RankKey)},
        (∀ k ∈ ks, rankKey k.1 asOf = .ok k.2) → ks.map (fun k => (k.1, some k.2)) =
        (ks.map (·.1)).map fun c => (c, (rankKey c asOf).toOption) := by
      intro ks hall
      rw [List.map_map]
      refine List.map_congr_left fun k hk => ?_
      show (k.1, some k.2) = (k.1, (rankKey k.1 asOf).toOption)
      rw [hall k hk]
      rfl
    rw [← List.map_perm_map_iff hinjective, hmapped hall, hmapped hall', hmap, hmap']
    exact hperm.map _
  have hrankedPerm : (ranked ks).Perm (ranked ks') :=
    (List.mergeSort_perm ks _).trans (hksPerm.trans (List.mergeSort_perm ks' _).symm)
  refine hrankedPerm.eq_of_pairwise ?_ (pairwise_ranked ks) (pairwise_ranked ks')
  intro a b ha hb hab hba
  refine keys_injective hkeys hsymbols (List.mem_mergeSort.mp ha) ?_ (le_antisymm hab hba)
  exact hksPerm.mem_iff.mpr (List.mem_mergeSort.mp hb)

end Ranking

def bySymbol (rs : List ScanRejection) : List ScanRejection :=
  rs.mergeSort fun a b => decide (a.symbol ≤ b.symbol)

theorem bySymbol_perm {rs rs' : List ScanRejection} (hsymbols : (rs.map (·.symbol)).Nodup)
    (hperm : rs.Perm rs') : bySymbol rs = bySymbol rs' := by
  have hsorted : ∀ l : List ScanRejection,
      (bySymbol l).Pairwise fun a b => decide (a.symbol ≤ b.symbol) = true := by
    intro l
    apply List.pairwise_mergeSort
    · intro a b c hab hbc
      exact decide_eq_true (le_trans (of_decide_eq_true hab) (of_decide_eq_true hbc))
    · intro a b
      simpa using le_total a.symbol b.symbol
  have hsortedPerm : (bySymbol rs).Perm (bySymbol rs') :=
    (List.mergeSort_perm rs _).trans (hperm.trans (List.mergeSort_perm rs' _).symm)
  refine hsortedPerm.eq_of_pairwise ?_ (hsorted rs) (hsorted rs')
  intro a b ha hb hab hba
  have hsymbol : a.symbol = b.symbol :=
    le_antisymm (of_decide_eq_true hab) (of_decide_eq_true hba)
  exact List.inj_on_of_nodup_map hsymbols (List.mem_mergeSort.mp ha)
    (hperm.mem_iff.mpr (List.mem_mergeSort.mp hb)) hsymbol

/-! ### What the scan returns -/

section Result

variable {asOf : DateTime} {os os' : List UniverseObservation} {result : UniverseScanResult}

theorem scanUniverse_eq_ok : scanUniverse os asOf = .ok result ↔
    timestamp asOf "as_of" = .ok () ∧ (os.map (·.1.symbol)).Nodup ∧
    ∃ cs rs ks, Classified asOf os cs rs ∧ keyed asOf cs = .ok ks ∧
      result = ⟨asOf, (ranked ks).map (·.1), bySymbol rs⟩ := by
  simp only [scanUniverse, except_bind_eq_ok, contract_eq_ok, arithmetic_eq_ok, except_pure_eq_ok,
    exists_const, validateSymbols_eq_ok, List.not_mem_nil, not_false_eq_true, implies_true,
    and_true, Prod.exists, classify_eq_ok]
  constructor
  · rintro ⟨_, htime, hnodup, cs, rs, hclassified, ks, hks, rfl⟩
    exact ⟨htime, hnodup, cs, rs, ks, hclassified, hks, rfl⟩
  · rintro ⟨htime, hnodup, cs, rs, ks, hclassified, hks, rfl⟩
    exact ⟨(), htime, hnodup, cs, rs, hclassified, ks, hks, rfl⟩

/-- What the claim of a scan is: a ranked partition of the observed symbols that every order of the
observations gives. -/
structure ScanSpec (os : List UniverseObservation) (asOf : DateTime)
    (result : UniverseScanResult) : Prop where
  partition : (result.candidates.map (·.symbol) ++ result.rejections.map (·.symbol)).Perm
    (os.map (·.1.symbol))
  ranked : result.candidates.Pairwise fun a b => ∃ ka kb, rankKey a asOf = .ok ka ∧
    rankKey b asOf = .ok kb ∧ ka < kb
  orderFree : ∀ os', os.Perm os' → scanUniverse os' asOf = .ok result

/-- The scan computes everything exactly if all observations are in range. -/
theorem computes_iff : (∃ cs rs ks, Classified asOf os cs rs ∧ keyed asOf cs = .ok ks) ↔
    ∀ o ∈ os, InRange asOf o := by
  constructor
  · rintro ⟨cs, rs, ks, hclassified, hks⟩ o ho
    have hreasons := exists_classified.mp ⟨cs, rs, hclassified⟩ o ho
    refine ⟨exclusionReasons_iff.mp hreasons, ?_⟩
    intro movement hmovement hnil
    obtain ⟨c, hc, hsame⟩ := hclassified.exists_mem ho hnil
    obtain ⟨-, -, hfinite⟩ := observation_finite o
    refine (rankKey_iff ?_).mp (exists_keyed.mp ⟨ks, hks⟩ c hc) movement (hsame.trans hmovement)
    rw [hsame]
    exact hfinite
  · intro h
    obtain ⟨cs, rs, hclassified⟩ :=
      exists_classified.mpr fun o ho => exclusionReasons_iff.mpr (h o ho).spread
    have hkeys : ∀ c ∈ cs, ∃ key, rankKey c asOf = .ok key := by
      intro c hc
      obtain ⟨o, ho, hnil, hsame⟩ := hclassified.mem_candidate hc
      obtain ⟨-, -, hfinite⟩ := observation_finite o
      refine (rankKey_iff ?_).mpr ?_
      · rw [hsame]
        exact hfinite
      · intro d hd
        exact (h o ho).movement d (hsame ▸ hd) hnil
    obtain ⟨ks, hks⟩ := exists_keyed.mpr hkeys
    exact ⟨cs, rs, ks, hclassified, hks⟩

theorem scanSpec_of_ok (h : scanUniverse os asOf = .ok result) : ScanSpec os asOf result := by
  obtain ⟨htime, hnodup, cs, rs, ks, hclassified, hks, rfl⟩ := scanUniverse_eq_ok.mp h
  obtain ⟨hmap, -⟩ := keyed_eq_ok.mp hks
  have hsymbols := hclassified.symbols
  have hboth : (cs.map (·.symbol) ++ rs.map (·.symbol)).Nodup := hsymbols.nodup_iff.mpr hnodup
  obtain ⟨hcs, hrs, -⟩ := List.nodup_append.mp hboth
  refine ⟨?_, ranked_strict hks hcs, ?_⟩
  · refine List.Perm.trans ?_ hsymbols
    have hcandidates : ((ranked ks).map (·.1)).Perm cs := by
      rw [← hmap]
      exact (List.mergeSort_perm ks _).map _
    exact (hcandidates.map _).append ((List.mergeSort_perm rs _).map _)
  · intro os' hperm
    obtain ⟨cs', rs', hclassified', hcsPerm, hrsPerm⟩ := hclassified.perm hperm
    have hkeys' : ∀ c ∈ cs', ∃ key, rankKey c asOf = .ok key :=
      fun c hc => exists_keyed.mp ⟨ks, hks⟩ c (hcsPerm.mem_iff.mpr hc)
    obtain ⟨ks', hks'⟩ := exists_keyed.mpr hkeys'
    refine scanUniverse_eq_ok.mpr
      ⟨htime, (hperm.map _).nodup_iff.mp hnodup, cs', rs', ks', hclassified', hks', ?_⟩
    rw [ranked_perm hks hks' hcs hcsPerm, bySymbol_perm hrs hrsPerm]

/-- The scan returns a ranked partition of the observed symbols exactly if no observation is out of
the range of the decimal context. -/
theorem scanUniverse_iff (os : List UniverseObservation) (asOf : DateTime)
    (htime : timestamp asOf "as_of" = .ok ()) (hunique : (os.map (·.1.symbol)).Nodup) :
    (∃ result, scanUniverse os asOf = .ok result ∧ ScanSpec os asOf result) ↔
      ∀ o ∈ os, InRange asOf o := by
  rw [← computes_iff]
  constructor
  · rintro ⟨result, h, -⟩
    obtain ⟨-, -, cs, rs, ks, hclassified, hks, -⟩ := scanUniverse_eq_ok.mp h
    exact ⟨cs, rs, ks, hclassified, hks⟩
  · rintro ⟨cs, rs, ks, hclassified, hks⟩
    have h := scanUniverse_eq_ok.mpr ⟨htime, hunique, cs, rs, ks, hclassified, hks, rfl⟩
    exact ⟨_, h, scanSpec_of_ok h⟩

end Result

/-! ### Two quotes -/

def observedFields (price : Decimal) : UniverseObservationFields where
  symbol := "SPY"
  productKind := .usExchangeTradedProduct
  lane := .marketAnchor
  active := true
  tradable := true
  last := some price
  bid := some price
  ask := some price
  quotedAt := some (.utc 0)
  observedAt := .utc 0
  optionContractsActive := 20
  optionPageComplete := true
  newsRecords := 0
  newsPageComplete := true
  ivAvailable := none
  greeksAvailable := none
  activityRank := none
  absoluteMovement := none

def observed : UniverseObservation := ⟨observedFields (.ofNat 500), by decide +kernel⟩

def hugePrice : Decimal := .finite false 9 999999

def observedHuge : UniverseObservation := ⟨observedFields hugePrice, by decide +kernel⟩

theorem scanUniverse_iff_observed : ∃ result,
    scanUniverse [observed] (.utc 0) = .ok result ∧ ScanSpec [observed] (.utc 0) result := by
  refine (scanUniverse_iff [observed] (.utc 0) (by decide) (by simp)).mpr ?_
  intro o ho
  rw [List.mem_singleton.mp ho]
  have hprice : (Decimal.ofNat 500).toRat = 500 := by
    rw [Decimal.toRat_ofNat]
    norm_num
  refine ⟨?_, ?_⟩
  · rintro last bid ask quotedAt ⟨⟩ ⟨⟩ ⟨⟩ ⟨⟩ - -
    refine ⟨?_, ?_, ?_⟩
    · rw [hprice]
      exact Decimal.lt_overflowLimit (by norm_num)
    · have htiny : (10 : ℚ) ^ Decimal.etiny ≤ 1 :=
        zpow_le_one_of_nonpos₀ (by norm_num) (by decide)
      rw [hprice]
      linarith
    · intro d hd
      have hzero : (Decimal.sum (.ofNat 500) (Decimal.ofNat 500).copyNegate).toRat = 0 := by
        rw [Decimal.toRat_sum rfl rfl, Decimal.toRat_copyNegate]
        ring
      obtain ⟨-, hdouble, -⟩ := result_double rfl hd
      rw [hzero, abs_zero, mul_zero] at hdouble
      have hle := (le_abs_self d.toRat).trans hdouble
      exact Decimal.lt_overflowLimit (by linarith)
  · rintro movement ⟨⟩

/-- The sum of two huge prices overflows. -/
theorem scanUniverse_huge : ¬ ∃ result, scanUniverse [observedHuge] (.utc 0) = .ok result := by
  rintro ⟨result, h⟩
  obtain ⟨-, -, cs, rs, ks, hclassified, hks, -⟩ := scanUniverse_eq_ok.mp h
  have hrange := computes_iff.mp ⟨cs, rs, ks, hclassified, hks⟩ observedHuge (by simp)
  have hprice : hugePrice.toRat = 9 * (10 : ℚ) ^ (999999 : Int) := by
    rw [hugePrice, Decimal.toRat_finite]
    simp
  have hpos := Decimal.ten_zpow_pos 999999
  have hspread := hrange.spread hugePrice hugePrice hugePrice (.utc 0) rfl rfl rfl rfl
    (hprice ▸ mul_pos (by norm_num) hpos) le_rfl
  have hsum := hspread.sum
  have hlimit : Decimal.overflowLimit ≤ 10 ^ 28 * (10 : ℚ) ^ Decimal.etop :=
    mul_le_mul_of_nonneg_right (by norm_num [Decimal.precision]) (Decimal.ten_zpow_pos _).le
  have hsplit : (10 : ℚ) ^ (999999 : Int) = 10 ^ 27 * (10 : ℚ) ^ Decimal.etop := by
    have hexponent : (999999 : Int) = (27 : Nat) + Decimal.etop := by decide
    rw [hexponent, zpow_add₀ (by norm_num), zpow_natCast]
  have htop := Decimal.ten_zpow_pos Decimal.etop
  rw [hprice, hsplit] at hsum
  obtain ⟨unit, hunit⟩ : ∃ unit, (10 : ℚ) ^ Decimal.etop = unit := ⟨_, rfl⟩
  rw [hunit] at hsum hlimit htop
  linarith

end EsscherMarket.Autonomy
