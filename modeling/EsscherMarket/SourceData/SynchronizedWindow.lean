import EsscherMarket.Lib.OrderStatistics
import EsscherMarket.Lib.Rounding
import EsscherMarket.SourceData.Windows

/-!
# Synchronized observation windows

`build_synchronized_window` aligns the windows of all required symbols.  The age of a quote is
computed in double precision and cut off to milliseconds before it is compared.
-/

namespace EsscherMarket.SourceData

open Lib Lib.Decimal

/-! ### The age of a quote -/

def toDouble (x : ℚ) : ℚ := roundDigits 2 53 x

/-- `timedelta.total_seconds()`. -/
def totalSeconds (micros : Int) : ℚ := toDouble (micros / 1000000)

/-- `int(age.total_seconds() * 1000)` of an age that is not negative. -/
def ageMs (micros : Int) : Int := ⌊toDouble (totalSeconds micros * 1000)⌋

def quoteAgeMaxMilliseconds : Int := 1000

theorem toDouble_mono {x y : ℚ} (hx : 0 < x) (h : x ≤ y) : toDouble x ≤ toDouble y :=
  roundDigits_mono (by decide) (by decide) hx h

theorem totalSeconds_pos {n : Int} (h : 0 < n) : 0 < totalSeconds n := by
  have hn : (0 : ℚ) < n := by exact_mod_cast h
  exact roundDigits_pos (by decide) (by decide) (by positivity)

theorem ageMs_mono {m n : Int} (hm : 0 < m) (h : m ≤ n) : ageMs m ≤ ageMs n := by
  have hle : (m : ℚ) ≤ n := by exact_mod_cast h
  have hpos : (0 : ℚ) < m := by exact_mod_cast hm
  have hseconds : totalSeconds m ≤ totalSeconds n :=
    toDouble_mono (by positivity) (div_le_div_of_nonneg_right hle (by norm_num))
  refine Int.floor_le_floor (toDouble_mono ?_ ?_)
  · exact mul_pos (totalSeconds_pos hm) (by norm_num)
  · exact mul_le_mul_of_nonneg_right hseconds (by norm_num)

/-- A number of fifty-three binary digits before the unit `2 ^ e`. -/
theorem toDouble_eq {x : ℚ} {m : Int} (e : Int) (hlow : 2 ^ 52 * 2 ^ e ≤ x)
    (hhigh : x < 2 ^ 53 * 2 ^ e) (h : |x / 2 ^ e - m| < 1 / 2) : toDouble x = m * 2 ^ e := by
  have hround := @roundDigits_eq 2 53 x (by decide) (by decide) e (by push_cast; exact hlow)
    (by push_cast; exact hhigh)
  push_cast at hround
  rw [toDouble, hround, halfEven_eq_of_lt h]

theorem ageMs_1001000 : ageMs 1001000 = 1000 := by
  have hseconds : totalSeconds 1001000 = (4508103226997866 : Int) * 2 ^ (-52 : Int) := by
    refine toDouble_eq (-52) ?_ ?_ ?_ <;> norm_num [abs_lt]
  have hproduct : toDouble (totalSeconds 1001000 * 1000) =
      (8804889115230207 : Int) * 2 ^ (-43 : Int) := by
    rw [hseconds]
    refine toDouble_eq (-43) ?_ ?_ ?_ <;> norm_num [abs_lt]
  rw [ageMs, hproduct]
  norm_num

theorem ageMs_1001001 : 1001 ≤ ageMs 1001001 := by
  have hseconds : totalSeconds 1001001 = (4508107730597494 : Int) * 2 ^ (-52 : Int) := by
    refine toDouble_eq (-52) ?_ ?_ ?_ <;> norm_num [abs_lt]
  have hproduct : toDouble (totalSeconds 1001001 * 1000) =
      (8804897911323230 : Int) * 2 ^ (-43 : Int) := by
    rw [hseconds]
    refine toDouble_eq (-43) ?_ ?_ ?_ <;> norm_num [abs_lt]
  rw [ageMs, hproduct]
  norm_num

/-- Ages of up to 1001 milliseconds pass. -/
theorem ageMs_le_iff {n : Int} (hn : 0 ≤ n) : ageMs n ≤ quoteAgeMaxMilliseconds ↔ n ≤ 1001000 := by
  rw [quoteAgeMaxMilliseconds]
  constructor
  · intro h
    by_contra hgt
    have hmono := ageMs_mono (by decide) (by omega : (1001001 : Int) ≤ n)
    have hlarge := ageMs_1001001
    omega
  · intro h
    rcases eq_or_lt_of_le hn with rfl | hpos
    · have hzero : toDouble 0 = 0 := by
        rw [toDouble, roundDigits, zero_div]
        norm_num [halfEven]
      rw [ageMs, totalSeconds, Int.cast_zero, zero_div, hzero, zero_mul, hzero]
      decide
    · have hmono := ageMs_mono hpos h
      rwa [ageMs_1001000] at hmono

/-! ### Building the windows -/

/-- One consolidated NBBO quote sample with its raw observation time. -/
structure QuoteSample where
  symbol : String
  sessionId : String
  observedAt : Instant
  bid : Decimal
  ask : Decimal
  prices : 0 < bid.toRat ∧ bid.toRat ≤ ask.toRat

/-- Aligned opening-window observations for every required symbol. -/
structure SynchronizedWindow where
  sessionId : String
  windowStartAt : Instant
  windowEndAt : Instant
  symbols : List SymbolWindow
  quoteAgeMs : List (String × Int)

def endpointSkewMax : Int := 5000000

/-- `sorted(set(symbols))`. -/
def requiredSymbols (symbols : List String) : List String := symbols.dedup.insertionSort (· ≤ ·)

def quoteSamples (quotes : List QuoteSample) (symbol : String) (windowEndAt : Instant) :
    List QuoteSample :=
  quotes.filter fun quote => quote.symbol == symbol && decide (quote.observedAt ≤ windowEndAt)

def quoteAge (quotes : List QuoteSample) (symbol : String) (windowEndAt : Instant)
    (requireQuotes : Bool) : Except CollectorError (Option (String × Int)) :=
  match (quoteSamples quotes symbol windowEndAt).argmax fun quote => (quote.observedAt : ℚ) with
  | none => do
    throwIf (requireQuotes = true) (reject .marketObservationMissing s!"window.{symbol}.quotes"
      "no quote samples were observed")
    return none
  | some latest => do
    let age := ageMs (windowEndAt - latest.observedAt)
    throwIf (quoteAgeMaxMilliseconds < age) (reject .marketObservationStale
      s!"window.{symbol}.quote_age" s!"quote age {age}ms exceeds the frozen bound")
    return some (symbol, age)

/-- The greatest distance of two end points. -/
def endpointSkew (endpoints : List Instant) : Int :=
  (endpoints.max?.getD 0) - (endpoints.min?.getD 0)

def buildSynchronizedWindow (tradesBySymbol : String → List Trade)
    (quotesBySymbol : String → List QuoteSample) (sessionId : String) (symbols : List String)
    (windowStartAt windowEndAt : Instant) (requireQuotes : Bool) :
    Except CollectorError SynchronizedWindow := do
  throwIf (symbols = []) (reject .unsupportedInput "window.symbols" "symbols must not be empty")
  let windows ← (requiredSymbols symbols).mapM fun symbol =>
    buildSymbolWindow symbol (tradesBySymbol symbol) windowStartAt windowEndAt
  let skew := endpointSkew (windows.map SymbolWindow.lastObservedAt)
  throwIf (endpointSkewMax < skew) (reject .marketObservationAsynchronous "window.endpoints"
    s!"cross-instrument endpoint skew {halfEven (totalSeconds skew)}s exceeds the bound")
  let ages ← (requiredSymbols symbols).mapM fun symbol =>
    quoteAge (quotesBySymbol symbol) symbol windowEndAt requireQuotes
  let quoteAgeMs := ages.filterMap id
  throwIf (requireQuotes = true ∧ quoteAgeMs.map Prod.fst ≠ requiredSymbols symbols)
    (reject .marketObservationMissing "window.quotes"
      "quote samples are required for every synchronized symbol")
  return ⟨sessionId, windowStartAt, windowEndAt, windows, quoteAgeMs⟩

/-! ### The volume-weighted price -/

/-- Within `k` roundings of the collector's context, each off by a factor of at most one unit. -/
def Within (k : Nat) (exact value : ℚ) : Prop :=
  exact * (1 - collectorContext.ulp) ^ k ≤ value ∧ value ≤ exact * (1 + collectorContext.ulp) ^ k

theorem ulp_nonneg : 0 ≤ collectorContext.ulp := by
  norm_num [Context.ulp, collectorContext, precisionDigits]

theorem Within.mono {k k' : Nat} {exact value : ℚ} (hexact : 0 ≤ exact) (hle : k ≤ k')
    (h : Within k exact value) : Within k' exact value := by
  have hulp := ulp_collectorContext
  have hnonneg := ulp_nonneg
  refine ⟨le_trans (mul_le_mul_of_nonneg_left ?_ hexact) h.1,
    le_trans h.2 (mul_le_mul_of_nonneg_left ?_ hexact)⟩
  · exact pow_le_pow_of_le_one (by linarith) (by linarith) hle
  · exact pow_le_pow_right₀ (by linarith) hle

theorem Within.add {k : Nat} {x y a b : ℚ} (ha : Within k x a) (hb : Within k y b) :
    Within k (x + y) (a + b) := by
  constructor
  · rw [add_mul]
    exact add_le_add ha.1 hb.1
  · rw [add_mul]
    exact add_le_add ha.2 hb.2

theorem Within.round {k : Nat} {exact value : ℚ} {d : Decimal} (h : Within k exact value)
    (hnear : collectorContext.Near collectorContext.ulp value d) : Within (k + 1) exact d.toRat := by
  have hulp := ulp_collectorContext
  have hnonneg := ulp_nonneg
  constructor
  · rw [pow_succ, ← mul_assoc]
    exact le_trans (mul_le_mul_of_nonneg_right h.1 (by linarith)) hnear.lower
  · rw [pow_succ, ← mul_assoc]
    exact le_trans hnear.upper (mul_le_mul_of_nonneg_right h.2 (by linarith))

def exactNotional (trades : List Trade) : ℚ :=
  (trades.map fun trade => trade.price.toRat * (trade.size : ℚ)).sum

def exactVwap (trades : List Trade) : ℚ := exactNotional trades / volumeOf trades

theorem notional_within (trades : List Trade) {k : Nat} {total : ℚ} {c : Nat} {e : Int}
    (hk : 1 ≤ k) (htotal : 0 ≤ total) (h : Within k total (finite false c e).toRat) :
    ∃ c' e', trades.foldl (fun notional trade => collectorContext.add notional
        (collectorContext.mul trade.price (ofNat trade.size))) (finite false c e) =
          finite false c' e' ∧
      Within (k + trades.length) (total + exactNotional trades) (finite false c' e').toRat := by
  induction trades generalizing k total c e with
  | nil =>
    refine ⟨c, e, rfl, ?_⟩
    rw [exactNotional, List.map_nil, List.sum_nil, add_zero]
    exact h
  | cons trade rest ih =>
    obtain ⟨cp, ep, hprice⟩ := eq_unsigned trade.price_pos
    have hmoney : 0 ≤ trade.price.toRat * trade.size :=
      mul_nonneg trade.price_pos.le (Nat.cast_nonneg _)
    have hmul := Context.mul_near prec_pos cp trade.size ep 0
    rw [← hprice, ← ofNat, toRat_ofNat] at hmul
    obtain ⟨cm, em, hm, -⟩ := hmul.result
    have hexact : Within 0 (trade.price.toRat * trade.size) (trade.price.toRat * trade.size) := by
      rw [Within, pow_zero, pow_zero, mul_one]
      exact ⟨le_rfl, le_rfl⟩
    have hproduct := (hexact.round hmul).mono hmoney hk
    have hadd := Context.add_near prec_pos c cm e em
    obtain ⟨cs, es, hs, -⟩ := hadd.result
    rw [hs, ← hm] at hadd
    have hsum := (h.add hproduct).round hadd
    obtain ⟨c', e', hfold, hwithin⟩ := ih (by omega) (add_nonneg htotal hmoney) hsum
    refine ⟨c', e', ?_, ?_⟩
    · rw [List.foldl_cons, hm, hs]
      exact hfold
    · rw [exactNotional, List.map_cons, List.sum_cons, ← add_assoc, List.length_cons]
      have hlength : k + (rest.length + 1) = k + 1 + rest.length := by omega
      rw [hlength]
      exact hwithin

/-- The price is that of the trades, up to four roundings more than there are trades. -/
theorem vwap_within {trades : List Trade} (hvolume : 0 < volumeOf trades) :
    Within (trades.length + 4) (exactVwap trades)
      (collectorContext.div (notionalOf trades) (ofNat (volumeOf trades))).toRat := by
  have hulp := ulp_collectorContext
  have hnonneg := ulp_nonneg
  have hzero : Within 1 0 (finite false 0 0).toRat := by
    rw [Within, Context.toRat_unsigned]
    norm_num
  obtain ⟨c, e, hfold, hwithin⟩ := notional_within trades le_rfl le_rfl hzero
  rw [zero_add] at hwithin
  have hdiv := Context.div_near prec_pos c e 0 hvolume.ne'
  rw [← ofNat, toRat_ofNat] at hdiv
  have hpos : (0 : ℚ) < volumeOf trades := by exact_mod_cast hvolume
  have hthird : 0 ≤ collectorContext.ulp ^ 3 := pow_nonneg hnonneg 3
  have hcube : (1 - collectorContext.ulp) ^ 3 ≤ 1 - 2 * collectorContext.ulp := by
    have hrest : 0 ≤ collectorContext.ulp * (1 - 3 * collectorContext.ulp) :=
      mul_nonneg hnonneg (by linarith)
    linarith
  have hcube' : 1 + 2 * collectorContext.ulp ≤ (1 + collectorContext.ulp) ^ 3 := by
    have hrest : 0 ≤ collectorContext.ulp * (1 + 3 * collectorContext.ulp) :=
      mul_nonneg hnonneg (by linarith)
    linarith
  have hquot : 0 ≤ (finite false c e).toRat / volumeOf trades :=
    div_nonneg (Context.toRat_unsigned_nonneg c e) hpos.le
  rw [notionalOf, ofNat, hfold]
  rw [exactVwap, Within, show trades.length + 4 = 1 + trades.length + 3 by omega,
    pow_add (1 - collectorContext.ulp) _ 3, pow_add (1 + collectorContext.ulp) _ 3]
  constructor
  · calc exactNotional trades / volumeOf trades *
          ((1 - collectorContext.ulp) ^ (1 + trades.length) * (1 - collectorContext.ulp) ^ 3)
        = exactNotional trades * (1 - collectorContext.ulp) ^ (1 + trades.length) /
            volumeOf trades * (1 - collectorContext.ulp) ^ 3 := by ring
      _ ≤ (finite false c e).toRat / volumeOf trades * (1 - collectorContext.ulp) ^ 3 :=
          mul_le_mul_of_nonneg_right (div_le_div_of_nonneg_right hwithin.1 hpos.le)
            (pow_nonneg (by linarith) 3)
      _ ≤ (finite false c e).toRat / volumeOf trades * (1 - 2 * collectorContext.ulp) :=
          mul_le_mul_of_nonneg_left hcube hquot
      _ ≤ _ := hdiv.lower
  · calc _ ≤ (finite false c e).toRat / volumeOf trades * (1 + 2 * collectorContext.ulp) :=
          hdiv.upper
      _ ≤ (finite false c e).toRat / volumeOf trades * (1 + collectorContext.ulp) ^ 3 :=
          mul_le_mul_of_nonneg_left hcube' hquot
      _ ≤ exactNotional trades * (1 + collectorContext.ulp) ^ (1 + trades.length) /
            volumeOf trades * (1 + collectorContext.ulp) ^ 3 :=
          mul_le_mul_of_nonneg_right (div_le_div_of_nonneg_right hwithin.2 hpos.le)
            (pow_nonneg (by linarith) 3)
      _ = exactNotional trades / volumeOf trades *
          ((1 + collectorContext.ulp) ^ (1 + trades.length) * (1 + collectorContext.ulp) ^ 3) := by
        ring

/-! ### The timing rules -/

/-- The window of one symbol is that of exactly its continuous trades in the window, with the first
and the last of them near the ends. -/
structure WindowFresh (trades : List Trade) (windowStartAt windowEndAt : Instant)
    (window : SymbolWindow) : Prop where
  first : ∃ trade ∈ trades.filter (Trade.eligible window.symbol windowStartAt windowEndAt),
    trade.observedAt = window.firstObservedAt ∧
    ∀ other ∈ trades.filter (Trade.eligible window.symbol windowStartAt windowEndAt),
      trade.observedAt ≤ other.observedAt
  startDelay : window.firstObservedAt ≤ windowStartAt + 15000000
  last : ∃ trade ∈ trades.filter (Trade.eligible window.symbol windowStartAt windowEndAt),
    trade.observedAt = window.lastObservedAt ∧
    ∀ other ∈ trades.filter (Trade.eligible window.symbol windowStartAt windowEndAt),
      other.observedAt ≤ trade.observedAt
  endAge : windowEndAt - 15000000 ≤ window.lastObservedAt
  volume : window.windowVolume =
    volumeOf (trades.filter (Trade.eligible window.symbol windowStartAt windowEndAt))
  vwap : Within (window.tradeCount + 4)
    (exactVwap (trades.filter (Trade.eligible window.symbol windowStartAt windowEndAt)))
    window.windowVwap.toRat

structure IsLatest (quotes : List QuoteSample) (symbol : String) (windowEndAt : Instant)
    (latest : QuoteSample) : Prop where
  mem : latest ∈ quoteSamples quotes symbol windowEndAt
  last : ∀ other ∈ quoteSamples quotes symbol windowEndAt, other.observedAt ≤ latest.observedAt

/-- The frozen timing rules, on the raw times. -/
structure Fresh (tradesBySymbol : String → List Trade) (quotesBySymbol : String → List QuoteSample)
    (symbols : List String) (windowStartAt windowEndAt : Instant) (result : SynchronizedWindow) :
    Prop where
  reported : result.symbols.map SymbolWindow.symbol = requiredSymbols symbols
  windows : ∀ window ∈ result.symbols,
    WindowFresh (tradesBySymbol window.symbol) windowStartAt windowEndAt window
  skew : ∀ first ∈ result.symbols, ∀ second ∈ result.symbols,
    first.lastObservedAt - second.lastObservedAt ≤ 5000000
  quotes : ∀ symbol ∈ symbols, ∀ latest, IsLatest (quotesBySymbol symbol) symbol windowEndAt latest →
    windowEndAt - latest.observedAt ≤ 1000000

section Window

variable {symbol : String} {trades : List Trade} {windowStartAt windowEndAt : Instant}

theorem eligibleTrades_eq_ok {eligible : List Trade}
    (h : eligibleTrades trades symbol windowStartAt windowEndAt = .ok eligible) :
    eligible.Perm (trades.filter (Trade.eligible symbol windowStartAt windowEndAt)) ∧
      eligible.Pairwise fun a b => a.observedAt ≤ b.observedAt := by
  simp only [eligibleTrades] at h
  split at h
  · cases h
    refine ⟨List.mergeSort_perm _ _, ?_⟩
    have hsorted := @List.pairwise_mergeSort Trade
      (fun a b : Trade => decide (a.observedAt ≤ b.observedAt))
      (by intro a b c hab hbc; simp only [decide_eq_true_eq] at hab hbc ⊢; exact hab.trans hbc)
      (by intro a b; simp only [Bool.or_eq_true, decide_eq_true_eq]; exact le_total _ _)
      (trades.filter (Trade.eligible symbol windowStartAt windowEndAt))
    exact hsorted.imp fun hab => of_decide_eq_true hab
  · cases h

theorem volumeOf_perm {trades trades' : List Trade} (h : trades.Perm trades') :
    volumeOf trades = volumeOf trades' := (h.map Trade.size).sum_eq

theorem exactVwap_perm {trades trades' : List Trade} (h : trades.Perm trades') :
    exactVwap trades = exactVwap trades' := by
  rw [exactVwap, exactVwap, exactNotional, exactNotional, (h.map _).sum_eq, volumeOf_perm h]

theorem buildSymbolWindow_spec {window : SymbolWindow}
    (h : buildSymbolWindow symbol trades windowStartAt windowEndAt = .ok window) :
    window.symbol = symbol ∧ WindowFresh trades windowStartAt windowEndAt window := by
  simp only [buildSymbolWindow, except_bind_eq_ok] at h
  obtain ⟨eligible, heligible, h⟩ := h
  obtain ⟨hperm, hsorted⟩ := eligibleTrades_eq_ok heligible
  split at h
  case h_2 => cases h
  rename_i first last hfirst hlast
  simp only [except_bind_eq_ok, throwIf_eq_ok, except_pure_eq_ok, not_lt] at h
  obtain ⟨-, hstart, -, hend, rfl⟩ := h
  obtain ⟨rest, rfl⟩ := List.head?_eq_some_iff.mp hfirst
  obtain ⟨before, hbefore⟩ := List.getLast?_eq_some_iff.mp hlast
  have hmem : ∀ {trade}, trade ∈ first :: rest ↔
      trade ∈ trades.filter (Trade.eligible symbol windowStartAt windowEndAt) := hperm.mem_iff
  have hvolume : 0 < volumeOf (first :: rest) := by
    rw [volumeOf, List.map_cons, List.sum_cons]
    exact Nat.add_pos_left first.size_pos _
  refine ⟨rfl, ?_, hstart, ?_, hend, volumeOf_perm hperm, ?_⟩
  · refine ⟨first, hmem.mp List.mem_cons_self, rfl, fun other hother => ?_⟩
    rcases List.mem_cons.mp (hmem.mpr hother) with rfl | hrest
    · exact le_rfl
    · exact (List.pairwise_cons.mp hsorted).1 other hrest
  · refine ⟨last, hmem.mp (List.mem_of_getLast? hlast), rfl, fun other hother => ?_⟩
    have hother' := hmem.mpr hother
    rw [hbefore] at hsorted hother'
    rcases List.mem_append.mp hother' with hin | hin
    · exact (List.pairwise_append.mp hsorted).2.2 other hin last (List.mem_singleton_self last)
    · rw [List.mem_singleton.mp hin]
  · rw [← exactVwap_perm hperm]
    exact vwap_within hvolume

end Window

theorem mapM_eq_ok_iff {α β ε : Type} {f : α → Except ε β} {xs : List α} {ys : List β} :
    xs.mapM f = .ok ys ↔ List.Forall₂ (fun x y => f x = .ok y) xs ys := by
  induction xs generalizing ys with
  | nil =>
    rw [List.mapM_nil, List.forall₂_nil_left_iff, except_pure_eq_ok]
    exact eq_comm
  | cons x xs ih =>
    simp only [List.mapM_cons, except_bind_eq_ok, except_pure_eq_ok, ih, List.forall₂_cons_left_iff]
    constructor
    · rintro ⟨y, hy, rest, hrest, rfl⟩
      exact ⟨y, rest, hy, hrest, rfl⟩
    · rintro ⟨y, rest, hy, hrest, rfl⟩
      exact ⟨y, hy, rest, hrest, rfl⟩

theorem exists_of_mem_left {α β : Type} {R : α → β → Prop} {xs : List α} {ys : List β}
    (h : List.Forall₂ R xs ys) {x : α} (hx : x ∈ xs) : ∃ y ∈ ys, R x y := by
  induction h with
  | nil => cases hx
  | cons hxy _ ih =>
    rcases List.mem_cons.mp hx with rfl | hrest
    · exact ⟨_, List.mem_cons_self, hxy⟩
    · obtain ⟨y, hy, hr⟩ := ih hrest
      exact ⟨y, List.mem_cons_of_mem _ hy, hr⟩

theorem exists_of_mem_right {α β : Type} {R : α → β → Prop} {xs : List α} {ys : List β}
    (h : List.Forall₂ R xs ys) {y : β} (hy : y ∈ ys) : ∃ x ∈ xs, R x y :=
  exists_of_mem_left h.flip hy

theorem mem_requiredSymbols {symbols : List String} {symbol : String} :
    symbol ∈ requiredSymbols symbols ↔ symbol ∈ symbols := by
  rw [requiredSymbols, List.mem_insertionSort, List.mem_dedup]

theorem sub_le_endpointSkew {endpoints : List Instant} {a b : Instant} (ha : a ∈ endpoints)
    (hb : b ∈ endpoints) : a - b ≤ endpointSkew endpoints := by
  rw [endpointSkew]
  cases hmax : endpoints.max? with
  | none =>
    rw [List.max?_eq_none_iff.mp hmax] at ha
    cases ha
  | some greatest =>
    cases hmin : endpoints.min? with
    | none =>
      rw [List.min?_eq_none_iff.mp hmin] at ha
      cases ha
    | some least =>
      have hle := (List.max?_eq_some_iff.mp hmax).2 a ha
      have hge := (List.min?_eq_some_iff.mp hmin).2 b hb
      rw [Option.getD_some, Option.getD_some]
      exact sub_le_sub hle hge

/-- A quote that is not too old for the comparison is at most 1001 milliseconds old. -/
theorem quoteAge_spec {quotes : List QuoteSample} {symbol : String} {windowEndAt : Instant}
    {requireQuotes : Bool} {age : Option (String × Int)}
    (h : quoteAge quotes symbol windowEndAt requireQuotes = .ok age) {latest : QuoteSample}
    (hlatest : IsLatest quotes symbol windowEndAt latest) :
    windowEndAt - latest.observedAt ≤ 1001000 := by
  rw [quoteAge] at h
  split at h
  · rename_i hnone
    rw [List.argmax_eq_none] at hnone
    have hmem := hlatest.mem
    rw [hnone] at hmem
    cases hmem
  · rename_i found hfound
    simp only [except_bind_eq_ok, throwIf_eq_ok, not_lt] at h
    obtain ⟨-, hage, -⟩ := h
    have hmem := List.argmax_mem hfound
    have hsame : (latest.observedAt : ℚ) ≤ found.observedAt :=
      List.le_of_mem_argmax (f := fun quote : QuoteSample => (quote.observedAt : ℚ)) hlatest.mem
        hfound
    have hle : latest.observedAt ≤ found.observedAt := by exact_mod_cast hsame
    have hge := hlatest.last found hmem
    have hbefore : found.observedAt ≤ windowEndAt := by
      have hsample := (List.mem_filter.mp hmem).2
      rw [Bool.and_eq_true] at hsample
      exact of_decide_eq_true hsample.2
    have hbound := (ageMs_le_iff (sub_nonneg.mpr hbefore)).mp hage
    linarith

variable {tradesBySymbol : String → List Trade} {quotesBySymbol : String → List QuoteSample}
  {sessionId : String} {symbols : List String} {windowStartAt windowEndAt : Instant}
  {requireQuotes : Bool} {result : SynchronizedWindow}

/-- The windows keep the timing rules exactly where no latest quote is more than 1000 and at most
1001 milliseconds old. -/
theorem fresh_iff (h : buildSynchronizedWindow tradesBySymbol quotesBySymbol sessionId symbols
      windowStartAt windowEndAt requireQuotes = .ok result) :
    Fresh tradesBySymbol quotesBySymbol symbols windowStartAt windowEndAt result ↔
      ∀ symbol ∈ symbols, ∀ latest, IsLatest (quotesBySymbol symbol) symbol windowEndAt latest →
        ¬(1000000 < windowEndAt - latest.observedAt ∧ windowEndAt - latest.observedAt ≤ 1001000) := by
  simp only [buildSynchronizedWindow, except_bind_eq_ok, throwIf_eq_ok, except_pure_eq_ok,
    mapM_eq_ok_iff, not_lt] at h
  obtain ⟨-, -, windows, hwindows, -, hskew, ages, hages, -, -, rfl⟩ := h
  constructor
  · rintro hfresh symbol hsymbol latest hlatest ⟨hold, -⟩
    have hage := hfresh.quotes symbol hsymbol latest hlatest
    linarith
  · intro hnone
    refine ⟨?_, ?_, ?_, ?_⟩
    · show windows.map SymbolWindow.symbol = requiredSymbols symbols
      clear hskew hages
      generalize requiredSymbols symbols = required at hwindows
      induction hwindows with
      | nil => rfl
      | cons hwindow _ ih => rw [List.map_cons, (buildSymbolWindow_spec hwindow).1, ih]
    · intro window hwindow
      obtain ⟨symbol, -, hbuilt⟩ := exists_of_mem_right hwindows hwindow
      obtain ⟨rfl, hfresh⟩ := buildSymbolWindow_spec hbuilt
      exact hfresh
    · intro first hfirst second hsecond
      have hdistance := sub_le_endpointSkew (List.mem_map_of_mem (f := SymbolWindow.lastObservedAt) hfirst)
        (List.mem_map_of_mem (f := SymbolWindow.lastObservedAt) hsecond)
      exact le_trans hdistance hskew
    · intro symbol hsymbol latest hlatest
      obtain ⟨age, -, hage⟩ := exists_of_mem_left hages (mem_requiredSymbols.mpr hsymbol)
      have hbound := quoteAge_spec hage hlatest
      by_contra hold
      exact hnone symbol hsymbol latest hlatest ⟨not_le.mp hold, hbound⟩

/-! ### A quote that is a little too old -/

/-- One share for one dollar, in the middle of a window of ten seconds. -/
def sampleTrade : Trade where
  symbol := "SPY"
  sessionId := "session"
  observedAt := 5000000
  price := ofNat 1
  size := 1
  saleCondition := continuousSaleCondition
  price_pos := by rw [toRat_ofNat]; norm_num
  size_pos := Nat.one_pos

def sampleQuote (age : Int) : QuoteSample where
  symbol := "SPY"
  sessionId := "session"
  observedAt := 10000000 - age
  bid := ofNat 1
  ask := ofNat 1
  prices := by rw [toRat_ofNat]; norm_num

theorem sample_returns {age : Int} (hage : 0 ≤ age) (hold : age ≤ 1001000) :
    ∃ result, buildSynchronizedWindow (fun _ => [sampleTrade]) (fun _ => [sampleQuote age]) "session"
      ["SPY"] 0 10000000 true = .ok result := by
  have hrequired : requiredSymbols ["SPY"] = ["SPY"] := rfl
  have heligible : eligibleTrades [sampleTrade] "SPY" 0 10000000 = .ok [sampleTrade] := by
    have hfilter : [sampleTrade].filter (Trade.eligible "SPY" 0 10000000) = [sampleTrade] := by
      decide
    rw [eligibleTrades, hfilter, List.mergeSort_singleton]
    rfl
  obtain ⟨window, hwindow⟩ : ∃ window, buildSymbolWindow "SPY" [sampleTrade] 0 10000000 =
      .ok window := by
    refine ⟨⟨"SPY", 5000000, ofNat 1, 5000000, ofNat 1,
      collectorContext.div (notionalOf [sampleTrade]) (ofNat 1), 1, 1⟩, ?_⟩
    simp only [buildSymbolWindow, except_bind_eq_ok]
    refine ⟨_, heligible, ?_⟩
    simp only [List.head?_cons, List.getLast?_singleton, except_bind_eq_ok, throwIf_eq_ok]
    exact ⟨(), by decide, (), by decide, rfl⟩
  have hquote : quoteAge [sampleQuote age] "SPY" 10000000 true = .ok (some ("SPY", ageMs age)) := by
    have hsamples : quoteSamples [sampleQuote age] "SPY" 10000000 = [sampleQuote age] := by
      have hbefore : (10000000 - age : Int) ≤ 10000000 := by omega
      simp [quoteSamples, sampleQuote, hbefore]
    have hlatest : (10000000 : Int) - (sampleQuote age).observedAt = age := by
      show (10000000 : Int) - (10000000 - age) = age
      omega
    rw [quoteAge, hsamples, List.argmax_singleton]
    simp only [except_bind_eq_ok, throwIf_eq_ok, hlatest]
    exact ⟨(), not_lt.mpr ((ageMs_le_iff hage).mpr hold), rfl⟩
  have hskew : endpointSkew [window.lastObservedAt] = 0 := sub_self window.lastObservedAt
  refine ⟨⟨"session", 0, 10000000, [window], [("SPY", ageMs age)]⟩, ?_⟩
  simp only [buildSynchronizedWindow, hrequired, except_bind_eq_ok, throwIf_eq_ok,
    except_pure_eq_ok, mapM_eq_ok_iff]
  refine ⟨(), by decide, [window], .cons hwindow .nil, (), ?_, [some ("SPY", ageMs age)],
    .cons hquote .nil, (), ?_, rfl⟩
  · rw [List.map_cons, List.map_nil, hskew]
    decide
  · simp

theorem isLatest_sampleQuote {age : Int} (hage : 0 ≤ age) :
    IsLatest [sampleQuote age] "SPY" 10000000 (sampleQuote age) := by
  have hbefore : (10000000 - age : Int) ≤ 10000000 := by omega
  have hmem : sampleQuote age ∈ quoteSamples [sampleQuote age] "SPY" 10000000 := by
    simp [quoteSamples, sampleQuote, hbefore]
  refine ⟨hmem, fun other hother => ?_⟩
  rw [List.mem_singleton.mp (List.mem_filter.mp hother).1]

theorem stale_quote_accepted : ∃ result, buildSynchronizedWindow (fun _ => [sampleTrade])
      (fun _ => [sampleQuote 1001000]) "session" ["SPY"] 0 10000000 true = .ok result ∧
    ¬Fresh (fun _ => [sampleTrade]) (fun _ => [sampleQuote 1001000]) ["SPY"] 0 10000000 result := by
  obtain ⟨result, hresult⟩ := sample_returns (by decide : (0 : Int) ≤ 1001000) le_rfl
  refine ⟨result, hresult, fun hfresh => ?_⟩
  have hage := hfresh.quotes "SPY" List.mem_cons_self _ (isLatest_sampleQuote (by decide))
  exact absurd hage (by decide)

/-- A quote of one second keeps the rules. -/
theorem fresh_iff_oneSecond : ∃ result, buildSynchronizedWindow (fun _ => [sampleTrade])
      (fun _ => [sampleQuote 1000000]) "session" ["SPY"] 0 10000000 true = .ok result ∧
    Fresh (fun _ => [sampleTrade]) (fun _ => [sampleQuote 1000000]) ["SPY"] 0 10000000 result := by
  obtain ⟨result, hresult⟩ := sample_returns (by decide : (0 : Int) ≤ 1000000) (by decide)
  refine ⟨result, hresult, (fresh_iff hresult).mpr ?_⟩
  rintro symbol - latest hlatest ⟨hold, -⟩
  rw [List.mem_singleton.mp (List.mem_filter.mp hlatest.mem).1] at hold
  exact absurd hold (by decide)

end EsscherMarket.SourceData
