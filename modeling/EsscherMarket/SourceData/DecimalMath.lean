import EsscherMarket.Lib.DecimalPrecision
import EsscherMarket.Lib.Txn

/-!
# Deterministic decimal math of the collector

Logarithms by the atanh series and square roots by Newton iteration, in the collector's context of
fifty digits.  The loops of the source get a number of turns here; `decimalLn_isOk` says that the
logarithm never needs more.  Newton's iteration has no such bound: one that has not stopped after
`newtonFuel` turns is `unfinished`.
-/

namespace EsscherMarket.SourceData

open Lib Lib.Decimal

/-- The machine-readable reasons this package's price series are refused for. -/
inductive CollectorReason where
  | marketObservationMissing | betaInsufficientObservations | betaOutOfBounds | betaIllConditioned
  | corporateActionUnresolved | adjustmentPolicyViolation | clockMismatch
  | featureDependencyMissing | marketObservationStale | duplicateObservation
  | unsupportedInput | marketObservationAsynchronous
deriving Repr, DecidableEq

structure CollectorRejected where
  reason : CollectorReason
  path : String
  detail : String
deriving Repr, DecidableEq

/-- How a computation of the collector ends without a value. -/
inductive CollectorError where
  | rejected (rejection : CollectorRejected)
  | valueError (message : String)
  | unfinished
deriving Repr, DecidableEq

def reject (reason : CollectorReason) (path detail : String) : CollectorError :=
  .rejected ⟨reason, path, detail⟩

def precisionDigits : Nat := 50

def collectorContext : Context := ⟨precisionDigits, .halfEven⟩

/-- Enough turns to bring a number into `[1, 10)`. -/
def scaleFuel : Decimal → Nat
  | finite _ c e => 2 * (digits c + e.natAbs) + 2
  | _ => 0

def seriesFuel : Nat := 501

/-- `while scaled >= ten: scaled /= ten; exponent += 1`. -/
def scaleDown : Nat → Decimal → Decimal → Option (Decimal × Decimal)
  | 0, _, _ => none
  | fuel + 1, scaled, exponent =>
    if lt scaled (ofNat 10) then some (scaled, exponent)
    else scaleDown fuel (collectorContext.div scaled (ofNat 10))
      (collectorContext.add exponent (ofNat 1))

/-- `while scaled < 1: scaled *= ten; exponent -= 1`. -/
def scaleUp : Nat → Decimal → Decimal → Option (Decimal × Decimal)
  | 0, _, _ => none
  | fuel + 1, scaled, exponent =>
    if lt scaled (ofNat 1) then
      scaleUp fuel (collectorContext.mul scaled (ofNat 10))
        (collectorContext.sub exponent (ofNat 1))
    else some (scaled, exponent)

/-- The terms of the series are added until they change nothing. -/
def atanhSeries (squared : Decimal) : Nat → Nat → Decimal → Decimal → Option Decimal
  | 0, _, _, _ => none
  | fuel + 1, index, term, total =>
    let term := collectorContext.mul term squared
    let step := collectorContext.div term (ofNat (2 * index + 1))
    let updated := collectorContext.add total step
    if updated.beq total then some total
    else atanhSeries squared fuel (index + 1) term updated

/-- The series at `(scaled - 1) / (scaled + 1)`. -/
def lnSeries (scaled : Decimal) : Option Decimal :=
  let argument := collectorContext.div (collectorContext.sub scaled (ofNat 1))
    (collectorContext.add scaled (ofNat 1))
  atanhSeries (collectorContext.mul argument argument) seriesFuel 1 argument argument

def lnTen : Option Decimal := do
  let total ← lnSeries (ofNat 10)
  return collectorContext.mul (ofNat 2) total

/-- The value scaled into `[1, 10)`, its logarithm there, and the powers of ten added again. -/
def lnValue (value : Decimal) : Option Decimal := do
  let (scaled, exponent) ← scaleDown (scaleFuel value) value (ofNat 0)
  let (scaled, exponent) ← scaleUp (scaleFuel value) scaled exponent
  let total ← lnSeries scaled
  let lnTen ← lnTen
  return collectorContext.add (collectorContext.mul (ofNat 2) total)
    (collectorContext.mul exponent lnTen)

def finished : Option Decimal → Except CollectorError Decimal
  | some value => .ok value
  | none => .error .unfinished

def decimalLn (value : Decimal) : Except CollectorError Decimal := do
  throwIf (!value.isFinite || decide (value.toRat ≤ 0))
    (.valueError "logarithm requires a positive finite decimal")
  finished (lnValue value)

/-- Newton's iteration until the guess repeats. -/
def newton (value : Decimal) : Nat → Decimal → Option Decimal
  | 0, _ => none
  | fuel + 1, guess =>
    let improved := collectorContext.div
      (collectorContext.add guess (collectorContext.div value guess)) (ofNat 2)
    if improved.beq guess then some guess else newton value fuel improved

/-- The log return between two prices: both logarithms are in the collector's context, the
difference is in the caller's. -/
def logReturn (ctx : Context) (startPrice endPrice : Decimal) : Except CollectorError Decimal := do
  let endLn ← decimalLn endPrice
  let startLn ← decimalLn startPrice
  return ctx.sub endLn startLn

/-! ### The logarithm ends -/

theorem ulp_collectorContext : collectorContext.ulp ≤ 1 / 1000 := by
  norm_num [Context.ulp, collectorContext, precisionDigits]

theorem prec_pos : 0 < collectorContext.prec := by decide

theorem toRat_ofNat (n : Nat) : (ofNat n).toRat = n := by
  rw [ofNat, Context.toRat_unsigned, zpow_zero, mul_one]

theorem eq_unsigned {d : Decimal} (h : 0 < d.toRat) : ∃ c e, d = finite false c e := by
  cases d with
  | finite n c e =>
    cases n with
    | false => exact ⟨c, e, rfl⟩
    | true =>
      have hneg : (finite true c e).toRat = -(finite false c e).toRat := by simp [toRat]
      have := Context.toRat_unsigned_nonneg c e
      linarith
  | infinite n => simp [toRat] at h
  | nan => simp [toRat] at h

theorem scaleDown_some {fuel : Nat} : ∀ {scaled exponent : Decimal}, 0 < scaled.toRat →
    scaled.toRat < 10 * 5 ^ fuel → ∃ scaled' exponent',
      scaleDown (fuel + 1) scaled exponent = some (scaled', exponent') ∧
      0 < scaled'.toRat ∧ scaled'.toRat < 10 ∧ min scaled.toRat (1 / 2) ≤ scaled'.toRat := by
  induction fuel with
  | zero =>
    intro scaled exponent hpos hlt
    obtain ⟨c, e, rfl⟩ := eq_unsigned hpos
    rw [pow_zero, mul_one] at hlt
    have hstop : lt (finite false c e) (ofNat 10) = true := by
      rw [lt_iff rfl rfl, toRat_ofNat]
      exact_mod_cast hlt
    exact ⟨_, exponent, by rw [scaleDown, if_pos hstop], hpos, hlt, min_le_left _ _⟩
  | succ fuel ih =>
    intro scaled exponent hpos hlt
    obtain ⟨c, e, rfl⟩ := eq_unsigned hpos
    by_cases hstop : lt (finite false c e) (ofNat 10) = true
    · have hten := (lt_iff rfl rfl).mp hstop
      rw [toRat_ofNat] at hten
      refine ⟨_, exponent, by rw [scaleDown, if_pos hstop], hpos, ?_, min_le_left _ _⟩
      exact_mod_cast hten
    · have hten : 10 ≤ (finite false c e).toRat := by
        rw [lt_iff rfl rfl, toRat_ofNat, not_lt] at hstop
        exact_mod_cast hstop
      have hnear := Context.div_near prec_pos c e 0 (by decide : 10 ≠ 0)
      have hulp := ulp_collectorContext
      have hlow := hnear.lower
      have hhigh := hnear.upper
      rw [← ofNat, toRat_ofNat, Nat.cast_ofNat] at hlow hhigh
      have hhalf : 1 / 2 ≤ (collectorContext.div (finite false c e) (ofNat 10)).toRat := by
        nlinarith
      have hnext : (collectorContext.div (finite false c e) (ofNat 10)).toRat < 10 * 5 ^ fuel := by
        rw [pow_succ] at hlt
        nlinarith
      obtain ⟨scaled', exponent', hrun, hpos', hlt', hmin⟩ :=
        @ih _ (collectorContext.add exponent (ofNat 1)) (by linarith) hnext
      rw [min_eq_right hhalf] at hmin
      refine ⟨scaled', exponent', ?_, hpos', hlt', le_trans (min_le_right _ _) hmin⟩
      rw [scaleDown, if_neg hstop, hrun]

theorem scaleUp_some {fuel : Nat} : ∀ {scaled exponent : Decimal}, 0 < scaled.toRat →
    scaled.toRat < 11 → 1 ≤ scaled.toRat * 5 ^ fuel → ∃ scaled' exponent',
      scaleUp (fuel + 1) scaled exponent = some (scaled', exponent') ∧
      1 ≤ scaled'.toRat ∧ scaled'.toRat < 11 := by
  induction fuel with
  | zero =>
    intro scaled exponent hpos hlt hge
    obtain ⟨c, e, rfl⟩ := eq_unsigned hpos
    rw [pow_zero, mul_one] at hge
    have hstop : ¬lt (finite false c e) (ofNat 1) = true := by
      rw [lt_iff rfl rfl, toRat_ofNat, not_lt]
      exact_mod_cast hge
    exact ⟨_, exponent, by rw [scaleUp, if_neg hstop], hge, hlt⟩
  | succ fuel ih =>
    intro scaled exponent hpos hlt hge
    obtain ⟨c, e, rfl⟩ := eq_unsigned hpos
    by_cases hstop : lt (finite false c e) (ofNat 1) = true
    · have hone := (lt_iff rfl rfl).mp hstop
      rw [toRat_ofNat, Nat.cast_one] at hone
      have hnear := Context.mul_near prec_pos c 10 e 0
      have hulp := ulp_collectorContext
      have hlow := hnear.lower
      have hhigh := hnear.upper
      rw [← ofNat, toRat_ofNat, Nat.cast_ofNat] at hlow hhigh
      have hfive : 5 * (finite false c e).toRat ≤
          (collectorContext.mul (finite false c e) (ofNat 10)).toRat := by
        nlinarith
      have heleven : (collectorContext.mul (finite false c e) (ofNat 10)).toRat < 11 := by
        nlinarith
      have hnext : 1 ≤ (collectorContext.mul (finite false c e) (ofNat 10)).toRat * 5 ^ fuel := by
        have hpow : (0 : ℚ) < 5 ^ fuel := by positivity
        rw [pow_succ] at hge
        nlinarith
      obtain ⟨scaled', exponent', hrun, hin⟩ :=
        @ih _ (collectorContext.sub exponent (ofNat 1)) (by linarith) heleven hnext
      refine ⟨scaled', exponent', ?_, hin⟩
      rw [scaleUp, if_pos hstop, hrun]
    · have hone : 1 ≤ (finite false c e).toRat := by
        rw [lt_iff rfl rfl, toRat_ofNat, not_lt] at hstop
        exact_mod_cast hstop
      exact ⟨_, exponent, by rw [scaleUp, if_neg hstop], hone, hlt⟩

/-- The terms shrink by a quarter each turn, so that the total absorbs one of them. -/
theorem atanhSeries_some {c₂ : Nat} {e₂ : Int} (hsquared : (finite false c₂ e₂).toRat ≤ 71 / 100)
    {fuel : Nat} : ∀ {index : Nat} {c c' : Nat} {e e' : Int}, 1 ≤ index →
      c' < 10 ^ collectorContext.prec →
      (finite false c e).toRat * (10 ^ (collectorContext.prec + 1) * (3 / 4) ^ fuel) ≤
        (finite false c' e').toRat →
      ∃ total, atanhSeries (finite false c₂ e₂) (fuel + 1) index (finite false c e)
        (finite false c' e') = some total := by
  have hulp := ulp_collectorContext
  have hnonneg := Context.toRat_unsigned_nonneg c₂ e₂
  -- one turn: the next term, the step that is added and the next total
  have hturn : ∀ {index : Nat} {c c' : Nat} {e e' : Int}, 1 ≤ index → ∃ ct et cs es cu eu,
      collectorContext.mul (finite false c e) (finite false c₂ e₂) = finite false ct et ∧
      collectorContext.div (finite false ct et) (ofNat (2 * index + 1)) = finite false cs es ∧
      collectorContext.add (finite false c' e') (finite false cs es) = finite false cu eu ∧
      cu < 10 ^ collectorContext.prec ∧
      (finite false ct et).toRat ≤ 72 / 100 * (finite false c e).toRat ∧
      (finite false cs es).toRat ≤ (finite false ct et).toRat ∧
      96 / 100 * (finite false c' e').toRat ≤ (finite false cu eu).toRat := by
    intro index c c' e e' hindex
    have hterm := Context.mul_near prec_pos c c₂ e e₂
    obtain ⟨ct, et, hct, -⟩ := hterm.result
    have hstep := Context.div_near prec_pos ct et 0 (by omega : 2 * index + 1 ≠ 0)
    obtain ⟨cs, es, hcs, -⟩ := hstep.result
    have hadd := Context.add_near prec_pos c' cs e' es
    obtain ⟨cu, eu, hcu, hshort⟩ := hadd.result
    have hc := Context.toRat_unsigned_nonneg c e
    have ht := Context.toRat_unsigned_nonneg ct et
    have hs := Context.toRat_unsigned_nonneg cs es
    have hT := Context.toRat_unsigned_nonneg c' e'
    refine ⟨ct, et, cs, es, cu, eu, hct, hcs, hcu, hshort, ?_, ?_, ?_⟩
    · have hupper := hterm.upper
      rw [hct] at hupper
      have hprod : (finite false c e).toRat * (finite false c₂ e₂).toRat ≤
          (finite false c e).toRat * (71 / 100) := mul_le_mul_of_nonneg_left hsquared hc
      nlinarith [mul_nonneg hc hnonneg]
    · have hupper := hstep.upper
      rw [hcs, ← ofNat, toRat_ofNat] at hupper
      have hthree : (3 : ℚ) ≤ ((2 * index + 1 : Nat) : ℚ) := by exact_mod_cast (by omega)
      have hthird : (finite false ct et).toRat / ((2 * index + 1 : Nat) : ℚ) ≤
          (finite false ct et).toRat / 3 := div_le_div_of_nonneg_left ht (by norm_num) hthree
      have hdiv : 0 ≤ (finite false ct et).toRat / ((2 * index + 1 : Nat) : ℚ) :=
        div_nonneg ht (by linarith)
      nlinarith
    · have hlower := hadd.lower
      rw [hcu] at hlower
      nlinarith
  induction fuel with
  | zero =>
    intro index c c' e e' hindex hshort hsmall
    obtain ⟨ct, et, cs, es, cu, eu, hct, hcs, hcu, -, hle, hle', -⟩ :=
      @hturn index c c' e e' hindex
    have habsorb := @Context.add_absorb collectorContext prec_pos rfl c' cs e' es hshort (by
      have hpow : (0 : ℚ) < 10 ^ (collectorContext.prec + 1) := by positivity
      have hc := Context.toRat_unsigned_nonneg c e
      rw [pow_zero, mul_one] at hsmall
      nlinarith)
    rw [hcu] at habsorb
    refine ⟨finite false c' e', ?_⟩
    simp only [atanhSeries, hct, hcs, hcu, beq_of_toRat rfl rfl habsorb, if_true]
  | succ fuel ih =>
    intro index c c' e e' hindex hshort hsmall
    obtain ⟨ct, et, cs, es, cu, eu, hct, hcs, hcu, hcut, hle, hle', hge⟩ :=
      @hturn index c c' e e' hindex
    rw [atanhSeries]
    simp only [hct, hcs, hcu]
    split
    · exact ⟨_, rfl⟩
    · apply @ih (index + 1) ct cu et eu (by omega) hcut
      have hpow : (0 : ℚ) < 10 ^ (collectorContext.prec + 1) * (3 / 4) ^ fuel := by positivity
      have hsplit : (3 / 4 : ℚ) ^ (fuel + 1) = (3 / 4) ^ fuel * (3 / 4) := pow_succ _ _
      rw [hsplit, ← mul_assoc, ← mul_assoc] at hsmall
      have hmul := mul_le_mul_of_nonneg_right hle hpow.le
      linarith

/-- The series ends at every number that the scaling leaves. -/
theorem lnSeries_some {scaled : Decimal} (hge : 1 ≤ scaled.toRat) (hlt : scaled.toRat < 11) :
    ∃ total, lnSeries scaled = some total := by
  have hulp := ulp_collectorContext
  have hulp' := @Context.ulp_pos collectorContext
  obtain ⟨c, e, rfl⟩ := eq_unsigned (lt_of_lt_of_le one_pos hge)
  have hone : (finite false 1 0).toRat ≤ (finite false c e).toRat := by
    rw [← ofNat, toRat_ofNat]
    exact_mod_cast hge
  have hsub := @Context.sub_near collectorContext prec_pos c 1 e 0 (by decide) hone
  have hadd := Context.add_near prec_pos c 1 e 0
  obtain ⟨cn, en, hcn, -⟩ := hsub.result
  obtain ⟨cd, ed, hcd, -⟩ := hadd.result
  have hnum := hsub.upper
  have hden := hadd.lower
  rw [hcn, ← ofNat, toRat_ofNat, Nat.cast_one] at hnum
  rw [hcd, ← ofNat, toRat_ofNat, Nat.cast_one] at hden
  have hnum0 := Context.toRat_unsigned_nonneg cn en
  have hden0 : 19 / 10 < (finite false cd ed).toRat := by nlinarith
  have hcd0 : cd ≠ 0 := by
    rintro rfl
    rw [Context.toRat_unsigned, Nat.cast_zero, zero_mul] at hden0
    norm_num at hden0
  have hdiv := Context.div_near prec_pos cn en ed hcd0
  obtain ⟨ca, ea, hca, hshort⟩ := hdiv.result
  have hquot : (finite false cn en).toRat / (finite false cd ed).toRat ≤ 84 / 100 := by
    rw [div_le_iff₀ (by linarith)]
    nlinarith
  have harg : (finite false ca ea).toRat ≤ 842 / 1000 := by
    have hupper := hdiv.upper
    rw [hca] at hupper
    have hquot0 : 0 ≤ (finite false cn en).toRat / (finite false cd ed).toRat :=
      div_nonneg hnum0 (by linarith)
    nlinarith
  have harg0 := Context.toRat_unsigned_nonneg ca ea
  have hmul := Context.mul_near prec_pos ca ca ea ea
  obtain ⟨cq, eq, hcq, -⟩ := hmul.result
  have hsquared : (finite false cq eq).toRat ≤ 71 / 100 := by
    have hupper := hmul.upper
    rw [hcq] at hupper
    nlinarith
  have hfuel : (10 : ℚ) ^ (collectorContext.prec + 1) * (3 / 4) ^ 500 ≤ 1 := by
    have hhundred : (3 / 4 : ℚ) ^ 100 ≤ 1 / 10 ^ 12 := by norm_num
    calc (10 : ℚ) ^ (collectorContext.prec + 1) * (3 / 4) ^ 500
        = 10 ^ 51 * ((3 / 4) ^ 100) ^ 5 := by
          rw [← pow_mul, show collectorContext.prec = 50 from rfl]
      _ ≤ 10 ^ 51 * (1 / 10 ^ 12) ^ 5 := by
          apply mul_le_mul_of_nonneg_left _ (by norm_num)
          exact pow_le_pow_left₀ (by norm_num) hhundred 5
      _ ≤ 1 := by norm_num
  obtain ⟨total, htotal⟩ := @atanhSeries_some cq eq hsquared 500 1 ca ca ea ea le_rfl hshort
    (mul_le_of_le_one_right harg0 hfuel)
  refine ⟨total, ?_⟩
  have hcn' : collectorContext.sub (finite false c e) (ofNat 1) = finite false cn en := hcn
  have hcd' : collectorContext.add (finite false c e) (ofNat 1) = finite false cd ed := hcd
  simp only [lnSeries, hcn', hcd', hca, hcq]
  exact htotal

/-- The logarithm of every positive decimal is found. -/
theorem decimalLn_isOk {value : Decimal} (hpos : 0 < value.toRat) :
    ∃ result, decimalLn value = .ok result := by
  obtain ⟨c, e, rfl⟩ := eq_unsigned hpos
  have hcpos : 1 ≤ c := by
    by_contra hzero
    have : c = 0 := by omega
    rw [this, Context.toRat_unsigned, Nat.cast_zero, zero_mul] at hpos
    exact lt_irrefl _ hpos
  have hfive : (10 : ℚ) ^ (digits c + e.natAbs) ≤ 5 ^ (2 * (digits c + e.natAbs)) := by
    rw [pow_mul]
    exact pow_le_pow_left₀ (by norm_num) (by norm_num) _
  have hlarge : (finite false c e).toRat ≤ 10 ^ (digits c + e.natAbs) := by
    have hc : (c : ℚ) ≤ 10 ^ digits c := by
      have hlt := lt_pow_digitCount c
      rw [← digits_eq] at hlt
      exact_mod_cast hlt.le
    have he : (10 : ℚ) ^ e ≤ 10 ^ e.natAbs := by
      rw [← zpow_natCast]
      exact zpow_le_zpow_right₀ (by norm_num) (by omega)
    rw [Context.toRat_unsigned, pow_add]
    exact mul_le_mul hc he (zpow_pos (by norm_num) e).le (by positivity)
  have hsmall : 1 ≤ (finite false c e).toRat * 10 ^ e.natAbs := by
    have hc : (1 : ℚ) ≤ c := by exact_mod_cast hcpos
    have he : (1 : ℚ) ≤ 10 ^ e * 10 ^ e.natAbs := by
      rw [← zpow_natCast, ← zpow_add₀ (by norm_num)]
      exact one_le_zpow₀ (by norm_num) (by omega)
    rw [Context.toRat_unsigned, mul_assoc]
    exact one_le_mul_of_one_le_of_one_le hc he
  obtain ⟨down, exponent, hdown, hdpos, hdlt, hdmin⟩ :=
    @scaleDown_some (2 * (digits c + e.natAbs) + 1) (finite false c e) (ofNat 0) hpos (by
      rw [pow_succ]
      have : (0 : ℚ) < 5 ^ (2 * (digits c + e.natAbs)) := by positivity
      linarith)
  have hup : 1 ≤ down.toRat * 5 ^ (2 * (digits c + e.natAbs) + 1) := by
    have hpow : (10 : ℚ) ^ e.natAbs ≤ 5 ^ (2 * (digits c + e.natAbs) + 1) := by
      calc (10 : ℚ) ^ e.natAbs ≤ 10 ^ (digits c + e.natAbs) :=
            pow_le_pow_right₀ (by norm_num) (by omega)
        _ ≤ 5 ^ (2 * (digits c + e.natAbs)) := hfive
        _ ≤ 5 ^ (2 * (digits c + e.natAbs) + 1) := pow_le_pow_right₀ (by norm_num) (by omega)
    have htwo : (2 : ℚ) ≤ 5 ^ (2 * (digits c + e.natAbs) + 1) := by
      calc (2 : ℚ) ≤ 5 ^ 1 := by norm_num
        _ ≤ 5 ^ (2 * (digits c + e.natAbs) + 1) := pow_le_pow_right₀ (by norm_num) (by omega)
    rcases min_choice (finite false c e).toRat (1 / 2) with hmin | hmin
    · rw [hmin] at hdmin
      calc 1 ≤ (finite false c e).toRat * 10 ^ e.natAbs := hsmall
        _ ≤ down.toRat * 5 ^ (2 * (digits c + e.natAbs) + 1) :=
          mul_le_mul hdmin hpow (by positivity) hdpos.le
    · rw [hmin] at hdmin
      nlinarith
  obtain ⟨up, exponent', hrunUp, huge, hult⟩ :=
    @scaleUp_some (2 * (digits c + e.natAbs) + 1) down exponent hdpos (by linarith) hup
  obtain ⟨total, htotal⟩ := lnSeries_some huge hult
  obtain ⟨ten, hten⟩ := @lnSeries_some (ofNat 10) (by norm_num [toRat_ofNat])
    (by norm_num [toRat_ofNat])
  have hguard : ¬((!(finite false c e).isFinite || decide ((finite false c e).toRat ≤ 0)) = true) := by
    rw [isFinite_finite, Bool.not_true, Bool.false_or, decide_eq_true_eq]
    exact not_le.mpr hpos
  have hvalue : ∃ result, lnValue (finite false c e) = some result := by
    simp only [lnValue, scaleFuel, hdown, hrunUp, htotal, lnTen, hten, Option.bind_eq_bind,
      Option.bind_some, Option.pure_def]
    exact ⟨_, rfl⟩
  obtain ⟨result, hresult⟩ := hvalue
  refine ⟨result, ?_⟩
  rw [decimalLn, throwIf, if_neg hguard, hresult]
  rfl

theorem decimalLn_error {value : Decimal} (h : value.toRat ≤ 0) :
    decimalLn value = .error (.valueError "logarithm requires a positive finite decimal") := by
  have hguard : (!value.isFinite || decide (value.toRat ≤ 0)) = true := by
    rw [decide_eq_true h, Bool.or_true]
  rw [decimalLn, throwIf, if_pos hguard]
  rfl

/-- A log return exists exactly between positive prices. -/
theorem logReturn_isOk_iff {ctx : Context} {startPrice endPrice : Decimal} :
    (∃ r, logReturn ctx startPrice endPrice = .ok r) ↔
      0 < startPrice.toRat ∧ 0 < endPrice.toRat := by
  constructor
  · rintro ⟨r, hr⟩
    rw [logReturn, except_bind_eq_ok] at hr
    obtain ⟨endLn, hend, hr⟩ := hr
    rw [except_bind_eq_ok] at hr
    obtain ⟨startLn, hstart, -⟩ := hr
    constructor
    · by_contra hle
      rw [decimalLn_error (not_lt.mp hle)] at hstart
      cases hstart
    · by_contra hle
      rw [decimalLn_error (not_lt.mp hle)] at hend
      cases hend
  · rintro ⟨hstart, hend⟩
    obtain ⟨startLn, hstartLn⟩ := decimalLn_isOk hstart
    obtain ⟨endLn, hendLn⟩ := decimalLn_isOk hend
    exact ⟨ctx.sub endLn startLn, by rw [logReturn, hendLn, hstartLn]; rfl⟩

end EsscherMarket.SourceData
