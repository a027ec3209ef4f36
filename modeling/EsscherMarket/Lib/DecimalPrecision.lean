import Mathlib.Data.Nat.Cast.Order.Field
import EsscherMarket.Lib.DecimalContext

/-!
# Decimal arithmetic in a chosen context

The operations of `Lib.DecimalContext` for any precision and rounding mode.  The bounds of the
exponent are left out here too.  `fix_default` says that the default context is one of them.
-/

namespace EsscherMarket.Lib

inductive Rounding where
  | halfEven | halfUp | halfDown | up | down | floor | ceiling | zeroFiveUp
deriving Repr, DecidableEq

/-- Whether a magnitude with quotient `q` and remainder `r` of `10 ^ k` is rounded away from
zero. -/
def Rounding.away (mode : Rounding) (negative : Bool) (q r k : Nat) : Bool :=
  match mode with
  | halfEven => decide (10 ^ k < 2 * r ∨ 2 * r = 10 ^ k ∧ q % 2 = 1)
  | halfUp => decide (10 ^ k ≤ 2 * r ∧ 0 < r)
  | halfDown => decide (10 ^ k < 2 * r)
  | up => decide (0 < r)
  | down => false
  | floor => negative && decide (0 < r)
  | ceiling => !negative && decide (0 < r)
  | zeroFiveUp => decide (0 < r ∧ q % 5 = 0)

def Decimal.digits (c : Nat) : Nat := (Nat.toDigits 10 c).length

theorem Decimal.digits_eq (c : Nat) : digits c = digitCount c := by
  rw [digits, digitCount, Nat.toString_eq_ofList_toDigits, String.toList_ofList]

/-- `x == y` of numbers: nothing is left when one is taken from the other. -/
def Decimal.beq (x y : Decimal) : Bool :=
  match Decimal.sum x y.copyNegate with
  | .finite _ c _ => c == 0
  | _ => false

/-- A context: `prec` digits of coefficient and how the rest is rounded off. -/
structure Context where
  prec : Nat
  rounding : Rounding
deriving Repr, DecidableEq

namespace Context

open Decimal

/-- `c / 10 ^ k`, rounded. -/
def round (ctx : Context) (negative : Bool) (c k : Nat) : Nat :=
  let q := c / 10 ^ k
  let r := c % 10 ^ k
  if ctx.rounding.away negative q r k then q + 1 else q

def fix (ctx : Context) : Decimal → Decimal
  | finite n c e =>
    let excess := digits c - ctx.prec
    let c' := ctx.round n c excess
    if c' = 10 ^ ctx.prec then finite n (10 ^ (ctx.prec - 1)) (e + excess + 1)
    else finite n c' (e + excess)
  | d => d

/-- The exact sum; a zero sum of numbers of both signs is negative only when rounding down. -/
def sum (ctx : Context) : Decimal → Decimal → Decimal
  | finite n c e, finite n' c' e' =>
    let low := min e e'
    let total := signed n (c * 10 ^ (e - low).toNat) + signed n' (c' * 10 ^ (e' - low).toNat)
    let negativeZero := if ctx.rounding = .floor then n || n' else n && n'
    finite (total < 0 || total == 0 && negativeZero) total.natAbs low
  | _, _ => nan

/-- `x + y`. -/
def add (ctx : Context) (x y : Decimal) : Decimal := ctx.fix (ctx.sum x y)

/-- `x - y`. -/
def sub (ctx : Context) (x y : Decimal) : Decimal := ctx.fix (ctx.sum x y.copyNegate)

/-- `x * y`. -/
def mul (ctx : Context) (x y : Decimal) : Decimal := ctx.fix (Decimal.mul x y)

/-- `x / y` for a divisor that is not zero. -/
def div (ctx : Context) : Decimal → Decimal → Decimal
  | finite n c e, finite n' c' e' =>
    if c = 0 then finite (n ^^ n') 0 (e - e')
    else
      let shift : Int := digits c' - digits c + ctx.prec + 1
      let dividend := c * 10 ^ shift.toNat
      let divisor := c' * 10 ^ (-shift).toNat
      let q := dividend / divisor
      -- an inexact quotient must not look like a tie
      if dividend % divisor ≠ 0 then
        ctx.fix (finite (n ^^ n') (if q % 5 = 0 then q + 1 else q) (e - e' - shift))
      else
        let stripped := stripZeros shift.toNat q (e - e' - shift)
        ctx.fix (finite (n ^^ n') stripped.1 stripped.2)
  | _, _ => nan

example : (div ⟨5, .ceiling⟩ (ofNat 1) (ofNat 3)).toText = "0.33334" ∧
    (sub ⟨5, .floor⟩ (ofNat 1) (ofNat 1)).toText = "-0" ∧
    (add ⟨2, .halfUp⟩ (ofNat 98) (cents 150)).toText = "1.0E+2" := by decide

/-! ### The error of one operation on numbers without a sign -/

/-- The relative error that one rounding makes at most. -/
def ulp (ctx : Context) : ℚ := 10 / 10 ^ ctx.prec

/-- `d` is a result of the context, without a sign, within a relative error `u` of `x`. -/
structure Near (ctx : Context) (u x : ℚ) (d : Decimal) : Prop where
  result : ∃ c e, d = finite false c e ∧ c < 10 ^ ctx.prec
  lower : x * (1 - u) ≤ d.toRat
  upper : d.toRat ≤ x * (1 + u)

theorem toRat_unsigned (c : Nat) (e : Int) : (finite false c e).toRat = c * (10 : ℚ) ^ e := by
  rw [toRat, if_neg (by decide), one_mul, pow10_eq_zpow]

theorem toRat_unsigned_nonneg (c : Nat) (e : Int) : 0 ≤ (finite false c e).toRat := by
  rw [toRat_unsigned]
  exact mul_nonneg (Nat.cast_nonneg c) (zpow_pos (by norm_num) e).le

variable {ctx : Context}

theorem round_zero (negative : Bool) (c : Nat) : ctx.round negative c 0 = c := by
  have hr : c % 10 ^ 0 = 0 := by rw [pow_zero, Nat.mod_one]
  have haway : ∀ q, ctx.rounding.away negative q 0 0 = false := by
    intro q
    cases ctx.rounding <;> simp [Rounding.away]
  rw [round, hr]
  simp only [haway, Bool.false_eq_true, if_false, pow_zero, Nat.div_one]

theorem round_bounds (negative : Bool) (c k : Nat) :
    c / 10 ^ k ≤ ctx.round negative c k ∧ ctx.round negative c k ≤ c / 10 ^ k + 1 := by
  simp only [round]
  split <;> omega

theorem lt_pow_digits (c : Nat) : c < 10 ^ (ctx.prec + (digits c - ctx.prec)) := by
  have hlt := lt_pow_digitCount c
  rw [← digits_eq] at hlt
  exact lt_of_lt_of_le hlt (Nat.pow_le_pow_right (by decide) (by omega))

/-- The value of a rounded number, also when the rounding carries into a new digit. -/
theorem fix_value (hprec : 0 < ctx.prec) (c : Nat) (e : Int) :
    ∃ c' e', ctx.fix (finite false c e) = finite false c' e' ∧ c' < 10 ^ ctx.prec ∧
      (c' : ℚ) * 10 ^ e' =
        ctx.round false c (digits c - ctx.prec) * 10 ^ (digits c - ctx.prec) * 10 ^ e := by
  obtain ⟨k, hk⟩ : ∃ k, digits c - ctx.prec = k := ⟨_, rfl⟩
  have hupper := (@round_bounds ctx false c k).2
  have hquot : c / 10 ^ k < 10 ^ ctx.prec := by
    rw [Nat.div_lt_iff_lt_mul (by positivity), ← pow_add, ← hk]
    exact lt_pow_digits c
  rw [hk]
  by_cases hcarry : ctx.round false c k = 10 ^ ctx.prec
  · refine ⟨10 ^ (ctx.prec - 1), e + k + 1, ?_, ?_, ?_⟩
    · simp only [fix, hk, if_pos hcarry]
    · exact Nat.pow_lt_pow_right (by decide) (by omega)
    · have hsplit : (10 : ℚ) ^ ctx.prec = 10 ^ (ctx.prec - 1) * 10 := by
        rw [← pow_succ]
        congr 1
        omega
      rw [hcarry, zpow_add₀ (by norm_num), zpow_add₀ (by norm_num), zpow_natCast, zpow_one]
      push_cast
      rw [hsplit]
      ring
  · refine ⟨ctx.round false c k, e + k, ?_, by omega, ?_⟩
    · simp only [fix, hk, if_neg hcarry]
    · rw [zpow_add₀ (by norm_num), zpow_natCast]
      ring

/-- One rounding is off by less than one unit of the last digit kept. -/
theorem fix_near (hprec : 0 < ctx.prec) (c : Nat) (e : Int) :
    ctx.Near ctx.ulp (c * (10 : ℚ) ^ e) (ctx.fix (finite false c e)) := by
  obtain ⟨c', e', hfix, hshort, heq⟩ := @fix_value ctx hprec c e
  obtain ⟨k, hk⟩ : ∃ k, digits c - ctx.prec = k := ⟨_, rfl⟩
  obtain ⟨hlower, hupper⟩ := @round_bounds ctx false c k
  rw [hk] at heq
  have hvalue : |(ctx.round false c k : ℚ) * 10 ^ k - c| ≤ c * ctx.ulp := by
    rcases Nat.eq_zero_or_pos k with rfl | hkpos
    · rw [round_zero, pow_zero, mul_one, sub_self, abs_zero, ulp]
      positivity
    · have hlong : 10 ^ (ctx.prec - 1 + k) ≤ c := by
        by_contra hlt
        have hcount := (@digitCount_le_iff c (ctx.prec - 1 + k) (by omega)).mpr (not_le.mp hlt)
        rw [← digits_eq] at hcount
        omega
      have hunit : (10 : ℚ) ^ k ≤ c * ctx.ulp := by
        have hsplit : (10 : ℚ) ^ k * 10 ^ ctx.prec = 10 ^ (ctx.prec - 1 + k) * 10 := by
          rw [← pow_succ, ← pow_add]
          congr 1
          omega
        have hlong' : (10 : ℚ) ^ (ctx.prec - 1 + k) ≤ c := by exact_mod_cast hlong
        rw [ulp, ← mul_div_assoc, le_div_iff₀ (by positivity), hsplit]
        linarith
      have hdiv := Nat.div_add_mod c (10 ^ k)
      have hmod := Nat.mod_lt c (show 0 < 10 ^ k by positivity)
      have hlow := Nat.mul_le_mul_right (10 ^ k) hlower
      have hhigh := Nat.mul_le_mul_right (10 ^ k) hupper
      rw [Nat.mul_comm (c / 10 ^ k)] at hlow
      rw [Nat.add_mul, Nat.mul_comm (c / 10 ^ k), one_mul] at hhigh
      have hle : c ≤ ctx.round false c k * 10 ^ k + 10 ^ k := by omega
      have hge : ctx.round false c k * 10 ^ k ≤ c + 10 ^ k := by omega
      have hle' : (c : ℚ) ≤ ctx.round false c k * 10 ^ k + 10 ^ k := by exact_mod_cast hle
      have hge' : (ctx.round false c k : ℚ) * 10 ^ k ≤ c + 10 ^ k := by exact_mod_cast hge
      rw [abs_le]
      constructor <;> linarith
  have hscale : (0 : ℚ) < 10 ^ e := zpow_pos (by norm_num) e
  obtain ⟨hlow, hhigh⟩ := abs_le.mp hvalue
  refine ⟨⟨c', e', hfix, hshort⟩, ?_, ?_⟩
  · rw [hfix, toRat_unsigned, heq]
    nlinarith
  · rw [hfix, toRat_unsigned, heq]
    nlinarith

theorem shift_down (c : Nat) {e low : Int} (h : low ≤ e) :
    ((c * 10 ^ (e - low).toNat : Nat) : ℚ) * 10 ^ low = c * (10 : ℚ) ^ e := by
  have hexp : ((e - low).toNat : Int) + low = e := by omega
  push_cast
  rw [mul_assoc, ← zpow_natCast, ← zpow_add₀ (by norm_num), hexp]

theorem sum_unsigned (c c' : Nat) (e e' : Int) :
    ctx.sum (finite false c e) (finite false c' e') =
      finite false (c * 10 ^ (e - min e e').toNat + c' * 10 ^ (e' - min e e').toNat)
        (min e e') := by
  have hsign : ∀ n : Nat, ¬(n : Int) < 0 := fun n => by omega
  simp only [sum, signed, Bool.false_eq_true, if_false, ← Nat.cast_add, Int.natAbs_natCast, hsign,
    decide_false, Bool.and_false, ite_self, Bool.or_false]

theorem add_near (hprec : 0 < ctx.prec) (c c' : Nat) (e e' : Int) :
    ctx.Near ctx.ulp ((finite false c e).toRat + (finite false c' e').toRat)
      (ctx.add (finite false c e) (finite false c' e')) := by
  rw [add, sum_unsigned, toRat_unsigned, toRat_unsigned, ← shift_down c (min_le_left e e'),
    ← shift_down c' (min_le_right e e'), ← add_mul, ← Nat.cast_add]
  exact fix_near hprec _ _

theorem sub_near (hprec : 0 < ctx.prec) {c c' : Nat} {e e' : Int} (hfloor : ctx.rounding ≠ .floor)
    (hle : (finite false c' e').toRat ≤ (finite false c e).toRat) :
    ctx.Near ctx.ulp ((finite false c e).toRat - (finite false c' e').toRat)
      (ctx.sub (finite false c e) (finite false c' e')) := by
  have hscale : (0 : ℚ) < 10 ^ min e e' := zpow_pos (by norm_num) _
  have hle' : c' * 10 ^ (e' - min e e').toNat ≤ c * 10 ^ (e - min e e').toNat := by
    rw [toRat_unsigned, toRat_unsigned, ← shift_down c (min_le_left e e'),
      ← shift_down c' (min_le_right e e')] at hle
    exact_mod_cast le_of_mul_le_mul_right hle hscale
  have hsum : ctx.sum (finite false c e) (finite true c' e') =
      finite false (c * 10 ^ (e - min e e').toNat - c' * 10 ^ (e' - min e e').toNat) (min e e') := by
    have hdiff : ((c * 10 ^ (e - min e e').toNat : Nat) : Int) +
        -((c' * 10 ^ (e' - min e e').toNat : Nat) : Int) =
        ((c * 10 ^ (e - min e e').toNat - c' * 10 ^ (e' - min e e').toNat : Nat) : Int) := by
      omega
    have hsign : ∀ n : Nat, ¬(n : Int) < 0 := fun n => by omega
    simp only [sum, signed, Bool.false_eq_true, if_false, if_true, hdiff, Int.natAbs_natCast, hsign,
      decide_false, Bool.false_or, Bool.false_and, if_neg hfloor, Bool.and_false]
  rw [sub, copyNegate, Bool.not_false, hsum, toRat_unsigned, toRat_unsigned,
    ← shift_down c (min_le_left e e'), ← shift_down c' (min_le_right e e'), ← sub_mul,
    ← Nat.cast_sub hle']
  exact fix_near hprec _ _

theorem mul_near (hprec : 0 < ctx.prec) (c c' : Nat) (e e' : Int) :
    ctx.Near ctx.ulp ((finite false c e).toRat * (finite false c' e').toRat)
      (ctx.mul (finite false c e) (finite false c' e')) := by
  have hvalue : (finite false c e).toRat * (finite false c' e').toRat =
      ((c * c' : Nat) : ℚ) * 10 ^ (e + e') := by
    rw [toRat_unsigned, toRat_unsigned, zpow_add₀ (by norm_num)]
    push_cast
    ring
  rw [hvalue]
  exact fix_near hprec (c * c') (e + e')

theorem ulp_pos : 0 < ctx.ulp := by
  rw [ulp]
  positivity

theorem ulp_le_one (hprec : 0 < ctx.prec) : ctx.ulp ≤ 1 := by
  have hten : (10 : ℚ) ≤ 10 ^ ctx.prec := by
    calc (10 : ℚ) = 10 ^ 1 := by norm_num
      _ ≤ 10 ^ ctx.prec := pow_le_pow_right₀ (by norm_num) hprec
  rw [ulp, div_le_one (by positivity)]
  exact hten

/-- A rounded number that was already off by a tenth of a unit. -/
theorem Near.trans (hprec : 0 < ctx.prec) {x v : ℚ} {d : Decimal} (hx : 0 ≤ x)
    (hv : |v - x| ≤ x * (ctx.ulp / 10)) (h : ctx.Near ctx.ulp v d) :
    ctx.Near (2 * ctx.ulp) x d := by
  have hpos := @ulp_pos ctx
  have hone := ulp_le_one hprec
  have hxu : 0 ≤ x * ctx.ulp := mul_nonneg hx hpos.le
  obtain ⟨hlow, hhigh⟩ := abs_le.mp hv
  refine ⟨h.result, le_trans ?_ h.lower, le_trans h.upper ?_⟩
  · calc x * (1 - 2 * ctx.ulp) ≤ x * (1 - ctx.ulp / 10) * (1 - ctx.ulp) := by nlinarith
      _ ≤ v * (1 - ctx.ulp) := by
        apply mul_le_mul_of_nonneg_right _ (by linarith)
        linarith
  · calc v * (1 + ctx.ulp) ≤ x * (1 + ctx.ulp / 10) * (1 + ctx.ulp) := by
          apply mul_le_mul_of_nonneg_right _ (by linarith)
          linarith
      _ ≤ x * (1 + 2 * ctx.ulp) := by nlinarith

/-- The integer quotient has more digits than the precision keeps. -/
theorem le_quotient {c c' s t : Nat} (hc : c ≠ 0)
    (hshift : (s : Int) - t = digits c' - digits c + ctx.prec + 1) :
    c' * 10 ^ t * 10 ^ ctx.prec ≤ c * 10 ^ s := by
  have hpos : 0 < digits c := by
    rw [digits_eq]
    by_contra hzero
    have hlt := lt_pow_digitCount c
    rw [Nat.eq_zero_of_not_pos hzero] at hlt
    omega
  have hlong : 10 ^ (digits c - 1) ≤ c := by
    rcases Nat.eq_or_lt_of_le (show 1 ≤ digits c from hpos) with hone | hmore
    · rw [← hone]
      exact Nat.pos_of_ne_zero hc
    · by_contra hlt
      have hcount := (@digitCount_le_iff c (digits c - 1) (by omega)).mpr (not_le.mp hlt)
      rw [← digits_eq] at hcount
      omega
  have hshort : c' < 10 ^ digits c' := by
    rw [digits_eq]
    exact lt_pow_digitCount c'
  calc c' * 10 ^ t * 10 ^ ctx.prec ≤ 10 ^ digits c' * 10 ^ t * 10 ^ ctx.prec := by
        apply Nat.mul_le_mul_right
        exact Nat.mul_le_mul_right _ hshort.le
    _ = 10 ^ (digits c - 1) * 10 ^ s := by
        rw [← pow_add, ← pow_add, ← pow_add]
        congr 1
        omega
    _ ≤ c * 10 ^ s := Nat.mul_le_mul_right _ hlong

/-- The exact quotient, with both coefficients shifted. -/
theorem div_toRat (shift : Int) {c c' : Nat} (e e' : Int) (hc' : c' ≠ 0) :
    (finite false c e).toRat / (finite false c' e').toRat =
      ((c * 10 ^ shift.toNat : Nat) / (c' * 10 ^ (-shift).toNat : Nat) : ℚ) *
        10 ^ (e - e' - shift) := by
  have hten : ∀ f : Int, (10 : ℚ) ^ f ≠ 0 := fun f => zpow_ne_zero f (by norm_num)
  have hc'' : (c' : ℚ) ≠ 0 := by exact_mod_cast hc'
  have hsplit : (10 : ℚ) ^ shift.toNat = 10 ^ shift * 10 ^ (-shift).toNat := by
    rw [← zpow_natCast, ← zpow_natCast, ← zpow_add₀ (by norm_num)]
    congr 1
    omega
  rw [toRat_unsigned, toRat_unsigned]
  push_cast
  rw [hsplit, zpow_sub₀ (by norm_num), zpow_sub₀ (by norm_num)]
  field_simp [hten]

theorem div_near (hprec : 0 < ctx.prec) (c : Nat) {c' : Nat} (e e' : Int) (hc' : c' ≠ 0) :
    ctx.Near (2 * ctx.ulp) ((finite false c e).toRat / (finite false c' e').toRat)
      (ctx.div (finite false c e) (finite false c' e')) := by
  by_cases hc : c = 0
  · subst hc
    have hzero : ∀ f : Int, (finite false 0 f).toRat = 0 := fun f => by simp [toRat_unsigned]
    rw [hzero, zero_div]
    have hdiv : ctx.div (finite false 0 e) (finite false c' e') = finite false 0 (e - e') := by
      rw [div, if_pos rfl, Bool.xor_false]
    rw [hdiv]
    exact ⟨⟨0, _, rfl, by positivity⟩, by simp [hzero], by simp [hzero]⟩
  obtain ⟨shift, hshift⟩ : ∃ s : Int, (digits c' : Int) - digits c + ctx.prec + 1 = s := ⟨_, rfl⟩
  have hlong := @le_quotient ctx c c' shift.toNat (-shift).toNat hc (by omega)
  obtain ⟨dividend, hdividend⟩ : ∃ n, c * 10 ^ shift.toNat = n := ⟨_, rfl⟩
  obtain ⟨divisor, hdivisor⟩ : ∃ n, c' * 10 ^ (-shift).toNat = n := ⟨_, rfl⟩
  rw [hdividend, hdivisor] at hlong
  have hpos : 0 < divisor := by
    rw [← hdivisor]
    positivity
  have hpos' : (0 : ℚ) < divisor := by exact_mod_cast hpos
  have hquot : 10 ^ ctx.prec ≤ dividend / divisor := by
    rw [Nat.le_div_iff_mul_le hpos, Nat.mul_comm]
    exact hlong
  have hscale : (0 : ℚ) < 10 ^ (e - e' - shift) := zpow_pos (by norm_num) _
  have hvalue : (finite false c e).toRat / (finite false c' e').toRat =
      (dividend / divisor : ℚ) * 10 ^ (e - e' - shift) := by
    rw [div_toRat shift e e' hc', hdividend, hdivisor]
  have hbound : ∀ q : Nat, dividend / divisor ≤ q → q ≤ dividend / divisor + 1 →
      |(q : ℚ) - dividend / divisor| ≤ (dividend / divisor : ℚ) * (ctx.ulp / 10) := by
    intro q hlow hhigh
    have hfloor : ((dividend / divisor : Nat) : ℚ) ≤ dividend / divisor := Nat.cast_div_le
    have hceil : (dividend / divisor : ℚ) ≤ ((dividend / divisor : Nat) : ℚ) + 1 := by
      rw [div_le_iff₀ hpos']
      have hmod := Nat.div_add_mod dividend divisor
      have hlt := Nat.mod_lt dividend hpos
      have hle : dividend ≤ (dividend / divisor + 1) * divisor := by
        rw [Nat.add_mul, one_mul, Nat.mul_comm]
        omega
      exact_mod_cast hle
    have hunit : (1 : ℚ) ≤ (dividend / divisor : ℚ) * (ctx.ulp / 10) := by
      have hge : (10 : ℚ) ^ ctx.prec ≤ dividend / divisor :=
        le_trans (by exact_mod_cast hquot) hfloor
      have hten : (0 : ℚ) < 10 ^ ctx.prec := by positivity
      have hu : ctx.ulp / 10 = 1 / 10 ^ ctx.prec := by
        rw [ulp]
        ring
      rw [hu, mul_one_div, le_div_iff₀ hten, one_mul]
      exact hge
    have hlow' : ((dividend / divisor : Nat) : ℚ) ≤ q := by exact_mod_cast hlow
    have hhigh' : (q : ℚ) ≤ ((dividend / divisor : Nat) : ℚ) + 1 := by exact_mod_cast hhigh
    rw [abs_le]
    constructor <;> linarith
  have hnear : ∀ q : Nat, dividend / divisor ≤ q → q ≤ dividend / divisor + 1 →
      ctx.Near (2 * ctx.ulp) ((dividend / divisor : ℚ) * 10 ^ (e - e' - shift))
        (ctx.fix (finite false q (e - e' - shift))) := by
    intro q hlow hhigh
    refine Near.trans hprec ?_ ?_ (fix_near hprec q _)
    · exact mul_nonneg (div_nonneg (Nat.cast_nonneg _) hpos'.le) hscale.le
    · rw [← sub_mul, abs_mul, abs_of_pos hscale, mul_right_comm]
      exact mul_le_mul_of_nonneg_right (hbound q hlow hhigh) hscale.le
  rw [hvalue, div, if_neg hc]
  simp only [hshift, hdividend, hdivisor, Bool.xor_false]
  split
  · split
    · exact hnear _ (Nat.le_succ _) le_rfl
    · exact hnear _ le_rfl (Nat.le_succ _)
  · have hstrip := stripZeros_value shift.toNat (dividend / divisor) (e - e' - shift)
    rw [pow10_eq_zpow, pow10_eq_zpow] at hstrip
    refine Near.trans hprec ?_ ?_ (fix_near hprec _ _)
    · exact mul_nonneg (div_nonneg (Nat.cast_nonneg _) hpos'.le) hscale.le
    · rw [hstrip, ← sub_mul, abs_mul, abs_of_pos hscale, mul_right_comm]
      exact mul_le_mul_of_nonneg_right (hbound _ le_rfl (Nat.le_succ _)) hscale.le

/-- Rounded half to even, a term below the last digit changes nothing. -/
theorem add_absorb (hprec : 0 < ctx.prec) (hround : ctx.rounding = .halfEven) {c c' : Nat}
    {e e' : Int} (hc : c < 10 ^ ctx.prec)
    (hsmall : (finite false c' e').toRat * 10 ^ (ctx.prec + 1) ≤ (finite false c e).toRat) :
    (ctx.add (finite false c e) (finite false c' e')).toRat = (finite false c e).toRat := by
  obtain ⟨d, hd⟩ : ∃ d, (e - min e e').toNat = d := ⟨_, rfl⟩
  obtain ⟨b, hb⟩ : ∃ b, c' * 10 ^ (e' - min e e').toNat = b := ⟨_, rfl⟩
  have hscale : (0 : ℚ) < 10 ^ min e e' := zpow_pos (by norm_num) _
  have hvalue := shift_down c (min_le_left e e')
  rw [hd] at hvalue
  have hsmall' : b * 10 ^ (ctx.prec + 1) ≤ c * 10 ^ d := by
    rw [toRat_unsigned, toRat_unsigned, ← hvalue, ← shift_down c' (min_le_right e e'), hb,
      mul_right_comm] at hsmall
    exact_mod_cast le_of_mul_le_mul_right hsmall hscale
  obtain ⟨k, hk⟩ : ∃ k, digits (c * 10 ^ d + b) - ctx.prec = k := ⟨_, rfl⟩
  have hlt := @lt_pow_digits ctx (c * 10 ^ d + b)
  rw [hk] at hlt
  have hbk : b * 10 < 10 ^ k := by
    have hmul : b * 10 * 10 ^ ctx.prec < 10 ^ k * 10 ^ ctx.prec := by
      rw [← pow_add, Nat.add_comm k, mul_assoc, ← pow_succ']
      omega
    exact Nat.lt_of_mul_lt_mul_right hmul
  have hbd : b * 10 < 10 ^ d := by
    have hmul : b * 10 * 10 ^ ctx.prec < 10 ^ d * 10 ^ ctx.prec := by
      rw [mul_assoc, ← pow_succ', mul_comm (10 ^ d)]
      exact lt_of_le_of_lt hsmall' (Nat.mul_lt_mul_of_pos_right hc (by positivity))
    exact Nat.lt_of_mul_lt_mul_right hmul
  have hkd : k ≤ d := by
    have hsum : c * 10 ^ d + b < 10 ^ (ctx.prec + d) := by
      have hstep : (c + 1) * 10 ^ d ≤ 10 ^ ctx.prec * 10 ^ d := Nat.mul_le_mul_right _ hc
      rw [← pow_add, Nat.add_mul, one_mul] at hstep
      omega
    have hcount := (@digitCount_le_iff (c * 10 ^ d + b) (ctx.prec + d) (by omega)).mpr hsum
    rw [← digits_eq] at hcount
    omega
  have hrounded : ctx.round false (c * 10 ^ d + b) k = c * 10 ^ (d - k) := by
    have hsplit : c * 10 ^ d = 10 ^ k * (c * 10 ^ (d - k)) := by
      rw [mul_left_comm, ← pow_add]
      congr 2
      omega
    have hdiv : (c * 10 ^ d + b) / 10 ^ k = c * 10 ^ (d - k) := by
      rw [hsplit, Nat.mul_add_div (by positivity), Nat.div_eq_of_lt (by omega), Nat.add_zero]
    have hmod : (c * 10 ^ d + b) % 10 ^ k = b := by
      rw [hsplit, Nat.mul_add_mod, Nat.mod_eq_of_lt (by omega)]
    have haway : ctx.rounding.away false (c * 10 ^ (d - k)) b k = false := by
      rw [hround, Rounding.away, decide_eq_false_iff_not]
      omega
    rw [round, hdiv, hmod]
    simp only [haway, Bool.false_eq_true, if_false]
  obtain ⟨c₁, e₁, hfix, -, heq⟩ := @fix_value ctx hprec (c * 10 ^ d + b) (min e e')
  rw [add, sum_unsigned, hd, hb, hfix, toRat_unsigned, toRat_unsigned, heq, hk, hrounded, ← hvalue]
  have hpow : (10 : ℚ) ^ d = 10 ^ (d - k) * 10 ^ k := by
    rw [← pow_add]
    congr 1
    omega
  push_cast
  rw [hpow]
  ring

end Context

theorem Decimal.beq_of_toRat {x y : Decimal} (hx : x.isFinite) (hy : y.isFinite)
    (h : x.toRat = y.toRat) : x.beq y = true := by
  have hsum := toRat_sum hx (isFinite_copyNegate hy)
  rw [toRat_copyNegate, h, add_neg_cancel] at hsum
  have hfin := isFinite_sum hx (isFinite_copyNegate hy)
  rw [beq]
  cases hdiff : Decimal.sum x y.copyNegate with
  | finite n c e =>
    rw [hdiff, toRat] at hsum
    have hpow : pow10 e ≠ 0 := by
      rw [pow10_eq_zpow]
      exact zpow_ne_zero e (by norm_num)
    have hsign : (if n then (-1 : ℚ) else 1) ≠ 0 := by cases n <;> norm_num
    have hc : (c : ℚ) = 0 := by
      rcases mul_eq_zero.mp hsum with hzero | hzero
      · exact (mul_eq_zero.mp hzero).resolve_left hsign
      · exact absurd hzero hpow
    simpa using hc
  | infinite n => rw [hdiff] at hfin; cases hfin
  | nan => rw [hdiff] at hfin; cases hfin

/-- Decimals that compare equal have one value. -/
theorem Decimal.toRat_of_beq {x y : Decimal} (hx : x.isFinite) (hy : y.isFinite)
    (h : x.beq y = true) : x.toRat = y.toRat := by
  have hsum := toRat_sum hx (isFinite_copyNegate hy)
  rw [toRat_copyNegate] at hsum
  have hfin := isFinite_sum hx (isFinite_copyNegate hy)
  rw [beq] at h
  cases hdiff : Decimal.sum x y.copyNegate with
  | finite n c e =>
    rw [hdiff] at h hsum
    have hc : c = 0 := by simpa using h
    have hzero : (finite n c e).toRat = 0 := by simp [toRat, hc]
    rw [hzero] at hsum
    linarith
  | infinite n => rw [hdiff] at hfin; cases hfin
  | nan => rw [hdiff] at hfin; cases hfin

end EsscherMarket.Lib
