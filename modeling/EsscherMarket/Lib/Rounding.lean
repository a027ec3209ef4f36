import Mathlib.Algebra.Order.Floor.Ring
import Mathlib.Data.Int.Log
import Mathlib.Data.Rat.Floor
import Mathlib.Tactic

/-!
# Rounding to a number of digits

The nearest integer and the nearest number of `p` digits in base `b`, half to even, of a positive
rational number.  Exponents have no bounds.
-/

namespace EsscherMarket.Lib

/-! ### The nearest integer -/

def halfEven (x : ℚ) : ℤ :=
  if x - ⌊x⌋ < 1 / 2 then ⌊x⌋
  else if 1 / 2 < x - ⌊x⌋ then ⌊x⌋ + 1
  else if ⌊x⌋ % 2 = 0 then ⌊x⌋ else ⌊x⌋ + 1

/-- It is at most one half away, and even where it is as much as that. -/
theorem halfEven_spec (x : ℚ) :
    |x - halfEven x| ≤ 1 / 2 ∧ (|x - halfEven x| = 1 / 2 → halfEven x % 2 = 0) := by
  have hlow := Int.floor_le x
  have hhigh := Int.lt_floor_add_one x
  rw [halfEven]
  by_cases hbelow : x - ⌊x⌋ < 1 / 2
  · rw [if_pos hbelow, abs_of_nonneg (by linarith)]
    exact ⟨hbelow.le, fun h => absurd h hbelow.ne⟩
  · rw [if_neg hbelow]
    by_cases habove : 1 / 2 < x - ⌊x⌋
    · rw [if_pos habove]
      push_cast
      rw [abs_of_nonpos (by linarith)]
      exact ⟨by linarith, fun h => by linarith⟩
    · have hhalf : x - ⌊x⌋ = 1 / 2 := le_antisymm (not_lt.mp habove) (not_lt.mp hbelow)
      rw [if_neg habove]
      by_cases heven : ⌊x⌋ % 2 = 0
      · rw [if_pos heven, hhalf]
        exact ⟨by norm_num, fun _ => heven⟩
      · rw [if_neg heven]
        push_cast
        rw [show x - (⌊x⌋ + 1) = -(1 / 2) by linarith]
        exact ⟨by norm_num, fun _ => by omega⟩

/-- An integer that is so near to a number is the one that it is rounded to. -/
theorem halfEven_eq {x : ℚ} {m : ℤ} (h : |x - m| ≤ 1 / 2) (heven : |x - m| = 1 / 2 → m % 2 = 0) :
    halfEven x = m := by
  obtain ⟨hspec, hspec_even⟩ := halfEven_spec x
  by_contra hne
  obtain ⟨hlow, hhigh⟩ := abs_le.mp h
  obtain ⟨hlow', hhigh'⟩ := abs_le.mp hspec
  rcases lt_or_gt_of_ne hne with hlt | hgt
  · have hstep : (halfEven x : ℚ) + 1 ≤ m := by exact_mod_cast hlt
    have hm := heven (by rw [abs_eq (by norm_num)]; right; linarith)
    have hx := hspec_even (by rw [abs_eq (by norm_num)]; left; linarith)
    have hone : (m : ℚ) = halfEven x + 1 := by linarith
    have : m = halfEven x + 1 := by exact_mod_cast hone
    omega
  · have hstep : (m : ℚ) + 1 ≤ halfEven x := by exact_mod_cast hgt
    have hm := heven (by rw [abs_eq (by norm_num)]; left; linarith)
    have hx := hspec_even (by rw [abs_eq (by norm_num)]; right; linarith)
    have hone : (halfEven x : ℚ) = m + 1 := by linarith
    have : halfEven x = m + 1 := by exact_mod_cast hone
    omega

theorem halfEven_eq_of_lt {x : ℚ} {m : ℤ} (h : |x - m| < 1 / 2) : halfEven x = m :=
  halfEven_eq h.le fun heq => absurd heq h.ne

@[simp] theorem halfEven_intCast (m : ℤ) : halfEven m = m :=
  halfEven_eq_of_lt (by rw [sub_self, abs_zero]; norm_num)

theorem halfEven_natCast (n : ℕ) : halfEven n = n := by
  have h := halfEven_intCast (n : ℤ)
  rwa [Int.cast_natCast] at h

theorem halfEven_mono {x y : ℚ} (h : x ≤ y) : halfEven x ≤ halfEven y := by
  rcases eq_or_lt_of_le h with rfl | hlt
  · exact le_rfl
  · by_contra hgt
    have hstep : (halfEven y : ℚ) + 1 ≤ halfEven x := by exact_mod_cast not_le.mp hgt
    obtain ⟨-, hx⟩ := abs_le.mp (halfEven_spec x).1
    obtain ⟨hlow, -⟩ := abs_le.mp (halfEven_spec x).1
    obtain ⟨-, hhigh⟩ := abs_le.mp (halfEven_spec y).1
    linarith

/-! ### Digits -/

section Digits

variable {b p : ℕ}

/-- A positive number of at most `p` digits; also the first one with more. -/
def HasDigits (b p : ℕ) (x : ℚ) : Prop :=
  ∃ (k : ℕ) (e : ℤ), 0 < k ∧ k ≤ b ^ p ∧ x = k * (b : ℚ) ^ e

/-- The unit of the last of `p` digits of a positive number. -/
def lastUnit (b p : ℕ) (x : ℚ) : ℚ := (b : ℚ) ^ (Int.log b x - (p - 1 : ℕ))

/-- The nearest number of `p` digits, and the even one where two are nearest. -/
def roundDigits (b p : ℕ) (x : ℚ) : ℚ := halfEven (x / lastUnit b p x) * lastUnit b p x

variable {x y : ℚ}

theorem cast_base_pos (hb : 1 < b) : (0 : ℚ) < b := by exact_mod_cast (by omega : 0 < b)

theorem lastUnit_pos (hb : 1 < b) : 0 < lastUnit b p x := zpow_pos (cast_base_pos hb) _

theorem pow_pred_mul (hp : 0 < p) : (b : ℚ) ^ (p - 1) * b = (b : ℚ) ^ p := by
  rw [← pow_succ, Nat.sub_add_cancel hp]

/-- Counted in its last unit, a number has `p` digits before the point. -/
theorem digits_of_lastUnit (hb : 1 < b) (hp : 0 < p) (hx : 0 < x) :
    (b : ℚ) ^ (p - 1) * lastUnit b p x ≤ x ∧ x < (b : ℚ) ^ p * lastUnit b p x := by
  have hbase := cast_base_pos hb
  have hsplit : (b : ℚ) ^ (p - 1) * lastUnit b p x = (b : ℚ) ^ Int.log b x := by
    rw [lastUnit, ← zpow_natCast, ← zpow_add₀ hbase.ne']
    congr 1
    omega
  have hnext : (b : ℚ) ^ p * lastUnit b p x = (b : ℚ) ^ (Int.log b x + 1) := by
    rw [← pow_pred_mul hp, mul_right_comm, hsplit, zpow_add₀ hbase.ne', zpow_one]
  rw [hsplit, hnext]
  exact ⟨Int.zpow_log_le_self hb hx, Int.lt_zpow_succ_log_self hb x⟩

theorem lastUnit_eq (hb : 1 < b) (hp : 0 < p) {e : ℤ} (hlow : (b : ℚ) ^ (p - 1) * (b : ℚ) ^ e ≤ x)
    (hhigh : x < (b : ℚ) ^ p * (b : ℚ) ^ e) : lastUnit b p x = (b : ℚ) ^ e := by
  have hbase := cast_base_pos hb
  have hone : (1 : ℚ) < b := by exact_mod_cast hb
  have hx : 0 < x := lt_of_lt_of_le (by positivity) hlow
  have hlog : Int.log b x = e + (p - 1 : ℕ) := by
    have hfirst : (b : ℚ) ^ (e + (p - 1 : ℕ)) ≤ x := by
      rw [zpow_add₀ hbase.ne', zpow_natCast, mul_comm]
      exact hlow
    have hlast : x < (b : ℚ) ^ (e + (p - 1 : ℕ) + 1) := by
      have hexp : e + (p - 1 : ℕ) + 1 = e + p := by omega
      rw [hexp, zpow_add₀ hbase.ne', zpow_natCast, mul_comm]
      exact hhigh
    have hle := Int.zpow_log_le_self hb hx
    have hlt := Int.lt_zpow_succ_log_self hb x
    have hup := (zpow_lt_zpow_iff_right₀ hone).mp (lt_of_le_of_lt hle hlast)
    have hdown := (zpow_lt_zpow_iff_right₀ hone).mp (lt_of_le_of_lt hfirst hlt)
    omega
  rw [lastUnit, hlog, add_sub_cancel_right]

theorem roundDigits_eq (hb : 1 < b) (hp : 0 < p) {e : ℤ}
    (hlow : (b : ℚ) ^ (p - 1) * (b : ℚ) ^ e ≤ x) (hhigh : x < (b : ℚ) ^ p * (b : ℚ) ^ e) :
    roundDigits b p x = halfEven (x / (b : ℚ) ^ e) * (b : ℚ) ^ e := by
  rw [roundDigits, lastUnit_eq hb hp hlow hhigh]

/-- A number of `p` digits, written with a unit that leaves none of them behind the point. -/
theorem roundDigits_int (hb : 1 < b) (hp : 0 < p) {k : ℕ} (hlow : b ^ (p - 1) ≤ k)
    (hhigh : k ≤ b ^ p) (e : ℤ) : roundDigits b p (k * (b : ℚ) ^ e) = k * (b : ℚ) ^ e := by
  have hbase := cast_base_pos hb
  have hscale : (0 : ℚ) < (b : ℚ) ^ e := zpow_pos hbase e
  have hlow' : (b : ℚ) ^ (p - 1) ≤ k := by exact_mod_cast hlow
  rcases Nat.eq_or_lt_of_le hhigh with heq | hlt
  · -- the number has one digit more, and is counted in the next unit
    have hvalue : (k : ℚ) * (b : ℚ) ^ e = ((b ^ (p - 1) : ℕ) : ℚ) * (b : ℚ) ^ (e + 1) := by
      rw [heq, zpow_add₀ hbase.ne', zpow_one]
      push_cast
      rw [← pow_pred_mul hp]
      ring
    have hnext : (0 : ℚ) < (b : ℚ) ^ (e + 1) := zpow_pos hbase _
    have hless : (b : ℚ) ^ (p - 1) < (b : ℚ) ^ p :=
      pow_lt_pow_right₀ (by exact_mod_cast hb) (by omega)
    rw [hvalue, @roundDigits_eq b p _ hb hp (e + 1) (by push_cast; exact le_rfl)
      (by push_cast; exact mul_lt_mul_of_pos_right hless hnext), mul_div_cancel_right₀ _ hnext.ne',
      halfEven_natCast, Int.cast_natCast]
  · have hlt' : (k : ℚ) < (b : ℚ) ^ p := by exact_mod_cast hlt
    rw [roundDigits_eq hb hp (mul_le_mul_of_nonneg_right hlow' hscale.le)
      (mul_lt_mul_of_pos_right hlt' hscale), mul_div_cancel_right₀ _ hscale.ne', halfEven_natCast,
      Int.cast_natCast]

/-- Numbers of `p` digits are kept. -/
theorem roundDigits_of_digits (hb : 1 < b) (hp : 0 < p) (h : HasDigits b p x) :
    roundDigits b p x = x := by
  obtain ⟨k, e, hk, hle, rfl⟩ := h
  have hbase := cast_base_pos hb
  -- the number is written with more zeros until it has `p` digits
  have hwide : ∀ n k : ℕ, ∀ e : ℤ, 0 < k → k ≤ b ^ p → b ^ (p - 1) ≤ k * b ^ n →
      roundDigits b p (k * (b : ℚ) ^ e) = k * (b : ℚ) ^ e := by
    intro n
    induction n with
    | zero => exact fun k e _ hle hlong => roundDigits_int hb hp (by simpa using hlong) hle e
    | succ n ih =>
      intro k e hk hle hlong
      by_cases hdone : b ^ (p - 1) ≤ k
      · exact roundDigits_int hb hp hdone hle e
      · have hmore : k * b ≤ b ^ p := by
          calc k * b ≤ b ^ (p - 1) * b := Nat.mul_le_mul_right b (by omega)
            _ = b ^ p := by rw [← pow_succ, Nat.sub_add_cancel hp]
        have hvalue : (k : ℚ) * (b : ℚ) ^ e = ((k * b : ℕ) : ℚ) * (b : ℚ) ^ (e - 1) := by
          rw [zpow_sub₀ hbase.ne', zpow_one]
          push_cast
          field_simp
        rw [hvalue]
        refine ih (k * b) (e - 1) (Nat.mul_pos hk (by omega)) hmore ?_
        rwa [pow_succ', ← mul_assoc] at hlong
  refine hwide p k e hk hle ?_
  calc b ^ (p - 1) ≤ b ^ p := Nat.pow_le_pow_right (by omega) (by omega)
    _ ≤ k * b ^ p := Nat.le_mul_of_pos_left _ hk

/-- Rounding keeps the order. -/
theorem roundDigits_mono (hb : 1 < b) (hp : 0 < p) (hx : 0 < x) (h : x ≤ y) :
    roundDigits b p x ≤ roundDigits b p y := by
  have hbase := cast_base_pos hb
  have hy : 0 < y := lt_of_lt_of_le hx h
  obtain ⟨-, hxhigh⟩ := digits_of_lastUnit hb hp hx
  obtain ⟨hylow, -⟩ := digits_of_lastUnit hb hp hy
  have hxu := @lastUnit_pos b p x hb
  have hyu := @lastUnit_pos b p y hb
  rcases eq_or_lt_of_le (Int.log_mono_right hx h : Int.log b x ≤ Int.log b y) with heq | hlt
  · have hunit : lastUnit b p x = lastUnit b p y := by rw [lastUnit, heq, lastUnit]
    rw [roundDigits, roundDigits, hunit]
    have hle : halfEven (x / lastUnit b p y) ≤ halfEven (y / lastUnit b p y) :=
      halfEven_mono (div_le_div_of_nonneg_right h hyu.le)
    exact mul_le_mul_of_nonneg_right (by exact_mod_cast hle) hyu.le
  · -- the first number with more digits than `x` lies between
    have hbelow : roundDigits b p x ≤ (b : ℚ) ^ p * lastUnit b p x := by
      have hle : halfEven (x / lastUnit b p x) ≤ halfEven ((b ^ p : ℕ) : ℚ) := by
        refine halfEven_mono ((div_le_iff₀ hxu).mpr ?_)
        push_cast
        exact hxhigh.le
      rw [halfEven_natCast] at hle
      refine mul_le_mul_of_nonneg_right ?_ hxu.le
      exact_mod_cast hle
    have habove : (b : ℚ) ^ (p - 1) * lastUnit b p y ≤ roundDigits b p y := by
      have hle : halfEven ((b ^ (p - 1) : ℕ) : ℚ) ≤ halfEven (y / lastUnit b p y) := by
        refine halfEven_mono ((le_div_iff₀ hyu).mpr ?_)
        push_cast
        exact hylow
      rw [halfEven_natCast] at hle
      refine mul_le_mul_of_nonneg_right ?_ hyu.le
      exact_mod_cast hle
    have hunits : (b : ℚ) ^ p * lastUnit b p x ≤ (b : ℚ) ^ (p - 1) * lastUnit b p y := by
      rw [← pow_pred_mul hp, mul_assoc]
      refine mul_le_mul_of_nonneg_left ?_ (by positivity)
      rw [lastUnit, lastUnit, ← zpow_one_add₀ hbase.ne']
      exact zpow_le_zpow_right₀ (by exact_mod_cast hb.le) (by omega)
    exact le_trans hbelow (le_trans hunits habove)

/-- The error is at most half a unit. -/
theorem abs_sub_roundDigits (hb : 1 < b) : |x - roundDigits b p x| ≤ lastUnit b p x / 2 := by
  have hunit := @lastUnit_pos b p x hb
  have hspec := (halfEven_spec (x / lastUnit b p x)).1
  have hvalue : x - roundDigits b p x =
      (x / lastUnit b p x - halfEven (x / lastUnit b p x)) * lastUnit b p x := by
    rw [roundDigits, sub_mul, div_mul_cancel₀ _ hunit.ne']
  rw [hvalue, abs_mul, abs_of_pos hunit]
  nlinarith

theorem hasDigits_roundDigits (hb : 1 < b) (hp : 0 < p) (hx : 0 < x) :
    HasDigits b p (roundDigits b p x) := by
  have hunit := @lastUnit_pos b p x hb
  obtain ⟨hlow, hhigh⟩ := digits_of_lastUnit hb hp hx
  have hge : ((b ^ (p - 1) : ℕ) : ℤ) ≤ halfEven (x / lastUnit b p x) := by
    rw [← halfEven_natCast]
    refine halfEven_mono ((le_div_iff₀ hunit).mpr ?_)
    push_cast
    exact hlow
  have hle : halfEven (x / lastUnit b p x) ≤ ((b ^ p : ℕ) : ℤ) := by
    rw [← halfEven_natCast]
    refine halfEven_mono ((div_le_iff₀ hunit).mpr ?_)
    push_cast
    exact hhigh.le
  have hpos : 0 < b ^ (p - 1) := Nat.pow_pos (by omega)
  refine ⟨(halfEven (x / lastUnit b p x)).toNat, Int.log b x - (p - 1 : ℕ), by omega, by omega, ?_⟩
  have hcast : (((halfEven (x / lastUnit b p x)).toNat : ℤ) : ℚ) = halfEven (x / lastUnit b p x) := by
    rw [Int.toNat_of_nonneg (by omega)]
  rw [roundDigits, ← hcast, lastUnit]
  push_cast
  rfl

theorem HasDigits.pos (hb : 1 < b) (h : HasDigits b p x) : 0 < x := by
  obtain ⟨k, e, hk, -, rfl⟩ := h
  exact mul_pos (by exact_mod_cast hk) (zpow_pos (cast_base_pos hb) e)

theorem roundDigits_pos (hb : 1 < b) (hp : 0 < p) (hx : 0 < x) : 0 < roundDigits b p x :=
  (hasDigits_roundDigits hb hp hx).pos hb

/-- Rounding commutes with the powers of the base. -/
theorem roundDigits_mul_zpow (hb : 1 < b) (hp : 0 < p) (hx : 0 < x) (e : ℤ) :
    roundDigits b p (x * (b : ℚ) ^ e) = roundDigits b p x * (b : ℚ) ^ e := by
  have hbase := cast_base_pos hb
  have hscale : (0 : ℚ) < (b : ℚ) ^ e := zpow_pos hbase e
  have hunit := @lastUnit_pos b p x hb
  obtain ⟨hlow, hhigh⟩ := digits_of_lastUnit hb hp hx
  have hsplit : (b : ℚ) ^ (Int.log b x - (p - 1 : ℕ) + e) = lastUnit b p x * (b : ℚ) ^ e := by
    rw [zpow_add₀ hbase.ne', lastUnit]
  have hround := @roundDigits_eq b p (x * (b : ℚ) ^ e) hb hp (Int.log b x - (p - 1 : ℕ) + e)
    (by rw [hsplit, ← mul_assoc]; exact mul_le_mul_of_nonneg_right hlow hscale.le)
    (by rw [hsplit, ← mul_assoc]; exact mul_lt_mul_of_pos_right hhigh hscale)
  rw [hround, hsplit, mul_div_mul_right _ _ hscale.ne', roundDigits, mul_assoc]

/-- A natural number up to the first one with more digits. -/
theorem hasDigits_natCast {n : ℕ} (hn : 0 < n) (hle : n ≤ b ^ p) : HasDigits b p n :=
  ⟨n, 0, hn, hle, by rw [zpow_zero, mul_one]⟩

end Digits

end EsscherMarket.Lib
