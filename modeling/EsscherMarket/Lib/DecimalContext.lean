import EsscherMarket.Lib.PyTypes

/-!
# Decimal arithmetic in the default context

Sums, differences, products and quotients as Python computes them: the exact result, rounded half
to even to 28 digits.  The bounds of the exponent are left out.
-/

namespace EsscherMarket.Lib

namespace Decimal

def precision : Nat := 28

/-- `c / 10 ^ k`, rounded half to even. -/
def roundHalfEven (c k : Nat) : Nat :=
  let q := c / 10 ^ k
  let r := c % 10 ^ k
  if 10 ^ k < 2 * r ∨ 2 * r = 10 ^ k ∧ q % 2 = 1 then q + 1 else q

def fix : Decimal → Decimal
  | finite n c e =>
    let excess := digitCount c - precision
    let c' := roundHalfEven c excess
    if c' = 10 ^ precision then finite n (10 ^ (precision - 1)) (e + excess + 1)
    else finite n c' (e + excess)
  | d => d

def signed (negative : Bool) (c : Nat) : Int := if negative then -c else c

def sum : Decimal → Decimal → Decimal
  | finite n c e, finite n' c' e' =>
    let low := min e e'
    let total := signed n (c * 10 ^ (e - low).toNat) + signed n' (c' * 10 ^ (e' - low).toNat)
    finite (total < 0 || total == 0 && n && n') total.natAbs low
  | _, _ => nan

def copyNegate : Decimal → Decimal
  | finite n c e => finite (!n) c e
  | infinite n => infinite (!n)
  | nan => nan

/-- `x + y`. -/
def add (x y : Decimal) : Decimal := (sum x y).fix

/-- `x - y`. -/
def sub (x y : Decimal) : Decimal := (sum x y.copyNegate).fix

/-- `x * y`. -/
def times (x y : Decimal) : Decimal := (mul x y).fix

/-- `x / y` for a divisor that is not zero. -/
def div : Decimal → Decimal → Decimal
  | finite n c e, finite n' c' e' =>
    if c = 0 then finite (n ^^ n') 0 (e - e')
    else
      let shift : Int := digitCount c' - digitCount c + precision + 1
      let dividend := c * 10 ^ shift.toNat
      let divisor := c' * 10 ^ (-shift).toNat
      let q := dividend / divisor
      -- an inexact quotient must not look like a tie
      if dividend % divisor ≠ 0 then
        (finite (n ^^ n') (if q % 5 = 0 then q + 1 else q) (e - e' - shift)).fix
      else
        let stripped := stripZeros shift.toNat q (e - e' - shift)
        (finite (n ^^ n') stripped.1 stripped.2).fix
  | _, _ => nan

/-- `-x`; zero gets no sign. -/
def neg : Decimal → Decimal
  | finite n c e => (finite (c != 0 && !n) c e).fix
  | d => d.copyNegate

/-- `abs(x)`. -/
def abs : Decimal → Decimal
  | finite _ c e => (finite false c e).fix
  | infinite _ => infinite false
  | nan => nan

/-- `x < y` of numbers. -/
def lt : Decimal → Decimal → Bool
  | infinite n, infinite n' => n && !n'
  | infinite n, finite _ _ _ => n
  | finite _ _ _, infinite n => !n
  | nan, _ => false
  | _, nan => false
  | x, y => decide (x.toRat < y.toRat)

example : (div (ofNat 1) (ofNat 3)).toText = "0.3333333333333333333333333333" ∧
    (div (ofNat 5) (cents 200)).toText = "2.5" ∧ (div (ofNat 2400) (cents 300)).toText = "8E+2" ∧
    (sub (cents 10) (cents 10)).toText = "0.00" ∧
    (times (finite false 25 (-1)) (ofNat 100)).toText = "250.0" := by decide

/-! ### Rounding -/

theorem digitCount_le_iff {c k : Nat} (hk : 0 < k) : digitCount c ≤ k ↔ c < 10 ^ k := by
  have htext : (toString c).toList = Nat.toDigits 10 c := by
    rw [Nat.toString_eq_ofList_toDigits, String.toList_ofList]
  rw [digitCount, htext]
  exact Nat.length_toDigits_le_iff (by decide) hk

theorem digitCount_le_precision_iff {c : Nat} : digitCount c ≤ precision ↔ c < 10 ^ precision :=
  digitCount_le_iff (by decide)

theorem roundHalfEven_zero (c : Nat) : roundHalfEven c 0 = c := by
  have hdiv : c / 10 ^ 0 = c := by rw [pow_zero, Nat.div_one]
  have hmod : c % 10 ^ 0 = 0 := by rw [pow_zero, Nat.mod_one]
  simp [roundHalfEven, Nat.mod_one]

/-- Nothing is rounded off a multiple. -/
theorem roundHalfEven_mul (c k : Nat) : roundHalfEven (c * 10 ^ k) k = c := by
  have hpos : 0 < 10 ^ k := by positivity
  have hdiv : c * 10 ^ k / 10 ^ k = c := Nat.mul_div_cancel _ hpos
  have hmod : c * 10 ^ k % 10 ^ k = 0 := Nat.mul_mod_left _ _
  rw [roundHalfEven]
  simp only [hdiv, hmod, Nat.mul_zero]
  rw [if_neg]
  omega

theorem le_roundHalfEven (c k : Nat) : c / 10 ^ k ≤ roundHalfEven c k := by
  rw [roundHalfEven]
  split
  · exact Nat.le_succ _
  · exact le_rfl

theorem roundHalfEven_le (c k : Nat) : roundHalfEven c k ≤ c / 10 ^ k + 1 := by
  rw [roundHalfEven]
  split
  · exact le_rfl
  · exact Nat.le_succ _

/-- A result within the precision is kept as it is. -/
theorem fix_of_lt {n : Bool} {c : Nat} {e : Int} (h : c < 10 ^ precision) :
    (finite n c e).fix = finite n c e := by
  have hexcess : digitCount c - precision = 0 := by
    have := digitCount_le_precision_iff.mpr h
    omega
  have hne : c ≠ 10 ^ precision := by omega
  rw [fix]
  simp only [hexcess, roundHalfEven_zero, if_neg hne, Nat.cast_zero, Int.add_zero]

/-- What a result with too many digits is rounded to. -/
theorem fix_of_le {n : Bool} {c : Nat} {e : Int} (h : 10 ^ precision ≤ c) :
    ∃ c' e', (finite n c e).fix = finite n c' e' ∧ c' < 10 ^ precision ∧
      10 ^ (precision - 1) ≤ c' ∧ e < e' := by
  have hlong : precision < digitCount c := by
    by_contra hle
    have := digitCount_le_precision_iff.mp (not_lt.mp hle)
    omega
  obtain ⟨excess, hexcess⟩ : ∃ k, digitCount c = precision + k :=
    ⟨digitCount c - precision, by omega⟩
  have hsub : digitCount c - precision = excess := by omega
  have hpos : 0 < 10 ^ excess := by positivity
  have hupper : c / 10 ^ excess < 10 ^ precision := by
    rw [Nat.div_lt_iff_lt_mul hpos, ← pow_add, ← hexcess]
    exact lt_pow_digitCount c
  have hlower : 10 ^ (precision - 1) ≤ c / 10 ^ excess := by
    rw [Nat.le_div_iff_mul_le hpos, ← pow_add]
    by_contra hlt
    have hprecision : precision = 28 := rfl
    have hcount := (@digitCount_le_iff c (precision - 1 + excess) (by omega)).mpr (not_le.mp hlt)
    omega
  have hround := le_roundHalfEven c excess
  have hround' := roundHalfEven_le c excess
  rw [fix, hsub]
  split
  · refine ⟨_, _, rfl, by decide, le_rfl, ?_⟩
    omega
  · refine ⟨_, _, rfl, by omega, by omega, ?_⟩
    omega

/-- Rounding keeps a finite result finite and within the precision. -/
theorem exists_fix (n : Bool) (c : Nat) (e : Int) :
    ∃ c' e', (finite n c e).fix = finite n c' e' ∧ c' < 10 ^ precision := by
  rcases lt_or_ge c (10 ^ precision) with h | h
  · exact ⟨c, e, fix_of_lt h, h⟩
  · obtain ⟨c', e', hfix, hlt, -, -⟩ := @fix_of_le n c e h
    exact ⟨c', e', hfix, hlt⟩

/-- A coefficient that is a shorter one and zeros is rounded without loss. -/
theorem fix_mul_pow {n : Bool} {k m : Nat} {e : Int} (hk : k < 10 ^ precision) :
    ∃ j ≤ m, (finite n (k * 10 ^ m) e).fix = finite n (k * 10 ^ (m - j)) (e + j) := by
  rcases lt_or_ge (k * 10 ^ m) (10 ^ precision) with h | h
  · exact ⟨0, Nat.zero_le m, by simpa using fix_of_lt h⟩
  · have hlong : digitCount (k * 10 ^ m) ≤ precision + m := by
      have hpos : 0 < precision + m := Nat.add_pos_left (by decide) m
      rw [digitCount_le_iff hpos, pow_add]
      exact Nat.mul_lt_mul_of_pos_right hk (by positivity)
    obtain ⟨j, hj⟩ : ∃ j, digitCount (k * 10 ^ m) - precision = j := ⟨_, rfl⟩
    have hjm : j ≤ m := by omega
    have hsplit : k * 10 ^ m = k * 10 ^ (m - j) * 10 ^ j := by
      rw [mul_assoc, ← pow_add, Nat.sub_add_cancel hjm]
    have hshort : k * 10 ^ (m - j) < 10 ^ precision := by
      have hcount := lt_pow_digitCount (k * 10 ^ m)
      have hle : 10 ^ digitCount (k * 10 ^ m) ≤ 10 ^ (precision + j) :=
        Nat.pow_le_pow_right (by decide) (by omega)
      rw [pow_add] at hle
      rw [hsplit] at hcount hle
      exact Nat.lt_of_mul_lt_mul_right (lt_of_lt_of_le hcount hle)
    refine ⟨j, hjm, ?_⟩
    rw [fix, hj, hsplit, roundHalfEven_mul, if_neg (by omega)]

/-- Rounding loses nothing where some coefficient within the precision has the value. -/
theorem toRat_fix_of_eq {n : Bool} {c : Nat} {e : Int} {k : Nat} {f : Int}
    (hk : k < 10 ^ precision) (h : (c : ℚ) * pow10 e = k * pow10 f) :
    (finite n c e).fix.toRat = (finite n c e).toRat := by
  rcases lt_or_ge c (10 ^ precision) with hc | hc
  · rw [fix_of_lt hc]
  · have hkc : k < c := by omega
    have hpow : (c : ℚ) = k * (10 : ℚ) ^ (f - e) := by
      rw [pow10_eq_zpow, pow10_eq_zpow] at h
      have hne : (10 : ℚ) ^ e ≠ 0 := zpow_ne_zero e (by norm_num)
      rw [zpow_sub₀ (by norm_num), ← mul_div_assoc, ← h, mul_div_cancel_right₀ _ hne]
    have hfe : e ≤ f := by
      by_contra hlt
      have hle : (10 : ℚ) ^ (f - e) ≤ 1 := zpow_le_one_of_nonpos₀ (by norm_num) (by omega)
      have hk0 : (0 : ℚ) ≤ k := Nat.cast_nonneg k
      have hle' : (c : ℚ) ≤ k := hpow ▸ mul_le_of_le_one_right hk0 hle
      have : c ≤ k := by exact_mod_cast hle'
      omega
    obtain ⟨m, hm⟩ : ∃ m : Nat, f - e = m := ⟨(f - e).toNat, by omega⟩
    have hcm : c = k * 10 ^ m := by
      rw [hm, zpow_natCast] at hpow
      exact_mod_cast hpow
    obtain ⟨j, hj, hfix⟩ := @fix_mul_pow n k m e hk
    rw [hcm, hfix]
    simp only [toRat, pow10_eq_zpow]
    have hsplit : ((k * 10 ^ m : Nat) : ℚ) = (k * 10 ^ (m - j) : Nat) * (10 : ℚ) ^ (j : Int) := by
      rw [zpow_natCast]
      exact_mod_cast (by rw [mul_assoc, ← pow_add, Nat.sub_add_cancel hj])
    rw [hsplit, zpow_add₀ (by norm_num)]
    ring

theorem fix_fix (d : Decimal) : d.fix.fix = d.fix := by
  cases d with
  | finite n c e =>
    obtain ⟨c', e', hfix, hlt⟩ := exists_fix n c e
    rw [hfix, fix_of_lt hlt]
  | infinite n => rfl
  | nan => rfl

theorem isFinite_finite (n : Bool) (c : Nat) (e : Int) : (finite n c e).isFinite = true := rfl

theorem isFinite_fix {d : Decimal} (h : d.isFinite) : d.fix.isFinite = true := by
  cases d with
  | finite n c e =>
    obtain ⟨c', e', hfix, -⟩ := exists_fix n c e
    rw [hfix]
    rfl
  | _ => cases h

/-! ### Operations -/

theorem isFinite_sum {x y : Decimal} (hx : x.isFinite) (hy : y.isFinite) :
    (sum x y).isFinite = true := by
  cases x with
  | finite n c e =>
    cases y with
    | finite n' c' e' => rfl
    | _ => cases hy
  | _ => cases hx

theorem isFinite_add {x y : Decimal} (hx : x.isFinite) (hy : y.isFinite) :
    (add x y).isFinite = true :=
  isFinite_fix (isFinite_sum hx hy)

theorem isFinite_copyNegate {x : Decimal} (hx : x.isFinite) : x.copyNegate.isFinite = true := by
  cases x with
  | finite n c e => rfl
  | _ => cases hx

theorem isFinite_sub {x y : Decimal} (hx : x.isFinite) (hy : y.isFinite) :
    (sub x y).isFinite = true :=
  isFinite_add hx (isFinite_copyNegate hy)

theorem isFinite_times {x y : Decimal} (hx : x.isFinite) (hy : y.isFinite) :
    (times x y).isFinite = true :=
  isFinite_fix (isFinite_mul hx hy)

theorem isFinite_div {x y : Decimal} (hx : x.isFinite) (hy : y.isFinite) :
    (div x y).isFinite = true := by
  cases x with
  | finite n c e =>
    cases y with
    | finite n' c' e' =>
      rw [div]
      split
      · rfl
      · dsimp only
        split
        · exact isFinite_fix (isFinite_finite _ _ _)
        · exact isFinite_fix (isFinite_finite _ _ _)
    | _ => cases hy
  | _ => cases hx

theorem isFinite_abs {x : Decimal} (hx : x.isFinite) : x.abs.isFinite = true := by
  cases x with
  | finite n c e => exact isFinite_fix (isFinite_finite _ _ _)
  | _ => cases hx

theorem lt_iff {x y : Decimal} (hx : x.isFinite) (hy : y.isFinite) :
    lt x y = true ↔ x.toRat < y.toRat := by
  cases x with
  | finite n c e =>
    cases y with
    | finite n' c' e' => simp [lt]
    | _ => cases hy
  | _ => cases hx

/-- The negation of a rounded number is exact. -/
theorem toRat_neg_fix {d : Decimal} (h : d.isFinite) : (neg d.fix).toRat = -d.fix.toRat := by
  cases d with
  | finite n c e =>
    obtain ⟨c', e', hfix, hlt⟩ := exists_fix n c e
    rw [hfix, neg, fix_of_lt hlt]
    by_cases hc : c' = 0
    · simp [toRat, hc]
    · cases n <;> simp [toRat, hc]
  | _ => cases h

theorem toRat_copyNegate (d : Decimal) : d.copyNegate.toRat = -d.toRat := by
  cases d with
  | finite n c e => cases n <;> simp [copyNegate, toRat]
  | infinite n => simp [copyNegate, toRat]
  | nan => simp [copyNegate, toRat]

theorem toRat_finite_signed (x : Int) (b : Bool) (hb : x < 0 → b = true) (hb' : 0 < x → b = false)
    (e : Int) : (finite b x.natAbs e).toRat = x * pow10 e := by
  rcases lt_trichotomy x 0 with h | rfl | h
  · rw [hb h, toRat]
    have habs : ((x.natAbs : Nat) : ℚ) = -x := by
      rw [Nat.cast_natAbs, abs_of_neg h, Int.cast_neg]
    rw [habs]
    simp
  · simp [toRat]
  · rw [hb' h, toRat]
    have habs : ((x.natAbs : Nat) : ℚ) = x := by
      rw [Nat.cast_natAbs, abs_of_pos h]
    rw [habs]
    simp

theorem signed_mul_pow (n : Bool) (c : Nat) {e low : Int} (h : low ≤ e) :
    ((signed n (c * 10 ^ (e - low).toNat) : Int) : ℚ) * pow10 low = (finite n c e).toRat := by
  have hpow : pow10 e = (10 : ℚ) ^ (e - low).toNat * pow10 low := by
    rw [pow10_eq_zpow, pow10_eq_zpow, ← zpow_natCast, ← zpow_add₀ (by norm_num)]
    congr 1
    omega
  rw [toRat, hpow]
  cases n <;> simp [signed] <;> ring

theorem toRat_sum {x y : Decimal} (hx : x.isFinite) (hy : y.isFinite) :
    (sum x y).toRat = x.toRat + y.toRat := by
  cases x with
  | finite n c e =>
    cases y with
    | finite n' c' e' =>
      rw [sum, toRat_finite_signed, Int.cast_add, add_mul, signed_mul_pow n c (min_le_left e e'),
        signed_mul_pow n' c' (min_le_right e e')]
      · intro h
        rw [decide_eq_true h, Bool.true_or]
      · intro h
        have hlt : ¬ signed n (c * 10 ^ (e - min e e').toNat) +
          signed n' (c' * 10 ^ (e' - min e e').toNat) < 0 := by omega
        have hne : ¬ signed n (c * 10 ^ (e - min e e').toNat) +
          signed n' (c' * 10 ^ (e' - min e e').toNat) = 0 := by omega
        simp [hlt, hne]
    | _ => cases hy
  | _ => cases hx

/-- A result that is not zero is not rounded to zero. -/
theorem toRat_fix_pos {c : Nat} {e : Int} (h : c ≠ 0) : 0 < (finite false c e).fix.toRat := by
  have hpos : ∀ (c' : Nat) (e' : Int), c' ≠ 0 → 0 < (finite false c' e').toRat := by
    intro c' e' hc'
    have hpow : (0 : ℚ) < pow10 e' := by
      rw [pow10_eq_zpow]
      exact zpow_pos (by norm_num) e'
    have hcast : (0 : ℚ) < c' := by exact_mod_cast Nat.pos_of_ne_zero hc'
    rw [toRat, if_neg (by decide), one_mul]
    exact mul_pos hcast hpow
  rcases lt_or_ge c (10 ^ precision) with hc | hc
  · rw [fix_of_lt hc]
    exact hpos c e h
  · obtain ⟨c', e', hfix, -, hlower, -⟩ := @fix_of_le false c e hc
    rw [hfix]
    exact hpos c' e' (by
      have : 0 < 10 ^ (precision - 1) := by positivity
      omega)

/-- The distance of two different numbers is positive. -/
theorem toRat_abs_sub_pos {x y : Decimal} (hx : x.isFinite) (hy : y.isFinite)
    (h : x.toRat ≠ y.toRat) : 0 < (abs (sub x y)).toRat := by
  have hsum := toRat_sum hx (isFinite_copyNegate hy)
  rw [toRat_copyNegate] at hsum
  have hne : (sum x y.copyNegate).toRat ≠ 0 := by
    rw [hsum, ← sub_eq_add_neg]
    exact sub_ne_zero.mpr h
  rw [sub]
  have hfinite := isFinite_sum hx (isFinite_copyNegate hy)
  cases hs : sum x y.copyNegate with
  | finite n c e =>
    have hc : c ≠ 0 := by
      rintro rfl
      rw [hs] at hne
      simp [toRat] at hne
    obtain ⟨c', e', hfix, hlt⟩ := exists_fix n c e
    have hc' : c' ≠ 0 := by
      rintro rfl
      rcases lt_or_ge c (10 ^ precision) with hshort | hlong
      · rw [fix_of_lt hshort] at hfix
        exact hc (Decimal.finite.inj hfix).2.1
      · obtain ⟨c'', e'', hfix', -, hlower, -⟩ := @fix_of_le n c e hlong
        rw [hfix'] at hfix
        have hzero := (Decimal.finite.inj hfix).2.1
        have : 0 < 10 ^ (precision - 1) := by positivity
        omega
    rw [hfix, abs]
    exact toRat_fix_pos hc'
  | _ =>
    rw [hs] at hfinite
    cases hfinite

theorem abs_toRat_finite (n : Bool) (c : Nat) (e : Int) :
    |(finite n c e).toRat| = (c : ℚ) * pow10 e := by
  have hpow : (0 : ℚ) ≤ pow10 e := by
    rw [pow10_eq_zpow]
    exact (zpow_pos (by norm_num) e).le
  have hcast : (0 : ℚ) ≤ c := Nat.cast_nonneg c
  cases n <;> simp [toRat, abs_mul, abs_of_nonneg hpow]

/-- A result whose magnitude has few enough digits is exact. -/
theorem toRat_fix_of_abs {d : Decimal} (hd : d.isFinite) {k : Nat} {f : Int}
    (hk : k < 10 ^ precision) (h : |d.toRat| = k * pow10 f) : d.fix.toRat = d.toRat := by
  cases d with
  | finite n c e =>
    rw [abs_toRat_finite] at h
    exact toRat_fix_of_eq hk h
  | _ => cases hd

theorem toRat_abs_fix {d : Decimal} (hd : d.isFinite) : (abs d.fix).toRat = |d.fix.toRat| := by
  cases d with
  | finite n c e =>
    obtain ⟨c', e', hfix, hlt⟩ := exists_fix n c e
    rw [hfix, abs, fix_of_lt hlt, abs_toRat_finite]
    simp [toRat]
  | _ => cases hd

/-- The distance of two short numbers at one exponent is exact. -/
theorem toRat_abs_sub {x y : Decimal} (hx : x.isFinite) (hy : y.isFinite) {k l : Nat} {f : Int}
    (hk : k < 10 ^ precision) (hl : l < 10 ^ precision) (hxk : x.toRat = k * pow10 f)
    (hyl : y.toRat = l * pow10 f) : (abs (sub x y)).toRat = |x.toRat - y.toRat| := by
  have hfinite := isFinite_copyNegate hy
  have hsum := toRat_sum hx hfinite
  rw [toRat_copyNegate, ← sub_eq_add_neg] at hsum
  have hsumFinite : (sum x y.copyNegate).isFinite = true := isFinite_sum hx hfinite
  have hpow : (0 : ℚ) ≤ pow10 f := by
    rw [pow10_eq_zpow]
    exact (zpow_pos (by norm_num) f).le
  have hdiff : |(sum x y.copyNegate).toRat| = (((k : Int) - l).natAbs : ℚ) * pow10 f := by
    rw [hsum, hxk, hyl, ← sub_mul, abs_mul, abs_of_nonneg hpow, Nat.cast_natAbs]
    push_cast
    rfl
  rw [sub, toRat_abs_fix hsumFinite, toRat_fix_of_abs hsumFinite (by omega) hdiff, hsum]

/-- A product with one is the other factor, once rounded. -/
theorem fix_times_one (d : Decimal) (hd : d.isFinite) : d.fix.times (ofInt 1) = d.fix := by
  cases d with
  | finite n c e =>
    obtain ⟨c', e', hfix, hlt⟩ := exists_fix n c e
    rw [hfix, times, ofInt, mul]
    simp only [Int.natAbs_one, Nat.mul_one, Int.add_zero]
    rw [fix_of_lt hlt]
    simp
  | _ => cases hd

/-- A product of numbers whose exact product has few enough digits is exact. -/
theorem toRat_times_of_abs {x y : Decimal} (hx : x.isFinite) (hy : y.isFinite) {k : Nat} {f : Int}
    (hk : k < 10 ^ precision) (h : |x.toRat * y.toRat| = k * pow10 f) :
    (times x y).toRat = x.toRat * y.toRat := by
  rw [times, toRat_fix_of_abs (isFinite_mul hx hy) hk (by rw [toRat_mul hx hy, h]),
    toRat_mul hx hy]

/-- A rounded result of a magnitude beyond the precision stays that large. -/
theorem le_toRat_fix {c : Nat} {e : Int} (h : 10 ^ precision ≤ c) :
    (10 : ℚ) ^ ((precision : Int) + e) ≤ (finite false c e).fix.toRat := by
  obtain ⟨c', e', hfix, -, hlower, he⟩ := @fix_of_le false c e h
  have hcast : (10 : ℚ) ^ (precision - 1) ≤ c' := by exact_mod_cast hlower
  have hpow : (10 : ℚ) ^ (e + 1) ≤ pow10 e' := by
    rw [pow10_eq_zpow]
    exact zpow_le_zpow_right₀ (by norm_num) he
  have hsplit : (10 : ℚ) ^ ((precision : Int) + e) = 10 ^ (precision - 1) * 10 ^ (e + 1) := by
    rw [← zpow_natCast, ← zpow_add₀ (by norm_num)]
    congr 1
    have : precision = 28 := rfl
    omega
  rw [hfix, toRat, if_neg (by decide), one_mul, hsplit]
  exact mul_le_mul hcast hpow (zpow_pos (by norm_num) _).le (le_trans (by positivity) hcast)

/-! ### Texts -/

/-- A signed text that starts with a digit is read after its sign. -/
theorem parse_signed (negative : Bool) {c : Char} {rest : List Char} (hc : c.isDigit = true)
    (hplain : ∀ d ∈ c :: rest, isSpace d = false ∧ d ≠ '_') :
    parse (String.ofList ((if negative then ['-'] else []) ++ c :: rest)) =
      parseUnsigned negative (c :: rest) := by
  have hsign : ∀ d ∈ (if negative then ['-'] else [] : List Char), isSpace d = false ∧ d ≠ '_' := by
    cases negative with
    | true =>
      intro d hd
      rw [List.mem_singleton.mp hd]
      decide
    | false => simp
  have hall : ∀ d ∈ (if negative then ['-'] else []) ++ c :: rest, isSpace d = false ∧ d ≠ '_' :=
    fun d hd => (List.mem_append.mp hd).elim (hsign d) (hplain d)
  have hstrip : strip (String.ofList ((if negative then ['-'] else []) ++ c :: rest)) =
      String.ofList ((if negative then ['-'] else []) ++ c :: rest) := by
    refine strip_eq_self fun d hd => ?_
    rw [String.toList_ofList] at hd
    exact (hall d hd).1
  have hfilter : ((if negative then ['-'] else []) ++ c :: rest).filter (· != '_') =
      (if negative then ['-'] else []) ++ c :: rest := by
    rw [List.filter_eq_self]
    intro d hd
    simpa using (hall d hd).2
  rw [parse, hstrip, String.toList_ofList, hfilter]
  cases negative with
  | true => rfl
  | false =>
    simp only [Bool.false_eq_true, if_false, List.nil_append]
    split
    · rename_i cs hcs
      rw [(List.cons.inj hcs).1] at hc
      cases hc
    · rename_i cs hcs
      rw [(List.cons.inj hcs).1] at hc
      cases hc
    · rfl

/-- An exponent, as `str` writes it after the letter. -/
def exponentText (x : Int) : List Char :=
  (if x < 0 then '-' else '+') :: (toString x.natAbs).toList

theorem parseExponent_text (x : Int) : parseExponent (exponentText x) = some x := by
  have htext : (toString x.natAbs).toList = Nat.toDigits 10 x.natAbs := by
    rw [Nat.toString_eq_ofList_toDigits, String.toList_ofList]
  have hdigits : (Nat.toDigits 10 x.natAbs).all Char.isDigit = true := by
    rw [List.all_eq_true]
    exact fun d hd => Nat.isDigit_of_mem_toDigits (by decide) (by decide) hd
  have hvalue : digitsValue (Nat.toDigits 10 x.natAbs) = x.natAbs := by
    rw [digitsValue_eq, Nat.ofDigitChars_ten_toDigits]
  have hne : Nat.toDigits 10 x.natAbs ≠ [] := Nat.toDigits_ne_nil
  rw [exponentText, htext]
  by_cases hx : x < 0
  · rw [if_pos hx, parseExponent, if_pos ⟨hne, hdigits⟩, hvalue]
    congr 1
    omega
  · rw [if_neg hx, parseExponent, if_pos ⟨hne, hdigits⟩, hvalue]
    congr 1
    omega

theorem parseUnsigned_exponent (negative : Bool) {whole fraction point : List Char} (x : Int)
    (hwhole : ∀ c ∈ whole, c.isDigit = true) (hfraction : ∀ c ∈ fraction, c.isDigit = true)
    (hne : whole ≠ []) (hpoint : point = '.' :: fraction ∨ point = [] ∧ fraction = []) :
    parseUnsigned negative (whole ++ (point ++ 'E' :: exponentText x)) =
      some (finite negative (digitsValue (whole ++ fraction)) (x - fraction.length)) := by
  have hnone : whole ++ fraction ≠ [] := by simp [hne]
  have hletter : Char.isDigit 'E' = false := rfl
  have hdot : Char.isDigit '.' = false := rfl
  have hhead : ∀ c ∈ (point ++ 'E' :: exponentText x).head?, c.isDigit = false := by
    rcases hpoint with rfl | ⟨rfl, -⟩
    · intro c hc
      cases hc
      rfl
    · intro c hc
      cases hc
      rfl
  have htake : (whole ++ (point ++ 'E' :: exponentText x)).takeWhile Char.isDigit = whole := by
    rw [List.takeWhile_append_of_pos hwhole]
    cases htail : point ++ 'E' :: exponentText x with
    | nil => simp
    | cons c rest => simp [hhead c (by rw [htail]; rfl)]
  have hdrop : (whole ++ (point ++ 'E' :: exponentText x)).dropWhile Char.isDigit =
      point ++ 'E' :: exponentText x := by
    rw [List.dropWhile_append_of_pos hwhole]
    cases htail : point ++ 'E' :: exponentText x with
    | nil => simp
    | cons c rest => simp [hhead c (by rw [htail]; rfl)]
  have hftake : (fraction ++ 'E' :: exponentText x).takeWhile Char.isDigit = fraction := by
    rw [List.takeWhile_append_of_pos hfraction,
      List.takeWhile_cons_of_neg (by simp [hletter]), List.append_nil]
  have hfdrop : (fraction ++ 'E' :: exponentText x).dropWhile Char.isDigit = 'E' :: exponentText x := by
    rw [List.dropWhile_append_of_pos hfraction,
      List.dropWhile_cons_of_neg (by simp [hletter])]
  have hexp := parseExponent_text x
  unfold parseUnsigned
  rw [htake, hdrop]
  rcases hpoint with rfl | ⟨rfl, rfl⟩
  · simp only [List.cons_append, hftake, hfdrop]
    rw [if_neg hnone]
    simp [hexp]
  · simp [hne, hexp]

theorem digits_spec (c : Nat) : (∀ d ∈ (toString c).toList, d.isDigit = true) ∧
    digitsValue (toString c).toList = c ∧ 1 ≤ (toString c).toList.length := by
  have htext : (toString c).toList = Nat.toDigits 10 c := by
    rw [Nat.toString_eq_ofList_toDigits, String.toList_ofList]
  rw [htext]
  refine ⟨fun d hd => Nat.isDigit_of_mem_toDigits (by decide) (by decide) hd, ?_, ?_⟩
  · rw [digitsValue_eq, Nat.ofDigitChars_ten_toDigits]
  · exact Nat.length_toDigits_pos

theorem digitsValue_zeros (k : Nat) (digits : List Char) :
    digitsValue (List.replicate k '0' ++ digits) = digitsValue digits := by
  rw [digitsValue_eq, digitsValue_eq, Nat.ofDigitChars_append, Nat.ofDigitChars_replicate_zero,
    Nat.mul_zero]

/-- A digit, or a character of an exponent, is neither a space nor an underscore. -/
theorem plain_of_text {c : Char} (h : c.isDigit = true ∨ c = '.' ∨ c = 'E' ∨ c = '-' ∨ c = '+') :
    isSpace c = false ∧ c ≠ '_' := by
  rcases h with h | rfl | rfl | rfl | rfl
  · have hrange := toNat_of_isDigit h
    refine ⟨?_, ?_⟩
    · simp [isSpace]
      omega
    · rintro rfl
      cases h
  all_goals decide

/-- The plain notation of `str`. -/
theorem parse_plain (negative : Bool) (c : Nat) {e : Int} (he : e ≤ 0)
    (hleft : -6 < e + (toString c).toList.length) :
    parse (finite negative c e).toText = some (finite negative c e) := by
  obtain ⟨hdigit, hvalue, hlen⟩ := digits_spec c
  simp only [toText, gt_iff_lt]
  generalize (toString c).toList = digits at *
  simp only [he, hleft, and_self, if_true, List.append_nil]
  rcases le_or_gt (e + digits.length) 0 with hdot | hdot
  · -- a zero, the point, zeros and the digits
    have hfraction : ∀ d ∈ List.replicate (-(e + digits.length)).toNat '0' ++ digits,
        d.isDigit = true := by
      intro d hd
      rcases List.mem_append.mp hd with hd | hd
      · rw [List.eq_of_mem_replicate hd]
        rfl
      · exact hdigit d hd
    have hparse := @parse_digits negative ['0'] _ _ (by simp) hfraction (by simp) (.inl rfl)
    have hzeros : digitsValue (['0'] ++ (List.replicate (-(e + digits.length)).toNat '0' ++ digits)) =
        c := by
      have h := digitsValue_zeros ((-(e + digits.length)).toNat + 1) digits
      rw [List.replicate_succ] at h
      exact h.trans hvalue
    have hexponent : -((List.replicate (-(e + digits.length)).toNat '0' ++ digits).length : Int) = e := by
      rw [List.length_append, List.length_replicate]
      omega
    rw [hzeros, hexponent] at hparse
    simp only [hdot, if_true]
    rw [List.append_assoc, hparse]
  · simp only [not_le.mpr hdot, if_false]
    rcases le_or_gt (digits.length : Int) (e + digits.length) with hwhole | hsplit
    · -- all digits stand before the point
      have hzero : e = 0 := by omega
      have hparse := @parse_digits negative digits [] [] hdigit (by simp)
        (List.ne_nil_of_length_pos hlen) (.inr ⟨rfl, rfl⟩)
      have hlength : ((0 : Int) + digits.length).toNat = digits.length := by omega
      rw [List.append_nil, hvalue] at hparse
      rw [if_pos hwhole, hzero, hlength, Nat.sub_self, List.replicate_zero, List.take_length,
        List.append_nil, List.append_nil, hparse]
      rfl
    · have hpad : (e + digits.length).toNat - digits.length = 0 := by omega
      have hne : digits.take (e + digits.length).toNat ≠ [] := by
        rw [Ne, List.take_eq_nil_iff, ← List.length_eq_zero_iff]
        omega
      have hparse := parse_digits negative (fun d hd => hdigit d (List.mem_of_mem_take hd))
        (fun d hd => hdigit d (List.mem_of_mem_drop hd)) hne
        (.inl (@rfl _ ('.' :: digits.drop (e + digits.length).toNat)))
      have hexponent : -((digits.drop (e + digits.length).toNat).length : Int) = e := by
        rw [List.length_drop]
        omega
      rw [List.take_append_drop, hvalue, hexponent] at hparse
      rw [if_neg (not_le.mpr hsplit), hpad, List.replicate_zero, List.append_nil,
        List.append_assoc, hparse]

theorem exponent_chars {x : Int} {c : Char} (h : c ∈ 'E' :: exponentText x) :
    c.isDigit = true ∨ c = '.' ∨ c = 'E' ∨ c = '-' ∨ c = '+' := by
  rcases List.mem_cons.mp h with rfl | h
  · tauto
  rcases List.mem_cons.mp h with rfl | h
  · by_cases hx : x < 0
    · simp [hx]
    · simp [hx]
  · exact .inl ((digits_spec x.natAbs).1 c h)

/-- The scientific notation of `str`. -/
theorem parse_scientific (negative : Bool) (c : Nat) {e : Int}
    (h : ¬(e ≤ 0 ∧ -6 < e + (toString c).toList.length)) :
    parse (finite negative c e).toText = some (finite negative c e) := by
  obtain ⟨hdigit, hvalue, hlen⟩ := digits_spec c
  simp only [toText, gt_iff_lt]
  generalize (toString c).toList = digits at *
  simp only [h, if_false]
  have hone : e + digits.length ≠ 1 := by omega
  have hzero : ¬ (1 : Int) ≤ 0 := by omega
  simp only [hone, hzero, if_false]
  obtain ⟨d, rest, rfl⟩ := List.exists_cons_of_length_pos hlen
  have hhead : d.isDigit = true := hdigit d List.mem_cons_self
  have hrest : ∀ d' ∈ rest, d'.isDigit = true := fun d' hd' => hdigit d' (List.mem_cons_of_mem d hd')
  set point : List Char := if ((d :: rest).length : Int) ≤ 1 then [] else '.' :: rest with hpoint
  have hcases : point = '.' :: rest ∨ point = [] ∧ rest = [] := by
    cases rest with
    | nil => exact .inr ⟨rfl, rfl⟩
    | cons d' rest' =>
      refine .inl (if_neg ?_)
      simp only [List.length_cons]
      omega
  have hparse := parseUnsigned_exponent negative (e + (d :: rest).length - 1)
    (List.forall_mem_singleton.mpr hhead) hrest (List.cons_ne_nil d []) hcases
  have hexponent : e + (d :: rest).length - 1 - (rest.length : Int) = e := by
    rw [List.length_cons]
    omega
  have hvalue' : digitsValue ([d] ++ rest) = c := hvalue
  rw [hexponent, hvalue'] at hparse
  have hsigned := @parse_signed negative d (point ++ 'E' :: exponentText (e + (d :: rest).length - 1))
    hhead (by
      intro d' hd'
      refine plain_of_text ?_
      rcases List.mem_cons.mp hd' with rfl | hd'
      · exact .inl hhead
      rcases List.mem_append.mp hd' with hd' | hd'
      · rcases hcases with h | ⟨h, -⟩
        · rw [h] at hd'
          rcases List.mem_cons.mp hd' with rfl | hd'
          · exact .inr (.inl rfl)
          · exact .inl (hrest d' hd')
        · rw [h] at hd'
          cases hd'
      · exact exponent_chars hd')
  have hpad : (1 : Int).toNat - (d :: rest).length = 0 := by
    rw [List.length_cons]
    omega
  rw [← hparse, hpad, List.replicate_zero, List.append_nil, List.append_assoc, List.append_assoc]
  exact hsigned

/-- The text of a finite decimal is read back. -/
theorem parse_toText {d : Decimal} (h : d.isFinite) : parse d.toText = some d := by
  cases d with
  | finite n c e =>
    by_cases hplain : e ≤ 0 ∧ -6 < e + (toString c).toList.length
    · exact parse_plain n c hplain.1 hplain.2
    · exact parse_scientific n c hplain
  | _ => cases h

theorem toText_injective {a b : Decimal} (ha : a.isFinite) (hb : b.isFinite)
    (h : a.toText = b.toText) : a = b := by
  have hparse := congrArg parse h
  rw [parse_toText ha, parse_toText hb] at hparse
  exact Option.some.inj hparse

end Decimal

end EsscherMarket.Lib
