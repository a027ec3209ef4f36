import EsscherMarket.Lib.DecimalBounds
import EsscherMarket.Lib.Txn
import Mathlib.Data.Rat.Floor

/-!
# The default context with its signals

`+`, `-`, `*`, `/` and `//` of decimals in the default context: the result is rounded to 28 digits,
exponent bounds included, and an overflow, a division by zero or a quotient of too many digits
raises.
-/

namespace EsscherMarket.Lib

/-- The trapped signals of the default context. -/
inductive DecimalSignal where
  | overflow
  | divisionByZero
  | invalidOperation
  deriving DecidableEq, Repr

namespace Decimal

/-! ### Operations -/

/-- What an operation returns, given its exact result. -/
def result (d : Decimal) : Except DecimalSignal Decimal :=
  match d.bound with
  | some r => .ok r
  | none => .error .overflow

/-- `x + y`. -/
def plus (x y : Decimal) : Except DecimalSignal Decimal := (sum x y).result

/-- `x - y`. -/
def minus (x y : Decimal) : Except DecimalSignal Decimal := (sum x y.copyNegate).result

/-- `x * y`. -/
def product (x y : Decimal) : Except DecimalSignal Decimal := (mul x y).result

/-- `-x` of a number; zero gets no sign. -/
def negated : Decimal → Except DecimalSignal Decimal
  | finite n c e => (finite (c != 0 && !n) c e).result
  | d => .ok d.copyNegate

/-- A quotient with more digits than the precision has ends in neither zero nor five where there is
a rest, so it is rounded as the exact one. -/
def quotient : Decimal → Decimal → Decimal
  | finite n c e, finite n' c' e' =>
    if c = 0 then finite (n ^^ n') 0 (e - e')
    else
      let shift : Int := digitCount c' - digitCount c + precision + 1
      let dividend := c * 10 ^ shift.toNat
      let divisor := c' * 10 ^ (-shift).toNat
      let q := dividend / divisor
      if dividend % divisor ≠ 0 then
        finite (n ^^ n') (if q % 5 = 0 then q + 1 else q) (e - e' - shift)
      else
        let stripped := stripZeros shift.toNat q (e - e' - shift)
        finite (n ^^ n') stripped.1 stripped.2
  | _, _ => nan

/-- `x / y`. -/
def dividedBy (x y : Decimal) : Except DecimalSignal Decimal :=
  if y.toRat = 0 then .error (if x.toRat = 0 then .invalidOperation else .divisionByZero)
  else (quotient x y).result

/-- `int(x // y)` for a divisor that is not zero: the quotient is truncated towards zero, and has
at most 28 digits. -/
def floorQuotient (x y : Decimal) : Except DecimalSignal Int :=
  let q := x.toRat / y.toRat
  let truncated := if 0 ≤ q then ⌊q⌋ else ⌈q⌉
  if truncated.natAbs < 10 ^ precision then .ok truncated else .error .invalidOperation

/-- `sum(values, start)`. -/
def sumFrom : Decimal → List Decimal → Except DecimalSignal Decimal
  | total, [] => .ok total
  | total, x :: rest => do
    let next ← plus total x
    sumFrom next rest

/-! ### Where a result overflows -/

/-- The exponent of the last digit of the largest number. -/
def etop : Int := emax - 27

def overflowLimit : ℚ := (10 ^ precision - 1 / 2) * (10 : ℚ) ^ etop

theorem ten_zpow_pos (e : Int) : (0 : ℚ) < (10 : ℚ) ^ e := zpow_pos (by norm_num) e

theorem overflowLimit_pos : 0 < overflowLimit :=
  mul_pos (by norm_num [precision]) (ten_zpow_pos etop)

theorem pow_emin_lt_overflowLimit : (10 : ℚ) ^ emin < overflowLimit := by
  have hexponent : emin ≤ etop := by decide
  have hone : (1 : ℚ) < 10 ^ precision - 1 / 2 := by norm_num [precision]
  calc (10 : ℚ) ^ emin ≤ (10 : ℚ) ^ etop := zpow_le_zpow_right₀ (by norm_num) hexponent
    _ = 1 * (10 : ℚ) ^ etop := (one_mul _).symm
    _ < overflowLimit := mul_lt_mul_of_pos_right hone (ten_zpow_pos etop)

theorem lt_overflowLimit {x : ℚ} (h : x ≤ 10 ^ 27) : x < overflowLimit := by
  have hone : (1 : ℚ) ≤ (10 : ℚ) ^ etop := one_le_zpow₀ (by norm_num) (by decide)
  have hmul := mul_le_mul_of_nonneg_left hone
    (by norm_num [precision] : (0 : ℚ) ≤ 10 ^ precision - 1 / 2)
  rw [overflowLimit]
  refine lt_of_lt_of_le ?_ hmul
  refine lt_of_le_of_lt h ?_
  norm_num [precision]

/-- The rounded coefficient of a number that is too long reaches the next power exactly if the
number is within half a unit of it. -/
theorem roundHalfEven_eq_pow {c k p : Nat} (hp : 0 < p) (hc : c < 10 ^ (p + k)) (hk : 0 < k) :
    roundHalfEven c k = 10 ^ p ↔ (2 * 10 ^ p - 1) * 10 ^ k ≤ 2 * c := by
  have hpos : 0 < 10 ^ k := by positivity
  have hquotient : c / 10 ^ k < 10 ^ p := by
    rw [Nat.div_lt_iff_lt_mul hpos, ← pow_add]
    exact hc
  have hrest := Nat.mod_lt c hpos
  have hsplit := Nat.div_add_mod c (10 ^ k)
  have hten : 10 ^ p = 10 * 10 ^ (p - 1) := by
    rw [← pow_succ', Nat.sub_add_cancel hp]
  have htenk : 10 ^ k = 10 * 10 ^ (k - 1) := by
    rw [← pow_succ', Nat.sub_add_cancel hk]
  have hmul : (2 * 10 ^ p - 1) * 10 ^ k = 10 ^ k * (2 * (10 ^ p - 1)) + 10 ^ k := by
    have hpower : 0 < 10 ^ p := by positivity
    have hone : 2 * 10 ^ p - 1 = 2 * (10 ^ p - 1) + 1 := by omega
    rw [hone]
    ring
  rw [hmul, roundHalfEven]
  obtain ⟨q, hq⟩ : ∃ q, c / 10 ^ k = q := ⟨_, rfl⟩
  obtain ⟨r, hr⟩ : ∃ r, c % 10 ^ k = r := ⟨_, rfl⟩
  obtain ⟨u, hu⟩ : ∃ u, 10 ^ k = u := ⟨_, rfl⟩
  obtain ⟨v, hv⟩ : ∃ v, 10 ^ p = v := ⟨_, rfl⟩
  obtain ⟨w, hw⟩ : ∃ w, 10 ^ (k - 1) = w := ⟨_, rfl⟩
  obtain ⟨x, hx⟩ : ∃ x, 10 ^ (p - 1) = x := ⟨_, rfl⟩
  simp only [hq, hr] at hquotient hrest hsplit ⊢
  simp only [hu, hv, hw, hx] at hquotient hrest hsplit hten htenk hpos ⊢
  rcases Nat.lt_or_ge q (v - 1) with hlow | hhigh
  · -- even the next integer is below the power, and twice the number below the bound
    have hnext : 2 * (u * q) + 2 * u ≤ u * (2 * (v - 1)) := by
      have hle : 2 * q + 2 ≤ 2 * (v - 1) := by omega
      have := Nat.mul_le_mul_left u hle
      linarith
    constructor
    · intro h
      split_ifs at h <;> omega
    · intro h
      omega
  · have heq : q = v - 1 := by omega
    have hodd : q % 2 = 1 := by omega
    have hsame : u * (2 * (v - 1)) = 2 * (u * q) := by
      rw [heq]
      ring
    rw [hsame]
    simp only [hodd, and_true]
    constructor
    · intro h
      split_ifs at h <;> omega
    · intro h
      rw [if_pos (by omega)]
      omega

theorem pow_adjusted_le {c : Nat} (hc : c ≠ 0) (e : Int) :
    (10 : ℚ) ^ adjusted c e ≤ c * (10 : ℚ) ^ e := by
  have hcount := digitCount_pos c
  have hlower : (10 : ℚ) ^ ((digitCount c - 1 : Nat) : Int) ≤ c := by
    rw [zpow_natCast]
    exact_mod_cast pow_digitCount_le hc
  have hsplit : (10 : ℚ) ^ adjusted c e =
      (10 : ℚ) ^ ((digitCount c - 1 : Nat) : Int) * (10 : ℚ) ^ e := by
    rw [← zpow_add₀ (by norm_num)]
    congr 1
    rw [adjusted]
    omega
  rw [hsplit]
  exact mul_le_mul_of_nonneg_right hlower (ten_zpow_pos e).le

/-- A number within the precision does not overflow as long as its leading digit is in range. -/
theorem lt_overflowLimit_of_short {c : Nat} {e : Int} (hc : c < 10 ^ precision)
    (he : adjusted c e ≤ emax) : c * (10 : ℚ) ^ e < overflowLimit := by
  have hcount := digitCount_le_precision_iff.mpr hc
  obtain ⟨j, hj⟩ : ∃ j, precision - digitCount c = j := ⟨_, rfl⟩
  have hlong : c * 10 ^ j + 1 ≤ 10 ^ precision := by
    have hsplit : precision = digitCount c + j := by omega
    rw [hsplit, pow_add]
    exact Nat.mul_lt_mul_of_pos_right (lt_pow_digitCount c) (by positivity)
  have hvalue : (c : ℚ) * (10 : ℚ) ^ e = ((c * 10 ^ j : Nat) : ℚ) * (10 : ℚ) ^ (e - j) := by
    rw [zpow_sub₀ (by norm_num), zpow_natCast]
    push_cast
    field_simp
  have hexponent : e - j ≤ etop := by
    have hemax : etop = emax - 27 := rfl
    have hprecision : precision = 28 := rfl
    rw [adjusted] at he
    omega
  have hcoefficient : ((c * 10 ^ j : Nat) : ℚ) + 1 ≤ 10 ^ precision := by exact_mod_cast hlong
  rw [hvalue, overflowLimit]
  calc ((c * 10 ^ j : Nat) : ℚ) * (10 : ℚ) ^ (e - j)
      ≤ ((c * 10 ^ j : Nat) : ℚ) * (10 : ℚ) ^ etop := by
        apply mul_le_mul_of_nonneg_left _ (Nat.cast_nonneg _)
        exact zpow_le_zpow_right₀ (by norm_num) hexponent
    _ < (10 ^ precision - 1 / 2) * (10 : ℚ) ^ etop := by
        apply mul_lt_mul_of_pos_right _ (ten_zpow_pos etop)
        linarith

/-- A number whose leading digit is out of range overflows. -/
theorem overflowLimit_le_of_adjusted {c : Nat} {e : Int} (hc : c ≠ 0) (he : emax < adjusted c e) :
    overflowLimit ≤ c * (10 : ℚ) ^ e := by
  have hexponent : (precision : Int) + etop ≤ adjusted c e := by
    have hemax : etop = emax - 27 := rfl
    have hprecision : precision = 28 := rfl
    omega
  calc overflowLimit ≤ (10 : ℚ) ^ precision * (10 : ℚ) ^ etop := by
        apply mul_le_mul_of_nonneg_right _ (ten_zpow_pos etop).le
        norm_num
    _ = (10 : ℚ) ^ ((precision : Int) + etop) := by
        rw [zpow_add₀ (by norm_num), zpow_natCast]
    _ ≤ (10 : ℚ) ^ adjusted c e := zpow_le_zpow_right₀ (by norm_num) hexponent
    _ ≤ c * (10 : ℚ) ^ e := pow_adjusted_le hc e

/-- A number that is too long overflows exactly from the limit on. -/
theorem long_overflows_iff (n : Bool) {c k : Nat} {e : Int} (hk : 0 < k)
    (hcount : digitCount c = precision + k) :
    (match (finite n c e).fix with
      | finite n c e => if emax < adjusted c e then none else some (finite n c e)
      | d => some d) = none ↔ overflowLimit ≤ c * (10 : ℚ) ^ e := by
  have hc : c ≠ 0 := by
    rintro rfl
    have hone : digitCount 0 = 1 := by decide
    have hprecision : precision = 28 := rfl
    omega
  have hupper : c < 10 ^ (precision + k) := by
    rw [← hcount]
    exact lt_pow_digitCount c
  have hlower : 10 ^ (precision + k - 1) ≤ c := by
    rw [← hcount]
    exact pow_digitCount_le hc
  have hreaches := roundHalfEven_eq_pow (by decide : 0 < precision) hupper hk
  have hexcess : digitCount c - precision = k := by omega
  have hfull : digitCount (10 ^ (precision - 1)) = precision := by decide
  have hemax : etop = emax - 27 := rfl
  have hprecision : precision = 28 := rfl
  have hround : 10 ^ (precision - 1) ≤ roundHalfEven c k := by
    refine le_trans ?_ (le_roundHalfEven c k)
    rw [Nat.le_div_iff_mul_le (by positivity), ← pow_add]
    have hsame : precision - 1 + k = precision + k - 1 := by omega
    rw [hsame]
    exact hlower
  rw [fix, hexcess]
  rcases lt_trichotomy (e + k) etop with hlow | heq | hhigh
  · -- one more digit still fits
    have hnone : c * (10 : ℚ) ^ e < overflowLimit := by
      have hexponent : adjusted c e + 1 ≤ (precision : Int) + (etop - 1) := by
        rw [adjusted]
        omega
      have hten : (10 : ℚ) ^ (adjusted c e + 1) ≤ (10 : ℚ) ^ ((precision : Int) + (etop - 1)) :=
        zpow_le_zpow_right₀ (by norm_num) hexponent
      have hvalue := lt_pow_adjusted false c e
      rw [abs_toRat_finite, pow10_eq_zpow] at hvalue
      have hlimit : (10 : ℚ) ^ ((precision : Int) + (etop - 1)) ≤ overflowLimit := by
        rw [zpow_add₀ (by norm_num), zpow_natCast, zpow_sub_one₀ (by norm_num), overflowLimit]
        have hpos := ten_zpow_pos etop
        have hscale : (10 : ℚ) ^ precision * 10⁻¹ ≤ 10 ^ precision - 1 / 2 := by
          norm_num [precision]
        have hmul := mul_le_mul_of_nonneg_right hscale hpos.le
        linarith
      linarith
    refine iff_of_false ?_ (not_le.mpr hnone)
    by_cases hpower : roundHalfEven c k = 10 ^ precision
    · rw [if_pos hpower]
      dsimp only
      rw [if_neg (by rw [adjusted, hfull]; omega)]
      exact Option.some_ne_none _
    · have hlt : roundHalfEven c k < 10 ^ precision := by
        have hle := roundHalfEven_le c k
        have hdiv : c / 10 ^ k < 10 ^ precision := by
          rw [Nat.div_lt_iff_lt_mul (by positivity), ← pow_add]
          exact hupper
        omega
      have hcount' := digitCount_le_precision_iff.mpr hlt
      rw [if_neg hpower]
      dsimp only
      rw [if_neg (by rw [adjusted]; omega)]
      exact Option.some_ne_none _
  · -- the last digit is at the top: only the next power does not fit
    have hvalue : (c : ℚ) * (10 : ℚ) ^ e * 10 ^ k = c * (10 : ℚ) ^ etop := by
      rw [← heq, zpow_add₀ (by norm_num), zpow_natCast]
      ring
    have hpow : (0 : ℚ) < (10 : ℚ) ^ k := by positivity
    have hlimit : overflowLimit ≤ c * (10 : ℚ) ^ e ↔ (2 * 10 ^ precision - 1) * 10 ^ k ≤ 2 * c := by
      rw [← mul_le_mul_iff_left₀ hpow, hvalue, overflowLimit, mul_right_comm,
        mul_le_mul_iff_left₀ (ten_zpow_pos etop)]
      have hcast : ((2 * 10 ^ precision - 1 : Nat) : ℚ) = 2 * 10 ^ precision - 1 := by
        norm_num [precision]
      rw [← @Nat.cast_le ℚ]
      rw [Nat.cast_mul, hcast]
      push_cast
      constructor
      · intro h
        linarith
      · intro h
        linarith
    rw [hlimit, ← hreaches]
    by_cases hpower : roundHalfEven c k = 10 ^ precision
    · rw [if_pos hpower]
      dsimp only
      rw [if_pos (by rw [adjusted, hfull]; omega)]
      exact iff_of_true rfl hpower
    · have hlt : roundHalfEven c k < 10 ^ precision := by
        have hle := roundHalfEven_le c k
        have hdiv : c / 10 ^ k < 10 ^ precision := by
          rw [Nat.div_lt_iff_lt_mul (by positivity), ← pow_add]
          exact hupper
        omega
      have hcount' := digitCount_le_precision_iff.mpr hlt
      rw [if_neg hpower]
      dsimp only
      rw [if_neg (by rw [adjusted]; omega)]
      exact iff_of_false (Option.some_ne_none _) hpower
  · have hlimit : overflowLimit ≤ c * (10 : ℚ) ^ e := by
      refine overflowLimit_le_of_adjusted hc ?_
      rw [adjusted]
      omega
    refine iff_of_true ?_ hlimit
    by_cases hpower : roundHalfEven c k = 10 ^ precision
    · rw [if_pos hpower]
      dsimp only
      rw [if_pos (by rw [adjusted, hfull]; omega)]
    · have hlong : precision ≤ digitCount (roundHalfEven c k) := by
        by_contra hshort
        have hlt := (digitCount_le_iff (c := roundHalfEven c k) (by decide : 0 < precision - 1)).mp
          (by omega)
        omega
      rw [if_neg hpower]
      dsimp only
      rw [if_pos (by rw [adjusted]; omega)]

/-- A result overflows exactly from the limit on. -/
theorem bound_eq_none_iff {d : Decimal} (hd : d.isFinite) :
    d.bound = none ↔ overflowLimit ≤ |d.toRat| := by
  cases d with
  | finite n c e =>
    rw [abs_toRat_finite, pow10_eq_zpow, bound]
    by_cases hzero : c = 0
    · rw [if_pos hzero, hzero, Nat.cast_zero, zero_mul]
      exact iff_of_false (Option.some_ne_none _) (not_le.mpr overflowLimit_pos)
    rw [if_neg hzero]
    by_cases hsmall : adjusted c e < emin
    · rw [if_pos hsmall]
      refine iff_of_false (Option.some_ne_none _) (not_le.mpr ?_)
      have hvalue := lt_pow_adjusted false c e
      rw [abs_toRat_finite, pow10_eq_zpow] at hvalue
      have hten : (10 : ℚ) ^ (adjusted c e + 1) ≤ (10 : ℚ) ^ emin :=
        zpow_le_zpow_right₀ (by norm_num) hsmall
      have hlimit := pow_emin_lt_overflowLimit
      linarith
    rw [if_neg hsmall]
    rcases Nat.lt_or_ge precision (digitCount c) with hlong | hshort
    · exact long_overflows_iff n (Nat.sub_pos_of_lt hlong) (by omega)
    · have hc := digitCount_le_precision_iff.mp hshort
      rw [fix_of_lt hc]
      dsimp only
      by_cases hrange : emax < adjusted c e
      · rw [if_pos hrange]
        exact iff_of_true rfl (overflowLimit_le_of_adjusted hzero hrange)
      · rw [if_neg hrange]
        exact iff_of_false (Option.some_ne_none _)
          (not_le.mpr (lt_overflowLimit_of_short hc (not_lt.mp hrange)))
  | _ => cases hd

/-! ### How a result is rounded -/

theorem roundHalfEven_eq_zero (c k : Nat) : roundHalfEven c k = 0 ↔ 2 * c ≤ 10 ^ k := by
  have hpos : 0 < 10 ^ k := by positivity
  have hsplit := Nat.div_add_mod c (10 ^ k)
  have hrest := Nat.mod_lt c hpos
  rw [roundHalfEven]
  obtain ⟨q, hq⟩ : ∃ q, c / 10 ^ k = q := ⟨_, rfl⟩
  obtain ⟨r, hr⟩ : ∃ r, c % 10 ^ k = r := ⟨_, rfl⟩
  obtain ⟨u, hu⟩ : ∃ u, 10 ^ k = u := ⟨_, rfl⟩
  simp only [hq, hr] at hsplit hrest ⊢
  simp only [hu] at hsplit hrest hpos ⊢
  rcases Nat.eq_zero_or_pos q with rfl | hqpos
  · constructor
    · intro h
      split_ifs at h <;> omega
    · intro h
      rw [if_neg (by omega)]
  · have hle : u ≤ u * q := Nat.le_mul_of_pos_right u hqpos
    constructor
    · intro h
      split_ifs at h
      omega
    · intro h
      omega

/-- Rounding at most doubles a number, and what is not rounded to zero is at most halved. -/
theorem roundHalfEven_double (c k : Nat) : roundHalfEven c k * 10 ^ k ≤ 2 * c ∧
    (roundHalfEven c k ≠ 0 → c ≤ 2 * (roundHalfEven c k * 10 ^ k)) := by
  have hpos : 0 < 10 ^ k := by positivity
  have hsplit := Nat.div_add_mod c (10 ^ k)
  have hrest := Nat.mod_lt c hpos
  rw [roundHalfEven]
  obtain ⟨q, hq⟩ : ∃ q, c / 10 ^ k = q := ⟨_, rfl⟩
  obtain ⟨r, hr⟩ : ∃ r, c % 10 ^ k = r := ⟨_, rfl⟩
  obtain ⟨u, hu⟩ : ∃ u, 10 ^ k = u := ⟨_, rfl⟩
  simp only [hq, hr] at hsplit hrest ⊢
  simp only [hu] at hsplit hrest hpos ⊢
  have hcomm : q * u = u * q := Nat.mul_comm q u
  split_ifs with hup
  · rw [Nat.add_mul, hcomm, Nat.one_mul]
    constructor
    · omega
    · intro _
      omega
  · constructor
    · omega
    · intro hq
      have hle : u ≤ u * q := Nat.le_mul_of_pos_right u (Nat.pos_of_ne_zero hq)
      omega

/-- A result is its exact value with some digits rounded off. -/
theorem bound_value {n : Bool} {c : Nat} {e : Int} {r : Decimal}
    (h : (finite n c e).bound = some r) : ∃ c' e' k, r = finite n c' e' ∧
      (c' : ℚ) * (10 : ℚ) ^ e' = roundHalfEven c k * (10 : ℚ) ^ (e + k) := by
  rw [bound] at h
  split_ifs at h with hzero hsmall htiny
  · cases h
    refine ⟨0, _, 0, rfl, ?_⟩
    rw [hzero, roundHalfEven_zero]
    simp
  · cases h
    refine ⟨_, _, (etiny - e).toNat, rfl, ?_⟩
    have hexponent : e + ((etiny - e).toNat : Int) = etiny := by omega
    rw [hexponent]
  · cases h
    refine ⟨c, e, 0, rfl, ?_⟩
    rw [roundHalfEven_zero, Nat.cast_zero, Int.add_zero]
  · rw [fix] at h
    obtain ⟨k, hk⟩ : ∃ k, digitCount c - precision = k := ⟨_, rfl⟩
    rw [hk] at h
    by_cases hpower : roundHalfEven c k = 10 ^ precision
    · rw [if_pos hpower] at h
      dsimp only at h
      split_ifs at h
      cases h
      refine ⟨_, _, k, rfl, ?_⟩
      have hten : ((10 ^ precision : Nat) : ℚ) = 10 ^ (precision - 1) * 10 := by
        norm_num [precision]
      rw [hpower, hten, zpow_add_one₀ (by norm_num)]
      push_cast
      ring
    · rw [if_neg hpower] at h
      dsimp only at h
      split_ifs at h
      cases h
      exact ⟨_, _, k, rfl, rfl⟩

theorem isFinite_bound {d r : Decimal} (hd : d.isFinite) (h : d.bound = some r) :
    r.isFinite = true := by
  obtain ⟨n, c, e, rfl, -⟩ := exists_of_bound hd h
  rfl

/-- A result is at most doubled by rounding, and at most halved unless it becomes zero. -/
theorem bound_double {d r : Decimal} (hd : d.isFinite) (h : d.bound = some r) :
    |r.toRat| ≤ 2 * |d.toRat| ∧ (r.toRat ≠ 0 → |d.toRat| ≤ 2 * |r.toRat|) := by
  cases d with
  | finite n c e =>
    obtain ⟨c', e', k, rfl, hvalue⟩ := bound_value h
    obtain ⟨hle, hge⟩ := roundHalfEven_double c k
    have hsplit : (10 : ℚ) ^ (e + (k : Int)) = 10 ^ k * (10 : ℚ) ^ e := by
      rw [zpow_add₀ (by norm_num), zpow_natCast, mul_comm]
    have hpos := ten_zpow_pos e
    have hle' : (roundHalfEven c k : ℚ) * 10 ^ k ≤ 2 * c := by exact_mod_cast hle
    rw [abs_toRat_finite, abs_toRat_finite, pow10_eq_zpow, pow10_eq_zpow, hvalue, hsplit,
      ← mul_assoc, ← mul_assoc]
    constructor
    · exact mul_le_mul_of_nonneg_right hle' hpos.le
    · intro hne
      have hround : roundHalfEven c k ≠ 0 := by
        intro hzero
        rw [hzero, Nat.cast_zero, zero_mul] at hvalue
        rw [toRat_finite, mul_assoc, hvalue, mul_zero] at hne
        exact hne rfl
      have hge' : (c : ℚ) ≤ 2 * (roundHalfEven c k * 10 ^ k) := by exact_mod_cast hge hround
      have hmul := mul_le_mul_of_nonneg_right hge' hpos.le
      linarith
  | _ => cases hd

/-- A result is rounded to zero exactly if it is at most half of the least unit. -/
theorem toRat_bound_eq_zero_iff {d r : Decimal} (hd : d.isFinite) (h : d.bound = some r) :
    r.toRat = 0 ↔ 2 * |d.toRat| ≤ (10 : ℚ) ^ etiny := by
  cases d with
  | finite n c e =>
    have hzero_iff : ∀ (n : Bool) (c : Nat) (e : Int), (finite n c e).toRat = 0 ↔ c = 0 := by
      intro n c e
      rw [← abs_eq_zero, abs_toRat_finite, pow10_eq_zpow, mul_eq_zero_iff_right (ten_zpow_pos e).ne',
        Nat.cast_eq_zero]
    have htiny := ten_zpow_pos etiny
    rw [abs_toRat_finite, pow10_eq_zpow]
    rw [bound] at h
    split_ifs at h with hzero hsmall hshort
    · cases h
      rw [hzero_iff, hzero, Nat.cast_zero, zero_mul, mul_zero]
      exact iff_of_true rfl htiny.le
    · cases h
      obtain ⟨k, hk⟩ : ∃ k : Nat, etiny - e = k := ⟨(etiny - e).toNat, by omega⟩
      have hsplit : (10 : ℚ) ^ etiny = 10 ^ k * (10 : ℚ) ^ e := by
        have hexponent : etiny = k + e := by omega
        rw [hexponent, zpow_add₀ (by norm_num), zpow_natCast]
      rw [hzero_iff, hk, Int.toNat_natCast, roundHalfEven_eq_zero, hsplit, ← mul_assoc,
        mul_le_mul_iff_left₀ (ten_zpow_pos e)]
      exact_mod_cast Iff.rfl
    · cases h
      have hone : (1 : ℚ) ≤ c := by exact_mod_cast Nat.pos_of_ne_zero hzero
      have hle : (10 : ℚ) ^ etiny ≤ (10 : ℚ) ^ e :=
        zpow_le_zpow_right₀ (by norm_num) (not_lt.mp hshort)
      have hmul := mul_le_mul_of_nonneg_right hone (ten_zpow_pos e).le
      rw [hzero_iff]
      refine iff_of_false hzero (not_le.mpr ?_)
      linarith
    · have hlarge : (10 : ℚ) ^ etiny < 2 * (c * (10 : ℚ) ^ e) := by
        have hadjusted := pow_adjusted_le hzero e
        have hle : (10 : ℚ) ^ etiny ≤ (10 : ℚ) ^ adjusted c e := by
          apply zpow_le_zpow_right₀ (by norm_num)
          have hemin : emin = -999999 := rfl
          have hetiny : etiny = -1000026 := rfl
          omega
        linarith
      refine iff_of_false ?_ (not_le.mpr hlarge)
      obtain ⟨c', e', hfix, -⟩ := exists_fix n c e
      have hne : c' ≠ 0 := by
        rcases Nat.lt_or_ge c (10 ^ precision) with hlt | hge
        · rw [fix_of_lt hlt] at hfix
          cases hfix
          exact hzero
        · obtain ⟨c'', e'', hfix', -, hlower, -⟩ := @fix_of_le n c e hge
          rw [hfix'] at hfix
          cases hfix
          have hpos : 0 < 10 ^ (precision - 1) := by decide
          omega
      rw [hfix] at h
      dsimp only at h
      split_ifs at h
      cases h
      rw [hzero_iff]
      exact hne
  | _ => cases hd

/-! ### Quotients -/

/-- A divisor that is shifted to more digits than the dividend's goes into it. -/
theorem shifted_le {c c' s t : Nat} (hc : c ≠ 0)
    (hshift : (s : Int) - t = digitCount c' - digitCount c + precision + 1) :
    c' * 10 ^ t ≤ c * 10 ^ s := by
  have hpos := digitCount_pos c
  calc c' * 10 ^ t ≤ 10 ^ digitCount c' * 10 ^ t :=
        Nat.mul_le_mul_right _ (lt_pow_digitCount c').le
    _ = 10 ^ (digitCount c' + t) := (pow_add 10 _ _).symm
    _ ≤ 10 ^ (digitCount c - 1 + s) := by
        apply Nat.pow_le_pow_right (by decide)
        omega
    _ = 10 ^ (digitCount c - 1) * 10 ^ s := pow_add 10 _ _
    _ ≤ c * 10 ^ s := Nat.mul_le_mul_right _ (pow_digitCount_le hc)

theorem isFinite_quotient {x y : Decimal} (hx : x.isFinite) (hy : y.isFinite) :
    (quotient x y).isFinite = true := by
  cases x with
  | finite n c e =>
    cases y with
    | finite n' c' e' =>
      rw [quotient]
      split_ifs
      · rfl
      · dsimp only
        split_ifs <;> rfl
    | _ => cases hy
  | _ => cases hx

/-- The quotient before rounding is at most twice the exact one. -/
theorem abs_quotient_le {x y : Decimal} (hx : x.isFinite) (hy : y.isFinite) (hne : y.toRat ≠ 0) :
    |(quotient x y).toRat| ≤ 2 * (|x.toRat| / |y.toRat|) := by
  cases x with
  | finite n c e =>
    cases y with
    | finite n' c' e' =>
      have hpos := ten_zpow_pos
      have hc' : c' ≠ 0 := by
        rintro rfl
        exact hne (by simp [toRat])
      have hcpos : (0 : ℚ) < c' := by exact_mod_cast Nat.pos_of_ne_zero hc'
      rw [abs_toRat_finite n, abs_toRat_finite n', pow10_eq_zpow, pow10_eq_zpow, quotient]
      split_ifs with hc
      · rw [abs_toRat_finite, hc]
        simp
      obtain ⟨shift, hshift⟩ : ∃ shift : Int,
          (digitCount c' : Int) - digitCount c + precision + 1 = shift := ⟨_, rfl⟩
      obtain ⟨s, hs⟩ : ∃ s, shift.toNat = s := ⟨_, rfl⟩
      obtain ⟨t, ht⟩ : ∃ t, (-shift).toNat = t := ⟨_, rfl⟩
      have hst : (s : Int) - t = shift := by omega
      simp only [hshift, hs, ht]
      have hdivisor : 0 < c' * 10 ^ t := by positivity
      have hone : 1 ≤ c * 10 ^ s / (c' * 10 ^ t) :=
        (Nat.one_le_div_iff hdivisor).mpr (shifted_le hc (hst.trans hshift.symm))
      obtain ⟨q, hq⟩ : ∃ q, c * 10 ^ s / (c' * 10 ^ t) = q := ⟨_, rfl⟩
      have hle : (q : ℚ) ≤ (c * 10 ^ s) / (c' * 10 ^ t) := by
        rw [le_div_iff₀ (by positivity)]
        have hmul := Nat.div_mul_le_self (c * 10 ^ s) (c' * 10 ^ t)
        rw [hq] at hmul
        exact_mod_cast hmul
      have hexact : (c * 10 ^ s) / (c' * 10 ^ t) * (10 : ℚ) ^ (e - e' - shift) =
          c * (10 : ℚ) ^ e / (c' * (10 : ℚ) ^ e') := by
        have hsplit : (10 : ℚ) ^ (e - e' - shift) =
            (10 : ℚ) ^ e / (10 : ℚ) ^ e' * ((10 : ℚ) ^ t / (10 : ℚ) ^ s) := by
          rw [← hst, zpow_sub₀ (by norm_num), zpow_sub₀ (by norm_num), zpow_sub₀ (by norm_num),
            zpow_natCast, zpow_natCast]
          field_simp
        have := (hpos e').ne'
        rw [hsplit]
        field_simp
      have hbound : (2 * q : ℚ) * (10 : ℚ) ^ (e - e' - shift) ≤
          2 * (c * (10 : ℚ) ^ e / (c' * (10 : ℚ) ^ e')) := by
        rw [← hexact, mul_assoc]
        apply mul_le_mul_of_nonneg_left _ (by norm_num)
        exact mul_le_mul_of_nonneg_right hle (hpos _).le
      rw [hq] at hone ⊢
      refine le_trans ?_ hbound
      have hscale : ∀ k : Nat, k ≤ 2 * q →
          (k : ℚ) * (10 : ℚ) ^ (e - e' - shift) ≤ 2 * q * (10 : ℚ) ^ (e - e' - shift) := by
        intro k hk
        apply mul_le_mul_of_nonneg_right _ (hpos _).le
        exact_mod_cast hk
      split_ifs with hrest hfive
      · rw [abs_toRat_finite, pow10_eq_zpow]
        exact hscale (q + 1) (by omega)
      · rw [abs_toRat_finite, pow10_eq_zpow]
        exact hscale q (by omega)
      · rw [abs_toRat_finite, stripZeros_value s q (e - e' - shift), pow10_eq_zpow]
        exact hscale q (by omega)
    | _ => cases hy
  | _ => cases hx

/-! ### Exact operations -/

def Fits (x : ℚ) : Prop :=
  ∃ (m : Int) (k : Int), m.natAbs < 10 ^ precision ∧ etiny ≤ k ∧ k ≤ etop ∧ x = m * (10 : ℚ) ^ k

theorem fits_zero : Fits 0 := ⟨0, 0, by decide, by decide, by decide, by simp⟩

/-- A fraction of few digits is a number of the context. -/
theorem fits_of_places {x : ℚ} {m : Int} {places : Nat} (hplaces : places ≤ 1000000)
    (hm : m.natAbs < 10 ^ precision) (h : x = m / 10 ^ places) : Fits x := by
  have htop : etop = 999972 := by decide
  refine ⟨m, -places, hm, ?_, ?_, ?_⟩
  · have hetiny : etiny = -1000026 := rfl
    omega
  · omega
  · rw [h, zpow_neg, zpow_natCast, div_eq_mul_inv]

def Exactly (m : Except DecimalSignal Decimal) (x : ℚ) : Prop :=
  ∃ r, m = .ok r ∧ r.isFinite = true ∧ r.toRat = x

/-- A result that the context represents is returned as it is. -/
theorem result_exactly {d : Decimal} (hd : d.isFinite) (h : Fits d.toRat) :
    Exactly d.result d.toRat := by
  cases d with
  | finite n c e =>
    obtain ⟨m, k, hm, hlow, hhigh, hvalue⟩ := h
    have habs : (c : ℚ) * (10 : ℚ) ^ e = m.natAbs * (10 : ℚ) ^ k := by
      have hmagnitude : |(finite n c e).toRat| = |(m : ℚ) * (10 : ℚ) ^ k| := by rw [hvalue]
      rw [abs_toRat_finite, pow10_eq_zpow, abs_mul, abs_of_pos (ten_zpow_pos k)] at hmagnitude
      rw [hmagnitude, Nat.cast_natAbs, Int.cast_abs]
    have hcast : (m.natAbs : ℚ) + 1 ≤ 10 ^ precision := by exact_mod_cast hm
    have hlimit : ¬ overflowLimit ≤ |(finite n c e).toRat| := by
      rw [abs_toRat_finite, pow10_eq_zpow, habs, not_le, overflowLimit]
      calc (m.natAbs : ℚ) * (10 : ℚ) ^ k ≤ m.natAbs * (10 : ℚ) ^ etop := by
            apply mul_le_mul_of_nonneg_left _ (Nat.cast_nonneg _)
            exact zpow_le_zpow_right₀ (by norm_num) hhigh
        _ < (10 ^ precision - 1 / 2) * (10 : ℚ) ^ etop := by
            apply mul_lt_mul_of_pos_right _ (ten_zpow_pos etop)
            linarith
    obtain ⟨r, hr⟩ : ∃ r, (finite n c e).bound = some r := by
      rcases hbound : (finite n c e).bound with _ | r
      · exact absurd ((bound_eq_none_iff rfl).mp hbound) hlimit
      · exact ⟨r, rfl⟩
    refine ⟨r, by rw [result, hr], isFinite_bound rfl hr, ?_⟩
    rw [bound] at hr
    split_ifs at hr with hzero hsmall hshort
    · cases hr
      rw [hzero]
      simp [toRat]
    · -- the value is a multiple of the least unit
      cases hr
      obtain ⟨j, hj⟩ : ∃ j : Nat, etiny - e = j := ⟨(etiny - e).toNat, by omega⟩
      obtain ⟨l, hl⟩ : ∃ l : Nat, k - etiny = l := ⟨(k - etiny).toNat, by omega⟩
      have hmultiple : c = m.natAbs * 10 ^ l * 10 ^ j := by
        have hsplit : (10 : ℚ) ^ k = 10 ^ l * 10 ^ j * (10 : ℚ) ^ e := by
          have hexponent : k = l + j + e := by omega
          rw [hexponent, zpow_add₀ (by norm_num), zpow_add₀ (by norm_num), zpow_natCast,
            zpow_natCast]
        rw [hsplit, ← mul_assoc, ← mul_assoc] at habs
        have hcancel := mul_right_cancel₀ (ten_zpow_pos e).ne' habs
        exact_mod_cast hcancel
      have hround : roundHalfEven c j = m.natAbs * 10 ^ l := by
        rw [hmultiple, roundHalfEven_mul]
      have hsame : ((m.natAbs * 10 ^ l : Nat) : ℚ) * (10 : ℚ) ^ etiny = c * (10 : ℚ) ^ e := by
        have hexponent : etiny = j + e := by omega
        rw [hexponent, zpow_add₀ (by norm_num), zpow_natCast, hmultiple]
        push_cast
        ring
      rw [hj, Int.toNat_natCast, hround, toRat_finite, toRat_finite, mul_assoc, mul_assoc, hsame]
    · cases hr
      rfl
    · have hfix : (finite n c e).fix.toRat = (finite n c e).toRat :=
        toRat_fix_of_eq (f := k) hm (by rw [pow10_eq_zpow, pow10_eq_zpow, habs])
      obtain ⟨c', e', hform, -⟩ := exists_fix n c e
      rw [hform] at hr hfix
      dsimp only at hr
      split_ifs at hr
      cases hr
      exact hfix
  | _ => cases hd

theorem plus_exactly {x y : Decimal} (hx : x.isFinite) (hy : y.isFinite)
    (h : Fits (x.toRat + y.toRat)) : Exactly (plus x y) (x.toRat + y.toRat) := by
  have hsum := toRat_sum hx hy
  rw [← hsum] at h ⊢
  exact result_exactly (isFinite_sum hx hy) h

theorem minus_exactly {x y : Decimal} (hx : x.isFinite) (hy : y.isFinite)
    (h : Fits (x.toRat - y.toRat)) : Exactly (minus x y) (x.toRat - y.toRat) := by
  have hsum : (sum x y.copyNegate).toRat = x.toRat - y.toRat := by
    rw [toRat_sum hx (isFinite_copyNegate hy), toRat_copyNegate]
    ring
  rw [← hsum] at h ⊢
  exact result_exactly (isFinite_sum hx (isFinite_copyNegate hy)) h

theorem product_exactly {x y : Decimal} (hx : x.isFinite) (hy : y.isFinite)
    (h : Fits (x.toRat * y.toRat)) : Exactly (product x y) (x.toRat * y.toRat) := by
  have hmul := toRat_mul hx hy
  rw [← hmul] at h ⊢
  exact result_exactly (isFinite_mul hx hy) h

def SumFits : ℚ → List ℚ → Prop
  | _, [] => True
  | total, x :: rest => Fits (total + x) ∧ SumFits (total + x) rest

theorem sumFrom_exactly {xs : List Decimal} {total : Decimal} (htotal : total.isFinite)
    (hxs : ∀ x ∈ xs, x.isFinite = true) (h : SumFits total.toRat (xs.map toRat)) :
    Exactly (sumFrom total xs) (total.toRat + (xs.map toRat).sum) := by
  induction xs generalizing total with
  | nil => exact ⟨total, rfl, htotal, by simp⟩
  | cons x rest ih =>
    obtain ⟨hfits, hrest⟩ := h
    obtain ⟨r, hr, hfinite, hvalue⟩ :=
      plus_exactly htotal (hxs x List.mem_cons_self) hfits
    rw [← hvalue] at hrest
    obtain ⟨s, hs, hsfinite, hsvalue⟩ :=
      ih hfinite (fun y hy => hxs y (List.mem_cons_of_mem x hy)) hrest
    refine ⟨s, ?_, hsfinite, ?_⟩
    · rw [sumFrom, hr]
      exact hs
    · rw [hsvalue, hvalue, List.map_cons, List.sum_cons, add_assoc]

end Decimal

end EsscherMarket.Lib
