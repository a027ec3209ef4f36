import EsscherMarket.Lib.DecimalContext
import EsscherMarket.Lib.IsoFormat

/-!
# The bounds of the exponent, and plain texts

`bound` rounds a result as the default context does, exponent bounds included: a result that is too
large raises, one that is too small loses digits.
-/

namespace EsscherMarket.Lib

namespace Decimal

def emax : Int := 999999

def emin : Int := -999999

def etiny : Int := -1000026

def adjusted (c : Nat) (e : Int) : Int := digitCount c + e - 1

/-- Round a result in the default context; `none` where it overflows. -/
def bound : Decimal → Option Decimal
  | finite n c e =>
    if c = 0 then some (finite n 0 (max etiny (min e emax)))
    else if adjusted c e < emin then
      some (if e < etiny then finite n (roundHalfEven c (etiny - e).toNat) etiny else finite n c e)
    else match (finite n c e).fix with
      | finite n c e => if emax < adjusted c e then none else some (finite n c e)
      | d => some d
  | d => some d

/-! ### Rounding and values -/

theorem digitCount_pos (c : Nat) : 0 < digitCount c := by
  have htext : (toString c).toList = Nat.toDigits 10 c := by
    rw [Nat.toString_eq_ofList_toDigits, String.toList_ofList]
  rw [digitCount, htext]
  exact Nat.length_toDigits_pos

theorem pow_digitCount_le {c : Nat} (hc : c ≠ 0) : 10 ^ (digitCount c - 1) ≤ c := by
  by_contra hlt
  have hpos := digitCount_pos c
  rcases Nat.eq_or_lt_of_le hpos with hone | hmany
  · have hexponent : digitCount c - 1 = 0 := by omega
    rw [hexponent, pow_zero] at hlt
    omega
  · have hle := (digitCount_le_iff (c := c) (by omega : 0 < digitCount c - 1)).mpr (not_le.mp hlt)
    omega

theorem digitCount_mul_pow {c : Nat} (hc : c ≠ 0) (k : Nat) :
    digitCount (c * 10 ^ k) = digitCount c + k := by
  have hpos := digitCount_pos c
  have hlower : 10 ^ (digitCount c + k - 1) ≤ c * 10 ^ k := by
    have hsplit : digitCount c + k - 1 = digitCount c - 1 + k := by omega
    rw [hsplit, pow_add]
    exact Nat.mul_le_mul_right _ (pow_digitCount_le hc)
  have hupper : c * 10 ^ k < 10 ^ (digitCount c + k) := by
    rw [pow_add]
    exact Nat.mul_lt_mul_of_pos_right (lt_pow_digitCount c) (by positivity)
  have hle := (digitCount_le_iff (by omega : 0 < digitCount c + k)).mpr hupper
  rcases Nat.eq_or_lt_of_le hle with heq | hlt
  · exact heq
  · have hshort : c * 10 ^ k < 10 ^ (digitCount c + k - 1) := by
      have h := lt_pow_digitCount (c * 10 ^ k)
      exact lt_of_lt_of_le h (Nat.pow_le_pow_right (by decide) (by omega))
    omega

/-- Zeros at the end do not matter where they are rounded off. -/
theorem roundHalfEven_mul_pow (c x k : Nat) :
    roundHalfEven (c * 10 ^ k) (x + k) = roundHalfEven c x := by
  have hpos : 0 < 10 ^ k := by positivity
  have hdiv : c * 10 ^ k / 10 ^ (x + k) = c / 10 ^ x := by
    rw [pow_add]
    exact Nat.mul_div_mul_right _ _ hpos
  have hmod : c * 10 ^ k % 10 ^ (x + k) = c % 10 ^ x * 10 ^ k := by
    rw [pow_add]
    exact Nat.mul_mod_mul_right _ _ _
  have hlt : 10 ^ (x + k) < 2 * (c % 10 ^ x * 10 ^ k) ↔ 10 ^ x < 2 * (c % 10 ^ x) := by
    rw [pow_add, ← mul_assoc]
    exact Nat.mul_lt_mul_right hpos
  have heq : 2 * (c % 10 ^ x * 10 ^ k) = 10 ^ (x + k) ↔ 2 * (c % 10 ^ x) = 10 ^ x := by
    rw [pow_add, ← mul_assoc]
    exact Nat.mul_left_inj (by omega)
  simp only [roundHalfEven, hdiv, hmod, hlt, heq]

theorem toRat_fix_mul_pow (n : Bool) (c k : Nat) (e : Int) :
    (finite n (c * 10 ^ k) (e - k)).fix.toRat = (finite n c e).fix.toRat := by
  rcases lt_or_ge c (10 ^ precision) with h | h
  · have hvalue : ((c * 10 ^ k : Nat) : ℚ) * pow10 (e - k) = c * pow10 e := by
      have hne : (10 : ℚ) ^ k ≠ 0 := pow_ne_zero k (by norm_num)
      rw [pow10_eq_zpow, pow10_eq_zpow, zpow_sub₀ (by norm_num), zpow_natCast]
      push_cast
      rw [mul_assoc, mul_div_cancel₀ _ hne]
    rw [toRat_fix_of_eq h hvalue, fix_of_lt h, toRat, toRat, mul_assoc, hvalue, mul_assoc]
  · have hc : c ≠ 0 := by
      rintro rfl
      exact absurd h (by decide)
    have hlong : precision < digitCount c := by
      by_contra hle
      have := digitCount_le_precision_iff.mp (not_lt.mp hle)
      omega
    obtain ⟨x, hx⟩ : ∃ x, digitCount c - precision = x := ⟨_, rfl⟩
    have hexcess : digitCount (c * 10 ^ k) - precision = x + k := by
      rw [digitCount_mul_pow hc]
      omega
    have hexponent : e - k + ((x + k : Nat) : Int) = e + x := by
      push_cast
      ring
    rw [fix, fix, hexcess, hx]
    simp only [roundHalfEven_mul_pow, hexponent]

/-- What a result is rounded to depends on its value only. -/
theorem toRat_fix_congr {x y : Decimal} (hx : x.isFinite) (hy : y.isFinite)
    (h : x.toRat = y.toRat) : x.fix.toRat = y.fix.toRat := by
  have hten : (0 : ℚ) < 10 := by norm_num
  have hone : ∀ (n n' : Bool) (c c' : Nat) (e e' : Int), e' ≤ e →
      (finite n c e).toRat = (finite n' c' e').toRat →
      (finite n c e).fix.toRat = (finite n' c' e').fix.toRat := by
    intro n n' c c' e e' hle h
    have habs : |(finite n c e).toRat| = |(finite n' c' e').toRat| := by rw [h]
    rw [abs_toRat_finite, abs_toRat_finite, pow10_eq_zpow, pow10_eq_zpow] at habs
    obtain ⟨k, hk⟩ : ∃ k : Nat, e - e' = k := ⟨(e - e').toNat, by omega⟩
    have hc : c' = c * 10 ^ k := by
      have hsplit : (10 : ℚ) ^ e = (10 : ℚ) ^ k * (10 : ℚ) ^ e' := by
        rw [← zpow_natCast, ← zpow_add₀ hten.ne']
        congr 1
        omega
      rw [hsplit, ← mul_assoc] at habs
      have hcast := mul_right_cancel₀ (zpow_ne_zero e' hten.ne') habs
      exact_mod_cast hcast.symm
    have he : e' = e - k := by omega
    rw [hc, he, toRat_fix_mul_pow]
    rcases Nat.eq_zero_or_pos c with hzero | hpos
    · rw [hzero, fix_of_lt (by decide), fix_of_lt (by decide)]
      simp [toRat]
    · have hsign : n = n' := by
        rw [toRat_finite, toRat_finite] at h
        have hpositive : (0 : ℚ) < (c : ℚ) * (10 : ℚ) ^ e :=
          mul_pos (by exact_mod_cast hpos) (zpow_pos hten e)
        have hpositive' : (0 : ℚ) < (c' : ℚ) * (10 : ℚ) ^ e' := by
          rw [← habs]
          exact mul_pos (by exact_mod_cast hpos) (zpow_pos hten e)
        cases n <;> cases n' <;> simp only [if_true, if_false, Bool.false_eq_true] at h ⊢ <;>
          linarith
      rw [hsign]
  cases x with
  | finite n c e =>
    cases y with
    | finite n' c' e' =>
      rcases le_total e' e with hle | hle
      · exact hone n n' c c' e e' hle h
      · exact (hone n' n c' c e' e hle h.symm).symm
    | _ => cases hy
  | _ => cases hx

/-! ### Within the bounds -/

theorem lt_pow_adjusted (n : Bool) (c : Nat) (e : Int) :
    |(finite n c e).toRat| < (10 : ℚ) ^ (adjusted c e + 1) := by
  have hupper : (c : ℚ) < (10 : ℚ) ^ (digitCount c : Int) := by
    rw [zpow_natCast]
    exact_mod_cast lt_pow_digitCount c
  have hsplit : (10 : ℚ) ^ (adjusted c e + 1) = (10 : ℚ) ^ (digitCount c : Int) * (10 : ℚ) ^ e := by
    rw [← zpow_add₀ (by norm_num)]
    congr 1
    rw [adjusted]
    ring
  rw [abs_toRat_finite, pow10_eq_zpow, hsplit]
  exact mul_lt_mul_of_pos_right hupper (zpow_pos (by norm_num) e)

theorem exists_of_bound {d r : Decimal} (hd : d.isFinite) (h : d.bound = some r) :
    ∃ n c e, r = finite n c e ∧ c < 10 ^ precision := by
  cases d with
  | finite n c e =>
    rw [bound] at h
    have hbounds : emin = -999999 ∧ etiny = -1000026 ∧ precision = 28 := ⟨rfl, rfl, rfl⟩
    split_ifs at h with hzero hsmall htiny
    · cases h
      exact ⟨n, 0, _, rfl, by decide⟩
    · cases h
      rw [adjusted] at hsmall
      obtain ⟨k, hk⟩ : ∃ k : Nat, etiny - e = k := ⟨(etiny - e).toNat, by omega⟩
      have hquotient : c / 10 ^ k < 10 ^ 27 := by
        have hlt := lt_pow_digitCount c
        have hle : 10 ^ digitCount c ≤ 10 ^ (27 + k) :=
          Nat.pow_le_pow_right (by decide) (by omega)
        rw [pow_add] at hle
        exact (Nat.div_lt_iff_lt_mul (by positivity)).mpr (lt_of_lt_of_le hlt hle)
      have hround := roundHalfEven_le c k
      have hprecision : 10 ^ 27 + 1 ≤ 10 ^ precision := by decide
      refine ⟨n, _, _, rfl, ?_⟩
      rw [hk, Int.toNat_natCast]
      omega
    · cases h
      rw [adjusted] at hsmall
      exact ⟨n, c, e, rfl, digitCount_le_precision_iff.mp (by omega)⟩
    · obtain ⟨c', e', hfix, hlt⟩ := exists_fix n c e
      rw [hfix] at h
      dsimp only at h
      split_ifs at h
      cases h
      exact ⟨n, c', e', rfl, hlt⟩
  | _ => cases hd

/-- A result that is not too small is only rounded. -/
theorem toRat_bound {d r : Decimal} (hd : d.isFinite) (h : d.bound = some r)
    (hlarge : d.toRat = 0 ∨ (10 : ℚ) ^ (-1000 : Int) ≤ |d.toRat|) : r.toRat = d.fix.toRat := by
  cases d with
  | finite n c e =>
    rw [bound] at h
    by_cases hzero : c = 0
    · rw [if_pos hzero] at h
      cases h
      rw [hzero, fix_of_lt (by decide)]
      simp [toRat]
    · have hnormal : ¬ adjusted c e < emin := by
        intro hsmall
        have hvalue := lt_pow_adjusted n c e
        have hexponent : adjusted c e + 1 ≤ -1000 := by
          have hemin : emin = -999999 := rfl
          omega
        have hle : (10 : ℚ) ^ (adjusted c e + 1) ≤ (10 : ℚ) ^ (-1000 : Int) :=
          zpow_le_zpow_right₀ (by norm_num) hexponent
        rcases hlarge with hnull | hlarge
        · have hpositive : (0 : ℚ) < |(finite n c e).toRat| := by
            rw [abs_toRat_finite, pow10_eq_zpow]
            exact mul_pos (by exact_mod_cast Nat.pos_of_ne_zero hzero) (zpow_pos (by norm_num) e)
          rw [hnull, abs_zero] at hpositive
          exact lt_irrefl _ hpositive
        · linarith
      rw [if_neg hzero, if_neg hnormal] at h
      obtain ⟨c', e', hfix, -⟩ := exists_fix n c e
      rw [hfix] at h ⊢
      dsimp only at h
      split_ifs at h
      cases h
      rfl
  | _ => cases hd

/-- Rounding keeps the sign. -/
theorem toRat_bound_nonneg {d r : Decimal} (hd : d.isFinite) (h : d.bound = some r)
    (hnonneg : 0 ≤ d.toRat) : 0 ≤ r.toRat := by
  cases d with
  | finite n c e =>
    obtain ⟨c', e', hr, hzero⟩ : ∃ c' e', r = finite n c' e' ∧ (c = 0 → c' = 0) := by
      rw [bound] at h
      split_ifs at h with hc hsmall htiny
      · cases h
        exact ⟨0, _, rfl, fun _ => rfl⟩
      · cases h
        exact ⟨_, _, rfl, fun hc' => absurd hc' hc⟩
      · cases h
        exact ⟨c, e, rfl, id⟩
      · obtain ⟨c', e', hfix, -⟩ := exists_fix n c e
        rw [hfix] at h
        dsimp only at h
        split_ifs at h
        cases h
        exact ⟨c', e', rfl, fun hc' => absurd hc' hc⟩
    rw [hr, toRat_finite]
    rw [toRat_finite] at hnonneg
    have hpos : ∀ x : Int, (0 : ℚ) < (10 : ℚ) ^ x := fun x => zpow_pos (by norm_num) x
    cases n with
    | false =>
      rw [if_neg (by decide), one_mul]
      exact mul_nonneg (Nat.cast_nonneg c') (hpos e').le
    | true =>
      rw [if_pos rfl, mul_assoc, neg_one_mul, neg_nonneg] at hnonneg
      have hcoefficient : (c : ℚ) ≤ 0 := nonpos_of_mul_nonpos_left hnonneg (hpos e)
      have hc : c = 0 := by exact_mod_cast le_antisymm hcoefficient (Nat.cast_nonneg c)
      rw [hzero hc]
      simp
  | _ => cases hd

/-- A result with few digits before its point does not overflow. -/
theorem exists_bound {n : Bool} {c : Nat} {e : Int} (h : (digitCount c : Int) + e ≤ 1000)
    (he : e ≤ 900) : ∃ r, (finite n c e).bound = some r := by
  rw [bound]
  split_ifs with hzero hsmall htiny
  · exact ⟨_, rfl⟩
  · exact ⟨_, rfl⟩
  · exact ⟨_, rfl⟩
  · obtain ⟨c', e', hfix, hlt⟩ := exists_fix n c e
    have hemax : emax = 999999 := rfl
    have hprecision : precision = 28 := rfl
    have hcount := digitCount_le_precision_iff.mpr hlt
    have hexponent : e' ≤ 1000 := by
      rw [fix] at hfix
      split_ifs at hfix <;> injection hfix <;> omega
    rw [hfix]
    dsimp only
    rw [if_neg (by rw [adjusted]; omega)]
    exact ⟨_, rfl⟩

/-! ### Plain texts -/

theorem normalize_mul_pow {c : Nat} (hc : c % 10 ≠ 0) (n : Bool) (k : Nat) (e : Int) :
    (finite n (c * 10 ^ k) e).normalize = finite n c (e + k) := by
  have hpos : 0 < c := by
    rcases Nat.eq_zero_or_pos c with rfl | hpos
    · exact absurd rfl hc
    · exact hpos
  have hne : c * 10 ^ k ≠ 0 := by positivity
  have hlen : k ≤ digitCount (c * 10 ^ k) := by
    rw [digitCount_mul_pow hpos.ne']
    exact Nat.le_add_left _ _
  rw [normalize, if_neg hne, stripZeros_pow hc k hlen]

theorem stripZeros_le (k c : Nat) (e : Int) : (stripZeros k c e).1 ≤ c := by
  induction k generalizing c e with
  | zero => exact le_rfl
  | succ k ih =>
    rw [stripZeros]
    split_ifs
    · exact (ih (c / 10) (e + 1)).trans (Nat.div_le_self c 10)
    · exact le_rfl

/-- A decimal within the precision, without zeros at its end. -/
theorem exists_normalize (n : Bool) {c : Nat} (e : Int) (h : c < 10 ^ precision) :
    (finite n c e).normalize = finite n 0 0 ∨ ∃ c' e', (finite n c e).normalize = finite n c' e' ∧
      c' % 10 ≠ 0 ∧ c' < 10 ^ precision := by
  by_cases hc : c = 0
  · exact .inl (by rw [normalize, if_pos hc])
  · refine .inr ⟨(stripZeros (digitCount c) c e).1, (stripZeros (digitCount c) c e).2, ?_, ?_, ?_⟩
    · rw [normalize, if_neg hc]
    · exact stripZeros_stripped hc (lt_pow_digitCount c) e
    · exact lt_of_le_of_lt (stripZeros_le _ _ _) h

/-- Reading the plain text of a result and writing it again changes nothing. -/
theorem fix_normalize_expand {n : Bool} {c : Nat} {e : Int} (h : c < 10 ^ precision) :
    (finite n c e).normalize.expand.fix.plainText = (finite n c e).plainText := by
  rcases exists_normalize n e h with hzero | ⟨c', e', hnormal, hstripped, hlt⟩
  · have hplain : (finite n c e).plainText = (finite n 0 0).plainText := by
      rw [plainText, hzero, plainText]
      rfl
    rw [hzero, hplain]
    show (finite n (0 * 10 ^ 0) 0).fix.plainText = _
    rw [pow_zero, mul_one, fix_of_lt (by decide)]
  · cases e' with
    | ofNat k =>
      obtain ⟨j, hj, hfix⟩ := @fix_mul_pow n c' k 0 hlt
      have hexponent : (0 : Int) + j + ((k - j : Nat) : Int) = Int.ofNat k := by
        have hk : (Int.ofNat k) = (k : Int) := rfl
        omega
      have hback : (finite n (c' * 10 ^ (k - j)) (0 + j)).normalize = finite n c' (.ofNat k) := by
        rw [normalize_mul_pow hstripped, hexponent]
      rw [hnormal, expand, hfix, plainText, hback, plainText, hnormal]
    | negSucc k =>
      have hexpand : (finite n c' (.negSucc k)).expand = finite n c' (.negSucc k) := rfl
      have hback := normalize_mul_pow hstripped n 0 (.negSucc k)
      rw [pow_zero, mul_one, Nat.cast_zero, Int.add_zero] at hback
      rw [hnormal, hexpand, fix_of_lt hlt, plainText, hback, plainText, hnormal]

/-- The digits of a number that is padded to one digit more than its places. -/
theorem head_zeroPad {k c : Nat} (h : k + 1 < (zeroPad (k + 1) c).length) :
    (zeroPad (k + 1) c).head? ≠ some '0' := by
  have hcount : (zeroPad (k + 1) c).length = digitCount c := by
    rw [zeroPad, List.length_append, List.length_replicate] at h ⊢
    rw [digitCount]
    omega
  have hc : c ≠ 0 := by
    rintro rfl
    have hone : digitCount 0 = 1 := by decide
    omega
  intro hhead
  obtain ⟨rest, hrest⟩ : ∃ rest, zeroPad (k + 1) c = '0' :: rest := by
    cases hdigits : zeroPad (k + 1) c with
    | nil => simp [hdigits] at hhead
    | cons d rest =>
      rw [hdigits, List.head?_cons] at hhead
      exact ⟨rest, by rw [Option.some.inj hhead]⟩
  have hvalue : digitsValue rest = c := by
    have hzero := digitsValue_zeros 1 rest
    rw [List.replicate_one, List.singleton_append] at hzero
    rw [← hzero, ← hrest, digitsValue_zeroPad]
  have hlt : digitsValue rest < 10 ^ rest.length := digitsValue_lt fun d hd =>
    isDigit_zeroPad (hrest ▸ List.mem_cons_of_mem _ hd)
  have hlength : rest.length = digitCount c - 1 := by
    rw [hrest, List.length_cons] at hcount
    omega
  have hle := pow_digitCount_le hc
  rw [← hlength] at hle
  omega

/-- How a plain text looks: a sign, digits without a leading zero, and perhaps a point and
digits. -/
theorem fixedText_shape (n : Bool) (c k : Nat) : ∃ whole fraction : List Char,
    (fixedText (finite n c (-k))).toList =
      (if n then ['-'] else []) ++ whole ++ (if k = 0 then [] else '.' :: fraction) ∧
    whole ≠ [] ∧ (∀ d ∈ whole, d.isDigit = true) ∧ (∀ d ∈ fraction, d.isDigit = true) ∧
    fraction.length = k ∧ (1 < whole.length → whole.head? ≠ some '0') := by
  have hlen := le_length_zeroPad (k + 1) c
  refine ⟨(zeroPad (k + 1) c).take ((zeroPad (k + 1) c).length - k),
    (zeroPad (k + 1) c).drop ((zeroPad (k + 1) c).length - k), ?_, ?_, ?_, ?_, ?_, ?_⟩
  · simp [fixedText]
  · rw [Ne, List.take_eq_nil_iff, ← List.length_eq_zero_iff]
    omega
  · exact fun d hd => isDigit_zeroPad (List.mem_of_mem_take hd)
  · exact fun d hd => isDigit_zeroPad (List.mem_of_mem_drop hd)
  · rw [List.length_drop]
    omega
  · intro hlong
    rw [List.length_take] at hlong
    have hhead := @head_zeroPad k c (by omega)
    rwa [List.head?_take, if_neg (by omega)]

end Decimal

end EsscherMarket.Lib
