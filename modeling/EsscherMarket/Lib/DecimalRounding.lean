import EsscherMarket.Lib.DecimalPrecision
import EsscherMarket.Lib.Rounding

/-!
# Decimal operations as one rounding

In a context that rounds half to even, an operation on positive numbers is the exact operation and
one rounding of its result.
-/

namespace EsscherMarket.Lib.Context

open Decimal

variable {ctx : Context}

theorem round_halfEven (hround : ctx.rounding = .halfEven) (c k : Nat) :
    (ctx.round false c k : ℤ) = halfEven ((c : ℚ) / 10 ^ k) := by
  have hpow : (0 : ℚ) < 10 ^ k := by positivity
  have hdiv : (c : ℚ) = 10 ^ k * (c / 10 ^ k : Nat) + (c % 10 ^ k : Nat) := by
    exact_mod_cast (Nat.div_add_mod c (10 ^ k)).symm
  have hmod : c % 10 ^ k < 10 ^ k := Nat.mod_lt c (by positivity)
  obtain ⟨q, hq⟩ : ∃ q, c / 10 ^ k = q := ⟨_, rfl⟩
  obtain ⟨r, hr⟩ : ∃ r, c % 10 ^ k = r := ⟨_, rfl⟩
  rw [hq, hr] at hdiv
  rw [hr] at hmod
  have hvalue : (c : ℚ) / 10 ^ k = q + r / 10 ^ k := by
    rw [hdiv]
    field_simp
  have hfrac : (0 : ℚ) ≤ r / 10 ^ k := by positivity
  simp only [round, hq, hr, hround, Rounding.away, decide_eq_true_eq]
  symm
  by_cases haway : 10 ^ k < 2 * r ∨ 2 * r = 10 ^ k ∧ q % 2 = 1
  · rw [if_pos haway]
    have hle : (10 : ℚ) ^ k ≤ 2 * r := by
      rcases haway with h | h
      · exact_mod_cast h.le
      · exact_mod_cast h.1.ge
    have hlt : (r : ℚ) < 10 ^ k := by exact_mod_cast hmod
    have hlow : 1 / 2 ≤ (r : ℚ) / 10 ^ k := by
      rw [div_le_div_iff₀ (by norm_num) hpow]
      linarith
    have hhigh : (r : ℚ) / 10 ^ k < 1 := (div_lt_one hpow).mpr hlt
    refine halfEven_eq ?_ ?_
    · rw [hvalue, abs_le]
      push_cast
      constructor <;> linarith
    · intro heq
      rw [hvalue] at heq
      push_cast at heq
      rw [abs_of_nonpos (by linarith)] at heq
      have hhalf : (r : ℚ) / 10 ^ k = 1 / 2 := by linarith
      rw [div_eq_div_iff hpow.ne' (by norm_num)] at hhalf
      have htie : 2 * r = 10 ^ k := by
        have hcast : ((2 * r : Nat) : ℚ) = ((10 ^ k : Nat) : ℚ) := by
          push_cast
          linarith
        exact_mod_cast hcast
      push_cast
      omega
  · rw [if_neg haway]
    rw [not_or, not_and, not_lt] at haway
    have hle : 2 * (r : ℚ) ≤ 10 ^ k := by exact_mod_cast haway.1
    have hhigh : (r : ℚ) / 10 ^ k ≤ 1 / 2 := by
      rw [div_le_div_iff₀ hpow (by norm_num)]
      linarith
    refine halfEven_eq ?_ ?_
    · rw [hvalue, abs_le]
      push_cast
      constructor <;> linarith
    · intro heq
      rw [hvalue] at heq
      push_cast at heq
      rw [abs_of_nonneg (by linarith)] at heq
      have hhalf : (r : ℚ) / 10 ^ k = 1 / 2 := by linarith
      rw [div_eq_div_iff hpow.ne' (by norm_num)] at hhalf
      have htie : 2 * r = 10 ^ k := by
        have hcast : ((2 * r : Nat) : ℚ) = ((10 ^ k : Nat) : ℚ) := by
          push_cast
          linarith
        exact_mod_cast hcast
      have := haway.2 htie
      omega

theorem pow_pred_le_digits {c : Nat} (hc : 0 < c) : 10 ^ (digits c - 1) ≤ c := by
  rcases Nat.eq_zero_or_pos (digits c - 1) with hzero | hpos
  · rw [hzero]
    exact hc
  · by_contra hlt
    have hcount := (@digitCount_le_iff c (digits c - 1) hpos).mpr (not_le.mp hlt)
    rw [← digits_eq] at hcount
    omega

theorem hasDigits_of_lt {c : Nat} (hc : 0 < c) (hle : c ≤ 10 ^ ctx.prec) (e : Int) :
    HasDigits 10 ctx.prec (c * (10 : ℚ) ^ e) :=
  ⟨c, e, hc, hle, by push_cast; rfl⟩

/-- A result is rounded once. -/
theorem toRat_fix (hround : ctx.rounding = .halfEven) (hprec : 0 < ctx.prec) {c : Nat} (hc : 0 < c)
    (e : Int) : (ctx.fix (finite false c e)).toRat = roundDigits 10 ctx.prec (c * (10 : ℚ) ^ e) := by
  obtain ⟨c', e', hfix, -, heq⟩ := @fix_value ctx hprec c e
  rw [hfix, toRat_unsigned, heq]
  obtain ⟨k, hk⟩ : ∃ k, digits c - ctx.prec = k := ⟨_, rfl⟩
  rw [hk]
  rcases Nat.eq_zero_or_pos k with rfl | hpos
  · have hshort : c < 10 ^ ctx.prec := by
      have hlt := @lt_pow_digits ctx c
      rwa [hk, Nat.add_zero] at hlt
    rw [round_zero, pow_zero, mul_one,
      roundDigits_of_digits (by decide) hprec (hasDigits_of_lt hc hshort.le e)]
  · have hdigits : digits c = ctx.prec + k := by omega
    have hlow := pow_pred_le_digits hc
    have hhigh := @lt_pow_digits ctx c
    rw [hk] at hhigh
    rw [hdigits, show ctx.prec + k - 1 = ctx.prec - 1 + k by omega, pow_add] at hlow
    rw [pow_add] at hhigh
    have hscale : (0 : ℚ) < 10 ^ e := zpow_pos (by norm_num) e
    have hunit : ((10 : Nat) : ℚ) ^ (e + k) = 10 ^ k * 10 ^ e := by
      push_cast
      rw [zpow_add₀ (by norm_num), zpow_natCast, mul_comm]
    have hlow' : (10 : ℚ) ^ (ctx.prec - 1) * 10 ^ k ≤ c := by exact_mod_cast hlow
    have hhigh' : (c : ℚ) < 10 ^ ctx.prec * 10 ^ k := by exact_mod_cast hhigh
    have hten : (10 : ℚ) ^ k * 10 ^ e ≠ 0 := by positivity
    rw [@roundDigits_eq 10 ctx.prec _ (by decide) hprec (e + k)
      (by rw [hunit, ← mul_assoc]; push_cast; exact mul_le_mul_of_nonneg_right hlow' hscale.le)
      (by rw [hunit, ← mul_assoc]; push_cast; exact mul_lt_mul_of_pos_right hhigh' hscale),
      hunit, mul_div_mul_right _ _ hscale.ne', ← round_halfEven hround, Int.cast_natCast, mul_assoc]

/-- A sum of positive numbers. -/
theorem toRat_add (hround : ctx.rounding = .halfEven) (hprec : 0 < ctx.prec) {c c' : Nat}
    {e e' : Int} (hc : 0 < c) :
    (ctx.add (finite false c e) (finite false c' e')).toRat =
      roundDigits 10 ctx.prec ((finite false c e).toRat + (finite false c' e').toRat) := by
  have hpos : 0 < c * 10 ^ (e - min e e').toNat + c' * 10 ^ (e' - min e e').toNat :=
    Nat.add_pos_left (Nat.mul_pos hc (by positivity)) _
  rw [add, sum_unsigned, toRat_fix hround hprec hpos, toRat_unsigned, toRat_unsigned,
    ← shift_down c (min_le_left e e'), ← shift_down c' (min_le_right e e'), ← add_mul,
    ← Nat.cast_add]

/-- Between two multiples of five, whatever is rounded off by at least one digit is rounded to the
same number. -/
theorem halfEven_div_pow {m : Nat} {k : Nat} (hk : 0 < k) {x y : ℚ} (hx : (5 * m : ℚ) < x)
    (hx' : x < 5 * m + 5) (hy : (5 * m : ℚ) < y) (hy' : y < 5 * m + 5) :
    halfEven (x / 10 ^ k) = halfEven (y / 10 ^ k) := by
  have hpow : (0 : ℚ) < 10 ^ k := by positivity
  have hfive : (10 : ℚ) ^ k = 5 * (2 * 10 ^ (k - 1)) := by
    rw [← mul_assoc, show (5 : ℚ) * 2 = 10 by norm_num, ← pow_succ', Nat.sub_add_cancel hk]
  -- the half units are multiples of five
  obtain ⟨h, hh⟩ : ∃ h, 10 ^ (k - 1) = h := ⟨_, rfl⟩
  have hhpos : 0 < h := by
    rw [← hh]
    positivity
  have hhq : (10 : ℚ) ^ (k - 1) = h := by exact_mod_cast hh
  rw [hhq] at hfive
  obtain ⟨n, hn⟩ : ∃ n, (m + h) / (2 * h) = n := ⟨_, rfl⟩
  have hlow : 2 * h * n ≤ m + h := by
    rw [← hn]
    exact Nat.mul_div_le _ _
  have hhigh : m + h + 1 ≤ 2 * h * n + 2 * h := by
    have hlt := Nat.lt_mul_div_succ (m + h) (show 0 < 2 * h by omega)
    rw [hn, Nat.mul_add, Nat.mul_one] at hlt
    omega
  have hlow' : (2 * h * n : ℚ) ≤ m + h := by exact_mod_cast hlow
  have hhigh' : (m : ℚ) + h + 1 ≤ 2 * h * n + 2 * h := by exact_mod_cast hhigh
  have hhpos' : (0 : ℚ) < h := by exact_mod_cast hhpos
  have hnear : ∀ z : ℚ, (5 * m : ℚ) < z → z < 5 * m + 5 → halfEven (z / 10 ^ k) = (n : ℤ) := by
    intro z hz hz'
    refine halfEven_eq_of_lt ?_
    rw [hfive, abs_lt, Int.cast_natCast, lt_sub_iff_add_lt, sub_lt_iff_lt_add,
      lt_div_iff₀ (by positivity), div_lt_iff₀ (by positivity)]
    constructor <;> nlinarith
  rw [hnear x hx hx', hnear y hy hy']

/-- A quotient with a digit more than the precision keeps is rounded as any number between it and
the next one is, where both lie between the same multiples of five. -/
theorem roundDigits_same (hprec : 0 < ctx.prec) {q q' : Nat} {x : ℚ} {e : Int}
    (hquot : 10 ^ ctx.prec ≤ q) (hge : q ≤ q') (hle : q' ≤ q + 1) (hlow : (q : ℚ) < x)
    (hhigh : x < q + 1) (hfive : 5 * (q / 5) < q' ∧ q' < 5 * (q / 5) + 5)
    (hblock : 5 * (q / 5) ≤ q ∧ q + 1 ≤ 5 * (q / 5) + 5) :
    roundDigits 10 ctx.prec (q' * (10 : ℚ) ^ e) = roundDigits 10 ctx.prec (x * (10 : ℚ) ^ e) := by
  have hqpos : 0 < q := lt_of_lt_of_le (by positivity) hquot
  obtain ⟨k, hk⟩ : ∃ k, digits q - ctx.prec = k := ⟨_, rfl⟩
  have hlong := pow_pred_le_digits hqpos
  have hshort := @lt_pow_digits ctx q
  have hkpos : 0 < k := by
    rcases Nat.eq_zero_or_pos k with hzero | h
    · rw [hk, hzero, Nat.add_zero] at hshort
      omega
    · exact h
  rw [show digits q - 1 = ctx.prec - 1 + k by omega, pow_add] at hlong
  rw [hk, pow_add] at hshort
  have hscale : (0 : ℚ) < 10 ^ e := zpow_pos (by norm_num) e
  have hunit : ((10 : Nat) : ℚ) ^ (e + k) = 10 ^ k * 10 ^ e := by
    push_cast
    rw [zpow_add₀ (by norm_num), zpow_natCast, mul_comm]
  -- the first number with more digits is a multiple of five, so neither reaches it
  have hnext : q + 1 ≤ 10 ^ ctx.prec * 10 ^ k := by omega
  have htop : q' < 10 ^ ctx.prec * 10 ^ k := by
    obtain ⟨t, ht⟩ : ∃ t, 10 ^ ctx.prec * 10 ^ k = 5 * t := by
      refine ⟨2 * (10 ^ (ctx.prec - 1) * 10 ^ k), ?_⟩
      have hsplit : 10 ^ ctx.prec = 10 ^ (ctx.prec - 1) * 10 := by
        rw [← pow_succ, Nat.sub_add_cancel hprec]
      rw [hsplit]
      ring
    omega
  have hround : ∀ z : ℚ, (10 : ℚ) ^ (ctx.prec - 1) * 10 ^ k ≤ z → z < 10 ^ ctx.prec * 10 ^ k →
      roundDigits 10 ctx.prec (z * (10 : ℚ) ^ e) =
        halfEven (z / 10 ^ k) * (((10 : Nat) : ℚ) ^ (e + k)) := by
    intro z hz hz'
    rw [@roundDigits_eq 10 ctx.prec _ (by decide) hprec (e + k)
      (by rw [hunit, ← mul_assoc]; push_cast; exact mul_le_mul_of_nonneg_right hz hscale.le)
      (by rw [hunit, ← mul_assoc]; push_cast; exact mul_lt_mul_of_pos_right hz' hscale),
      hunit, mul_div_mul_right _ _ hscale.ne']
  have hlong' : (10 : ℚ) ^ (ctx.prec - 1) * 10 ^ k ≤ q := by exact_mod_cast hlong
  have hnext' : (q : ℚ) + 1 ≤ 10 ^ ctx.prec * 10 ^ k := by exact_mod_cast hnext
  have htop' : (q' : ℚ) < 10 ^ ctx.prec * 10 ^ k := by exact_mod_cast htop
  have hge' : (q : ℚ) ≤ q' := by exact_mod_cast hge
  have hfive' : (5 * (q / 5 : Nat) : ℚ) < q' ∧ (q' : ℚ) < 5 * (q / 5 : Nat) + 5 := by
    exact_mod_cast hfive
  have hblock' : (5 * (q / 5 : Nat) : ℚ) ≤ q ∧ (q : ℚ) + 1 ≤ 5 * (q / 5 : Nat) + 5 := by
    exact_mod_cast hblock
  have hx : (5 * (q / 5 : Nat) : ℚ) < x := lt_of_le_of_lt hblock'.1 hlow
  have hx' : x < 5 * (q / 5 : Nat) + 5 := lt_of_lt_of_le hhigh hblock'.2
  rw [hround q' (by linarith) htop', hround x (by linarith) (by linarith),
    halfEven_div_pow hkpos hfive'.1 hfive'.2 hx hx']

/-- A quotient of positive numbers. -/
theorem toRat_div (hround : ctx.rounding = .halfEven) (hprec : 0 < ctx.prec) {c c' : Nat}
    {e e' : Int} (hc : 0 < c) (hc' : 0 < c') :
    (ctx.div (finite false c e) (finite false c' e')).toRat =
      roundDigits 10 ctx.prec ((finite false c e).toRat / (finite false c' e').toRat) := by
  obtain ⟨shift, hshift⟩ : ∃ s : Int, (digits c' : Int) - digits c + ctx.prec + 1 = s := ⟨_, rfl⟩
  have hlong := @le_quotient ctx c c' shift.toNat (-shift).toNat hc.ne' (by omega)
  obtain ⟨dividend, hdividend⟩ : ∃ n, c * 10 ^ shift.toNat = n := ⟨_, rfl⟩
  obtain ⟨divisor, hdivisor⟩ : ∃ n, c' * 10 ^ (-shift).toNat = n := ⟨_, rfl⟩
  rw [hdividend, hdivisor] at hlong
  have hpos : 0 < divisor := by
    rw [← hdivisor]
    exact Nat.mul_pos hc' (by positivity)
  have hpos' : (0 : ℚ) < divisor := by exact_mod_cast hpos
  have hquot : 10 ^ ctx.prec ≤ dividend / divisor := by
    rw [Nat.le_div_iff_mul_le hpos, Nat.mul_comm]
    exact hlong
  obtain ⟨q, hq⟩ : ∃ q, dividend / divisor = q := ⟨_, rfl⟩
  rw [hq] at hquot
  have hqpos : 0 < q := lt_of_lt_of_le (by positivity) hquot
  rw [div_toRat shift e e' hc'.ne', hdividend, hdivisor, div, if_neg hc.ne']
  simp only [hshift, hdividend, hdivisor, hq, Bool.xor_false]
  have hdiv := Nat.div_add_mod dividend divisor
  have hmod := Nat.mod_lt dividend hpos
  rw [hq] at hdiv
  have hdiv' : (dividend : ℚ) = divisor * q + (dividend % divisor : Nat) := by
    exact_mod_cast hdiv.symm
  have hscale : (0 : ℚ) < 10 ^ (e - e' - shift) := zpow_pos (by norm_num) _
  split
  · rename_i hexact
    -- the sticky digit: neither the quotient nor its stand-in is a multiple of five
    obtain ⟨q', hq'⟩ : ∃ q', (if q % 5 = 0 then q + 1 else q) = q' := ⟨_, rfl⟩
    have hrem : (0 : ℚ) < (dividend % divisor : Nat) := by
      exact_mod_cast Nat.pos_of_ne_zero hexact
    have hrem' : ((dividend % divisor : Nat) : ℚ) < divisor := by exact_mod_cast hmod
    have hlow : (q : ℚ) < dividend / divisor := by
      rw [lt_div_iff₀ hpos']
      linarith
    have hhigh : (dividend / divisor : ℚ) < q + 1 := by
      rw [div_lt_iff₀ hpos']
      linarith
    have hge : q ≤ q' := by
      rw [← hq']
      split <;> omega
    have hle : q' ≤ q + 1 := by
      rw [← hq']
      split <;> omega
    have hfive : 5 * (q / 5) < q' ∧ q' < 5 * (q / 5) + 5 := by
      rw [← hq']
      split <;> omega
    have hblock : 5 * (q / 5) ≤ q ∧ q + 1 ≤ 5 * (q / 5) + 5 := by omega
    rw [hq', toRat_fix hround hprec (by omega), roundDigits_same hprec hquot hge hle hlow hhigh
      hfive hblock]
  · rename_i hexact
    rw [not_ne_iff] at hexact
    have hvalue : (dividend / divisor : ℚ) = q := by
      rw [hdiv', hexact, Nat.cast_zero, add_zero, mul_comm, mul_div_assoc, div_self hpos'.ne', mul_one]
    have hstrip := stripZeros_value shift.toNat q (e - e' - shift)
    rw [pow10_eq_zpow, pow10_eq_zpow] at hstrip
    have hstripped : 0 < (stripZeros shift.toNat q (e - e' - shift)).1 := by
      rcases Nat.eq_zero_or_pos (stripZeros shift.toNat q (e - e' - shift)).1 with hzero | h
      · rw [hzero, Nat.cast_zero, zero_mul] at hstrip
        have hprod : (0 : ℚ) < q * 10 ^ (e - e' - shift) :=
          mul_pos (by exact_mod_cast hqpos) hscale
        linarith
      · exact h
    rw [toRat_fix hround hprec hstripped, hstrip, hvalue]

end EsscherMarket.Lib.Context
