import EsscherMarket.Lib.DecimalRounding
import EsscherMarket.SourceData.DecimalMath

/-!
# When the square root is found

Newton's iteration of `decimal_sqrt` stops when a guess repeats.  Every guess after the first is at
least the rounded root, a guess that is too large is followed by a smaller one, and at the root there
are at most two guesses left.  The two may follow each other for ever.
-/

namespace EsscherMarket.SourceData

open Lib Lib.Decimal

/-! ### One turn, on rational numbers -/

def round50 (x : ℚ) : ℚ := roundDigits 10 50 x

def halfOf (t : ℚ) : ℚ := round50 (round50 t / 2)

def improve (value guess : ℚ) : ℚ := halfOf (guess + round50 (value / guess))

def Settles (f : ℚ → ℚ) (guess : ℚ) : Prop := ∃ n, f (f^[n] guess) = f^[n] guess

theorem Settles.of_next {f : ℚ → ℚ} {guess : ℚ} (h : Settles f (f guess)) : Settles f guess := by
  obtain ⟨n, hn⟩ := h
  exact ⟨n + 1, hn⟩

theorem Settles.of_fixed {f : ℚ → ℚ} {guess : ℚ} (h : f guess = guess) : Settles f guess := ⟨0, h⟩

theorem settles_next_iff {f : ℚ → ℚ} {guess : ℚ} : Settles f (f guess) ↔ Settles f guess := by
  refine ⟨Settles.of_next, ?_⟩
  rintro ⟨n, hn⟩
  refine ⟨n, ?_⟩
  rw [← Function.iterate_succ_apply, Function.iterate_succ_apply', hn, hn]

/-- Where two guesses are followed by one of the two, only their exchange never stops. -/
theorem settles_pair {f : ℚ → ℚ} {a b guess : ℚ} (ha : f a = a ∨ f a = b) (hb : f b = a ∨ f b = b)
    (h : guess = a ∨ guess = b) : Settles f guess ↔ ¬(a ≠ b ∧ f a = b ∧ f b = a) := by
  constructor
  · rintro ⟨n, hn⟩ ⟨hne, hab, hba⟩
    have hstays : ∀ n, f^[n] guess = a ∨ f^[n] guess = b := by
      intro n
      induction n with
      | zero => exact h
      | succ n ih =>
        rw [Function.iterate_succ_apply']
        rcases ih with heq | heq
        · rw [heq]
          exact ha
        · rw [heq]
          exact hb
    rcases hstays n with heq | heq
    · rw [heq, hab] at hn
      exact hne hn.symm
    · rw [heq, hba] at hn
      exact hne hn
  · intro hnot
    have hends : Settles f a ∧ Settles f b := by
      rcases ha with hfix | hab
      · refine ⟨.of_fixed hfix, ?_⟩
        rcases hb with hba | hfix'
        · exact .of_next (hba ▸ .of_fixed hfix)
        · exact .of_fixed hfix'
      · rcases hb with hba | hfix'
        · have heq : a = b := by
            by_contra hne
            exact hnot ⟨hne, hab, hba⟩
          have hfix : f a = a := by rw [hab, heq]
          exact ⟨.of_fixed hfix, heq ▸ .of_fixed hfix⟩
        · exact ⟨.of_next (hab ▸ .of_fixed hfix'), .of_fixed hfix'⟩
    rcases h with rfl | rfl
    · exact hends.1
    · exact hends.2

theorem round50_pos {x : ℚ} (h : 0 < x) : 0 < round50 x := roundDigits_pos (by decide) (by decide) h

theorem round50_mono {x y : ℚ} (hx : 0 < x) (h : x ≤ y) : round50 x ≤ round50 y :=
  roundDigits_mono (by decide) (by decide) hx h

theorem halfOf_pos {t : ℚ} (h : 0 < t) : 0 < halfOf t := round50_pos (half_pos (round50_pos h))

theorem halfOf_mono {s t : ℚ} (hs : 0 < s) (h : s ≤ t) : halfOf s ≤ halfOf t := by
  have hround := round50_mono hs h
  exact round50_mono (half_pos (round50_pos hs)) (by linarith)

theorem improve_pos {value guess : ℚ} (hvalue : 0 < value) (hguess : 0 < guess) :
    0 < improve value guess :=
  halfOf_pos (add_pos hguess (round50_pos (div_pos hvalue hguess)))

/-! ### The first turns of the loop are turns on rational numbers -/

theorem toRat_newton {value guess : Decimal} (hvalue : 0 < value.toRat) (hguess : 0 < guess.toRat) :
    (collectorContext.div (collectorContext.add guess (collectorContext.div value guess))
      (ofNat 2)).toRat = improve value.toRat guess.toRat := by
  obtain ⟨cv, ev, rfl⟩ := eq_unsigned hvalue
  obtain ⟨cg, eg, rfl⟩ := eq_unsigned hguess
  have hpos : ∀ {c : Nat} {e : Int}, 0 < (finite false c e).toRat → 0 < c := by
    intro c e h
    rcases Nat.eq_zero_or_pos c with rfl | hc
    · rw [Context.toRat_unsigned, Nat.cast_zero, zero_mul] at h
      exact absurd h (lt_irrefl 0)
    · exact hc
  have hprec := prec_pos
  have hquot := @Context.toRat_div collectorContext rfl hprec cv cg ev eg (hpos hvalue) (hpos hguess)
  obtain ⟨cq, eq, hq, -⟩ := (Context.div_near hprec cv ev eg (hpos hguess).ne').result
  have hsum := @Context.toRat_add collectorContext rfl hprec cg cq eg eq (hpos hguess)
  obtain ⟨cs, es, hs, -⟩ := (Context.add_near hprec cg cq eg eq).result
  rw [hq] at hquot ⊢
  rw [hs] at hsum ⊢
  have hpos' : 0 < (finite false cs es).toRat := by
    rw [hsum]
    refine roundDigits_pos (by decide) hprec (add_pos_of_pos_of_nonneg hguess ?_)
    exact Context.toRat_unsigned_nonneg cq eq
  rw [ofNat, @Context.toRat_div collectorContext rfl hprec cs 2 es 0 (hpos hpos') (by decide), hsum,
    hquot, ← ofNat, toRat_ofNat]
  rfl

theorem finite_newton {value guess : Decimal} (hvalue : 0 < value.toRat) (hguess : 0 < guess.toRat) :
    (collectorContext.div (collectorContext.add guess (collectorContext.div value guess))
      (ofNat 2)).isFinite = true := by
  have hpos := improve_pos hvalue hguess
  rw [← toRat_newton hvalue hguess] at hpos
  obtain ⟨c, e, h⟩ := eq_unsigned hpos
  rw [h]
  rfl

theorem isFinite_of_pos {d : Decimal} (h : 0 < d.toRat) : d.isFinite = true := by
  obtain ⟨c, e, rfl⟩ := eq_unsigned h
  rfl

/-- The loop returns after some turns exactly where a guess repeats. -/
theorem newton_some_iff {value : Decimal} (hvalue : 0 < value.toRat) {fuel : Nat} {guess : Decimal}
    (hguess : 0 < guess.toRat) : (∃ r, newton value fuel guess = some r) ↔
      ∃ n < fuel, improve value.toRat ((improve value.toRat)^[n] guess.toRat) =
        (improve value.toRat)^[n] guess.toRat := by
  induction fuel generalizing guess with
  | zero => simp [newton]
  | succ fuel ih =>
    have hturn := toRat_newton hvalue hguess
    have hpos := improve_pos hvalue hguess
    rw [← hturn] at hpos
    rw [newton]
    by_cases heq : improve value.toRat guess.toRat = guess.toRat
    · have hstop := beq_of_toRat (finite_newton hvalue hguess) (isFinite_of_pos hguess)
        (hturn.trans heq)
      rw [if_pos hstop]
      exact ⟨fun _ => ⟨0, Nat.succ_pos fuel, heq⟩, fun _ => ⟨guess, rfl⟩⟩
    · have hgo := mt (toRat_of_beq (finite_newton hvalue hguess) (isFinite_of_pos hguess))
        (fun h => heq (hturn.symm.trans h))
      rw [if_neg hgo, ih hpos, hturn]
      constructor
      · rintro ⟨n, hn, hfixed⟩
        exact ⟨n + 1, Nat.succ_lt_succ hn, hfixed⟩
      · rintro ⟨n, hn, hfixed⟩
        cases n with
        | zero => exact absurd hfixed heq
        | succ n => exact ⟨n, Nat.lt_of_succ_lt_succ hn, hfixed⟩

theorem newton_stops {value : Decimal} (hvalue : 0 < value.toRat) :
    (∃ fuel r, newton value fuel value = some r) ↔ Settles (improve value.toRat) value.toRat := by
  constructor
  · rintro ⟨fuel, hstop⟩
    obtain ⟨n, -, hn⟩ := (newton_some_iff hvalue hvalue).mp hstop
    exact ⟨n, hn⟩
  · rintro ⟨n, hn⟩
    exact ⟨n + 1, (newton_some_iff hvalue hvalue).mpr ⟨n, Nat.lt_succ_self n, hn⟩⟩

/-! ### Powers of ten -/

theorem round50_mul_zpow {x : ℚ} (hx : 0 < x) (e : ℤ) :
    round50 (x * 10 ^ e) = round50 x * 10 ^ e :=
  roundDigits_mul_zpow (by decide) (by decide) hx e

theorem halfOf_mul_zpow {t : ℚ} (ht : 0 < t) (e : ℤ) : halfOf (t * 10 ^ e) = halfOf t * 10 ^ e := by
  have hpos := round50_pos ht
  rw [halfOf, round50_mul_zpow ht, mul_div_right_comm, round50_mul_zpow (half_pos hpos), halfOf]

/-- Counted in units of `10 ^ e`, the loop does the same. -/
theorem improve_mul_zpow {value guess : ℚ} (hvalue : 0 < value) (hguess : 0 < guess) (e : ℤ) :
    improve (value * 10 ^ (2 * e)) (guess * 10 ^ e) = improve value guess * 10 ^ e := by
  have hscale : (0 : ℚ) < 10 ^ e := zpow_pos (by norm_num) e
  have hquot : value * 10 ^ (2 * e) / (guess * 10 ^ e) = value / guess * 10 ^ e := by
    rw [two_mul, zpow_add₀ (by norm_num)]
    field_simp
  have hpos := div_pos hvalue hguess
  rw [improve, hquot, round50_mul_zpow hpos, ← add_mul, halfOf_mul_zpow, improve]
  exact add_pos hguess (round50_pos hpos)

theorem improve_iterate_pos {value guess : ℚ} (hvalue : 0 < value) (hguess : 0 < guess) (n : ℕ) :
    0 < (improve value)^[n] guess := by
  induction n generalizing guess with
  | zero => exact hguess
  | succ n ih => exact ih (improve_pos hvalue hguess)

theorem improve_iterate_mul_zpow {value guess : ℚ} (hvalue : 0 < value) (hguess : 0 < guess) (e : ℤ)
    (n : ℕ) : (improve (value * 10 ^ (2 * e)))^[n] (guess * 10 ^ e) =
      (improve value)^[n] guess * 10 ^ e := by
  induction n generalizing guess with
  | zero => rfl
  | succ n ih =>
    rw [Function.iterate_succ_apply, improve_mul_zpow hvalue hguess, ih (improve_pos hvalue hguess),
      Function.iterate_succ_apply]

theorem settles_mul_zpow {value guess : ℚ} (hvalue : 0 < value) (hguess : 0 < guess) (e : ℤ) :
    Settles (improve (value * 10 ^ (2 * e))) (guess * 10 ^ e) ↔ Settles (improve value) guess := by
  have hscale : (10 : ℚ) ^ e ≠ 0 := zpow_ne_zero e (by norm_num)
  have hstep : ∀ n, (improve (value * 10 ^ (2 * e)) ((improve (value * 10 ^ (2 * e)))^[n]
      (guess * 10 ^ e)) = (improve (value * 10 ^ (2 * e)))^[n] (guess * 10 ^ e) ↔
      improve value ((improve value)^[n] guess) = (improve value)^[n] guess) := by
    intro n
    rw [improve_iterate_mul_zpow hvalue hguess,
      improve_mul_zpow hvalue (improve_iterate_pos hvalue hguess n), mul_left_inj' hscale]
  exact exists_congr hstep

/-! ### Rounding among the natural numbers -/

theorem round50_of_lt {x : ℚ} (hlow : 10 ^ 49 ≤ x) (hhigh : x < 10 ^ 50) :
    round50 x = halfEven x := by
  have h := @roundDigits_eq 10 50 x (by decide) (by decide) 0 (by push_cast; simpa using hlow)
    (by push_cast; simpa using hhigh)
  rw [zpow_zero, div_one, mul_one] at h
  exact h

theorem round50_of_ge {x : ℚ} (hlow : 10 ^ 50 ≤ x) (hhigh : x < 10 ^ 51) :
    round50 x = halfEven (x / 10) * 10 := by
  have h := @roundDigits_eq 10 50 x (by decide) (by decide) 1
    (by push_cast; norm_num at hlow ⊢; linarith) (by push_cast; norm_num at hhigh ⊢; linarith)
  rw [zpow_one] at h
  exact h

theorem round50_natCast {n : ℕ} (hn : 0 < n) (hle : n ≤ 10 ^ 50) : round50 n = n :=
  roundDigits_of_digits (by decide) (by decide) (hasDigits_natCast hn hle)

/-- Below the numbers of fifty digits before the point the error is at most a twentieth. -/
theorem abs_sub_round50_of_lt {x : ℚ} (hlow : 10 ^ 48 ≤ x) (hhigh : x < 10 ^ 49) :
    |x - round50 x| ≤ 1 / 20 := by
  have h := @roundDigits_eq 10 50 x (by decide) (by decide) (-1)
    (by push_cast; norm_num at hlow ⊢; linarith) (by push_cast; norm_num at hhigh ⊢; linarith)
  have hspec := abs_le.mp (halfEven_spec (x * 10)).1
  have hvalue : round50 x = halfEven (x * 10) / 10 := by
    rw [round50, h]
    push_cast
    rw [zpow_neg, zpow_one, div_inv_eq_mul, div_eq_mul_inv]
  rw [hvalue, abs_le]
  constructor <;> linarith [hspec.1, hspec.2]

/-- The error is at most one part in `2 * 10 ^ 49`. -/
theorem round50_le {x : ℚ} (hx : 0 < x) : round50 x ≤ x * (1 + 1 / (2 * 10 ^ 49)) := by
  have herr := abs_le.mp (@abs_sub_roundDigits 10 50 x (by decide))
  have hdigits := (@digits_of_lastUnit 10 50 x (by decide) (by decide) hx).1
  have hexp : ((10 : ℕ) : ℚ) ^ (50 - 1) = 10 ^ 49 := by norm_num
  rw [hexp] at hdigits
  have hround : round50 x ≤ x + lastUnit 10 50 x / 2 := by
    rw [round50]
    linarith [herr.1]
  have hunit : lastUnit 10 50 x / 2 ≤ x * (1 / (2 * 10 ^ 49)) := by
    rw [mul_one_div, div_le_div_iff₀ (by norm_num) (by positivity)]
    linarith
  linarith

/-- From `10 ^ 49` on the rounded number is an integer. -/
theorem exists_round50_eq {x : ℚ} (h : 10 ^ 49 ≤ x) : ∃ n : ℕ, round50 x = n := by
  have hx : 0 < x := lt_of_lt_of_le (by positivity) h
  have hlog : 49 ≤ Int.log 10 x := by
    rw [← Int.zpow_le_iff_le_log (by decide) hx]
    exact_mod_cast h
  have hunit : lastUnit 10 50 x = ((10 ^ (Int.log 10 x - 49).toNat : ℕ) : ℚ) := by
    rw [lastUnit, Nat.cast_pow, ← zpow_natCast]
    congr 1
    omega
  have hpos : (0 : ℤ) ≤ halfEven (x / lastUnit 10 50 x) := by
    have hle := @halfEven_mono 0 _ (div_pos hx (@lastUnit_pos 10 50 x (by decide))).le
    have hzero : halfEven (0 : ℚ) = 0 := by
      have h0 := halfEven_intCast 0
      rwa [Int.cast_zero] at h0
    rwa [hzero] at hle
  obtain ⟨m, hm⟩ := Int.eq_ofNat_of_zero_le hpos
  refine ⟨m * 10 ^ (Int.log 10 x - 49).toNat, ?_⟩
  rw [round50, roundDigits, hm, hunit]
  push_cast
  rfl

/-! ### Half of a natural number -/

/-- The rounded half of a natural number of fifty or fifty-one digits: to an even number up to
`10 ^ 50`, to a multiple of five beyond. -/
def half50 (n : ℕ) : ℕ :=
  if n ≤ 10 ^ 50 then (if n % 4 = 3 then n / 2 + 1 else n / 2)
  else if 5 < n % 10 ∨ n % 10 = 5 ∧ n / 10 % 2 = 1 then 5 * (n / 10 + 1) else 5 * (n / 10)

theorem half50_of_le {n : ℕ} (h : n ≤ 10 ^ 50) :
    half50 n = if n % 4 = 3 then n / 2 + 1 else n / 2 := if_pos h

theorem half50_of_gt {n : ℕ} (h : 10 ^ 50 < n) : half50 n =
    if 5 < n % 10 ∨ n % 10 = 5 ∧ n / 10 % 2 = 1 then 5 * (n / 10 + 1) else 5 * (n / 10) :=
  if_neg (not_le.mpr h)

theorem halfEven_half (n : ℕ) :
    halfEven ((n : ℚ) / 2) = ((if n % 4 = 3 then n / 2 + 1 else n / 2 : ℕ) : ℤ) := by
  have hn : (n : ℚ) = 2 * (n / 2 : ℕ) + (n % 2 : ℕ) := by
    exact_mod_cast (Nat.div_add_mod n 2).symm
  have hcases : n % 2 = 0 ∨ n % 2 = 1 := by omega
  rcases hcases with h | h
  · rw [if_neg (by omega), hn, h]
    have hdiff : (2 * ((n / 2 : ℕ) : ℚ) + (0 : ℕ)) / 2 - (((n / 2 : ℕ) : ℤ) : ℚ) = 0 := by
      rw [Int.cast_natCast]
      push_cast
      ring
    refine halfEven_eq_of_lt ?_
    rw [hdiff]
    norm_num
  · by_cases hup : n % 4 = 3
    · rw [if_pos hup, hn, h]
      have hdiff : (2 * ((n / 2 : ℕ) : ℚ) + (1 : ℕ)) / 2 - (((n / 2 + 1 : ℕ) : ℤ) : ℚ) = -(1 / 2) := by
        rw [Int.cast_natCast]
        push_cast
        ring
      refine halfEven_eq (by rw [hdiff]; norm_num) fun _ => ?_
      omega
    · rw [if_neg hup, hn, h]
      have hdiff : (2 * ((n / 2 : ℕ) : ℚ) + (1 : ℕ)) / 2 - (((n / 2 : ℕ) : ℤ) : ℚ) = 1 / 2 := by
        rw [Int.cast_natCast]
        push_cast
        ring
      refine halfEven_eq (by rw [hdiff]; norm_num) fun _ => ?_
      omega

theorem halfEven_tenth (n : ℕ) : halfEven ((n : ℚ) / 10) =
    ((if 5 < n % 10 ∨ n % 10 = 5 ∧ n / 10 % 2 = 1 then n / 10 + 1 else n / 10 : ℕ) : ℤ) := by
  have hn : (n : ℚ) = 10 * (n / 10 : ℕ) + (n % 10 : ℕ) := by
    exact_mod_cast (Nat.div_add_mod n 10).symm
  have hrest : n % 10 < 10 := Nat.mod_lt n (by decide)
  by_cases hup : 5 < n % 10 ∨ n % 10 = 5 ∧ n / 10 % 2 = 1
  · rw [if_pos hup]
    have hge : (5 : ℚ) ≤ (n % 10 : ℕ) := by exact_mod_cast (by omega : 5 ≤ n % 10)
    have hlt : ((n % 10 : ℕ) : ℚ) < 10 := by exact_mod_cast hrest
    have hdiff : (n : ℚ) / 10 - (((n / 10 + 1 : ℕ) : ℤ) : ℚ) = ((n % 10 : ℕ) : ℚ) / 10 - 1 := by
      rw [Int.cast_natCast]
      push_cast
      linarith
    refine halfEven_eq ?_ fun heq => ?_
    · rw [hdiff, abs_le]
      constructor <;> linarith
    · rw [hdiff, abs_of_neg (by linarith)] at heq
      have hfive : ((n % 10 : ℕ) : ℚ) = (5 : ℕ) := by push_cast; linarith
      have : n % 10 = 5 := by exact_mod_cast hfive
      omega
  · rw [if_neg hup]
    have hle : ((n % 10 : ℕ) : ℚ) ≤ 5 := by exact_mod_cast (by omega : n % 10 ≤ 5)
    have hge : (0 : ℚ) ≤ ((n % 10 : ℕ) : ℚ) := Nat.cast_nonneg _
    have hdiff : (n : ℚ) / 10 - (((n / 10 : ℕ) : ℤ) : ℚ) = ((n % 10 : ℕ) : ℚ) / 10 := by
      rw [Int.cast_natCast]
      linarith
    refine halfEven_eq ?_ fun heq => ?_
    · rw [hdiff, abs_le]
      constructor <;> linarith
    · rw [hdiff, abs_of_nonneg (by linarith)] at heq
      have hfive : ((n % 10 : ℕ) : ℚ) = (5 : ℕ) := by push_cast; linarith
      have : n % 10 = 5 := by exact_mod_cast hfive
      omega

theorem halfOf_natCast {n : ℕ} (hlow : 2 * 10 ^ 49 ≤ n) (hhigh : n ≤ 2 * 10 ^ 50) :
    halfOf n = half50 n := by
  rw [halfOf, half50]
  by_cases hle : n ≤ 10 ^ 50
  · have hlow' : (2 * 10 ^ 49 : ℚ) ≤ n := by exact_mod_cast hlow
    have hle' : (n : ℚ) ≤ 10 ^ 50 := by exact_mod_cast hle
    rw [if_pos hle, round50_natCast (by omega) hle,
      round50_of_lt (by linarith) (by linarith), halfEven_half, Int.cast_natCast]
  · have hgt : (10 ^ 50 : ℚ) ≤ n := by exact_mod_cast (by omega : 10 ^ 50 ≤ n)
    have hhigh' : (n : ℚ) ≤ 2 * 10 ^ 50 := by exact_mod_cast hhigh
    have hhalf : ∀ m : ℕ, 0 < m → 5 * m ≤ 10 ^ 50 → round50 (((m : ℤ) : ℚ) * 10 / 2) = (5 * m : ℕ) := by
      intro m hm hmle
      rw [← round50_natCast (by omega) hmle]
      congr 1
      push_cast
      ring
    rw [if_neg hle, round50_of_ge hgt (by linarith), halfEven_tenth]
    by_cases hup : 5 < n % 10 ∨ n % 10 = 5 ∧ n / 10 % 2 = 1
    · rw [if_pos hup, if_pos hup, hhalf _ (by omega) (by omega)]
    · rw [if_neg hup, if_neg hup, hhalf _ (by omega) (by omega)]

section Half

variable {n : ℕ}

theorem half50_ge (h : 2 * 10 ^ 49 ≤ n) : 10 ^ 49 ≤ half50 n := by
  rw [half50]
  split_ifs <;> omega

/-- Twice the half is at most five away. -/
theorem half50_near (n : ℕ) : 2 * half50 n ≤ n + 5 ∧ n ≤ 2 * half50 n + 5 := by
  rw [half50]
  split_ifs <;> omega

theorem half50_succ (n : ℕ) : half50 n ≤ half50 (n + 1) := by
  rw [half50, half50]
  split_ifs <;> omega

theorem sub_half50_le (h : n < 2 * 10 ^ 50) : n - half50 n ≤ 10 ^ 50 := by
  rw [half50]
  split_ifs <;> omega

end Half

/-! ### The loop on a value of ninety-nine or a hundred digits -/

/-- A value that is counted in such a unit that its root has fifty digits before the point, and the
root of four times it, rounded down. -/
structure Rooted (value : ℚ) (m : ℕ) : Prop where
  low : 10 ^ 98 ≤ value
  high : value < 10 ^ 100
  le : (m : ℚ) ^ 2 ≤ 4 * value
  lt : 4 * value < ((m : ℚ) + 1) ^ 2

theorem exists_rooted {value : ℚ} (hlow : 10 ^ 98 ≤ value) (hhigh : value < 10 ^ 100) :
    ∃ m, Rooted value m := by
  have hvalue : 0 ≤ 4 * value := by
    have hpos : (0 : ℚ) ≤ 10 ^ 98 := by positivity
    linarith
  have hle : ((Nat.sqrt ⌊4 * value⌋₊ : ℕ) : ℚ) ^ 2 ≤ (⌊4 * value⌋₊ : ℕ) := by
    exact_mod_cast Nat.sqrt_le' _
  have hlt : ((⌊4 * value⌋₊ : ℕ) : ℚ) + 1 ≤ ((Nat.sqrt ⌊4 * value⌋₊ : ℕ) + 1) ^ 2 := by
    exact_mod_cast Nat.succ_le_succ_sqrt' _
  refine ⟨Nat.sqrt ⌊4 * value⌋₊, hlow, hhigh, ?_, ?_⟩
  · exact le_trans hle (Nat.floor_le hvalue)
  · exact lt_of_lt_of_le (Nat.lt_floor_add_one _) hlt

section Scaled

variable {value : ℚ} {m : ℕ}

theorem Rooted.le_root (h : Rooted value m) : 2 * 10 ^ 49 ≤ m := by
  by_contra hlt
  have hm : (m : ℚ) + 1 ≤ 2 * 10 ^ 49 := by exact_mod_cast not_le.mp hlt
  have hsq : ((m : ℚ) + 1) ^ 2 ≤ (2 * 10 ^ 49) ^ 2 := pow_le_pow_left₀ (by positivity) hm 2
  have hlow := h.low
  have hup := h.lt
  norm_num at hsq hlow
  linarith

theorem Rooted.root_lt (h : Rooted value m) : m < 2 * 10 ^ 50 := by
  by_contra hge
  have hm : (2 * 10 ^ 50 : ℚ) ≤ m := by exact_mod_cast not_lt.mp hge
  have hsq : (2 * 10 ^ 50 : ℚ) ^ 2 ≤ (m : ℚ) ^ 2 := pow_le_pow_left₀ (by positivity) hm 2
  have hhigh := h.high
  have hdown := h.le
  norm_num at hsq hhigh
  linarith

theorem Rooted.pos (h : Rooted value m) : 0 < value := lt_of_lt_of_le (by positivity) h.low

/-- A guess and the quotient by it together are at least twice the root. -/
theorem Rooted.le_add_quot (h : Rooted value m) {guess : ℚ} (hguess : 0 < guess) :
    (m : ℚ) ≤ guess + value / guess := by
  have hprod : guess * (value / guess) = value := mul_div_cancel₀ value hguess.ne'
  have hquot : 0 < value / guess := div_pos h.pos hguess
  have hsq : (m : ℚ) ^ 2 ≤ (guess + value / guess) ^ 2 := by
    have hle := h.le
    nlinarith [sq_nonneg (guess - value / guess)]
  exact le_of_sq_le_sq hsq (add_pos hguess hquot).le

theorem Rooted.le_halfOf (h : Rooted value m) {t : ℚ} (ht : (m : ℚ) ≤ t) :
    ∃ n : ℕ, halfOf t = n ∧ half50 m ≤ n := by
  have hm : (2 * 10 ^ 49 : ℚ) ≤ m := by exact_mod_cast h.le_root
  have hround := round50_mono (by positivity) (hm.trans ht)
  have hkeep : round50 (2 * 10 ^ 49) = 2 * 10 ^ 49 := by
    have hnat := @round50_natCast (2 * 10 ^ 49) (by decide) (by norm_num)
    have hcast : ((2 * 10 ^ 49 : ℕ) : ℚ) = 2 * 10 ^ 49 := by norm_num
    rwa [hcast] at hnat
  rw [hkeep] at hround
  obtain ⟨n, hn⟩ := @exists_round50_eq (round50 t / 2) (by linarith)
  have hge := halfOf_mono (lt_of_lt_of_le (by positivity) hm) ht
  rw [halfOf_natCast h.le_root h.root_lt.le, halfOf, hn] at hge
  exact ⟨n, hn, by exact_mod_cast hge⟩

/-- No guess falls below the rounded root. -/
theorem Rooted.improve_ge (h : Rooted value m) {guess : ℕ} (hguess : half50 m ≤ guess) :
    ∃ n : ℕ, improve value guess = n ∧ half50 m ≤ n := by
  have hhalf := half50_ge h.le_root
  have hpos : (0 : ℚ) < guess := by exact_mod_cast (by omega : 0 < guess)
  refine h.le_halfOf ?_
  rcases Nat.lt_or_ge guess m with hlt | hge
  · have hsub := sub_half50_le h.root_lt
    have hquot : ((m - guess : ℕ) : ℚ) ≤ value / guess := by
      rw [Nat.cast_sub hlt.le]
      linarith [h.le_add_quot hpos]
    have hround := round50_mono (by exact_mod_cast (by omega : 0 < m - guess)) hquot
    rw [round50_natCast (by omega) (by omega), Nat.cast_sub hlt.le] at hround
    linarith
  · have hge' : (m : ℚ) ≤ guess := by exact_mod_cast hge
    linarith [round50_pos (div_pos h.pos hpos)]

/-- Near the root the quotient is little more than what the guess leaves of twice the root. -/
theorem Rooted.quot_near (h : Rooted value m) {guess : ℕ} (hguess : half50 m ≤ guess)
    (hnear : 2 * guess ≤ m + 1000) : guess ≤ m ∧
      ((m - guess : ℕ) : ℚ) ≤ value / guess ∧ value / guess < (m - guess : ℕ) + 5 / 4 := by
  have hroot := h.le_root
  have hhalf := half50_ge hroot
  have hle : guess ≤ m := by omega
  have hpos : (0 : ℚ) < guess := by exact_mod_cast (by omega : 0 < guess)
  refine ⟨hle, ?_, ?_⟩
  · rw [Nat.cast_sub hle]
    linarith [h.le_add_quot hpos]
  · rw [Nat.cast_sub hle, div_lt_iff₀ hpos]
    have hlow : (10 ^ 49 : ℚ) ≤ guess := by exact_mod_cast (by omega : 10 ^ 49 ≤ guess)
    have hup : (2 : ℚ) * guess ≤ m + 1000 := by exact_mod_cast hnear
    have hdown : (m : ℚ) ≤ 2 * guess + 1000 := by
      have hfive := (half50_near m).2
      exact_mod_cast (by omega : m ≤ 2 * guess + 1000)
    have hsq : ((m : ℚ) - 2 * guess) ^ 2 ≤ 1000 ^ 2 := sq_le_sq' (by linarith) (by linarith)
    have hlt := h.lt
    nlinarith

/-- There a quotient of fifty digits before the point is rounded to one of two numbers. -/
theorem Rooted.round_quot (h : Rooted value m) {guess : ℕ} (hguess : half50 m ≤ guess)
    (hnear : 2 * guess ≤ m + 1000) (hquot : 10 ^ 49 ≤ value / guess) :
    round50 (value / guess) = (m - guess : ℕ) ∨ round50 (value / guess) = (m - guess + 1 : ℕ) := by
  obtain ⟨hle, hlow, hhigh⟩ := h.quot_near hguess hnear
  have hrest : m - guess ≤ 10 ^ 50 := by
    have hsub := sub_half50_le h.root_lt
    omega
  rcases lt_or_ge (value / guess) (10 ^ 50) with hlt | hge
  · rw [round50_of_lt hquot hlt]
    obtain ⟨hdown, hup⟩ := abs_le.mp (halfEven_spec (value / guess)).1
    have hfirst : ((m - guess : ℕ) : ℤ) - 1 < halfEven (value / guess) := by
      have hcast : (((m - guess : ℕ) : ℤ) : ℚ) - 1 < halfEven (value / guess) := by
        push_cast
        linarith
      exact_mod_cast hcast
    have hlast : halfEven (value / guess) < ((m - guess : ℕ) : ℤ) + 2 := by
      have hcast : (halfEven (value / guess) : ℚ) < (((m - guess : ℕ) : ℤ) : ℚ) + 2 := by
        push_cast
        linarith
      exact_mod_cast hcast
    have hcases : halfEven (value / guess) = ((m - guess : ℕ) : ℤ) ∨
        halfEven (value / guess) = ((m - guess + 1 : ℕ) : ℤ) := by omega
    rcases hcases with heq | heq
    · left
      rw [heq, Int.cast_natCast]
    · right
      rw [heq, Int.cast_natCast]
  · -- the quotient has a digit more, and is rounded to the first number of that many digits
    have hlong : ((m - guess : ℕ) : ℚ) ≤ 10 ^ 50 := by exact_mod_cast hrest
    have hround : round50 (value / guess) = (10 ^ 50 : ℕ) := by
      have heven : halfEven (value / guess / 10) = (10 ^ 49 : ℤ) := by
        refine halfEven_eq_of_lt ?_
        push_cast
        rw [abs_lt]
        constructor <;> linarith
      rw [round50_of_ge hge (by linarith), heven]
      norm_num
    have hlast : 10 ^ 50 ≤ m - guess + 1 := by
      have hcast : (10 ^ 50 : ℚ) < (m - guess : ℕ) + 2 := by linarith
      have hnat : 10 ^ 50 < m - guess + 2 := by exact_mod_cast hcast
      omega
    rw [hround]
    rcases Nat.eq_or_lt_of_le hrest with heq | hlt
    · left
      rw [heq]
    · right
      rw [show m - guess + 1 = 10 ^ 50 by omega]

theorem Rooted.improve_of_round (h : Rooted value m) {guess : ℕ} (hle : guess ≤ m)
    (hround : round50 (value / guess) = (m - guess : ℕ)) : improve value guess = half50 m := by
  rw [improve, hround, ← halfOf_natCast h.le_root h.root_lt.le, ← Nat.cast_add,
    Nat.add_sub_cancel' hle]

theorem Rooted.improve_of_round_succ (h : Rooted value m) {guess : ℕ} (hle : guess ≤ m)
    (hround : round50 (value / guess) = (m - guess + 1 : ℕ)) :
    improve value guess = half50 (m + 1) := by
  have hroot := h.le_root
  have hbound := h.root_lt
  rw [improve, hround, ← halfOf_natCast (by omega) (by omega), ← Nat.cast_add, ← Nat.add_assoc,
    Nat.add_sub_cancel' hle]

/-- Next to the root there are two guesses. -/
theorem Rooted.improve_near (h : Rooted value m) {guess : ℕ} (hguess : half50 m ≤ guess)
    (hnear : 2 * guess ≤ m + 1000) :
    improve value guess = half50 m ∨ improve value guess = half50 (m + 1) := by
  obtain ⟨hle, hlow, hhigh⟩ := h.quot_near hguess hnear
  have hroot := h.le_root
  have hbound := h.root_lt
  rcases lt_or_ge (value / guess) (10 ^ 49) with hlt | hge
  · have hfive := (half50_near m).2
    have hshort : m - guess < 10 ^ 49 := by
      have hcast : ((m - guess : ℕ) : ℚ) < 10 ^ 49 := lt_of_le_of_lt hlow hlt
      exact_mod_cast hcast
    have hlong : 10 ^ 48 ≤ m - guess := by omega
    have hlong' : (10 ^ 48 : ℚ) ≤ (m - guess : ℕ) := by exact_mod_cast hlong
    obtain ⟨-, herr⟩ := abs_le.mp (abs_sub_round50_of_lt (hlong'.trans hlow) hlt)
    obtain ⟨herr', -⟩ := abs_le.mp (abs_sub_round50_of_lt (hlong'.trans hlow) hlt)
    have hfloor := round50_mono (lt_of_lt_of_le (by positivity) hlong') hlow
    rw [round50_natCast (by omega) (by omega)] at hfloor
    rw [Nat.cast_sub hle] at hfloor hhigh
    have hroot' : (2 * 10 ^ 49 : ℚ) ≤ m := by exact_mod_cast hroot
    have hbound' : (m : ℚ) ≤ 3 * 10 ^ 49 := by exact_mod_cast (by omega : m ≤ 3 * 10 ^ 49)
    have hsum : round50 ((guess : ℚ) + round50 (value / guess)) = (m : ℕ) ∨
        round50 ((guess : ℚ) + round50 (value / guess)) = (m + 1 : ℕ) := by
      rw [round50_of_lt (by linarith) (by linarith)]
      obtain ⟨hdown, hup⟩ := abs_le.mp (halfEven_spec ((guess : ℚ) + round50 (value / guess))).1
      have hfirst : (m : ℤ) - 1 < halfEven ((guess : ℚ) + round50 (value / guess)) := by
        have hcast : ((m : ℤ) : ℚ) - 1 < halfEven ((guess : ℚ) + round50 (value / guess)) := by
          push_cast
          linarith
        exact_mod_cast hcast
      have hlast : halfEven ((guess : ℚ) + round50 (value / guess)) < (m : ℤ) + 2 := by
        have hcast : (halfEven ((guess : ℚ) + round50 (value / guess)) : ℚ) < ((m : ℤ) : ℚ) + 2 := by
          push_cast
          linarith
        exact_mod_cast hcast
      have hcases : halfEven ((guess : ℚ) + round50 (value / guess)) = (m : ℤ) ∨
          halfEven ((guess : ℚ) + round50 (value / guess)) = ((m + 1 : ℕ) : ℤ) := by omega
      rcases hcases with heq | heq
      · left
        rw [heq, Int.cast_natCast]
      · right
        rw [heq, Int.cast_natCast]
    rcases hsum with heq | heq
    · left
      rw [improve, halfOf, heq, ← halfOf_natCast hroot hbound.le, halfOf,
        round50_natCast (by omega) (by omega)]
    · right
      rw [improve, halfOf, heq, ← halfOf_natCast (by omega) (by omega), halfOf,
        round50_natCast (by omega) (by omega)]
  · rcases h.round_quot hguess hnear hge with heq | heq
    · left
      exact h.improve_of_round hle heq
    · right
      exact h.improve_of_round_succ hle heq

/-- A guess above both is followed by a smaller one. -/
theorem Rooted.improve_lt (h : Rooted value m) {guess : ℕ} (hguess : half50 (m + 1) < guess) :
    improve value guess < guess := by
  have hsucc := half50_succ m
  have hroot := h.le_root
  have hhalf := half50_ge hroot
  by_cases hnear : 2 * guess ≤ m + 1000
  · have hlt : (half50 (m + 1) : ℚ) < guess := by exact_mod_cast hguess
    have hle : (half50 m : ℚ) ≤ half50 (m + 1) := by exact_mod_cast hsucc
    rcases h.improve_near (by omega) hnear with heq | heq
    · rw [heq]
      linarith
    · rw [heq]
      linarith
  · have hpos : (0 : ℚ) < guess := by exact_mod_cast (by omega : 0 < guess)
    have hlow : (10 ^ 49 : ℚ) ≤ guess := by exact_mod_cast (by omega : 10 ^ 49 ≤ guess)
    have hfar : (m : ℚ) + 1001 ≤ 2 * guess := by exact_mod_cast (by omega : m + 1001 ≤ 2 * guess)
    have hquot : value / guess ≤ guess - 999 := by
      rw [div_le_iff₀ hpos]
      have hlt := h.lt
      have hm : (0 : ℚ) ≤ m := Nat.cast_nonneg m
      nlinarith
    have hpos' := div_pos h.pos hpos
    have hfirst := round50_le hpos'
    have hsum := add_pos hpos (round50_pos hpos')
    have hsecond := round50_le hsum
    have hthird := round50_le (half_pos (round50_pos hsum))
    rw [improve, halfOf]
    rcases le_or_gt (guess : ℚ) (10 ^ 51) with hshort | hlong
    · linarith
    · have hsmall : value / guess ≤ guess / 100 := by
        rw [div_le_iff₀ hpos]
        have hhigh := h.high
        nlinarith
      linarith

/-- The two guesses at the root are different and follow each other. -/
def Exchanged (value : ℚ) (m : ℕ) : Prop :=
  (half50 m : ℚ) ≠ half50 (m + 1) ∧ improve value (half50 m : ℕ) = half50 (m + 1) ∧
    improve value (half50 (m + 1) : ℕ) = half50 m

theorem Rooted.settles_near (h : Rooted value m) {guess : ℚ}
    (hguess : guess = half50 m ∨ guess = half50 (m + 1)) :
    Settles (improve value) guess ↔ ¬Exchanged value m := by
  have hroot := h.le_root
  have hsucc := half50_succ m
  have hfirst := (half50_near m).1
  have hlast := (half50_near (m + 1)).1
  exact settles_pair (h.improve_near le_rfl (by omega)) (h.improve_near hsucc (by omega)) hguess

/-- The guesses fall until they are at the root. -/
theorem Rooted.settles_iff (h : Rooted value m) {guess : ℕ} (hguess : half50 m ≤ guess) :
    Settles (improve value) guess ↔ ¬Exchanged value m := by
  induction guess using Nat.strongRecOn with
  | ind guess ih =>
    rw [← settles_next_iff]
    by_cases hlarge : half50 (m + 1) < guess
    · obtain ⟨n, hn, hge⟩ := h.improve_ge hguess
      have hlt := h.improve_lt hlarge
      rw [hn] at hlt ⊢
      exact ih n (by exact_mod_cast hlt) hge
    · have hroot := h.le_root
      have hlast := (half50_near (m + 1)).1
      exact h.settles_near (h.improve_near hguess (by omega))

theorem Rooted.settles_start (h : Rooted value m) (e : ℤ) :
    Settles (improve value) (value * 10 ^ e) ↔ ¬Exchanged value m := by
  have hscale : (0 : ℚ) < 10 ^ e := zpow_pos (by norm_num) e
  have hstart : 0 < value * 10 ^ e := mul_pos h.pos hscale
  have hquot : value / (value * 10 ^ e) = ((1 : ℕ) : ℚ) * 10 ^ (-e) := by
    have hne := h.pos.ne'
    rw [zpow_neg, Nat.cast_one, one_mul]
    field_simp
  have hround : round50 (value / (value * 10 ^ e)) = value / (value * 10 ^ e) := by
    rw [hquot, round50_mul_zpow (by norm_num), round50_natCast (by decide) (by norm_num)]
  obtain ⟨n, hn, hge⟩ := h.le_halfOf (h.le_add_quot hstart)
  rw [← settles_next_iff, improve, hround, hn]
  exact h.settles_iff hge

/-! ### The values between whose guesses the loop alternates -/

theorem Rooted.above (h : Rooted value m) {guess : ℕ} (hguess : half50 m ≤ guess)
    (hnear : 2 * guess ≤ m + 1000) (hlow : 10 ^ 49 ≤ m - guess) (hhigh : m - guess + 1 ≤ 10 ^ 50)
    (hne : half50 m ≠ half50 (m + 1)) (hnext : improve value guess = half50 (m + 1)) :
    (guess : ℚ) * ((m - guess : ℕ) + 1 / 2) ≤ value := by
  obtain ⟨hle, hdown, hup⟩ := h.quot_near hguess hnear
  have hhalf := half50_ge h.le_root
  have hpos : (0 : ℚ) < guess := by exact_mod_cast (by omega : 0 < guess)
  have hlow' : (10 ^ 49 : ℚ) ≤ (m - guess : ℕ) := by exact_mod_cast hlow
  have hhigh' : ((m - guess : ℕ) : ℚ) + 1 ≤ 10 ^ 50 := by exact_mod_cast hhigh
  rw [mul_comm, ← le_div_iff₀ hpos]
  rcases lt_or_ge (value / guess) (10 ^ 50) with hlt | hge
  · rcases h.round_quot hguess hnear (by linarith) with hround | hround
    · have hsame := h.improve_of_round hle hround
      rw [hsame] at hnext
      exact absurd (by exact_mod_cast hnext) hne
    · rw [round50_of_lt (by linarith) hlt] at hround
      have hfar := (abs_le.mp (halfEven_spec (value / guess)).1).1
      rw [hround] at hfar
      push_cast at hfar
      linarith
  · linarith

theorem Rooted.below (h : Rooted value m) {guess : ℕ} (hguess : half50 m ≤ guess)
    (hnear : 2 * guess ≤ m + 1000) (hlow : 10 ^ 49 ≤ m - guess) (hhigh : m - guess + 2 ≤ 10 ^ 50)
    (hne : half50 m ≠ half50 (m + 1)) (hnext : improve value guess = half50 m) :
    value ≤ (guess : ℚ) * ((m - guess : ℕ) + 1 / 2) := by
  obtain ⟨hle, hdown, hup⟩ := h.quot_near hguess hnear
  have hhalf := half50_ge h.le_root
  have hpos : (0 : ℚ) < guess := by exact_mod_cast (by omega : 0 < guess)
  have hlow' : (10 ^ 49 : ℚ) ≤ (m - guess : ℕ) := by exact_mod_cast hlow
  have hhigh' : ((m - guess : ℕ) : ℚ) + 2 ≤ 10 ^ 50 := by exact_mod_cast hhigh
  rw [mul_comm, ← div_le_iff₀ hpos]
  rcases h.round_quot hguess hnear (by linarith) with hround | hround
  · rw [round50_of_lt (by linarith) (by linarith)] at hround
    have hfar := (abs_le.mp (halfEven_spec (value / guess)).1).2
    rw [hround] at hfar
    linarith
  · have hsame := h.improve_of_round_succ hle hround
    rw [hsame] at hnext
    exact absurd (by exact_mod_cast hnext.symm) hne

/-- The nearest number may be a half away where it is even. -/
theorem round50_eq_of_even {x : ℚ} {n : ℕ} (hlow : 10 ^ 49 ≤ x) (hhigh : x < 10 ^ 50)
    (heven : n % 2 = 0) (hdown : (n : ℚ) - 1 / 2 ≤ x) (hup : x ≤ n + 1 / 2) : round50 x = n := by
  have hn : halfEven x = (n : ℤ) := by
    refine halfEven_eq ?_ fun _ => by omega
    rw [Int.cast_natCast, abs_le]
    constructor <;> linarith
  rw [round50_of_lt hlow hhigh, hn, Int.cast_natCast]

theorem Rooted.improve_of_below (h : Rooted value m) {guess : ℕ} (hguess : half50 m ≤ guess)
    (hnear : 2 * guess ≤ m + 1000) (hlow : 10 ^ 49 ≤ m - guess) (hhigh : m - guess + 2 ≤ 10 ^ 50)
    (heven : (m - guess) % 2 = 0) (hbelow : value ≤ (guess : ℚ) * ((m - guess : ℕ) + 1 / 2)) :
    improve value guess = half50 m := by
  obtain ⟨hle, hdown, hup⟩ := h.quot_near hguess hnear
  have hhalf := half50_ge h.le_root
  have hpos : (0 : ℚ) < guess := by exact_mod_cast (by omega : 0 < guess)
  have hlow' : (10 ^ 49 : ℚ) ≤ (m - guess : ℕ) := by exact_mod_cast hlow
  have hhigh' : ((m - guess : ℕ) : ℚ) + 2 ≤ 10 ^ 50 := by exact_mod_cast hhigh
  rw [mul_comm, ← div_le_iff₀ hpos] at hbelow
  exact h.improve_of_round hle
    (round50_eq_of_even (by linarith) (by linarith) heven (by linarith) hbelow)

theorem Rooted.improve_of_above (h : Rooted value m) {guess : ℕ} (hguess : half50 m ≤ guess)
    (hnear : 2 * guess ≤ m + 1000) (hlow : 10 ^ 49 ≤ m - guess) (hhigh : m - guess + 2 ≤ 10 ^ 50)
    (heven : (m - guess + 1) % 2 = 0) (habove : (guess : ℚ) * ((m - guess : ℕ) + 1 / 2) ≤ value) :
    improve value guess = half50 (m + 1) := by
  obtain ⟨hle, hdown, hup⟩ := h.quot_near hguess hnear
  have hhalf := half50_ge h.le_root
  have hpos : (0 : ℚ) < guess := by exact_mod_cast (by omega : 0 < guess)
  have hlow' : (10 ^ 49 : ℚ) ≤ (m - guess : ℕ) := by exact_mod_cast hlow
  have hhigh' : ((m - guess : ℕ) : ℚ) + 2 ≤ 10 ^ 50 := by exact_mod_cast hhigh
  rw [mul_comm, ← le_div_iff₀ hpos] at habove
  refine h.improve_of_round_succ hle
    (round50_eq_of_even (by linarith) (by linarith) heven ?_ ?_)
  · push_cast
    linarith
  · push_cast
    linarith

/-- The values between whose two last guesses the loop goes back and forth. -/
def AlternatesAt (value : ℚ) (n : ℕ) : Prop :=
  (n % 2 = 0 ∧ 10 ^ 49 ≤ n ∧ n < 5 * 10 ^ 49 ∧
    (n : ℚ) * (n + 3 / 2) ≤ value ∧ value ≤ n * (n + 3 / 2) + 1 / 2) ∨
  (n % 10 = 0 ∧ 5 * 10 ^ 49 ≤ n ∧ n < 10 ^ 50 ∧
    (n : ℚ) * (n + 11 / 2) ≤ value ∧ value ≤ n * (n + 11 / 2) + 5 / 2)

/-- Above the limit two guesses differ at these residues only. -/
theorem mod20_of_half50_ne {m : ℕ} (hgt : 10 ^ 50 < m) (hne : half50 m ≠ half50 (m + 1)) :
    m % 20 = 5 ∨ m % 20 = 14 := by
  rw [half50_of_gt hgt, half50_of_gt (by omega)] at hne
  obtain ⟨a, b, hb, rfl⟩ : ∃ a b, b < 10 ∧ m = 10 * a + b :=
    ⟨m / 10, m % 10, Nat.mod_lt _ (by decide), (Nat.div_add_mod m 10).symm⟩
  have hmod : (10 * a + b) % 10 = b := by omega
  have hdiv : (10 * a + b) / 10 = a := by omega
  rw [hmod, hdiv] at hne
  clear hgt hmod hdiv
  rcases Nat.lt_or_eq_of_le (Nat.le_of_lt_succ hb) with hlt | rfl
  · have hmod' : (10 * a + b + 1) % 10 = b + 1 := by omega
    have hdiv' : (10 * a + b + 1) / 10 = a := by omega
    rw [hmod', hdiv'] at hne
    split_ifs at hne <;> omega
  · have hmod' : (10 * a + 9 + 1) % 10 = 0 := by omega
    have hdiv' : (10 * a + 9 + 1) / 10 = a + 1 := by omega
    rw [hmod', hdiv', if_pos (by omega), if_neg (by omega)] at hne
    exact absurd rfl hne

theorem mod4_of_half50_ne {m : ℕ} (hlt : m < 10 ^ 50) (hne : half50 m ≠ half50 (m + 1)) :
    m % 4 = 2 ∨ m % 4 = 1 := by
  rw [half50_of_le hlt.le, half50_of_le hlt] at hne
  clear hlt
  by_contra hother
  split_ifs at hne <;> omega

theorem half50_limit : half50 (10 ^ 50) = half50 (10 ^ 50 + 1) := by
  rw [half50_of_le le_rfl, half50_of_gt (Nat.lt_succ_self _)]
  norm_num

/-- Which two guesses can be at the root. -/
theorem half50_cases {m : ℕ} (hne : half50 m ≠ half50 (m + 1)) :
    (m % 4 = 2 ∧ m < 10 ^ 50 ∧ half50 m = m / 2 ∧ half50 (m + 1) = m / 2 + 1) ∨
    (m % 4 = 1 ∧ m < 10 ^ 50 ∧ half50 m = m / 2 ∧ half50 (m + 1) = m / 2 + 1) ∨
    (m % 20 = 5 ∧ 10 ^ 50 < m ∧ half50 m = m / 10 * 5 ∧ half50 (m + 1) = m / 10 * 5 + 5) ∨
    (m % 20 = 14 ∧ 10 ^ 50 < m ∧ half50 m = m / 10 * 5 ∧ half50 (m + 1) = m / 10 * 5 + 5) := by
  rcases lt_trichotomy m (10 ^ 50) with hlt | rfl | hgt
  · have hmod := mod4_of_half50_ne hlt hne
    rw [half50_of_le hlt.le, half50_of_le hlt]
    rcases hmod with hmod | hmod
    · rw [if_neg (by omega), if_pos (by omega)]
      exact .inl ⟨hmod, hlt, rfl, by omega⟩
    · rw [if_neg (by omega), if_neg (by omega)]
      exact .inr (.inl ⟨hmod, hlt, rfl, by omega⟩)
  · exact absurd half50_limit hne
  · have hmod := mod20_of_half50_ne hgt hne
    rw [half50_of_gt hgt, half50_of_gt (hgt.trans (Nat.lt_succ_self m))]
    rcases hmod with hmod | hmod
    · rw [if_neg (by omega), if_pos (by omega)]
      exact .inr (.inr (.inl ⟨hmod, hgt, by omega, by omega⟩))
    · rw [if_neg (by omega), if_pos (by omega)]
      exact .inr (.inr (.inr ⟨hmod, hgt, by omega, by omega⟩))

theorem Rooted.alternates_of_exchanged (h : Rooted value m) (hex : Exchanged value m) :
    ∃ n, AlternatesAt value n := by
  obtain ⟨hne', hup, hdown⟩ := hex
  have hne : half50 m ≠ half50 (m + 1) := fun heq => hne' (by rw [heq])
  have hroot := h.le_root
  have hbound := h.root_lt
  rcases half50_cases hne with ⟨hmod, hm, hfirst, hlast⟩ | ⟨hmod, hm, hfirst, hlast⟩ |
    ⟨hmod, hm, hfirst, hlast⟩ | ⟨hmod, hm, hfirst, hlast⟩
  · have habove := h.above (by omega) (by omega) (by omega) (by omega) hne hup
    have hbelow := h.below (by omega) (by omega) (by omega) (by omega) hne hdown
    obtain ⟨c, rfl⟩ : ∃ c, m = 2 * c := ⟨m / 2, by omega⟩
    rw [hfirst, show 2 * c - 2 * c / 2 = c by omega, show 2 * c / 2 = c by omega] at habove
    rw [hlast, show 2 * c - (2 * c / 2 + 1) = c - 1 by omega, show 2 * c / 2 = c by omega,
      Nat.cast_sub (by omega)] at hbelow
    push_cast at hbelow
    linarith only [habove, hbelow]
  · have habove := h.above (by omega) (by omega) (by omega) (by omega) hne hup
    have hbelow := h.below (by omega) (by omega) (by omega) (by omega) hne hdown
    obtain ⟨c, rfl⟩ : ∃ c, m = 2 * c + 1 := ⟨m / 2, by omega⟩
    rw [hfirst, show 2 * c + 1 - (2 * c + 1) / 2 = c + 1 by omega,
      show (2 * c + 1) / 2 = c by omega] at habove
    rw [hlast, show 2 * c + 1 - ((2 * c + 1) / 2 + 1) = c by omega,
      show (2 * c + 1) / 2 = c by omega] at hbelow
    push_cast at habove hbelow
    exact ⟨c, Or.inl ⟨by omega, by omega, by omega, by linarith only [habove],
      by linarith only [hbelow]⟩⟩
  · have habove := h.above (by omega) (by omega) (by omega) (by omega) hne hup
    have hbelow := h.below (by omega) (by omega) (by omega) (by omega) hne hdown
    obtain ⟨k, rfl⟩ : ∃ k, m = 10 * k + 5 := ⟨m / 10, by omega⟩
    rw [hfirst, show 10 * k + 5 - (10 * k + 5) / 10 * 5 = 5 * k + 5 by omega,
      show (10 * k + 5) / 10 * 5 = 5 * k by omega] at habove
    rw [hlast, show 10 * k + 5 - ((10 * k + 5) / 10 * 5 + 5) = 5 * k by omega,
      show (10 * k + 5) / 10 * 5 = 5 * k by omega] at hbelow
    push_cast at habove hbelow
    refine ⟨5 * k, Or.inr ⟨by omega, by omega, by omega, ?_, ?_⟩⟩
    · push_cast
      linarith only [habove]
    · push_cast
      linarith only [hbelow]
  · have habove := h.above (by omega) (by omega) (by omega) (by omega) hne hup
    have hbelow := h.below (by omega) (by omega) (by omega) (by omega) hne hdown
    obtain ⟨k, rfl⟩ : ∃ k, m = 10 * k + 4 := ⟨m / 10, by omega⟩
    rw [hfirst, show 10 * k + 4 - (10 * k + 4) / 10 * 5 = 5 * k + 4 by omega,
      show (10 * k + 4) / 10 * 5 = 5 * k by omega] at habove
    rw [hlast, show 10 * k + 4 - ((10 * k + 4) / 10 * 5 + 5) = 5 * k - 1 by omega,
      show (10 * k + 4) / 10 * 5 = 5 * k by omega, Nat.cast_sub (by omega)] at hbelow
    push_cast at habove hbelow
    linarith only [habove, hbelow]

theorem Rooted.exchanged_of_alternates (h : Rooted value m) {n : ℕ} (hn : AlternatesAt value n) :
    Exchanged value m := by
  have hle := h.le
  have hlt := h.lt
  rcases hn with ⟨heven, hlow, hhigh, hdown, hup⟩ | ⟨heven, hlow, hhigh, hdown, hup⟩
  · have hlow' : (10 ^ 49 : ℚ) ≤ n := by exact_mod_cast hlow
    have hm : m = 2 * n + 1 := by
      have hbelow : (m : ℚ) < 2 * n + 2 := lt_of_pow_lt_pow_left₀ 2 (by positivity) (by nlinarith)
      have habove : (2 * n + 1 : ℚ) < m + 1 :=
        lt_of_pow_lt_pow_left₀ 2 (by positivity) (by nlinarith)
      have hbelow' : m < 2 * n + 2 := by exact_mod_cast hbelow
      have habove' : 2 * n + 1 < m + 1 := by exact_mod_cast habove
      omega
    have hfirst : half50 m = n := by
      rw [half50]
      split_ifs <;> omega
    have hlast : half50 (m + 1) = n + 1 := by
      rw [half50]
      split_ifs <;> omega
    refine ⟨?_, ?_, ?_⟩
    · rw [hfirst, hlast]
      push_cast
      linarith
    · rw [hfirst]
      refine h.improve_of_above (by omega) (by omega) (by omega) (by omega) (by omega) ?_
      rw [show m - n = n + 1 by omega]
      push_cast
      linarith
    · rw [hlast]
      refine h.improve_of_below (by omega) (by omega) (by omega) (by omega) (by omega) ?_
      rw [show m - (n + 1) = n by omega]
      push_cast
      linarith
  · have hlow' : (5 * 10 ^ 49 : ℚ) ≤ n := by exact_mod_cast hlow
    have hm : m = 2 * n + 5 := by
      have hbelow : (m : ℚ) < 2 * n + 6 := lt_of_pow_lt_pow_left₀ 2 (by positivity) (by nlinarith)
      have habove : (2 * n + 5 : ℚ) < m + 1 :=
        lt_of_pow_lt_pow_left₀ 2 (by positivity) (by nlinarith)
      have hbelow' : m < 2 * n + 6 := by exact_mod_cast hbelow
      have habove' : 2 * n + 5 < m + 1 := by exact_mod_cast habove
      omega
    have hfirst : half50 m = n := by
      rw [half50]
      split_ifs <;> omega
    have hlast : half50 (m + 1) = n + 5 := by
      rw [half50]
      split_ifs <;> omega
    refine ⟨?_, ?_, ?_⟩
    · rw [hfirst, hlast]
      push_cast
      linarith
    · rw [hfirst]
      refine h.improve_of_above (by omega) (by omega) (by omega) (by omega) (by omega) ?_
      rw [show m - n = n + 5 by omega]
      push_cast
      linarith
    · rw [hlast]
      refine h.improve_of_below (by omega) (by omega) (by omega) (by omega) (by omega) ?_
      rw [show m - (n + 5) = n by omega]
      push_cast
      linarith

theorem AlternatesAt.range {n : ℕ} (h : AlternatesAt value n) :
    10 ^ 98 ≤ value ∧ value < 10 ^ 100 := by
  rcases h with ⟨-, hlow, hhigh, hdown, hup⟩ | ⟨hmod, hlow, hhigh, hdown, hup⟩
  · have hlow' : (10 ^ 49 : ℚ) ≤ n := by exact_mod_cast hlow
    have hhigh' : (n : ℚ) < 5 * 10 ^ 49 := by exact_mod_cast hhigh
    constructor <;> nlinarith
  · have hlow' : (5 * 10 ^ 49 : ℚ) ≤ n := by exact_mod_cast hlow
    have hhigh' : (n : ℚ) + 10 ≤ 10 ^ 50 := by exact_mod_cast (by omega : n + 10 ≤ 10 ^ 50)
    constructor <;> nlinarith

/-- From a value in its own unit the loop stops unless the value is one of those. -/
theorem settles_scaled (hlow : 10 ^ 98 ≤ value) (hhigh : value < 10 ^ 100) (e : ℤ) :
    Settles (improve (value * 10 ^ (2 * e))) (value * 10 ^ (2 * e)) ↔ ¬∃ n, AlternatesAt value n := by
  obtain ⟨m, h⟩ := exists_rooted hlow hhigh
  have hscale : (0 : ℚ) < 10 ^ e := zpow_pos (by norm_num) e
  have hstart : value * 10 ^ (2 * e) = value * 10 ^ e * 10 ^ e := by
    rw [two_mul, zpow_add₀ (by norm_num), mul_assoc]
  have hscaled := settles_mul_zpow h.pos (mul_pos h.pos hscale) e
  rw [← hstart] at hscaled
  rw [hscaled, h.settles_start e, not_iff_not]
  exact ⟨h.alternates_of_exchanged, fun ⟨n, hn⟩ => h.exchanged_of_alternates hn⟩

end Scaled

/-- The values for which the loop alternates between two neighbouring guesses: such a value counted
in some even power of ten. -/
def Alternates (value : ℚ) : Prop := ∃ (e : ℤ) (n : ℕ), AlternatesAt (value / 10 ^ (2 * e)) n

theorem exists_unit {value : ℚ} (h : 0 < value) :
    ∃ e : ℤ, 10 ^ 98 ≤ value / 10 ^ (2 * e) ∧ value / 10 ^ (2 * e) < 10 ^ 100 := by
  refine ⟨Int.log 100 value - 49, ?_⟩
  have hscale : (0 : ℚ) < 10 ^ (2 * (Int.log 100 value - 49)) := zpow_pos (by norm_num) _
  have hpow : ∀ k : ℤ, (100 : ℚ) ^ k = 10 ^ (2 * k) := by
    intro k
    rw [zpow_mul]
    norm_num
  have hlow := Int.zpow_log_le_self (b := 100) (by decide) h
  have hhigh := Int.lt_zpow_succ_log_self (b := 100) (by decide) value
  push_cast at hlow hhigh
  rw [hpow] at hlow hhigh
  rw [le_div_iff₀ hscale, div_lt_iff₀ hscale, ← zpow_natCast, ← zpow_natCast,
    ← zpow_add₀ (by norm_num), ← zpow_add₀ (by norm_num)]
  push_cast
  rw [show (98 : ℤ) + 2 * (Int.log 100 value - 49) = 2 * Int.log 100 value by ring,
    show (100 : ℤ) + 2 * (Int.log 100 value - 49) = 2 * (Int.log 100 value + 1) by ring]
  exact ⟨hlow, hhigh⟩

theorem settles_value_iff {value : ℚ} (h : 0 < value) :
    Settles (improve value) value ↔ ¬Alternates value := by
  have hat : ∀ e : ℤ, 10 ^ 98 ≤ value / 10 ^ (2 * e) → value / 10 ^ (2 * e) < 10 ^ 100 →
      (Settles (improve value) value ↔ ¬∃ n, AlternatesAt (value / 10 ^ (2 * e)) n) := by
    intro e hlow hhigh
    have hne : (10 : ℚ) ^ (2 * e) ≠ 0 := zpow_ne_zero _ (by norm_num)
    have hscaled := settles_scaled hlow hhigh e
    rwa [div_mul_cancel₀ value hne] at hscaled
  constructor
  · rintro hsettles ⟨e, n, hn⟩
    exact (hat e hn.range.1 hn.range.2).mp hsettles ⟨n, hn⟩
  · intro hnot
    obtain ⟨e, hlow, hhigh⟩ := exists_unit h
    exact (hat e hlow hhigh).mpr fun ⟨n, hn⟩ => hnot ⟨e, n, hn⟩

/-- The square root is found exactly where its guesses do not alternate. -/
theorem newton_stops_iff {value : Decimal} (h : 0 < value.toRat) :
    (∃ fuel root, newton value fuel value = some root) ↔ ¬Alternates value.toRat :=
  (newton_stops h).trans (settles_value_iff h)

theorem newton_stops_iff_four : 0 < (ofNat 4).toRat ∧
    ((∃ fuel root, newton (ofNat 4) fuel (ofNat 4) = some root) ↔ ¬Alternates (ofNat 4).toRat) := by
  have h : 0 < (ofNat 4).toRat := by rw [toRat_ofNat]; norm_num
  exact ⟨h, newton_stops_iff h⟩

/-- A value a little above four: its guesses alternate between two and the next number. -/
def aboveFour : Decimal := finite false (4 * 10 ^ 49 + 3) (-49)

theorem newton_aboveFour :
    0 < aboveFour.toRat ∧ ∀ fuel, newton aboveFour fuel aboveFour = none := by
  have hvalue : aboveFour.toRat = (4 * 10 ^ 49 + 3) / 10 ^ 49 := by
    rw [aboveFour, Context.toRat_unsigned]
    norm_num
  have hpos : 0 < aboveFour.toRat := by
    rw [hvalue]
    positivity
  have halternates : Alternates aboveFour.toRat := by
    refine ⟨-49, 2 * 10 ^ 49, Or.inl ⟨by norm_num, by norm_num, by norm_num, ?_, ?_⟩⟩
    · rw [hvalue]
      norm_num
    · rw [hvalue]
      norm_num
  refine ⟨hpos, fun fuel => ?_⟩
  cases hstop : newton aboveFour fuel aboveFour with
  | none => rfl
  | some root =>
    have hsettles := (newton_stops hpos).mp ⟨fuel, root, hstop⟩
    exact absurd halternates ((settles_value_iff hpos).mp hsettles)

end EsscherMarket.SourceData
