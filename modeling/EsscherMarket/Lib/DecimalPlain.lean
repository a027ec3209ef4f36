import EsscherMarket.Lib.DecimalSignals

/-!
# Plain texts and values

* `plainText_congr`: the plain text of a number other than zero depends on its value only.
* `matchesPlain_plainText`: a plain text is digits without a leading zero, a point and digits.
-/

namespace EsscherMarket.Lib.Decimal

/-! ### Normal forms -/

/-- A coefficient without zeros at its end and its exponent are determined by the magnitude. -/
theorem stripped_unique {c c' : Nat} {e e' : Int} (hc : c % 10 ≠ 0) (hc' : c' % 10 ≠ 0)
    (h : (c : ℚ) * (10 : ℚ) ^ e = c' * (10 : ℚ) ^ e') : c = c' ∧ e = e' := by
  have hle : ∀ {a b : Nat} {x y : Int}, a % 10 ≠ 0 → x ≤ y →
      (a : ℚ) * (10 : ℚ) ^ x = b * (10 : ℚ) ^ y → a = b ∧ x = y := by
    intro a b x y ha hxy hvalue
    obtain ⟨k, hk⟩ : ∃ k : Nat, y = x + k := ⟨(y - x).toNat, by omega⟩
    have hab : a = b * 10 ^ k := by
      rw [hk, zpow_add₀ (by norm_num), mul_left_comm, mul_comm, zpow_natCast] at hvalue
      have hcancel := mul_left_cancel₀ (ten_zpow_pos x).ne' hvalue
      exact_mod_cast hcancel
    cases k with
    | zero => exact ⟨by rw [hab, pow_zero, mul_one], by omega⟩
    | succ k =>
      refine absurd ?_ ha
      rw [hab, pow_succ, ← mul_assoc]
      exact Nat.mul_mod_left _ _
  rcases le_total e e' with hee | hee
  · exact hle hc hee h
  · obtain ⟨hcoefficient, hexponent⟩ := hle hc' hee h.symm
    exact ⟨hcoefficient.symm, hexponent.symm⟩

theorem normalize_stripped (n : Bool) {c : Nat} (hc : c ≠ 0) (e : Int) :
    ∃ c' e', (finite n c e).normalize = finite n c' e' ∧ c' % 10 ≠ 0 := by
  refine ⟨(stripZeros (digitCount c) c e).1, (stripZeros (digitCount c) c e).2, ?_, ?_⟩
  · rw [normalize, if_neg hc]
  · exact stripZeros_stripped hc (lt_pow_digitCount c) e

theorem coefficient_ne_zero {n : Bool} {c : Nat} {e : Int} (h : (finite n c e).toRat ≠ 0) :
    c ≠ 0 := by
  rintro rfl
  exact h (by simp [toRat])

/-- Numbers of one value, other than zero, have one normal form. -/
theorem normalize_congr {x y : Decimal} (hx : x.isFinite) (hy : y.isFinite)
    (h : x.toRat = y.toRat) (hne : x.toRat ≠ 0) : x.normalize = y.normalize := by
  cases x with
  | finite n c e =>
    cases y with
    | finite n' c' e' =>
      obtain ⟨a, k, hnormal, ha⟩ := normalize_stripped n (coefficient_ne_zero hne) e
      obtain ⟨b, l, hnormal', hb⟩ := normalize_stripped n' (coefficient_ne_zero (h ▸ hne)) e'
      have hvalue : (finite n a k).toRat = (finite n' b l).toRat := by
        rw [← hnormal, ← hnormal', toRat_normalize, toRat_normalize, h]
      have hmagnitude : (a : ℚ) * (10 : ℚ) ^ k = b * (10 : ℚ) ^ l := by
        have habs : |(finite n a k).toRat| = |(finite n' b l).toRat| := by rw [hvalue]
        rwa [abs_toRat_finite, abs_toRat_finite, pow10_eq_zpow, pow10_eq_zpow] at habs
      obtain ⟨rfl, rfl⟩ := stripped_unique ha hb hmagnitude
      have hpos : (0 : ℚ) < a * (10 : ℚ) ^ k := by
        have ha' : 0 < a := by omega
        exact mul_pos (by exact_mod_cast ha') (ten_zpow_pos k)
      have hsign : n = n' := by
        rw [toRat_finite, toRat_finite, mul_assoc, mul_assoc] at hvalue
        cases n <;> cases n' <;> first | rfl | (simp at hvalue; linarith)
      rw [hnormal, hnormal', hsign]
    | _ => cases hy
  | _ => cases hx

theorem plainText_congr {x y : Decimal} (hx : x.isFinite) (hy : y.isFinite)
    (h : x.toRat = y.toRat) (hne : x.toRat ≠ 0) : x.plainText = y.plainText := by
  rw [plainText, plainText, normalize_congr hx hy h hne]

/-! ### Numbers of the context -/

theorem fits_of_adjusted {n : Bool} {c : Nat} {e : Int} (hc : c < 10 ^ precision) (hlow : etiny ≤ e)
    (hhigh : adjusted c e ≤ emax) : Fits (finite n c e).toRat := by
  have hsigned : ∀ m : Nat, ((if n = true then (-1 : Int) else 1) * m).natAbs = m := by
    intro m
    cases n <;> simp
  by_cases htop : e ≤ etop
  · refine ⟨(if n = true then -1 else 1) * c, e, ?_, hlow, htop, ?_⟩
    · rw [hsigned]
      exact hc
    · rw [toRat_finite]
      cases n <;> simp
  · by_cases hzero : c = 0
    · rw [hzero]
      exact (by simp [toRat] : (finite n 0 e).toRat = 0) ▸ fits_zero
    · -- zeros after the coefficient take the exponent down
      obtain ⟨k, hk⟩ : ∃ k : Nat, e = etop + k := ⟨(e - etop).toNat, by omega⟩
      refine ⟨(if n = true then -1 else 1) * (c * 10 ^ k : Nat), etop, ?_, by decide, le_rfl, ?_⟩
      · rw [hsigned, ← digitCount_le_precision_iff, digitCount_mul_pow hzero]
        have hbounds : etop = 999972 ∧ emax = 999999 ∧ precision = 28 := ⟨rfl, rfl, rfl⟩
        rw [adjusted] at hhigh
        omega
      · rw [toRat_finite, hk, zpow_add₀ (by norm_num), zpow_natCast]
        cases n <;> push_cast <;> simp <;> ring

/-- A rounded result is a number of the context. -/
theorem fits_bound {d r : Decimal} (hd : d.isFinite) (h : d.bound = some r) : Fits r.toRat := by
  obtain ⟨n', c', e', hr, hshort⟩ := exists_of_bound hd h
  have hcount := digitCount_le_precision_iff.mpr hshort
  have hbounds : emin = -999999 ∧ etiny = -1000026 ∧ emax = 999999 ∧ precision = 28 :=
    ⟨rfl, rfl, rfl, rfl⟩
  cases d with
  | finite n c e =>
    rw [bound] at h
    split_ifs at h with hzero hsmall htiny
    · cases h
      exact (by simp [toRat] : (finite n 0 (max etiny (min e emax))).toRat = 0) ▸ fits_zero
    · cases h
      cases hr
      exact fits_of_adjusted hshort le_rfl (by rw [adjusted]; omega)
    · cases h
      cases hr
      exact fits_of_adjusted hshort (by omega) (by omega)
    · obtain ⟨a, k, hfix, hlt⟩ := exists_fix n c e
      have hlow : etiny ≤ k := by
        rw [adjusted] at hsmall
        rw [fix] at hfix
        split_ifs at hfix <;> injection hfix <;> omega
      rw [hfix] at h
      dsimp only at h
      split_ifs at h with hlarge
      cases h
      exact fits_of_adjusted hlt hlow (not_lt.mp hlarge)
  | _ => cases hd

/-- A number of the context keeps its value. -/
theorem bound_fits {d : Decimal} (hd : d.isFinite) (h : Fits d.toRat) :
    ∃ r, d.bound = some r ∧ r.isFinite = true ∧ r.toRat = d.toRat := by
  obtain ⟨r, hresult, hfinite, hvalue⟩ := result_exactly hd h
  refine ⟨r, ?_, hfinite, hvalue⟩
  rw [result] at hresult
  split at hresult
  · cases hresult
    assumption
  · cases hresult

/-! ### How plain texts look -/

/-- `-?(?:0|[1-9][0-9]*)(?:\.[0-9]+)?`. -/
def matchesPlain (s : String) : Bool :=
  let unsigned := match s.toList with
    | '-' :: rest => rest
    | cs => cs
  let whole := unsigned.takeWhile Char.isDigit
  (whole == ['0'] || !whole.isEmpty && whole.head? != some '0') &&
    match unsigned.dropWhile Char.isDigit with
    | [] => true
    | c :: fraction => c == '.' && !fraction.isEmpty && fraction.all Char.isDigit

theorem matchesPlain_plainText {d : Decimal} (h : d.isFinite) : matchesPlain d.plainText = true := by
  obtain ⟨n, c, k, hexpand⟩ := exists_expand d.normalize (isFinite_normalize h)
  obtain ⟨whole, fraction, htext, hne, hwhole, hfraction, hlength, hhead⟩ := fixedText_shape n c k
  obtain ⟨tail, htail⟩ : ∃ tail, tail = if k = 0 then [] else '.' :: fraction := ⟨_, rfl⟩
  rw [← htail, List.append_assoc] at htext
  have hunsigned : (match (finite n c (-(k : Int))).fixedText.toList with
      | '-' :: rest => rest
      | cs => cs) = whole ++ tail := by
    rw [htext]
    cases n with
    | true => rfl
    | false =>
      cases whole with
      | nil => exact absurd rfl hne
      | cons digit rest =>
        have hdigit : digit ≠ '-' := by
          rintro rfl
          exact absurd (hwhole _ List.mem_cons_self) (by decide)
        simp [hdigit]
  have hpoint : ∀ digit ∈ tail.head?, Char.isDigit digit = false := by
    intro digit hdigit
    rw [htail] at hdigit
    split_ifs at hdigit
    · cases hdigit
    · obtain rfl : '.' = digit := Option.some.inj hdigit
      decide
  have htake : (whole ++ tail).takeWhile Char.isDigit = whole := by
    rw [List.takeWhile_append_of_pos hwhole]
    cases htl : tail with
    | nil => simp
    | cons digit rest => simp [hpoint digit (by rw [htl]; rfl)]
  have hdrop : (whole ++ tail).dropWhile Char.isDigit = tail := by
    rw [List.dropWhile_append_of_pos hwhole]
    cases htl : tail with
    | nil => rfl
    | cons digit rest => simp [hpoint digit (by rw [htl]; rfl)]
  have hzero : (whole == ['0'] || !whole.isEmpty && whole.head? != some '0') = true := by
    cases hw : whole with
    | nil => exact absurd hw hne
    | cons digit rest =>
      cases rest with
      | nil => by_cases hdigit : digit = '0' <;> simp [hdigit]
      | cons next rest =>
        rw [hw] at hhead
        have hfirst := hhead (by simp)
        simpa using hfirst
  rw [plainText, hexpand, matchesPlain, hunsigned, htake, hdrop, hzero, Bool.true_and, htail]
  by_cases hk : k = 0
  · rw [if_pos hk]
  · have hfraction' : fraction ≠ [] := by
      rintro rfl
      exact hk hlength.symm
    rw [if_neg hk]
    simpa [hfraction'] using hfraction

end EsscherMarket.Lib.Decimal
