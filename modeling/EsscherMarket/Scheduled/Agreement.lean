import EsscherMarket.PaperDemo.Attempts
import EsscherMarket.Scheduled.Receipt

/-!
# Receipts that the runner accepts

What a PAPER run returns is verified when the scheduled runner stores it.
-/

namespace EsscherMarket.Scheduled

open Lib Execution Lifecycle PaperDemo

/-! ### Decimals -/

section Decimals

variable {d r gross fees net : Decimal} {text : String}

def Rounded (d : Decimal) : Prop := ∃ n c e, d = .finite n c e ∧ c < 10 ^ Decimal.precision

theorem Rounded.isFinite (h : Rounded d) : d.isFinite = true := by
  obtain ⟨n, c, e, rfl, -⟩ := h
  rfl

theorem contextual_eq_ok : contextual d = .ok r ↔ d.bound = some r := by
  rw [contextual]
  cases d.bound with
  | none => simp
  | some r' => simp

theorem rounded_contextual (hd : d.isFinite) (h : contextual d = .ok r) : Rounded r :=
  Decimal.exists_of_bound hd (contextual_eq_ok.mp h)

structure Spelled (d : Decimal) (text : String) : Prop where
  rounded : Rounded d
  spelling : text = d.plainText
  short : text.length ≤ paperPnlDecimalTextMaxLength
  digits : ∃ n c k, d.normalize.expand = .finite n c (-(k : Nat)) ∧ k ≤ 128 ∧ c < 10 ^ 156

theorem spelled_of_decimalText (hd : Rounded d) (h : decimalText d = .ok text) : Spelled d text := by
  obtain ⟨n, c, e, rfl, hlt⟩ := hd
  have hfix : (Decimal.finite n c e).fix = .finite n c e := Decimal.fix_of_lt hlt
  obtain ⟨c', e', hnormal, hlt'⟩ : ∃ c' e', (Decimal.finite n c e).normalize = .finite n c' e' ∧
      c' < 10 ^ Decimal.precision := by
    rcases Decimal.exists_normalize n e hlt with hzero | ⟨c', e', hnormal, -, hlt'⟩
    · exact ⟨0, 0, hzero, by decide⟩
    · exact ⟨c', e', hnormal, hlt'⟩
  rw [decimalText, hfix, hnormal] at h
  dsimp only at h
  have hmax : paperPnlDecimalTextMaxLength = 128 := rfl
  have hprecision : 10 ^ Decimal.precision = 10 ^ 28 := rfl
  split_ifs at h with hbounds hshort
  cases h
  rw [not_or, not_lt, not_lt] at hbounds
  refine ⟨⟨n, c, e, rfl, hlt⟩, rfl, not_lt.mp hshort, ?_⟩
  rw [hnormal]
  cases e' with
  | ofNat k =>
    have hk : k ≤ 128 := hbounds.2
    have hpow : c' * 10 ^ k < 10 ^ 28 * 10 ^ 128 :=
      Nat.mul_lt_mul_of_lt_of_le (hprecision ▸ hlt') (Nat.pow_le_pow_right (by decide) hk)
        (by positivity)
    exact ⟨n, c' * 10 ^ k, 0, rfl, Nat.zero_le _, by rwa [← pow_add] at hpow⟩
  | negSucc k =>
    have hk : k + 1 ≤ 128 := hbounds.2
    refine ⟨n, c', k + 1, rfl, hk, lt_of_lt_of_le hlt' ?_⟩
    rw [hprecision]
    exact Nat.pow_le_pow_right (by decide) (by decide)

theorem Spelled.isFinite_expand (h : Spelled d text) : d.normalize.expand.isFinite = true := by
  obtain ⟨n, c, k, hexpand, -⟩ := h.digits
  rw [hexpand]
  rfl

theorem isPlainDecimal_plainText (hd : d.isFinite) : isPlainDecimal d.plainText = true := by
  obtain ⟨n, c, k, hexpand⟩ := Decimal.exists_expand d.normalize (Decimal.isFinite_normalize hd)
  obtain ⟨whole, fraction, htext, hne, hwhole, hfraction, hlength, hhead⟩ :=
    Decimal.fixedText_shape n c k
  have hpoint : ∀ cs : List Char, (∀ d ∈ cs, d.isDigit = true) → ∀ d ∈ cs, (d != '.') = true := by
    intro cs hcs d hmem
    rw [bne_iff_ne]
    rintro rfl
    exact absurd (hcs _ hmem) (by decide)
  obtain ⟨tail, htail⟩ : ∃ tail, tail = if k = 0 then [] else '.' :: fraction := ⟨_, rfl⟩
  rw [← htail, List.append_assoc] at htext
  have hunsigned : unsignedOf (Decimal.finite n c (-(k : Int))).fixedText.toList =
      whole ++ tail := by
    rw [htext]
    cases n with
    | true => rfl
    | false =>
      cases whole with
      | nil => exact absurd rfl hne
      | cons d rest =>
        have hd : d ≠ '-' := by
          rintro rfl
          exact absurd (hwhole _ List.mem_cons_self) (by decide)
        simp [unsignedOf, hd]
  have htake : (whole ++ tail).takeWhile (· != '.') = whole := by
    rw [List.takeWhile_append_of_pos (hpoint whole hwhole), htail]
    split_ifs <;> simp
  have hdrop : (whole ++ tail).dropWhile (· != '.') = tail := by
    rw [List.dropWhile_append_of_pos (hpoint whole hwhole), htail]
    split_ifs <;> simp
  have hdigits : ∀ {cs : List Char}, cs ≠ [] → (∀ d ∈ cs, d.isDigit = true) →
      isDigits cs = true := by
    intro cs hne hcs
    rw [isDigits, List.isEmpty_eq_false_iff.mpr hne]
    exact List.all_eq_true.mpr hcs
  have hzero : (!(decide (1 < whole.length) && whole.head? == some '0')) = true := by
    by_cases hlong : 1 < whole.length
    · have hhead := hhead hlong
      simp [hhead]
    · simp [hlong]
  have hrest : isFraction tail = true := by
    rw [htail]
    split_ifs with hk
    · rfl
    · refine hdigits ?_ hfraction
      rintro rfl
      exact hk hlength.symm
  rw [Decimal.plainText, hexpand, isPlainDecimal]
  simp only [hunsigned, htake, hdrop, hdigits hne hwhole, hzero, hrest, Bool.and_self]

/-- The text of a decimal is canonical, and is read with its value. -/
theorem canonicalDecimalText_of_spelled (h : Spelled d text) (field : String) :
    canonicalDecimalText (.str text) field = .ok d.normalize.expand := by
  have hfinite := h.rounded.isFinite
  obtain ⟨n, c, e, rfl, hlt⟩ := h.rounded
  have hplain : isPlainDecimal text = true := by
    rw [h.spelling]
    exact isPlainDecimal_plainText hfinite
  have hpos : 1 ≤ text.length := by
    by_contra hempty
    have hnil : text = "" := String.length_eq_zero_iff.mp (by omega)
    rw [hnil] at hplain
    exact absurd hplain (by decide)
  have hparse : Decimal.parse text = some (Decimal.finite n c e).normalize.expand := by
    rw [h.spelling]
    exact Decimal.parse_plainText_eq hfinite
  have hback : (Decimal.finite n c e).normalize.expand.fix.plainText = text := by
    rw [h.spelling]
    exact Decimal.fix_normalize_expand hlt
  rw [canonicalDecimalText]
  simp only [hparse]
  rw [if_neg (not_not.mpr ⟨hpos, h.short⟩), if_neg (by rw [hplain]; decide),
    if_pos ⟨h.isFinite_expand, hback⟩]

/-- A difference of short decimals has few digits. -/
theorem exists_difference (n n' : Bool) {c c' k k' : Nat} (hk : k ≤ 128) (hk' : k' ≤ 128)
    (hc : c < 10 ^ 156) (hc' : c' < 10 ^ 156) : ∃ b t l,
      (Decimal.finite n c (-(k : Int))).sum (Decimal.finite n' c' (-(k' : Int))).copyNegate =
        .finite b t l ∧ t < 10 ^ (156 + 128 + 1) ∧ -128 ≤ l ∧ l ≤ 0 := by
  have hsigned : ∀ (b : Bool) (x : Nat), (Decimal.signed b x).natAbs = x := by
    intro b x
    cases b <;> simp [Decimal.signed]
  have hshift : ∀ {x j : Nat}, x < 10 ^ 156 → j ≤ 128 → x * 10 ^ j < 10 ^ (156 + 128) := by
    intro x j hx hj
    calc x * 10 ^ j < 10 ^ 156 * 10 ^ 128 :=
          Nat.mul_lt_mul_of_lt_of_le hx (Nat.pow_le_pow_right (by decide) hj) (by positivity)
      _ = 10 ^ (156 + 128) := (pow_add 10 156 128).symm
  have htwice : ∀ j : Nat, 10 ^ j + 10 ^ j < 10 ^ (j + 1) := by
    intro j
    have hpos : 0 < 10 ^ j := by positivity
    rw [pow_succ]
    omega
  have hlow := hshift hc (by omega : (-(k : Int) - min (-(k : Int)) (-(k' : Int))).toNat ≤ 128)
  have hlow' := hshift hc' (by omega : (-(k' : Int) - min (-(k : Int)) (-(k' : Int))).toNat ≤ 128)
  refine ⟨_, _, _, rfl, ?_, by omega, by omega⟩
  refine lt_of_le_of_lt (Int.natAbs_add_le _ _) ?_
  rw [hsigned, hsigned]
  exact lt_trans (add_lt_add hlow hlow') (htwice (156 + 128))

/-- The net P&L of a receipt is the gross one less the fees, as the verifier computes it. -/
theorem isInconsistent_spelled {g f : String} (hgross : Spelled gross g) (hfees : Spelled fees f)
    (h : contextual (gross.sum fees.copyNegate) = .ok net) :
    isInconsistent gross.normalize.expand (some fees.normalize.expand)
      (some net.normalize.expand) = false := by
  have hgrossFinite := hgross.rounded.isFinite
  have hfeesFinite := Decimal.isFinite_copyNegate hfees.rounded.isFinite
  have hsumFinite := Decimal.isFinite_sum hgrossFinite hfeesFinite
  have hsumFinite' := Decimal.isFinite_sum hgross.isFinite_expand
    (Decimal.isFinite_copyNegate hfees.isFinite_expand)
  have hvalue : (gross.normalize.expand.sum fees.normalize.expand.copyNegate).toRat =
      (gross.sum fees.copyNegate).toRat := by
    rw [Decimal.toRat_sum hgross.isFinite_expand
      (Decimal.isFinite_copyNegate hfees.isFinite_expand),
      Decimal.toRat_sum hgrossFinite hfeesFinite, Decimal.toRat_copyNegate,
      Decimal.toRat_copyNegate, Decimal.toRat_normalize_expand, Decimal.toRat_normalize_expand]
  obtain ⟨n, c, k, hc, hk, hlt⟩ := hgross.digits
  obtain ⟨n', c', k', hc', hk', hlt'⟩ := hfees.digits
  obtain ⟨b, t, l, hdifference, ht, hl, hl'⟩ := exists_difference n n' hk hk' hlt hlt'
  rw [hc, hc'] at hsumFinite' hvalue
  rw [hc, hc', isInconsistent]
  have hlarge : (Decimal.finite b t l).toRat = 0 ∨
      (10 : ℚ) ^ (-1000 : Int) ≤ |(Decimal.finite b t l).toRat| := by
    rcases Nat.eq_zero_or_pos t with hzero | hpos
    · left
      rw [hzero, Decimal.toRat_finite]
      simp
    · right
      have hone : (1 : ℚ) ≤ t := by exact_mod_cast hpos
      have hten : (10 : ℚ) ^ (-1000 : Int) ≤ (10 : ℚ) ^ l :=
        zpow_le_zpow_right₀ (by norm_num) (by omega)
      rw [Decimal.abs_toRat_finite, Decimal.pow10_eq_zpow]
      calc (10 : ℚ) ^ (-1000 : Int) ≤ (10 : ℚ) ^ l := hten
        _ ≤ t * (10 : ℚ) ^ l := le_mul_of_one_le_left (zpow_nonneg (by norm_num) l) hone
  have hcount : (Decimal.digitCount t : Int) + l ≤ 1000 := by
    have := (Decimal.digitCount_le_iff (by decide : 0 < 156 + 128 + 1)).mpr ht
    omega
  obtain ⟨r, hr⟩ := @Decimal.exists_bound b t l hcount (by omega)
  have hnetValue : net.toRat = (gross.sum fees.copyNegate).fix.toRat := by
    rw [hdifference] at hvalue
    refine Decimal.toRat_bound hsumFinite (contextual_eq_ok.mp h) ?_
    rw [← hvalue]
    exact hlarge
  have hrValue : r.toRat = net.toRat := by
    rw [hdifference] at hsumFinite' hvalue
    rw [Decimal.toRat_bound rfl hr hlarge, hnetValue]
    exact Decimal.toRat_fix_congr hsumFinite' hsumFinite hvalue
  rw [hdifference]
  simp only [hr, Decimal.toRat_normalize_expand, hrValue]
  simp

end Decimals

/-! ### Economics -/

section Economics

variable {iso : IsoReader} {pnl : PaperPnlObservation} {quantity : Int} {openQty : Decimal}

inductive Written : Option Decimal → Option String → Prop
  | none : Written none none
  | some {d : Decimal} {text : String} (htext : decimalText d = .ok text) (h : Spelled d text) :
      Written (some d) (some text)

theorem Written.optionalText {d : Option Decimal} {text : Option String} (h : Written d text) :
    optionalText d = .ok text := by
  cases h with
  | none => rfl
  | some htext h =>
    rw [PaperDemo.optionalText, htext]
    rfl

theorem Written.read {d : Option Decimal} {text : Option String} (h : Written d text)
    (field : String) :
    optionalDecimalText (nullable text) field = .ok (d.map fun x => x.normalize.expand) := by
  cases h with
  | none => rfl
  | some htext h =>
    rw [nullable, optionalDecimalText, canonicalDecimalText_of_spelled h]
    · rfl
    · exact Json.noConfusion

theorem written_of_optionalText {d : Option Decimal} {text : Option String}
    (hd : ∀ x, d = some x → Rounded x) (h : optionalText d = .ok text) : Written d text := by
  cases d with
  | none =>
    cases h
    exact .none
  | some x =>
    rw [PaperDemo.optionalText] at h
    cases htext : decimalText x with
    | error e =>
      rw [htext] at h
      cases h
    | ok t =>
      rw [htext] at h
      cases h
      exact .some htext (spelled_of_decimalText (hd x rfl) htext)

theorem finite_of_finiteDecimal {v : Json} {field : String} {d : Decimal}
    (h : finiteDecimal v field = .ok d) : d.isFinite = true := by
  unfold finiteDecimal at h
  split at h
  all_goals
    first
    | (split at h
       · cases h
       · split_ifs at h with hfinite
         cases h
         exact hfinite)
    | cases h

theorem nonneg_feesOf {orders : List Json} {fees : List Decimal}
    (h : feesOf orders = .ok (some fees)) : ∀ fee ∈ fees, fee.isFinite = true ∧ 0 ≤ fee.toRat := by
  induction orders generalizing fees with
  | nil =>
    cases h
    exact List.forall_mem_nil _
  | cons order rest ih =>
    rw [feesOf] at h
    cases hfees : order.field? "fees" with
    | none =>
      rw [hfees] at h
      cases h
    | some value =>
      rw [hfees] at h
      simp only [except_bind_eq_ok, throwIf_eq_ok, not_lt, except_pure_eq_ok] at h
      obtain ⟨fee, hfee, -, hnonneg, others, hothers, hmap⟩ := h
      cases others with
      | none => cases hmap
      | some others =>
        cases hmap
        intro x hx
        rcases List.mem_cons.mp hx with rfl | hx
        · exact ⟨finite_of_finiteDecimal hfee, hnonneg⟩
        · exact ih hothers x hx

theorem nonneg_sumOf {total result : Decimal} {fees : List Decimal} (htotal : Rounded total)
    (hpos : 0 ≤ total.toRat) (hfees : ∀ fee ∈ fees, fee.isFinite = true ∧ 0 ≤ fee.toRat)
    (h : sumOf total fees = .ok result) : Rounded result ∧ 0 ≤ result.toRat := by
  induction fees generalizing total with
  | nil =>
    cases h
    exact ⟨htotal, hpos⟩
  | cons fee rest ih =>
    rw [sumOf, except_bind_eq_ok] at h
    obtain ⟨next, hnext, h⟩ := h
    obtain ⟨hfinite, hfee⟩ := hfees fee List.mem_cons_self
    have hsum := Decimal.isFinite_sum htotal.isFinite hfinite
    refine ih (rounded_contextual hsum hnext) ?_ (fun x hx => hfees x (List.mem_cons_of_mem _ hx)) h
    refine Decimal.toRat_bound_nonneg hsum (contextual_eq_ok.mp hnext) ?_
    rw [Decimal.toRat_sum htotal.isFinite hfinite]
    exact add_nonneg hpos hfee

/-- The fees of a receipt are not negative. -/
theorem nonneg_brokerFees {orders : List Json} {fees : Option Decimal}
    (h : brokerFees orders = .ok fees) : ∀ d, fees = some d → Rounded d ∧ 0 ≤ d.toRat := by
  rintro d rfl
  rw [brokerFees, except_bind_eq_ok] at h
  obtain ⟨listed, hlisted, h⟩ := h
  cases listed with
  | none => cases h
  | some listed =>
    simp only [except_bind_eq_ok, except_pure_eq_ok, Option.some.injEq] at h
    obtain ⟨total, htotal, rfl⟩ := h
    exact nonneg_sumOf ⟨false, 0, 0, rfl, by decide⟩ (by simp [Decimal.toRat])
      (nonneg_feesOf hlisted) htotal

theorem awareDatetime_ok {v : Json} {field : String} {t : DateTime}
    (h : PaperDemo.awareDatetime iso v field = .ok t) : t.InRange ∧ t.isAware = true := by
  unfold PaperDemo.awareDatetime at h
  split at h
  · rename_i text
    cases hread : iso.read text with
    | none =>
      rw [hread] at h
      cases h
    | some t' =>
      rw [hread] at h
      dsimp only at h
      split_ifs at h with haware
      cases h
      exact ⟨iso.inRange text _ hread, haware⟩
  · cases h

theorem classifyCanceled_ok {openOrder : Json} (h : classifyCanceled openOrder openQty = .ok pnl) :
    ∃ fees f, pnl = ⟨.zeroNoFill, some (.ofNat 0), fees, none, none, none, none⟩ ∧
      Written fees f ∧ ∀ d, fees = some d → 0 ≤ d.toRat := by
  simp only [classifyCanceled, except_bind_eq_ok, throwIf_eq_ok, except_pure_eq_ok] at h
  obtain ⟨-, -, fees, hfees, -, -, f, hf, rfl⟩ := h
  have hspec := nonneg_brokerFees hfees
  exact ⟨fees, f, rfl, written_of_optionalText (fun d hd => (hspec d hd).1) hf,
    fun d hd => (hspec d hd).2⟩

structure RoundTrip (pnl : PaperPnlObservation) (gross : Decimal) (fees net : Option Decimal)
    (g : String) (f t : Option String) (openedAt closedAt : DateTime) : Prop where
  value : pnl = ⟨.paperRealizedPnl, some gross, fees, net, some openedAt, some closedAt, none⟩
  grossText : decimalText gross = .ok g
  grossSpelled : Spelled gross g
  feesWritten : Written fees f
  netWritten : Written net t
  nonneg : ∀ d, fees = some d → 0 ≤ d.toRat
  difference : netOf gross fees = .ok net
  opened : openedAt.InRange ∧ openedAt.isAware = true
  closed : closedAt.InRange ∧ closedAt.isAware = true
  order : openedAt.micros ≤ closedAt.micros

theorem rounded_grossOf {openPrice closePrice expectedQty gross : Decimal}
    (hopen : openPrice.isFinite) (hclose : closePrice.isFinite) (hqty : expectedQty.isFinite)
    (h : grossOf openPrice closePrice expectedQty = .ok gross) : Rounded gross := by
  simp only [grossOf, except_bind_eq_ok] at h
  obtain ⟨credit, hcredit, perShare, hshare, perContract, hcontract, h⟩ := h
  have hcredit := (rounded_contextual (Decimal.isFinite_copyNegate hclose) hcredit).isFinite
  have hshare := (rounded_contextual (Decimal.isFinite_sum hcredit
    (Decimal.isFinite_copyNegate hopen)) hshare).isFinite
  have hcontract := (rounded_contextual (Decimal.isFinite_mul hshare rfl) hcontract).isFinite
  exact rounded_contextual (Decimal.isFinite_mul hcontract hqty) h

theorem rounded_netOf {gross : Decimal} {fees net : Option Decimal} (hgross : gross.isFinite)
    (hfees : ∀ d, fees = some d → d.isFinite = true) (h : netOf gross fees = .ok net) :
    ∀ d, net = some d → Rounded d := by
  rintro d rfl
  cases fees with
  | none => cases h
  | some fees =>
    rw [netOf] at h
    cases hnet : contextual (gross.sum fees.copyNegate) with
    | error e =>
      rw [hnet] at h
      cases h
    | ok net =>
      rw [hnet] at h
      cases h
      exact rounded_contextual (Decimal.isFinite_sum hgross
        (Decimal.isFinite_copyNegate (hfees fees rfl))) hnet

theorem classifyClosed_ok {openOrder closeOrder : Json}
    (h : classifyClosed iso openOrder closeOrder openQty quantity = .ok pnl) :
    ∃ gross fees net g f t openedAt closedAt,
      RoundTrip pnl gross fees net g f t openedAt closedAt := by
  simp only [classifyClosed, except_bind_eq_ok, throwIf_eq_ok, except_pure_eq_ok, not_lt] at h
  obtain ⟨closeQty, -, -, -, openPrice, hopen, closePrice, hclose, -, -, openedAt, hopened, closedAt,
    hclosed, -, horder, gross, hgross, fees, hfees, net, hnet, g, hg, f, hf, t, ht, rfl⟩ := h
  have hrounded := rounded_grossOf (finite_of_finiteDecimal hopen) (finite_of_finiteDecimal hclose)
    rfl hgross
  have hspec := nonneg_brokerFees hfees
  have hnetRounded := rounded_netOf hrounded.isFinite (fun d hd => (hspec d hd).1.isFinite) hnet
  exact ⟨gross, fees, net, g, f, t, openedAt, closedAt,
    { value := rfl
      grossText := hg
      grossSpelled := spelled_of_decimalText hrounded hg
      feesWritten := written_of_optionalText (fun d hd => (hspec d hd).1) hf
      netWritten := written_of_optionalText hnetRounded ht
      nonneg := fun d hd => (hspec d hd).2
      difference := hnet
      opened := awareDatetime_ok hopened
      closed := awareDatetime_ok hclosed
      order := horder }⟩

end Economics

/-! ### The P&L of a receipt -/

section Pnl

variable {iso : IsoReader} {payload : Json} {flatAt : DateTime} {gross fees net : Option String}

def validateClass (iso : IsoReader) (payload lifecycle : Json) (flatAt : DateTime) :
    PaperPnlClass → Verified Unit
  | .zeroNoFill => validateZeroNoFill payload lifecycle
  | .paperRealizedPnl => validateRealized iso payload lifecycle flatAt
  | .paperPnlUnavailable => validateUnavailable payload

theorem validateTerminalPaperPnl_eq {lifecycle : Json} {classification : PaperPnlClass}
    (hkeys : payload.hasKeys pnlKeys = true)
    (hclass : payload.get "classification" = .str classification.value) :
    validateTerminalPaperPnl iso payload lifecycle flatAt =
      validateClass iso payload lifecycle flatAt classification := by
  have htext : ∀ {text other : String}, text ≠ other → (Json.str text).isText other = false := by
    intro text other hne
    exact beq_eq_false_iff_ne.mpr hne
  have hself : ∀ text : String, (Json.str text).isText text = true := fun text =>
    beq_self_eq_true text
  rw [validateTerminalPaperPnl, throwIf, if_neg (not_not.mpr hkeys), hclass]
  show (if (Json.str classification.value).isText "ZERO_NO_FILL" = true then _
    else if (Json.str classification.value).isText "PAPER_REALIZED_PNL" = true then _
    else if (Json.str classification.value).isText "PAPER_PNL_UNAVAILABLE" = true then _
    else _) = _
  cases classification with
  | zeroNoFill => exact if_pos (hself _)
  | paperRealizedPnl =>
    refine (if_neg ?_).trans (if_pos (hself _))
    rw [htext (by decide)]
    decide
  | paperPnlUnavailable =>
    refine (if_neg ?_).trans ((if_neg ?_).trans (if_pos (hself _)))
    · rw [htext (by decide)]
      decide
    · rw [htext (by decide)]
      decide

theorem canonicalReceiptDatetime_isoformat {t : DateTime} (h : t.InRange ∧ t.isAware = true)
    (field : String) : canonicalReceiptDatetime iso (.str t.isoformat) field = .ok t.canonical := by
  have hread : awareDatetime iso (.str t.isoformat) ("receipt " ++ field) = .ok t.canonical := by
    rw [awareDatetime, iso.reads t h.1]
    exact if_pos ((DateTime.isAware_canonical t).trans h.2)
  rw [canonicalReceiptDatetime, if_neg (not_not.mpr (DateTime.length_isoformat h.1)), hread]
  simp only [except_bind_eq_ok, throwIf_eq_ok, except_pure_eq_ok, not_not, Except.ok.injEq]
  exact ⟨_, rfl, (), DateTime.isoformat_canonical t, rfl⟩

theorem isNegative_expand {d : Option Decimal} (h : ∀ x, d = some x → 0 ≤ x.toRat) :
    isNegative (d.map fun x => x.normalize.expand) = false := by
  cases d with
  | none => rfl
  | some x =>
    rw [Option.map_some, isNegative, Decimal.toRat_normalize_expand]
    exact decide_eq_false (not_lt.mpr (h x rfl))

theorem validateZeroNoFill_ok {d : Option Decimal} (hfees : Written d fees)
    (hnonneg : ∀ x, d = some x → 0 ≤ x.toRat)
    (hgross : payload.get "gross_realized_pnl" = .str "0")
    (hgetFees : payload.get "broker_fees" = nullable fees)
    (hnet : payload.get "net_realized_pnl" = .null)
    (hopened : payload.get "open_filled_at" = .null)
    (hclosed : payload.get "close_filled_at" = .null)
    (hreason : payload.get "unavailable_reason" = .null) :
    validateZeroNoFill payload (.str "CANCELED_FLAT") = .ok () := by
  simp only [validateZeroNoFill, except_bind_eq_ok, throwIf_eq_ok, hgross, hgetFees, hnet, hopened,
    hclosed, hreason]
  refine ⟨_, hfees.read _, ?_⟩
  rw [isNegative_expand hnonneg]
  decide

theorem validateUnavailable_ok {reason : String}
    (hnull : (["gross_realized_pnl", "broker_fees", "net_realized_pnl", "open_filled_at",
      "close_filled_at"].all fun field => isNull (payload.get field)) = true)
    (hreason : payload.get "unavailable_reason" =
      nullable (unavailable reason).unavailableReason) : validateUnavailable payload = .ok () := by
  have hamong : isAmong (payload.get "unavailable_reason") paperPnlUnavailableReasons = true := by
    rw [hreason]
    show paperPnlUnavailableReasons.contains (if paperPnlUnavailableReasons.contains reason then
      reason else "paper P&L inputs are invalid") = true
    split_ifs with h
    · exact h
    · decide
  simp only [validateUnavailable, except_bind_eq_ok, throwIf_eq_ok, not_not]
  exact ⟨(), hnull, hamong⟩

/-- The difference of a round trip, as the verifier computes it. -/
theorem RoundTrip.consistent {pnl : PaperPnlObservation} {grossPnl : Decimal}
    {feesPnl netPnl : Option Decimal} {g : String} {openedAt closedAt : DateTime}
    (h : RoundTrip pnl grossPnl feesPnl netPnl g fees net openedAt closedAt) :
    isInconsistent grossPnl.normalize.expand (feesPnl.map fun x => x.normalize.expand)
      (netPnl.map fun x => x.normalize.expand) = false := by
  have hdifference := h.difference
  have hfees := h.feesWritten
  cases feesPnl with
  | none =>
    cases hdifference
    rfl
  | some x =>
    rw [netOf] at hdifference
    cases hcontextual : contextual (grossPnl.sum x.copyNegate) with
    | error e =>
      rw [hcontextual] at hdifference
      cases hdifference
    | ok y =>
      rw [hcontextual] at hdifference
      cases hdifference
      cases hfees with
      | some htext hspelled => exact isInconsistent_spelled h.grossSpelled hspelled hcontextual

/-- A round trip is verified unless it was closed after the event was seen flat. -/
theorem validateRealized_iff {pnl : PaperPnlObservation} {grossPnl : Decimal}
    {feesPnl netPnl : Option Decimal} {g : String} {openedAt closedAt : DateTime}
    (h : RoundTrip pnl grossPnl feesPnl netPnl g fees net openedAt closedAt)
    (hgross : payload.get "gross_realized_pnl" = .str g)
    (hfees : payload.get "broker_fees" = nullable fees)
    (hnet : payload.get "net_realized_pnl" = nullable net)
    (hopened : payload.get "open_filled_at" = .str openedAt.isoformat)
    (hclosed : payload.get "close_filled_at" = .str closedAt.isoformat)
    (hreason : payload.get "unavailable_reason" = .null) :
    validateRealized iso payload (.str "CLOSED_FLAT") flatAt = .ok () ↔
      ¬ flatAt.micros < closedAt.micros := by
  have hlifecycle : ¬ (¬ (Json.str "CLOSED_FLAT").isText "CLOSED_FLAT" = true ∨
      ¬ isNull Json.null = true) := by decide
  have horder : ¬ closedAt.canonical.micros < openedAt.canonical.micros := not_lt.mpr h.order
  simp only [validateRealized, except_bind_eq_ok, throwIf_eq_ok, hgross, hfees, hnet, hopened,
    hclosed, hreason, canonicalDecimalText_of_spelled h.grossSpelled, h.feesWritten.read,
    h.netWritten.read, canonicalReceiptDatetime_isoformat h.opened,
    canonicalReceiptDatetime_isoformat h.closed, Except.ok.injEq]
  constructor
  · rintro ⟨-, -, _, rfl, _, rfl, _, rfl, -, -, -, -, _, rfl, _, rfl, hlate⟩
    exact fun hlt => hlate (.inr hlt)
  · intro hlate
    refine ⟨(), hlifecycle, _, rfl, _, rfl, _, rfl, (), ?_, (), ?_, _, rfl, _, rfl, ?_⟩
    · rw [isNegative_expand h.nonneg]
      decide
    · rw [h.consistent]
      decide
    · rw [not_or]
      exact ⟨horder, hlate⟩

end Pnl

/-! ### Signed records -/

def signedRecord (key : String) (fields : List (String × Json)) : Json :=
  .obj (fields ++ [(key, .str (Json.obj fields).sha256)])

theorem sha256_without_sorted {key : String} {fields : List (String × Json)}
    (h : (signedRecord key fields).wellFormed = true) :
    ((signedRecord key fields).sorted.without key).sha256 = (Json.obj fields).sha256 := by
  rw [Json.sha256, signedRecord, Json.canonicalBytes_without h, Json.sha256]

/-! ### Receipts -/

section Receipts

variable {iso : IsoReader} {m : ScheduledEventManifest} {bundle : PaperReceiptBundle} {pnl : Json}
  {updatedAt : DateTime} {receipt failureCode : Json}

def ClosedAs (bundle : PaperReceiptBundle) : Prop :=
  match bundle.lifecycleOutcome with
  | .canceledFlat => bundle.closeRequestSha256 = none ∧ bundle.closeOrderSha256 = none
  | .closedFlat => ∃ request order, bundle.closeRequestSha256 = some request ∧
      isLowerHex 64 request = true ∧ bundle.closeOrderSha256 = some order ∧
      isLowerHex 64 order = true

structure BundleOf (m : ScheduledEventManifest) (bundle : PaperReceiptBundle) : Prop where
  eventRunId : bundle.eventRunId = m.eventRunId
  openPermitId : bundle.openPermitId = m.openPermitId
  closePermitId : bundle.closePermitId = m.closePermitId
  capability : bundle.capabilitySha256 = m.capabilitySha256
  openRequest : isLowerHex 64 bundle.openRequestSha256 = true
  openOrder : isLowerHex 64 bundle.openOrderSha256 = true
  closed : ClosedAs bundle
  flatAt : bundle.finalFlatObservedAt.InRange ∧ bundle.finalFlatObservedAt.isAware = true

theorem wellFormed_nullable (text : Option String) : (nullable text).wellFormed = true := by
  cases text <;> rfl

theorem sorted_nullable (text : Option String) : (nullable text).sorted = nullable text := by
  cases text <;> rfl

theorem wellFormed_receipt (hpnl : pnl.wellFormed = true) :
    (signedRecord "receipt_sha256" (bundle.fields pnl)).wellFormed = true := by
  refine Json.wellFormed_obj.mpr ⟨?_, ?_⟩
  · rw [List.map_append]
    exact (by decide : receiptKeys.Nodup)
  · intro kv hkv
    simp only [PaperReceiptBundle.fields, List.cons_append, List.nil_append, List.mem_cons,
      List.not_mem_nil, or_false] at hkv
    rcases hkv with rfl | rfl | rfl | rfl | rfl | rfl | rfl | rfl | rfl | rfl | rfl | rfl | rfl |
      rfl | rfl | rfl | rfl
    all_goals
      first
      | rfl
      | exact hpnl
      | exact wellFormed_nullable _

theorem requireSha256_ok {text : String} (h : isLowerHex 64 text = true) (field : String) :
    requireSha256 (.str text) field = .ok () := by
  rw [requireSha256, if_pos h]

/-- A receipt of the manifest is verified as its P&L is. -/
theorem verifiedTerminalReceipt_iff (h : BundleOf m bundle) (hpnl : pnl.wellFormed = true) :
    verifiedTerminalReceipt iso (signedRecord "receipt_sha256" (bundle.fields pnl)).sorted
        (statePayload m bundle.lifecycleOutcome.value updatedAt receipt failureCode) = .ok () ↔
      validateTerminalPaperPnl iso pnl.sorted (.str bundle.lifecycleOutcome.value)
        bundle.finalFlatObservedAt.canonical = .ok () := by
  have hwell := @wellFormed_receipt bundle pnl hpnl
  have hget : ∀ field, (signedRecord "receipt_sha256" (bundle.fields pnl)).sorted.get field =
      ((signedRecord "receipt_sha256" (bundle.fields pnl)).get field).sorted := Json.get_sorted hwell
  have hkeys : (signedRecord "receipt_sha256" (bundle.fields pnl)).sorted.hasKeys receiptKeys =
      true := by
    rw [Json.hasKeys_sorted]
    rfl
  have hsigned := sha256_without_sorted hwell
  obtain ⟨signed, hreceipt⟩ : ∃ r, r = (signedRecord "receipt_sha256" (bundle.fields pnl)).sorted :=
    ⟨_, rfl⟩
  rw [← hreceipt] at hget hkeys hsigned ⊢
  have hschema : signed.get "schema" = .str "ringdown.paper_receipt_bundle" := hget _
  have hversion : signed.get "schema_version" = .int 1 := hget _
  have hmode : signed.get "run_mode" = .str "PAPER" := hget _
  have hclass : signed.get "data_class" = .str "INDICATIVE_DATA" := hget _
  have hclaims : signed.get "claims" = texts ["PAPER_OPERATIONAL_OBSERVATION", "NOT_ALPHA_EVIDENCE"] :=
    hget _
  have hcapability : signed.get "capability_sha256" = .str m.capabilitySha256 := by
    rw [← h.capability]
    exact hget _
  have hopenRequest : signed.get "open_request_sha256" = .str bundle.openRequestSha256 := hget _
  have hopenOrder : signed.get "open_order_sha256" = .str bundle.openOrderSha256 := hget _
  have hcloseRequest : signed.get "close_request_sha256" = nullable bundle.closeRequestSha256 :=
    (hget _).trans (sorted_nullable _)
  have hcloseOrder : signed.get "close_order_sha256" = nullable bundle.closeOrderSha256 :=
    (hget _).trans (sorted_nullable _)
  have hlifecycle : signed.get "lifecycle_outcome" = .str bundle.lifecycleOutcome.value := hget _
  have hdigest : signed.get "receipt_sha256" = .str (Json.obj (bundle.fields pnl)).sha256 := hget _
  have hflat : signed.get "final_flat_observed_at" = .str bundle.finalFlatObservedAt.isoformat :=
    hget _
  have hpaper : signed.get "paper_pnl" = pnl.sorted := hget _
  have hevent : signed.get "event_run_id" = .str m.eventRunId := by
    rw [← h.eventRunId]
    exact hget _
  have hopenPermit : signed.get "open_permit_id" = .str m.openPermitId := by
    rw [← h.openPermitId]
    exact hget _
  have hclosePermit : signed.get "close_permit_id" = .str m.closePermitId := by
    rw [← h.closePermitId]
    exact hget _
  have hself : ∀ text : String, same (.str text) (.str text) = true := fun text =>
    beq_self_eq_true text
  have hclosing : closingDigests signed = .ok () := by
    have hclosed := h.closed
    rw [ClosedAs] at hclosed
    rw [closingDigests, hlifecycle, hcloseRequest, hcloseOrder]
    cases houtcome : bundle.lifecycleOutcome with
    | canceledFlat =>
      rw [houtcome] at hclosed
      rw [hclosed.1, hclosed.2]
      rfl
    | closedFlat =>
      rw [houtcome] at hclosed
      obtain ⟨request, order, hrequest, hhex, horder, hhex'⟩ := hclosed
      rw [hrequest, horder, nullable, nullable, requireSha256_ok hhex, requireSha256_ok hhex']
      rfl
  have hidentity : same (signed.get "event_run_id") ((statePayload m bundle.lifecycleOutcome.value
        updatedAt receipt failureCode).get "event_run_id") = true ∧
      same (signed.get "open_permit_id") ((statePayload m bundle.lifecycleOutcome.value updatedAt
        receipt failureCode).get "open_permit_id") = true ∧
      same (signed.get "close_permit_id") ((statePayload m bundle.lifecycleOutcome.value updatedAt
        receipt failureCode).get "close_permit_id") = true ∧
      same (signed.get "capability_sha256") ((statePayload m bundle.lifecycleOutcome.value updatedAt
        receipt failureCode).get "capability_sha256") = true ∧
      same (signed.get "lifecycle_outcome") ((statePayload m bundle.lifecycleOutcome.value updatedAt
        receipt failureCode).get "lifecycle") = true := by
    rw [hevent, hopenPermit, hclosePermit, hcapability, hlifecycle]
    exact ⟨hself _, hself _, hself _, hself _, hself _⟩
  have hboundary : (signed.get "schema").isText "ringdown.paper_receipt_bundle" = true ∧
      isInt1 (signed.get "schema_version") = true ∧ (signed.get "run_mode").isText "PAPER" = true ∧
      (signed.get "data_class").isText "INDICATIVE_DATA" = true ∧ isTexts (signed.get "claims")
        ["PAPER_OPERATIONAL_OBSERVATION", "NOT_ALPHA_EVIDENCE"] = true := by
    rw [hschema, hversion, hmode, hclass, hclaims]
    decide
  have hintegrity : (signed.get "receipt_sha256").isText
      (signed.without "receipt_sha256").sha256 = true := by
    rw [hdigest, hsigned]
    exact beq_self_eq_true (Json.obj (bundle.fields pnl)).sha256
  have hdatetime := @canonicalReceiptDatetime_isoformat iso _ h.flatAt "final_flat_observed_at"
  simp only [verifiedTerminalReceipt, except_bind_eq_ok, throwIf_eq_ok, not_not, hcapability,
    hopenRequest, hopenOrder, hflat, hdatetime, hpaper, hlifecycle]
  constructor
  · rintro ⟨-, -, -, -, -, -, -, -, -, -, -, -, -, -, -, -, -, -, t, ht, hverified⟩
    cases ht
    exact hverified
  · intro hverified
    refine ⟨(), hkeys, (), hboundary, (), requireSha256_ok m.capability _, (),
      requireSha256_ok h.openRequest _, (), requireSha256_ok h.openOrder _, (), hclosing, (), ?_, (),
      hintegrity, (), ?_, _, rfl, hverified⟩
    · rw [hdigest]
      exact requireSha256_ok (Json.isLowerHex_sha256 _) _
    · rw [← hcapability, ← hlifecycle]
      exact hidentity

end Receipts

/-! ### What a run was told last -/

section Told

open Prog McpPaperBroker

variable {σ : Type} {answer : (op : paperSig.Op) → σ → paperSig.Res op × σ} {s s' : σ}
  {tr : List ((op : paperSig.Op) × paperSig.Res op)}

def clockCall (t : { t : DateTime // t.InRange }) : (op : paperSig.Op) × paperSig.Res op :=
  ⟨PaperOp.clock, t⟩

def readCall (orderId : String) (order : Json) : (op : paperSig.Op) × paperSig.Res op :=
  ⟨PaperOp.callTool orderByIdTool (.obj [("order_id", .str orderId)]), ToolAnswer.response order⟩

theorem ran_pure {α : Type} {a b : α}
    (h : Ran answer (pure a : PaperProg α) s b s' tr) : b = a ∧ tr = [] := by
  obtain ⟨hrun, rfl⟩ := h
  cases hrun
  exact ⟨rfl, rfl⟩

theorem ran_ofExcept {α : Type} {x : Except PaperError α} {a : α}
    (h : Ran answer (ofExcept x) s a s' tr) : x = .ok a ∧ tr = [] := by
  cases x with
  | error e => cases h.result
  | ok b =>
    obtain ⟨rfl, rfl⟩ := ran_pure h
    exact ⟨rfl, rfl⟩

theorem ran_readClock {t : DateTime} (h : Ran answer readClock s t s' tr) :
    ∃ reading : { t : DateTime // t.InRange }, t = reading.1 ∧ tr = [clockCall reading] := by
  obtain ⟨tr', hpure, htr⟩ := h.of_perform_bind
  obtain ⟨rfl, rfl⟩ := ran_pure hpure
  exact ⟨_, rfl, htr⟩

theorem ran_observedTime {t : DateTime} (h : Ran answer observedTime s t s' tr) :
    ∃ reading : { t : DateTime // t.InRange }, t = reading.1 ∧ t.isAware = true ∧
      tr = [clockCall reading] := by
  obtain ⟨t', s₁, tr₁, tr₂, hclock, hrest, htr⟩ := h.of_bind
  obtain ⟨reading, rfl, rfl⟩ := ran_readClock hclock
  obtain ⟨haware, hpure⟩ := hrest.of_raiseIf_bind
  obtain ⟨rfl, rfl⟩ := ran_pure hpure
  exact ⟨reading, rfl, not_not.mp haware, htr⟩

theorem ran_callTool {tool : String} {arguments v : Json}
    (h : Ran answer (callTool tool arguments) s v s' tr) :
    tr = [⟨PaperOp.callTool tool arguments, ToolAnswer.response v⟩] := by
  obtain ⟨tr', hrest, htr⟩ := h.of_perform_bind
  generalize (answer (PaperOp.callTool tool arguments) s).1 = r at hrest htr
  cases r with
  | response v' =>
    obtain ⟨rfl, rfl⟩ := ran_pure hrest
    exact htr
  | _ => cases hrest.result

theorem ran_readTerminal {orderId clientOrderId : String} {order : Json}
    (h : Ran answer (readTerminal orderId clientOrderId) s order s' tr) :
    tr = [readCall orderId order] := by
  obtain ⟨-, hread⟩ := h.of_raiseIf_bind
  obtain ⟨v, s₁, tr₁, tr₂, hcall, hrest, htr⟩ := hread.of_bind
  obtain ⟨-, hpure⟩ := hrest.of_raiseIf_bind
  obtain ⟨rfl, rfl⟩ := ran_pure hpure
  rw [htr, ran_callTool hcall]
  rfl

theorem ran_verifyEventFlat {targetSymbols : String × String} {t : DateTime}
    (h : Ran answer (verifyEventFlat targetSymbols) s t s' tr) :
    ∃ before, ∃ reading : { t : DateTime // t.InRange }, t = reading.1 ∧ t.isAware = true ∧
      tr = before ++ [clockCall reading] := by
  obtain ⟨v, s₁, tr₁, tr₂, -, hrest, htr⟩ := h.of_bind
  obtain ⟨symbols, -, hrest⟩ := hrest.of_ofExcept_bind
  obtain ⟨-, hrest⟩ := hrest.of_raiseIf_bind
  obtain ⟨reading, ht, haware, rfl⟩ := ran_observedTime hrest
  exact ⟨tr₁, reading, ht, haware, htr⟩

theorem make_ok {fields : PaperLifecycleReceiptFields} {lifecycle : PaperLifecycleReceipt}
    (h : PaperLifecycleReceipt.make fields = .ok lifecycle) :
    lifecycle.toPaperLifecycleReceiptFields = fields := by
  rw [PaperLifecycleReceipt.make] at h
  split_ifs at h
  cases h
  rfl

/-- What the receipt of a lifecycle says, and the last call before it. -/
structure Resolved (p : DebitVerticalPermit) (c : ClosePermit) (lifecycle : PaperLifecycleReceipt)
    (tr : List ((op : paperSig.Op) × paperSig.Res op)) : Prop where
  eventRunId : lifecycle.eventRunId = p.eventRunId
  openPermitId : lifecycle.openPermitId = p.permitId
  closePermitId : lifecycle.closePermitId = c.permitId
  outcome : (lifecycle.outcome = .canceledFlat ∧ lifecycle.closeOrderId = none ∧
      lifecycle.closeRequestSha256 = none) ∨
    (lifecycle.outcome = .closedFlat ∧ (∃ id, lifecycle.closeOrderId = some id) ∧
      ∃ request, lifecycle.closeRequestSha256 = some request ∧ isLowerHex 64 request = true)
  flat : ∃ before, ∃ reading : { t : DateTime // t.InRange }, lifecycle.observedAt = reading.1 ∧
    lifecycle.observedAt.isAware = true ∧ tr = before ++ [clockCall reading]

theorem Resolved.prepend {p : DebitVerticalPermit} {c : ClosePermit}
    {lifecycle : PaperLifecycleReceipt} (h : Resolved p c lifecycle tr)
    (before : List ((op : paperSig.Op) × paperSig.Res op)) :
    Resolved p c lifecycle (before ++ tr) := by
  obtain ⟨first, reading, ht, haware, htr⟩ := h.flat
  refine ⟨h.eventRunId, h.openPermitId, h.closePermitId, h.outcome, before ++ first, reading, ht,
    haware, ?_⟩
  rw [htr, List.append_assoc]

variable {p : DebitVerticalPermit} {c : ClosePermit} {receipt : OpenOrderReceipt}
  {order : ReportedIdentity} {lifecycle : PaperLifecycleReceipt}

theorem ran_resolveCanceled (h : Ran answer (resolveCanceled p c receipt order) s lifecycle s' tr) :
    Resolved p c lifecycle tr := by
  obtain ⟨-, hrest⟩ := h.of_raiseIf_bind
  obtain ⟨t, s₁, tr₁, tr₂, hflat, hmake, rfl⟩ := hrest.of_bind
  obtain ⟨before, reading, ht, haware, rfl⟩ := ran_verifyEventFlat hflat
  obtain ⟨hmade, rfl⟩ := ran_ofExcept hmake
  have hfields := make_ok hmade
  rw [List.append_nil]
  constructor
  · rw [hfields]
  · rw [hfields]
  · rw [hfields]
  · rw [hfields]
    exact .inl ⟨rfl, rfl, rfl⟩
  · rw [hfields]
    exact ⟨before, reading, ht, haware, rfl⟩

theorem ran_resolveFilled {closeCall : OpenOrderCall}
    (hclose : isLowerHex 64 closeCall.requestSha256 = true)
    (h : Ran answer (resolveFilled p c receipt order closeCall) s lifecycle s' tr) :
    Resolved p c lifecycle tr := by
  obtain ⟨-, h₁⟩ := h.of_raiseIf_bind
  obtain ⟨-, h₂⟩ := h₁.of_raiseIf_bind
  obtain ⟨claimed, s₁, tr₁, tr₂, -, h₃, rfl⟩ := h₂.of_bind
  obtain ⟨close, s₂, tr₃, tr₄, -, h₄, rfl⟩ := h₃.of_bind
  obtain ⟨-, h₅⟩ := h₄.of_raiseIf_bind
  obtain ⟨-, h₆⟩ := h₅.of_raiseIf_bind
  obtain ⟨t, s₃, tr₅, tr₆, hflat, hmake, rfl⟩ := h₆.of_bind
  obtain ⟨before, reading, ht, haware, rfl⟩ := ran_verifyEventFlat hflat
  obtain ⟨hmade, rfl⟩ := ran_ofExcept hmake
  have hfields := make_ok hmade
  refine Resolved.prepend (Resolved.prepend ?_ tr₃) tr₁
  rw [List.append_nil]
  constructor
  · rw [hfields]
  · rw [hfields]
  · rw [hfields]
  · rw [hfields]
    exact .inr ⟨rfl, ⟨_, rfl⟩, _, rfl, hclose⟩
  · rw [hfields]
    exact ⟨before, reading, ht, haware, rfl⟩

theorem isLowerHex_closeRequest {closeCall : OpenOrderCall}
    (h : buildCloseOrderCall p c = .ok closeCall) :
    isLowerHex 64 closeCall.requestSha256 = true := by
  simp only [buildCloseOrderCall, except_bind_eq_ok, except_pure_eq_ok] at h
  obtain ⟨-, -, -, -, -, -, -, -, -, -, rfl⟩ := h
  exact Json.isLowerHex_sha256 _

theorem isLowerHex_openRequest {openCall : OpenOrderCall} (h : buildOpenOrderCall p = .ok openCall) :
    isLowerHex 64 openCall.requestSha256 = true := by
  simp only [buildOpenOrderCall, except_bind_eq_ok, except_pure_eq_ok] at h
  obtain ⟨-, -, rfl⟩ := h
  exact Json.isLowerHex_sha256 _

theorem ran_resolveToFlat (h : Ran answer (resolveToFlat p receipt c) s lifecycle s' tr) :
    Resolved p c lifecycle tr := by
  obtain ⟨u, s₁, tr₁, tr₂, -, h₁, rfl⟩ := h.of_bind
  obtain ⟨openCall, -, h₂⟩ := h₁.of_ofExcept_bind
  obtain ⟨-, h₃⟩ := h₂.of_raiseIf_bind
  obtain ⟨closeCall, hcloseCall, h₄⟩ := h₃.of_ofExcept_bind
  obtain ⟨order, s₂, tr₃, tr₄, -, h₅, rfl⟩ := h₄.of_bind
  obtain ⟨-, h₆⟩ := h₅.of_raiseIf_bind
  refine Resolved.prepend (Resolved.prepend ?_ tr₃) tr₁
  split_ifs at h₆ with hunfilled
  · exact ran_resolveCanceled h₆
  · exact ran_resolveFilled (isLowerHex_closeRequest hcloseCall) h₆

/-- What a run that returned was told last: the clock, when the event was flat, and the terminal
readbacks of its orders. -/
def ToldLast (iso : IsoReader) (p : DebitVerticalPermit) (bundle : PaperReceiptBundle)
    (tr : List ((op : paperSig.Op) × paperSig.Res op)) : Prop :=
  ∃ before openId openOrder, ∃ reading : { t : DateTime // t.InRange },
    bundle.finalFlatObservedAt = reading.1 ∧
    ((bundle.lifecycleOutcome = .canceledFlat ∧
        tr = before ++ [clockCall reading, readCall openId openOrder] ∧
        classifyPnl iso .canceledFlat openOrder none p.quantity = .ok bundle.pnl) ∨
      (bundle.lifecycleOutcome = .closedFlat ∧ ∃ closeId closeOrder,
        tr = before ++ [clockCall reading, readCall openId openOrder, readCall closeId closeOrder] ∧
        classifyPnl iso .closedFlat openOrder (some closeOrder) p.quantity = .ok bundle.pnl))

structure Returned (iso : IsoReader) (p : DebitVerticalPermit) (c : ClosePermit)
    (approval : PaperDemoApproval) (bundle : PaperReceiptBundle)
    (tr : List ((op : paperSig.Op) × paperSig.Res op)) : Prop where
  eventRunId : bundle.eventRunId = p.eventRunId
  openPermitId : bundle.openPermitId = p.permitId
  closePermitId : bundle.closePermitId = c.permitId
  capability : bundle.capabilitySha256 = approval.capabilitySha256
  openRequest : isLowerHex 64 bundle.openRequestSha256 = true
  openOrder : isLowerHex 64 bundle.openOrderSha256 = true
  closed : ClosedAs bundle
  flatAt : bundle.finalFlatObservedAt.InRange ∧ bundle.finalFlatObservedAt.isAware = true
  told : ToldLast iso p bundle tr

theorem Returned.prepend {iso : IsoReader} {approval : PaperDemoApproval}
    {bundle : PaperReceiptBundle} (h : Returned iso p c approval bundle tr)
    (first : List ((op : paperSig.Op) × paperSig.Res op)) :
    Returned iso p c approval bundle (first ++ tr) := by
  obtain ⟨before, openId, openOrder, reading, hflat, htold⟩ := h.told
  refine { h with told := ⟨first ++ before, openId, openOrder, reading, hflat, ?_⟩ }
  rcases htold with ⟨houtcome, htr, hpnl⟩ | ⟨houtcome, closeId, closeOrder, htr, hpnl⟩
  · exact .inl ⟨houtcome, by rw [htr, List.append_assoc], hpnl⟩
  · exact .inr ⟨houtcome, closeId, closeOrder, by rw [htr, List.append_assoc], hpnl⟩

theorem ran_runApproved {iso : IsoReader} {approval : PaperDemoApproval}
    {openCall closeCall : OpenOrderCall} {bundle : PaperReceiptBundle}
    (hopen : isLowerHex 64 openCall.requestSha256 = true)
    (h : Ran answer (runApproved iso p c approval openCall closeCall) s bundle s' tr) :
    Returned iso p c approval bundle tr := by
  obtain ⟨claimed, s₁, tr₁, tr₂, -, h₁, rfl⟩ := h.of_bind
  obtain ⟨receipt, s₂, tr₃, tr₄, -, h₂, rfl⟩ := h₁.of_bind
  obtain ⟨lifecycle, s₃, tr₅, tr₆, hresolve, h₃, rfl⟩ := h₂.of_bind
  obtain ⟨openOrder, s₄, tr₇, tr₈, hread, h₄, rfl⟩ := h₃.of_bind
  obtain ⟨closeOrder, s₅, tr₉, tr₁₀, hreadClose, h₅, rfl⟩ := h₄.of_bind
  obtain ⟨pnl, hpnl, hpure⟩ := h₅.of_ofExcept_bind
  obtain ⟨rfl, rfl⟩ := ran_pure hpure
  have hresolved := ran_resolveToFlat hresolve
  obtain ⟨before, reading, hflat, haware, rfl⟩ := hresolved.flat
  have hreadOpen := ran_readTerminal hread
  refine Returned.prepend (Returned.prepend ?_ tr₃) tr₁
  have hrange : lifecycle.observedAt.InRange := by
    rw [hflat]
    exact reading.2
  constructor
  case eventRunId => exact hresolved.eventRunId
  case openPermitId => exact hresolved.openPermitId
  case closePermitId => exact hresolved.closePermitId
  case capability => rfl
  case openRequest => exact hopen
  case openOrder => exact Sha256.isLowerHex_hexdigest _
  case flatAt => exact ⟨hrange, haware⟩
  case closed =>
    show match lifecycle.outcome with
      | .canceledFlat => _
      | .closedFlat => _
    rcases hresolved.outcome with ⟨houtcome, hid, hrequest⟩ | ⟨houtcome, ⟨id, hid⟩, request, hrequest, hhex⟩
    · rw [houtcome]
      refine ⟨hrequest, ?_⟩
      show lifecycle.closeOrderId.map _ = none
      rw [hid]
      rfl
    · rw [houtcome]
      refine ⟨request, _, hrequest, hhex, ?_, Sha256.isLowerHex_hexdigest (Json.utf8 id)⟩
      show lifecycle.closeOrderId.map _ = _
      rw [hid]
      rfl
  case told =>
    refine ⟨before, lifecycle.openOrderId, openOrder, reading, hflat, ?_⟩
    rcases hresolved.outcome with ⟨houtcome, hid, -⟩ | ⟨houtcome, ⟨id, hid⟩, -⟩
    · rw [hid] at hreadClose
      obtain ⟨rfl, rfl⟩ := ran_pure hreadClose
      rw [houtcome] at hpnl
      refine .inl ⟨houtcome, ?_, hpnl⟩
      rw [hreadOpen]
      simp
    · rw [hid] at hreadClose
      obtain ⟨payload, s₆, tr₁₁, tr₁₂, hterminal, hpure', rfl⟩ := hreadClose.of_bind
      obtain ⟨rfl, rfl⟩ := ran_pure hpure'
      rw [houtcome] at hpnl
      refine .inr ⟨houtcome, id, payload, ?_, hpnl⟩
      rw [hreadOpen, ran_readTerminal hterminal]
      simp

/-- What a run that returned says, and was told last. -/
theorem ran_runPaperDemo {iso : IsoReader} {prepared : PreparedHostMcpSession}
    {approval : PaperDemoApproval} {bundle : PaperReceiptBundle}
    (h : Ran answer (runPaperDemo iso prepared p c approval) s bundle s' tr) :
    Returned iso p c approval bundle tr := by
  obtain ⟨observedAt, s₁, tr₁, tr₂, -, h₁, rfl⟩ := h.of_bind
  obtain ⟨-, h₂⟩ := h₁.of_raiseIf_bind
  obtain ⟨u, -, h₃⟩ := h₂.of_ofExcept_bind
  obtain ⟨-, h₄⟩ := h₃.of_raiseIf_bind
  obtain ⟨-, h₅⟩ := h₄.of_raiseIf_bind
  obtain ⟨openCall, hopen, h₆⟩ := h₅.of_ofExcept_bind
  obtain ⟨closeCall, -, h₇⟩ := h₆.of_ofExcept_bind
  exact (ran_runApproved (isLowerHex_openRequest hopen) h₇).prepend tr₁

/-- The closing order was filled later than the clock's last reading, by the broker's account. -/
def ClosedLate (iso : IsoReader) (quantity : Int)
    (tr : List ((op : paperSig.Op) × paperSig.Res op)) : Prop :=
  ∃ before openId openOrder closeId closeOrder, ∃ reading : { t : DateTime // t.InRange },
    tr = before ++ [clockCall reading, readCall openId openOrder, readCall closeId closeOrder] ∧
    ∃ pnl closedAt, economicsOf iso .closedFlat openOrder (some closeOrder) quantity = .ok pnl ∧
      pnl.closeFilledAt = some closedAt ∧ reading.1.micros < closedAt.micros

theorem clockCall_ne_readCall (reading : { t : DateTime // t.InRange }) (id : String)
    (order : Json) : clockCall reading ≠ readCall id order := by
  intro h
  have hop : (clockCall reading).1 = (readCall id order).1 := congrArg Sigma.fst h
  cases hop

/-- The response of a call of the tools. -/
def responseOf : (op : paperSig.Op) × paperSig.Res op → Json
  | ⟨.callTool _ _, .response v⟩ => v
  | _ => .null

theorem readCall_injective {id id' : String} {order order' : Json}
    (h : readCall id order = readCall id' order') : order = order' :=
  congrArg responseOf h

theorem clockCall_injective {reading reading' : { t : DateTime // t.InRange }}
    (h : clockCall reading = clockCall reading') : reading = reading' := by
  have hanswer := congrArg (fun call : (op : paperSig.Op) × paperSig.Res op =>
    match call with
    | ⟨.clock, t⟩ => some t
    | _ => none) h
  exact Option.some.inj hanswer

theorem not_closedLate_canceled {iso : IsoReader} {quantity : Int}
    {before : List ((op : paperSig.Op) × paperSig.Res op)}
    {reading : { t : DateTime // t.InRange }} {openId : String} {openOrder : Json} :
    ¬ ClosedLate iso quantity (before ++ [clockCall reading, readCall openId openOrder]) := by
  rintro ⟨before', openId', openOrder', closeId, closeOrder, reading', htr, -⟩
  have hsplit : before' ++ [clockCall reading', readCall openId' openOrder',
      readCall closeId closeOrder] = (before' ++ [clockCall reading']) ++
        [readCall openId' openOrder', readCall closeId closeOrder] := by simp
  rw [hsplit] at htr
  have hlast := (List.append_inj' htr rfl).2
  exact clockCall_ne_readCall _ _ _ (List.cons.inj hlast).1

/-- After a closed position the two orders are those that were read last. -/
theorem closedLate_closed {iso : IsoReader} {quantity : Int}
    {before : List ((op : paperSig.Op) × paperSig.Res op)}
    {reading : { t : DateTime // t.InRange }} {openId closeId : String}
    {openOrder closeOrder : Json} :
    ClosedLate iso quantity (before ++ [clockCall reading, readCall openId openOrder,
        readCall closeId closeOrder]) ↔
      ∃ pnl closedAt, economicsOf iso .closedFlat openOrder (some closeOrder) quantity = .ok pnl ∧
        pnl.closeFilledAt = some closedAt ∧ reading.1.micros < closedAt.micros := by
  constructor
  · rintro ⟨before', openId', openOrder', closeId', closeOrder', reading', htr, hlate⟩
    have hlast := (List.append_inj' htr rfl).2
    simp only [List.cons.injEq, and_true] at hlast
    rw [clockCall_injective hlast.1, readCall_injective hlast.2.1, readCall_injective hlast.2.2]
    exact hlate
  · exact fun hlate => ⟨before, openId, openOrder, closeId, closeOrder, reading, rfl, hlate⟩

end Told

/-! ### Accepted receipts -/

section Accepted

open Prog

variable {iso : IsoReader} {m : ScheduledEventManifest} {bundle : PaperReceiptBundle}

/-- The runner accepts the receipt of a bundle: it is read back from its bytes and verified against
the state that would hold it. -/
def Accepted (iso : IsoReader) (m : ScheduledEventManifest) (bundle : PaperReceiptBundle) : Prop :=
  ∃ bytes receipt, bundle.toJsonBytes = .ok bytes ∧ Json.loadsUnique bytes = some receipt ∧
    verifiedTerminalReceipt iso receipt (statePayload m bundle.lifecycleOutcome.value
      bundle.finalFlatObservedAt receipt .null) = .ok ()

theorem wellFormed_pnlPayload (pnl : PaperPnlObservation) (gross fees net : Option String) :
    (pnlPayload pnl gross fees net).wellFormed = true := by
  refine Json.wellFormed_obj.mpr ⟨(by decide : pnlKeys.Nodup), ?_⟩
  intro kv hkv
  simp only [List.mem_cons, List.not_mem_nil, or_false] at hkv
  rcases hkv with rfl | rfl | rfl | rfl | rfl | rfl | rfl
  all_goals
    first
    | rfl
    | exact wellFormed_nullable _

/-- A bundle is accepted as its P&L is. -/
theorem accepted_iff_valid (h : BundleOf m bundle) {gross fees net : Option String}
    (hgross : optionalText bundle.pnl.grossRealizedPnl = .ok gross)
    (hfees : optionalText bundle.pnl.brokerFees = .ok fees)
    (hnet : optionalText bundle.pnl.netRealizedPnl = .ok net) :
    Accepted iso m bundle ↔ validateClass iso (pnlPayload bundle.pnl gross fees net).sorted
      (.str bundle.lifecycleOutcome.value) bundle.finalFlatObservedAt.canonical
      bundle.pnl.classification = .ok () := by
  have hpnl := wellFormed_pnlPayload bundle.pnl gross fees net
  have hbytes : bundle.toJsonBytes = .ok (signedRecord "receipt_sha256"
      (bundle.fields (pnlPayload bundle.pnl gross fees net))).canonicalBytes := by
    rw [PaperReceiptBundle.toJsonBytes, PaperReceiptBundle.payload, hgross, hfees, hnet]
    rfl
  have hloads : Json.loadsUnique (signedRecord "receipt_sha256"
      (bundle.fields (pnlPayload bundle.pnl gross fees net))).canonicalBytes =
        some (signedRecord "receipt_sha256"
          (bundle.fields (pnlPayload bundle.pnl gross fees net))).sorted :=
    Json.loadsWith_canonicalBytes (wellFormed_receipt hpnl) .unique
  have hkeys : (pnlPayload bundle.pnl gross fees net).sorted.hasKeys pnlKeys = true := by
    rw [Json.hasKeys_sorted]
    rfl
  have hclass : (pnlPayload bundle.pnl gross fees net).sorted.get "classification" =
      .str bundle.pnl.classification.value := Json.get_sorted hpnl _
  rw [← validateTerminalPaperPnl_eq hkeys hclass]
  constructor
  · rintro ⟨bytes, receipt, hbytes', hloads', hverified⟩
    rw [hbytes] at hbytes'
    cases hbytes'
    rw [hloads] at hloads'
    cases hloads'
    exact (verifiedTerminalReceipt_iff h hpnl).mp hverified
  · intro hvalid
    exact ⟨_, _, hbytes, hloads, (verifiedTerminalReceipt_iff h hpnl).mpr hvalid⟩

theorem accepted_unavailable (h : BundleOf m bundle) {reason : String}
    (hpnl : bundle.pnl = unavailable reason) : Accepted iso m bundle := by
  have hnone : bundle.pnl.grossRealizedPnl = none ∧ bundle.pnl.brokerFees = none ∧
      bundle.pnl.netRealizedPnl = none := by
    rw [hpnl]
    exact ⟨rfl, rfl, rfl⟩
  have hwell := wellFormed_pnlPayload bundle.pnl none none none
  refine (accepted_iff_valid h (by rw [hnone.1]; rfl) (by rw [hnone.2.1]; rfl)
    (by rw [hnone.2.2]; rfl)).mpr ?_
  rw [hpnl] at hwell ⊢
  refine @validateUnavailable_ok _ reason ?_ ?_
  · simp only [List.all_cons, List.all_nil, Json.get_sorted hwell]
    rfl
  · rw [Json.get_sorted hwell]
    exact sorted_nullable (unavailable reason).unavailableReason

theorem accepted_canceled (h : BundleOf m bundle) (houtcome : bundle.lifecycleOutcome = .canceledFlat)
    {openOrder : Json} {openQty : Decimal}
    (hpnl : classifyCanceled openOrder openQty = .ok bundle.pnl) : Accepted iso m bundle := by
  obtain ⟨fees, f, hvalue, hwritten, hnonneg⟩ := classifyCanceled_ok hpnl
  have hwell := wellFormed_pnlPayload bundle.pnl (some "0") f none
  have hzero : optionalText (some (.ofNat 0)) = .ok (some "0") := by decide
  refine (@accepted_iff_valid iso m bundle h (some "0") f none ?_ ?_ ?_).mpr ?_
  · rw [hvalue]
    exact hzero
  · rw [hvalue]
    exact hwritten.optionalText
  · rw [hvalue]
    rfl
  · rw [houtcome]
    rw [hvalue] at hwell ⊢
    exact validateZeroNoFill_ok hwritten hnonneg (Json.get_sorted hwell _)
      ((Json.get_sorted hwell _).trans (sorted_nullable _)) (Json.get_sorted hwell _)
      (Json.get_sorted hwell _) (Json.get_sorted hwell _) (Json.get_sorted hwell _)

theorem accepted_closed (h : BundleOf m bundle) (houtcome : bundle.lifecycleOutcome = .closedFlat)
    {grossPnl : Decimal} {feesPnl netPnl : Option Decimal} {g : String} {f t : Option String}
    {openedAt closedAt : DateTime}
    (htrip : RoundTrip bundle.pnl grossPnl feesPnl netPnl g f t openedAt closedAt) :
    Accepted iso m bundle ↔ ¬ bundle.finalFlatObservedAt.micros < closedAt.micros := by
  have hwell := wellFormed_pnlPayload bundle.pnl (some g) f t
  have hget : ∀ field, (pnlPayload bundle.pnl (some g) f t).sorted.get field =
      ((pnlPayload bundle.pnl (some g) f t).get field).sorted := Json.get_sorted hwell
  have hvalue := htrip.value
  have hvalid := @validateRealized_iff iso (pnlPayload bundle.pnl (some g) f t).sorted
    bundle.finalFlatObservedAt.canonical f t bundle.pnl grossPnl feesPnl netPnl g openedAt closedAt
    htrip (hget _) ((hget _).trans (sorted_nullable _)) ((hget _).trans (sorted_nullable _))
    (by rw [hget, hvalue]; rfl) (by rw [hget, hvalue]; rfl) (by rw [hget, hvalue]; rfl)
  have hmicros : bundle.finalFlatObservedAt.canonical.micros = bundle.finalFlatObservedAt.micros :=
    rfl
  rw [hmicros] at hvalid
  refine Iff.trans (@accepted_iff_valid iso m bundle h (some g) f t ?_ ?_ ?_) ?_
  · rw [hvalue, PaperDemo.optionalText, htrip.grossText]
    rfl
  · rw [hvalue]
    exact htrip.feesWritten.optionalText
  · rw [hvalue]
    exact htrip.netWritten.optionalText
  · rw [houtcome]
    have hclass : bundle.pnl.classification = .paperRealizedPnl := by rw [hvalue]
    rw [hclass]
    exact hvalid

theorem classifyPnl_ok {outcome : PaperLifecycleOutcome} {openOrder : Json}
    {closeOrder : Option Json} {quantity : Int} {pnl : PaperPnlObservation}
    (h : classifyPnl iso outcome openOrder closeOrder quantity = .ok pnl) :
    economicsOf iso outcome openOrder closeOrder quantity = .ok pnl ∨
      ∃ reason, pnl = unavailable reason ∧
        economicsOf iso outcome openOrder closeOrder quantity = .error (.value reason) := by
  rw [classifyPnl] at h
  cases heconomics : economicsOf iso outcome openOrder closeOrder quantity with
  | ok pnl' =>
    rw [heconomics] at h
    cases h
    exact .inl rfl
  | error e =>
    rw [heconomics] at h
    cases e with
    | value reason =>
      cases h
      exact .inr ⟨reason, rfl, rfl⟩
    | overflow => cases h

theorem economicsOf_canceled {openOrder : Json} {closeOrder : Option Json} {quantity : Int}
    {pnl : PaperPnlObservation}
    (h : economicsOf iso .canceledFlat openOrder closeOrder quantity = .ok pnl) :
    ∃ openQty, classifyCanceled openOrder openQty = .ok pnl := by
  rw [economicsOf, except_bind_eq_ok] at h
  obtain ⟨openQty, -, hcanceled⟩ := h
  exact ⟨openQty, hcanceled⟩

theorem economicsOf_closed {openOrder closeOrder : Json} {quantity : Int}
    {pnl : PaperPnlObservation}
    (h : economicsOf iso .closedFlat openOrder (some closeOrder) quantity = .ok pnl) :
    ∃ openQty, classifyClosed iso openOrder closeOrder openQty quantity = .ok pnl := by
  rw [economicsOf, except_bind_eq_ok] at h
  obtain ⟨openQty, -, hclosed⟩ := h
  exact ⟨openQty, hclosed⟩

/-- A plan that is validated for a manifest names what the manifest names. -/
theorem validatePlan_ok {plan : PaperDemoPlan} {observedAt : DateTime}
    (h : validatePlan m plan observedAt = .ok ()) : plan.openPermit.eventRunId = m.eventRunId ∧
      plan.openPermit.permitId = m.openPermitId ∧ plan.closePermit.permitId = m.closePermitId := by
  simp only [validatePlan, except_bind_eq_ok, throwIf_eq_ok, not_or, not_not] at h
  obtain ⟨-, hevent, -, hopen, -, hclose, -⟩ := h
  exact ⟨hevent.1, hopen, hclose⟩

/-- The receipt of a run of the manifest's plan is accepted unless the broker dates the closing fill
after the clock's last reading. -/
theorem accepted_iff {σ : Type} {answer : (op : paperSig.Op) → σ → paperSig.Res op × σ} {s s' : σ}
    (plan : PaperDemoPlan) (observedAt : DateTime) (hplan : validatePlan m plan observedAt = .ok ())
    (hrun : run answer (runPaperDemo iso plan.prepared plan.openPermit plan.closePermit m.approval)
      s = (.ok bundle, s')) :
    Accepted iso m bundle ↔ ¬ ClosedLate iso plan.openPermit.quantity
      (trace answer (runPaperDemo iso plan.prepared plan.openPermit plan.closePermit m.approval)
        s) := by
  obtain ⟨hevent, hopen, hclose⟩ := validatePlan_ok hplan
  have hreturned := ran_runPaperDemo (ran_of_run hrun)
  have hbundle : BundleOf m bundle :=
    { eventRunId := hreturned.eventRunId.trans hevent
      openPermitId := hreturned.openPermitId.trans hopen
      closePermitId := hreturned.closePermitId.trans hclose
      capability := hreturned.capability
      openRequest := hreturned.openRequest
      openOrder := hreturned.openOrder
      closed := hreturned.closed
      flatAt := hreturned.flatAt }
  obtain ⟨before, openId, openOrder, reading, hflat, htold⟩ := hreturned.told
  rcases htold with ⟨houtcome, htr, hpnl⟩ | ⟨houtcome, closeId, closeOrder, htr, hpnl⟩
  · rw [htr]
    refine ⟨fun _ => not_closedLate_canceled, fun _ => ?_⟩
    rcases classifyPnl_ok hpnl with heconomics | ⟨reason, hunavailable, -⟩
    · obtain ⟨openQty, hcanceled⟩ := economicsOf_canceled heconomics
      exact accepted_canceled hbundle houtcome hcanceled
    · exact accepted_unavailable hbundle hunavailable
  · rw [htr, closedLate_closed]
    rcases classifyPnl_ok hpnl with heconomics | ⟨reason, hunavailable, herror⟩
    · obtain ⟨openQty, hclosed⟩ := economicsOf_closed heconomics
      obtain ⟨gross, fees, net, g, f, t, openedAt, closedAt, htrip⟩ := classifyClosed_ok hclosed
      have hclosedAt : bundle.pnl.closeFilledAt = some closedAt := by rw [htrip.value]
      rw [accepted_closed hbundle houtcome htrip, hflat]
      constructor
      · rintro hnot ⟨pnl, closedAt', heconomics', hclosedAt', hlate⟩
        rw [heconomics] at heconomics'
        cases heconomics'
        rw [hclosedAt] at hclosedAt'
        cases hclosedAt'
        exact hnot hlate
      · exact fun hnot hlate => hnot ⟨bundle.pnl, closedAt, heconomics, hclosedAt, hlate⟩
    · refine ⟨fun _ => ?_, fun _ => accepted_unavailable hbundle hunavailable⟩
      rintro ⟨pnl, closedAt, heconomics, -⟩
      rw [herror] at heconomics
      cases heconomics

def demoManifest : ScheduledEventManifest where
  eventRunId := demoPermit.eventRunId
  openPermitId := demoPermit.permitId
  closePermitId := demoClosePermit.permitId
  capabilitySha256 := digestA
  approvedAt := .utc 1000
  notBefore := .utc 1000
  expiresAt := .utc 2000
  manifestSha256 := digestA
  capability := isLowerHex_digestA
  window := by decide

def demoPlan : PaperDemoPlan := ⟨⟨digestA⟩, demoPermit, demoClosePermit⟩

theorem validatePlan_demo : validatePlan demoManifest demoPlan (.utc 1200) = .ok () := by
  have hopen : (buildOpenOrderCall demoPermit).mapError (fun _ => PlanError.other) =
      .ok demoOpenCall := by
    rw [buildOpenOrderCall_demo]
    rfl
  have hclose : (buildCloseOrderCall demoPermit demoClosePermit).mapError
      (fun _ => PlanError.other) = .ok demoCloseCall := by
    rw [buildCloseOrderCall_demo]
    rfl
  have hat : demoPlan.validateAt (.utc 1200) = .ok () := by
    simp only [PaperDemoPlan.validateAt, except_bind_eq_ok, throwIf_eq_ok, not_not]
    exact ⟨(), rfl, (), by decide, (), by decide, _, hopen, _, hclose, rfl⟩
  simp only [validatePlan, permitActive, except_bind_eq_ok, throwIf_eq_ok, not_or, not_not]
  exact ⟨(), ⟨rfl, rfl⟩, (), rfl, (), rfl, (), rfl, (), ⟨(), by decide, by decide⟩, (),
    ⟨(), by decide, by decide⟩, hat⟩

/-- A run whose closing order is filled before the event is seen flat. -/
theorem accepted_iff_demo : ∃ s', run (demoAnswer (.utc 1150)) (demoRequest.run IsoReader.plain)
      ⟨fun _ => false, []⟩ = (.ok (demoBundle (.utc 1150)), s') ∧
    (Accepted IsoReader.plain demoManifest (demoBundle (.utc 1150)) ↔
      ¬ ClosedLate IsoReader.plain demoPermit.quantity (trace (demoAnswer (.utc 1150))
        (demoRequest.run IsoReader.plain) ⟨fun _ => false, []⟩)) := by
  have hcloses : ClosesAt (.utc 1150) := ⟨by decide, rfl, rfl, by decide⟩
  obtain ⟨s', hrun⟩ := yields_demo hcloses ⟨fun _ => false, []⟩
  exact ⟨s', hrun, accepted_iff demoPlan (.utc 1200) validatePlan_demo hrun⟩

/-- The clock reads 1200 when the event is flat, and the broker dates the closing fill to 1300. -/
theorem receipt_refused : validatePlan demoManifest demoPlan (.utc 1200) = .ok () ∧
    ∃ s', run (demoAnswer (.utc 1300)) (runPaperDemo IsoReader.plain demoPlan.prepared
        demoPlan.openPermit demoPlan.closePermit demoManifest.approval) ⟨fun _ => false, []⟩ =
          (.ok (demoBundle (.utc 1300)), s') ∧
      ¬ Accepted IsoReader.plain demoManifest (demoBundle (.utc 1300)) := by
  have hcloses : ClosesAt (.utc 1300) := ⟨by decide, rfl, rfl, by decide⟩
  obtain ⟨s', hrun⟩ := yields_demo hcloses ⟨fun _ => false, []⟩
  have hreturned := ran_runPaperDemo (ran_of_run hrun)
  have hbundle : BundleOf demoManifest (demoBundle (.utc 1300)) :=
    { eventRunId := rfl
      openPermitId := rfl
      closePermitId := rfl
      capability := rfl
      openRequest := hreturned.openRequest
      openOrder := hreturned.openOrder
      closed := hreturned.closed
      flatAt := hreturned.flatAt }
  obtain ⟨openQty, hclosed⟩ := economicsOf_closed (economicsOf_demo hcloses)
  obtain ⟨gross, fees, net, g, f, t, openedAt, closedAt, htrip⟩ := classifyClosed_ok hclosed
  have hclosedAt : some (DateTime.utc 1300) = some closedAt := congrArg (·.closeFilledAt) htrip.value
  refine ⟨validatePlan_demo, s', hrun, ?_⟩
  rw [accepted_closed hbundle rfl htrip, not_not, ← Option.some.inj hclosedAt]
  decide

end Accepted

end EsscherMarket.Scheduled
