import EsscherMarket.Lib.DecimalSignals
import EsscherMarket.PaperDemo.Run

/-!
# When the economics of a run are classified

`_classify_pnl` catches `ValueError` and `InvalidOperation`.  The arithmetic on the prices and the
fees can also raise `decimal.Overflow`, which is neither.
-/

namespace EsscherMarket.PaperDemo

open Lib Execution

/-! ### Rounded results -/

def rounded (d : Decimal) : Decimal := d.bound.getD d

def creditOf (closePrice : Decimal) : Decimal := rounded closePrice.copyNegate

def perShareOf (openPrice closePrice : Decimal) : Decimal :=
  rounded ((creditOf closePrice).sum openPrice.copyNegate)

def perContractOf (openPrice closePrice : Decimal) : Decimal :=
  rounded ((perShareOf openPrice closePrice).mul (.ofNat 100))

def grossPnl (openPrice closePrice : Decimal) (quantity : Int) : Decimal :=
  rounded ((perContractOf openPrice closePrice).mul (.ofInt quantity))

def feeTotal : Decimal → List Decimal → Decimal
  | total, [] => total
  | total, fee :: rest => feeTotal (rounded (total.sum fee)) rest

/-! ### The range of the context -/

/-- The gain of one contract, and that of all of them, can be computed. -/
structure GrossInRange (openPrice closePrice : Decimal) (quantity : Int) : Prop where
  credit : |closePrice.toRat| < Decimal.overflowLimit
  perShare : |(creditOf closePrice).toRat - openPrice.toRat| < Decimal.overflowLimit
  perContract : |(perShareOf openPrice closePrice).toRat * 100| < Decimal.overflowLimit
  package : |(perContractOf openPrice closePrice).toRat * quantity| < Decimal.overflowLimit

/-- No partial sum of the fees is too large. -/
def FeesInRange : Decimal → List Decimal → Prop
  | _, [] => True
  | total, fee :: rest => |total.toRat + fee.toRat| < Decimal.overflowLimit ∧
      FeesInRange (rounded (total.sum fee)) rest

def FilledAt (iso : IsoReader) (openOrder closeOrder : Json) (quantity : Int)
    (openPrice closePrice : Decimal) : Prop :=
  ∃ openQty closeQty openFilledAt closeFilledAt,
    finiteDecimal (openOrder.get "filled_qty") "opening filled quantity" = .ok openQty ∧
    finiteDecimal (closeOrder.get "filled_qty") "closing filled quantity" = .ok closeQty ∧
    openQty.toRat = quantity ∧ closeQty.toRat = quantity ∧
    finiteDecimal (openOrder.get "filled_avg_price") "opening filled average price" =
      .ok openPrice ∧
    finiteDecimal (closeOrder.get "filled_avg_price") "closing filled average price" =
      .ok closePrice ∧
    0 < openPrice.toRat ∧ closePrice.toRat < 0 ∧
    awareDatetime iso (openOrder.get "filled_at") "opening filled_at" = .ok openFilledAt ∧
    awareDatetime iso (closeOrder.get "filled_at") "closing filled_at" = .ok closeFilledAt ∧
    openFilledAt.micros ≤ closeFilledAt.micros

/-- The amounts of the orders are in the range of the context: the fees of a canceled order, or the
prices and the fees of a closed one. -/
def AmountsInRange (iso : IsoReader) (openOrder : Json) (quantity : Int) :
    PaperLifecycleOutcome → Option Json → Prop
  | .canceledFlat, _ => ∀ openQty fees,
    finiteDecimal (openOrder.get "filled_qty") "opening filled quantity" = .ok openQty →
      openQty.toRat = 0 → feesOf [openOrder] = .ok (some fees) → FeesInRange (.ofNat 0) fees
  | .closedFlat, none => True
  | .closedFlat, some closeOrder => ∀ openPrice closePrice,
    FilledAt iso openOrder closeOrder quantity openPrice closePrice →
      GrossInRange openPrice closePrice quantity ∧
      ∀ fees, feesOf [openOrder, closeOrder] = .ok (some fees) →
        FeesInRange (.ofNat 0) fees ∧
        |(grossPnl openPrice closePrice quantity).toRat - (feeTotal (.ofNat 0) fees).toRat| <
          Decimal.overflowLimit

/-! ### Steps that do not overflow -/

section Lands

variable {α β : Type}

def Lands (x : Except PnlError α) : Prop := x ≠ .error .overflow

theorem lands_ok {a : α} : Lands (.ok a) := by
  intro h
  cases h

theorem lands_value {reason : String} : Lands (.error (.value reason) : Except PnlError α) := by
  intro h
  cases h

theorem lands_throwIf {c : Prop} [Decidable c] {reason : String} :
    Lands (throwIf c (.value reason)) := by
  by_cases h : c
  · simpa [throwIf, h] using lands_value
  · simpa [throwIf, h] using lands_ok

theorem lands_bind {x : Except PnlError α} {f : α → Except PnlError β} :
    Lands (x >>= f) ↔ Lands x ∧ ∀ a, x = .ok a → Lands (f a) := by
  cases x with
  | ok a => simp [Lands, Bind.bind, Except.bind]
  | error e => simp [Lands, Bind.bind, Except.bind]

theorem lands_map {x : Except PnlError α} {f : α → β} : Lands (x.map f) ↔ Lands x := by
  cases x <;> simp [Lands, Except.map]

theorem lands_finiteDecimal {v : Json} {field : String} : Lands (finiteDecimal v field) := by
  intro h
  unfold finiteDecimal at h
  generalize Risk.decimalOf v = o at h
  cases v with
  | null | bool _ | arr _ | obj _ => cases h
  | int _ | real _ | str _ =>
    cases o with
    | none => cases h
    | some d => cases d <;> cases h

theorem lands_awareDatetime {iso : IsoReader} {v : Json} {field : String} :
    Lands (awareDatetime iso v field) := by
  intro h
  unfold awareDatetime at h
  split at h
  · split at h
    · cases h
    · split at h <;> cases h
  · cases h

theorem lands_decimalText {d : Decimal} : Lands (decimalText d) := by
  intro h
  unfold decimalText at h
  split at h
  · split at h
    · cases h
    · split at h <;> cases h
  · cases h

theorem lands_optionalText {d : Option Decimal} : Lands (optionalText d) := by
  cases d with
  | none => exact lands_ok
  | some d => exact lands_map.mpr lands_decimalText

theorem lands_feesOf {orders : List Json} : Lands (feesOf orders) := by
  induction orders with
  | nil => exact lands_ok
  | cons order rest ih =>
    unfold feesOf
    cases order.field? "fees" with
    | none => exact lands_ok
    | some value =>
      refine lands_bind.mpr ⟨lands_finiteDecimal, fun fee _ => ?_⟩
      refine lands_bind.mpr ⟨lands_throwIf, fun _ _ => ?_⟩
      exact lands_bind.mpr ⟨ih, fun _ _ => lands_ok⟩

/-- An operation is done exactly if its result is in range, and yields it rounded. -/
theorem contextual_eq_ok {d r : Decimal} (hd : d.isFinite) : contextual d = .ok r ↔
    |d.toRat| < Decimal.overflowLimit ∧ r = rounded d := by
  have hrange := Decimal.bound_eq_none_iff hd
  unfold contextual rounded
  cases hbound : d.bound with
  | none =>
    have hbeyond := hrange.mp hbound
    simp only [reduceCtorEq, false_iff, not_and]
    intro hlt
    exact absurd hbeyond (not_le.mpr hlt)
  | some r' =>
    have hlt : |d.toRat| < Decimal.overflowLimit := by
      rw [← not_le, ← hrange, hbound]
      simp
    simp only [Except.ok.injEq, Option.getD_some, hlt, true_and]
    exact eq_comm

theorem lands_contextual {d : Decimal} (hd : d.isFinite) :
    Lands (contextual d) ↔ |d.toRat| < Decimal.overflowLimit := by
  rw [← not_le, ← Decimal.bound_eq_none_iff hd]
  unfold Lands contextual
  cases d.bound <;> simp

theorem lands_contextual_bind {d : Decimal} {f : Decimal → Except PnlError β} (hd : d.isFinite) :
    Lands (contextual d >>= f) ↔
      |d.toRat| < Decimal.overflowLimit ∧ Lands (f (rounded d)) := by
  rw [lands_bind, lands_contextual hd]
  constructor
  · rintro ⟨hlt, hrest⟩
    exact ⟨hlt, hrest _ ((contextual_eq_ok hd).mpr ⟨hlt, rfl⟩)⟩
  · rintro ⟨hlt, hrest⟩
    refine ⟨hlt, fun a ha => ?_⟩
    rw [((contextual_eq_ok hd).mp ha).2]
    exact hrest

end Lands

/-! ### The parts of the economics -/

section Parts

variable {openPrice closePrice : Decimal} {quantity : Int}

theorem isFinite_rounded {d : Decimal} (hd : d.isFinite) : (rounded d).isFinite = true := by
  unfold rounded
  cases h : d.bound with
  | none => exact hd
  | some r => exact Decimal.isFinite_bound hd h

theorem lands_grossOf (hopen : openPrice.isFinite) (hclose : closePrice.isFinite) :
    Lands (grossOf openPrice closePrice (.ofInt quantity)) ↔
      GrossInRange openPrice closePrice quantity := by
  have hcredit : (creditOf closePrice).isFinite = true :=
    isFinite_rounded (Decimal.isFinite_copyNegate hclose)
  have hspread : ((creditOf closePrice).sum openPrice.copyNegate).isFinite = true :=
    Decimal.isFinite_sum hcredit (Decimal.isFinite_copyNegate hopen)
  have hshare : (perShareOf openPrice closePrice).isFinite = true := isFinite_rounded hspread
  have hproduct : ((perShareOf openPrice closePrice).mul (.ofNat 100)).isFinite = true :=
    Decimal.isFinite_mul hshare rfl
  have hcontract : (perContractOf openPrice closePrice).isFinite = true := isFinite_rounded hproduct
  have hpackage : ((perContractOf openPrice closePrice).mul (.ofInt quantity)).isFinite = true :=
    Decimal.isFinite_mul hcontract rfl
  unfold grossOf
  rw [lands_contextual_bind (Decimal.isFinite_copyNegate hclose), ← creditOf,
    lands_contextual_bind hspread, ← perShareOf, lands_contextual_bind hproduct, ← perContractOf,
    lands_contextual hpackage, Decimal.toRat_copyNegate, abs_neg,
    Decimal.toRat_sum hcredit (Decimal.isFinite_copyNegate hopen), Decimal.toRat_copyNegate,
    ← sub_eq_add_neg, Decimal.toRat_mul hshare rfl, Decimal.toRat_ofNat,
    Decimal.toRat_mul hcontract rfl, Decimal.toRat_ofInt]
  exact ⟨fun h => ⟨h.1, h.2.1, h.2.2.1, h.2.2.2⟩,
    fun h => ⟨h.credit, h.perShare, h.perContract, h.package⟩⟩

theorem isFinite_grossPnl (hopen : openPrice.isFinite) (hclose : closePrice.isFinite) :
    (grossPnl openPrice closePrice quantity).isFinite = true := by
  have hsum := Decimal.isFinite_sum (isFinite_rounded (Decimal.isFinite_copyNegate hclose))
    (Decimal.isFinite_copyNegate hopen)
  have hmul := Decimal.isFinite_mul (isFinite_rounded hsum) (y := .ofNat 100) rfl
  exact isFinite_rounded (Decimal.isFinite_mul (isFinite_rounded hmul) rfl)

theorem grossOf_of_inRange (hopen : openPrice.isFinite) (hclose : closePrice.isFinite)
    (h : GrossInRange openPrice closePrice quantity) :
    grossOf openPrice closePrice (.ofInt quantity) =
      .ok (grossPnl openPrice closePrice quantity) := by
  have hopen' := Decimal.isFinite_copyNegate hopen
  have hclose' := Decimal.isFinite_copyNegate hclose
  have hcredit := isFinite_rounded hclose'
  have hsum := Decimal.isFinite_sum hcredit hopen'
  have hshare := isFinite_rounded hsum
  have hmul := Decimal.isFinite_mul hshare (y := .ofNat 100) rfl
  have hcontract := isFinite_rounded hmul
  have htotal := Decimal.isFinite_mul hcontract (y := .ofInt quantity) rfl
  simp only [grossOf, except_bind_eq_ok]
  refine ⟨_, (contextual_eq_ok hclose').mpr ⟨?_, rfl⟩, _, (contextual_eq_ok hsum).mpr ⟨?_, rfl⟩,
    _, (contextual_eq_ok hmul).mpr ⟨?_, rfl⟩, (contextual_eq_ok htotal).mpr ⟨?_, rfl⟩⟩
  · rw [Decimal.toRat_copyNegate, abs_neg]
    exact h.credit
  · rw [Decimal.toRat_sum hcredit hopen', Decimal.toRat_copyNegate, ← sub_eq_add_neg]
    exact h.perShare
  · rw [Decimal.toRat_mul hshare rfl, Decimal.toRat_ofNat]
    exact h.perContract
  · rw [Decimal.toRat_mul hcontract rfl, Decimal.toRat_ofInt]
    exact h.package

theorem isFinite_finiteDecimal {v : Json} {field : String} {d : Decimal}
    (h : finiteDecimal v field = .ok d) : d.isFinite = true := by
  unfold finiteDecimal at h
  generalize Risk.decimalOf v = o at h
  cases v with
  | null | bool _ | arr _ | obj _ => cases h
  | int _ | real _ | str _ =>
    cases o with
    | none => cases h
    | some d =>
      cases d <;> cases h
      rfl

theorem isFinite_feesOf {orders : List Json} {fees : List Decimal}
    (h : feesOf orders = .ok (some fees)) : ∀ fee ∈ fees, fee.isFinite = true := by
  induction orders generalizing fees with
  | nil =>
    cases h
    intro fee hfee
    cases hfee
  | cons order rest ih =>
    unfold feesOf at h
    cases hvalue : order.field? "fees" with
    | none =>
      rw [hvalue] at h
      cases h
    | some value =>
      rw [hvalue] at h
      simp only [except_bind_eq_ok, except_pure_eq_ok] at h
      obtain ⟨fee, hfee, -, -, others, hothers, hfees⟩ := h
      obtain ⟨others, rfl, rfl⟩ := Option.map_eq_some_iff.mp hfees
      intro x hx
      rcases List.mem_cons.mp hx with rfl | hx
      · exact isFinite_finiteDecimal hfee
      · exact ih hothers x hx

theorem lands_sumOf {total : Decimal} {fees : List Decimal} (htotal : total.isFinite)
    (hfees : ∀ fee ∈ fees, fee.isFinite = true) :
    Lands (sumOf total fees) ↔ FeesInRange total fees := by
  induction fees generalizing total with
  | nil => exact iff_of_true lands_ok trivial
  | cons fee rest ih =>
    have hfee := hfees fee List.mem_cons_self
    have hsum := Decimal.isFinite_sum htotal hfee
    rw [sumOf, lands_contextual_bind hsum, Decimal.toRat_sum htotal hfee,
      ih (isFinite_rounded hsum) fun x hx => hfees x (List.mem_cons_of_mem fee hx)]
    rfl

theorem isFinite_feeTotal {total : Decimal} {fees : List Decimal} (htotal : total.isFinite)
    (hfees : ∀ fee ∈ fees, fee.isFinite = true) : (feeTotal total fees).isFinite = true := by
  induction fees generalizing total with
  | nil => exact htotal
  | cons fee rest ih =>
    have hsum := Decimal.isFinite_sum htotal (hfees fee List.mem_cons_self)
    exact ih (isFinite_rounded hsum) fun x hx => hfees x (List.mem_cons_of_mem fee hx)

theorem sumOf_of_inRange {total : Decimal} {fees : List Decimal} (htotal : total.isFinite)
    (hfees : ∀ fee ∈ fees, fee.isFinite = true) (h : FeesInRange total fees) :
    sumOf total fees = .ok (feeTotal total fees) := by
  induction fees generalizing total with
  | nil => rfl
  | cons fee rest ih =>
    have hfee := hfees fee List.mem_cons_self
    have hsum := Decimal.isFinite_sum htotal hfee
    refine except_bind_eq_ok.mpr ⟨_, (contextual_eq_ok hsum).mpr ⟨?_, rfl⟩, ?_⟩
    · rw [Decimal.toRat_sum htotal hfee]
      exact h.1
    · exact ih (isFinite_rounded hsum) (fun x hx => hfees x (List.mem_cons_of_mem fee hx)) h.2

theorem lands_brokerFees {orders : List Json} : Lands (brokerFees orders) ↔
    ∀ fees, feesOf orders = .ok (some fees) → FeesInRange (.ofNat 0) fees := by
  unfold brokerFees
  rw [lands_bind, and_iff_right lands_feesOf]
  constructor
  · intro h fees hfees
    exact (lands_sumOf rfl (isFinite_feesOf hfees)).mp (lands_bind.mp (h _ hfees)).1
  · intro h fees? hfees
    cases fees? with
    | none => exact lands_ok
    | some fees =>
      exact lands_bind.mpr ⟨(lands_sumOf rfl (isFinite_feesOf hfees)).mpr (h fees hfees),
        fun _ _ => lands_ok⟩

theorem brokerFees_of_inRange {orders : List Json} {fees : List Decimal}
    (hfees : feesOf orders = .ok (some fees)) (h : FeesInRange (.ofNat 0) fees) :
    brokerFees orders = .ok (some (feeTotal (.ofNat 0) fees)) := by
  have hsum := sumOf_of_inRange rfl (isFinite_feesOf hfees) h
  exact except_bind_eq_ok.mpr ⟨_, hfees, except_bind_eq_ok.mpr ⟨_, hsum, rfl⟩⟩

theorem brokerFees_cases {orders : List Json} {total : Option Decimal}
    (h : brokerFees orders = .ok total) :
    total = none ∨ ∃ fees, feesOf orders = .ok (some fees) ∧
      total = some (feeTotal (.ofNat 0) fees) := by
  obtain ⟨fees?, hfees, hrest⟩ := except_bind_eq_ok.mp h
  cases fees? with
  | none => exact .inl (except_pure_eq_ok.mp hrest).symm
  | some fees =>
    have hlands : Lands (brokerFees orders) := by
      rw [h]
      exact lands_ok
    rw [brokerFees_of_inRange hfees (lands_brokerFees.mp hlands fees hfees)] at h
    exact .inr ⟨fees, hfees, (Except.ok.inj h).symm⟩

end Parts

/-! ### The classification -/

section Classification

variable {iso : IsoReader} {openOrder closeOrder : Json} {quantity : Int} {openQty : Decimal}

theorem lands_classifyCanceled : Lands (classifyCanceled openOrder openQty) ↔
    (openQty.toRat = 0 → ∀ fees, feesOf [openOrder] = .ok (some fees) →
      FeesInRange (.ofNat 0) fees) := by
  unfold classifyCanceled
  rw [lands_bind, and_iff_right lands_throwIf]
  constructor
  · intro h hzero
    have hfees := (lands_bind.mp (h () (throwIf_eq_ok.mpr (not_not.mpr hzero)))).1
    exact lands_brokerFees.mp hfees
  · intro h u hu
    have hfees := lands_brokerFees.mpr (h (not_not.mp (throwIf_eq_ok.mp hu)))
    refine lands_bind.mpr ⟨hfees, fun _ _ => lands_bind.mpr ⟨lands_decimalText, fun _ _ => ?_⟩⟩
    exact lands_bind.mpr ⟨lands_optionalText, fun _ _ => lands_ok⟩

theorem lands_gains {openPrice closePrice : Decimal} {f : Decimal → Option Decimal →
      Option Decimal → Except PnlError PaperPnlObservation}
    (hopen : openPrice.isFinite) (hclose : closePrice.isFinite)
    (hrest : ∀ gross fees net, Lands (f gross fees net)) :
    Lands (do
      let gross ← grossOf openPrice closePrice (.ofInt quantity)
      let fees ← brokerFees [openOrder, closeOrder]
      let net ← netOf gross fees
      f gross fees net) ↔
    GrossInRange openPrice closePrice quantity ∧
      ∀ fees, feesOf [openOrder, closeOrder] = .ok (some fees) →
        FeesInRange (.ofNat 0) fees ∧
        |(grossPnl openPrice closePrice quantity).toRat - (feeTotal (.ofNat 0) fees).toRat| <
          Decimal.overflowLimit := by
  have hnet : ∀ {fees : Decimal}, (grossPnl openPrice closePrice quantity).isFinite = true →
      fees.isFinite = true →
      (Lands (netOf (grossPnl openPrice closePrice quantity) (some fees)) ↔
        |(grossPnl openPrice closePrice quantity).toRat - fees.toRat| < Decimal.overflowLimit) := by
    intro fees hgross hfees
    have hnegated := Decimal.isFinite_copyNegate hfees
    rw [netOf, lands_map, lands_contextual (Decimal.isFinite_sum hgross hnegated),
      Decimal.toRat_sum hgross hnegated, Decimal.toRat_copyNegate, ← sub_eq_add_neg]
  rw [lands_bind, lands_grossOf hopen hclose]
  refine and_congr_right fun hrange => ?_
  have hgross := grossOf_of_inRange hopen hclose hrange
  have hfinite : (grossPnl openPrice closePrice quantity).isFinite = true :=
    isFinite_grossPnl hopen hclose
  constructor
  · intro h fees hfees
    have hlands := lands_bind.mp (h _ hgross)
    have hsums := lands_brokerFees.mp hlands.1 fees hfees
    refine ⟨hsums, ?_⟩
    have hrest := hlands.2 _ (brokerFees_of_inRange hfees hsums)
    exact (hnet hfinite (isFinite_feeTotal rfl (isFinite_feesOf hfees))).mp (lands_bind.mp hrest).1
  · intro h gross hok
    rw [hgross] at hok
    obtain rfl := Except.ok.inj hok
    refine lands_bind.mpr ⟨lands_brokerFees.mpr fun fees hfees => (h fees hfees).1, ?_⟩
    intro total htotal
    refine lands_bind.mpr ⟨?_, fun net _ => hrest _ _ net⟩
    rcases brokerFees_cases htotal with rfl | ⟨fees, hfees, rfl⟩
    · exact lands_ok
    · exact (hnet hfinite (isFinite_feeTotal rfl (isFinite_feesOf hfees))).mpr (h fees hfees).2

/-- A closed order is classified without an overflow exactly if its amounts are in range. -/
theorem lands_classifyClosed
    (hqty : finiteDecimal (openOrder.get "filled_qty") "opening filled quantity" = .ok openQty) :
    Lands (classifyClosed iso openOrder closeOrder openQty quantity) ↔
      AmountsInRange iso openOrder quantity .closedFlat (some closeOrder) := by
  have hgains : ∀ {openPrice closePrice : Decimal} {openFilledAt closeFilledAt : DateTime},
      openPrice.isFinite = true → closePrice.isFinite = true →
      (Lands (do
        let gross ← grossOf openPrice closePrice (.ofInt quantity)
        let fees ← brokerFees [openOrder, closeOrder]
        let net ← netOf gross fees
        let _ ← decimalText gross
        let _ ← optionalText fees
        let _ ← optionalText net
        return (⟨.paperRealizedPnl, some gross, fees, net, some openFilledAt, some closeFilledAt,
          none⟩ : PaperPnlObservation)) ↔ _) := fun {_ _ openFilledAt closeFilledAt} hopen hclose =>
    lands_gains (f := fun gross fees net => do
      let _ ← decimalText gross
      let _ ← optionalText fees
      let _ ← optionalText net
      return (⟨.paperRealizedPnl, some gross, fees, net, some openFilledAt, some closeFilledAt,
        none⟩ : PaperPnlObservation)) hopen hclose fun gross fees net =>
      lands_bind.mpr ⟨lands_decimalText, fun _ _ => lands_bind.mpr ⟨lands_optionalText, fun _ _ =>
        lands_bind.mpr ⟨lands_optionalText, fun _ _ => lands_ok⟩⟩⟩
  unfold classifyClosed
  constructor
  · rintro h openPrice closePrice ⟨openQty', closeQty, openFilledAt, closeFilledAt, hopenQty,
      hcloseQty, hexact, hexact', hopen, hclose, hpos, hneg, hopenAt, hcloseAt, horder⟩
    rw [hqty] at hopenQty
    obtain rfl := Except.ok.inj hopenQty
    have h := (lands_bind.mp h).2 _ hcloseQty
    have h := (lands_bind.mp h).2 () (throwIf_eq_ok.mpr (by tauto))
    have h := (lands_bind.mp h).2 _ hopen
    have h := (lands_bind.mp h).2 _ hclose
    have h := (lands_bind.mp h).2 () (throwIf_eq_ok.mpr (by
      rintro (hle | hle)
      · exact absurd hpos (not_lt.mpr hle)
      · exact absurd hneg (not_lt.mpr hle)))
    have h := (lands_bind.mp h).2 _ hopenAt
    have h := (lands_bind.mp h).2 _ hcloseAt
    have h := (lands_bind.mp h).2 () (throwIf_eq_ok.mpr (not_lt.mpr horder))
    exact (hgains (isFinite_finiteDecimal hopen) (isFinite_finiteDecimal hclose)).mp h
  · intro h
    refine lands_bind.mpr ⟨lands_finiteDecimal, fun closeQty hcloseQty => ?_⟩
    refine lands_bind.mpr ⟨lands_throwIf, fun _ hexact => ?_⟩
    refine lands_bind.mpr ⟨lands_finiteDecimal, fun openPrice hopen => ?_⟩
    refine lands_bind.mpr ⟨lands_finiteDecimal, fun closePrice hclose => ?_⟩
    refine lands_bind.mpr ⟨lands_throwIf, fun _ hsigns => ?_⟩
    refine lands_bind.mpr ⟨lands_awareDatetime, fun openFilledAt hopenAt => ?_⟩
    refine lands_bind.mpr ⟨lands_awareDatetime, fun closeFilledAt hcloseAt => ?_⟩
    refine lands_bind.mpr ⟨lands_throwIf, fun _ horder => ?_⟩
    have hexact := throwIf_eq_ok.mp hexact
    have hsigns := throwIf_eq_ok.mp hsigns
    push Not at hexact hsigns
    refine (hgains (isFinite_finiteDecimal hopen) (isFinite_finiteDecimal hclose)).mpr
      (h openPrice closePrice ?_)
    exact ⟨openQty, closeQty, openFilledAt, closeFilledAt, hqty, hcloseQty, hexact.1, hexact.2,
      hopen, hclose, hsigns.1, hsigns.2, hopenAt, hcloseAt, not_lt.mp (throwIf_eq_ok.mp horder)⟩

theorem lands_economicsOf {outcome : PaperLifecycleOutcome} {closeOrder : Option Json} :
    Lands (economicsOf iso outcome openOrder closeOrder quantity) ↔
      AmountsInRange iso openOrder quantity outcome closeOrder := by
  unfold economicsOf
  rw [lands_bind, and_iff_right lands_finiteDecimal]
  cases outcome with
  | canceledFlat =>
    constructor
    · intro h openQty fees hqty hzero
      exact lands_classifyCanceled.mp (h openQty hqty) hzero fees
    · intro h openQty hqty
      exact lands_classifyCanceled.mpr fun hzero fees => h openQty fees hqty hzero
  | closedFlat =>
    cases closeOrder with
    | none => exact iff_of_true (fun _ _ => lands_value) trivial
    | some closeOrder =>
      constructor
      · intro h openPrice closePrice hfilled
        obtain ⟨openQty, hopenQty⟩ : ∃ openQty, finiteDecimal (openOrder.get "filled_qty")
            "opening filled quantity" = .ok openQty := by
          obtain ⟨openQty, -, -, -, hopenQty, -⟩ := hfilled
          exact ⟨openQty, hopenQty⟩
        exact (lands_classifyClosed hopenQty).mp (h openQty hopenQty) openPrice closePrice hfilled
      · intro h openQty hopenQty
        exact (lands_classifyClosed hopenQty).mpr h

end Classification

def pricedOrder (price : String) : Json :=
  .obj [("filled_qty", .str "1"), ("filled_avg_price", .str price),
    ("filled_at", .str (DateTime.utc 1100).isoformat)]

end EsscherMarket.PaperDemo
