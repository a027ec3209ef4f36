import EsscherMarket.Lifecycle.StoredRequests
import EsscherMarket.Lifecycle.WireTruth
import EsscherMarket.PaperDemo.Broker

/-!
# How many contracts an order call asks for

The broker trades `qty` packages of `ratio_qty` contracts of each leg.  `build_open_order_call` puts
the quantity of the permit into `qty` and the ratio of a leg, which is one, into `ratio_qty`;
`build_lifecycle_order_call` puts the quantity of the legs into both.
-/

namespace EsscherMarket.PaperDemo

open Lib Execution Lifecycle Risk

/-! ### The contracts of an order call -/

/-- `qty` as the broker reads it. -/
def wireQuantity (v : Json) : Option Int := do
  let qty ← decimalOf (v.get "qty")
  if qty.isFinite ∧ qty.toRat.den = 1 then some qty.toRat.num else none

/-- The contracts of each leg: the packages times the ratio. -/
def wireContracts (v : Json) : Option (List Int) := do
  let qty ← wireQuantity v
  let legs ← wireLegs v
  return legs.map fun leg => qty * leg.quantity

def permitLegs (p : DebitVerticalPermit) : List BrokerOptionLeg :=
  [p.longLeg, p.shortLeg].map fun leg =>
    ⟨leg.symbol, leg.ratioQty, leg.side.value, leg.positionIntent.value⟩

section OrderArguments

variable {clientOrderId : String} {limitPrice : Decimal} {quantity : Int}
  {legs : List BrokerOptionLeg}

theorem wireQuantity_orderArguments :
    wireQuantity (orderArguments clientOrderId limitPrice quantity legs) = some quantity := by
  have hget : (orderArguments clientOrderId limitPrice quantity legs).get "qty" =
      .str (toString quantity) := rfl
  have hfinite : (Decimal.ofInt quantity).isFinite = true := rfl
  rw [wireQuantity, hget, decimalOf_str, Decimal.parse_toString]
  simp only [Option.bind_eq_bind, Option.bind_some, hfinite, Decimal.toRat_ofInt, Rat.den_intCast,
    and_self, if_true, Rat.num_intCast]

theorem wireLegs_orderArguments :
    wireLegs (orderArguments clientOrderId limitPrice quantity legs) = some legs := by
  have hget : (orderArguments clientOrderId limitPrice quantity legs).get "legs" =
      .arr (legs.map BrokerOptionLeg.encoded) := rfl
  rw [wireLegs, hget]
  show (legs.map BrokerOptionLeg.encoded).mapM wireLeg = some legs
  induction legs with
  | nil => rfl
  | cons leg rest ih =>
    rw [List.map_cons, List.mapM_cons, wireLeg_encoded, ih rfl]
    rfl

/-- An order call asks for the packages times the ratio of each leg. -/
theorem wireContracts_orderArguments :
    wireContracts (orderArguments clientOrderId limitPrice quantity legs) =
      some (legs.map fun leg => quantity * leg.quantity) := by
  rw [wireContracts, wireQuantity_orderArguments, wireLegs_orderArguments]
  rfl

/-- Legs that pass the checks are encoded with their common quantity on the package too. -/
theorem buildLifecycleOrderCall_eq (hid : strip clientOrderId ≠ "") (hprice : limitPrice.isFinite)
    (hne : legs ≠ []) (hlegs : ∀ leg ∈ legs, leg.malformed = false ∧ leg.quantity = quantity) :
    buildLifecycleOrderCall clientOrderId limitPrice legs =
      .ok (orderArguments clientOrderId limitPrice quantity legs) := by
  cases legs with
  | nil => exact absurd rfl hne
  | cons first rest =>
    have hfirst := (hlegs first List.mem_cons_self).2
    have hcheck : checkLegs (first :: rest) = .ok () := by
      have hnone : (first :: rest).findIdx? BrokerOptionLeg.malformed = none :=
        List.findIdx?_eq_none_iff.mpr fun leg hleg => (hlegs leg hleg).1
      rw [checkLegs, hnone]
    have hequal : rest.all (fun leg => decide (leg.quantity = first.quantity)) = true := by
      rw [List.all_eq_true]
      intro leg hleg
      rw [decide_eq_true_eq, hfirst]
      exact (hlegs leg (List.mem_cons_of_mem first hleg)).2
    simp only [buildLifecycleOrderCall, except_bind_eq_ok, throwIf_eq_ok]
    exact ⟨(), hid, (), not_not.mpr hprice, (), hcheck, (), not_not.mpr hequal, by rw [hfirst]; rfl⟩

end OrderArguments

/-! ### The quantity on the wire -/

/-- The call that an opening of a permit with these legs, this price and this client order id
sends. -/
def EncodesAsOpen (clientOrderId : String) (limitPrice : Decimal) (legs : List BrokerOptionLeg)
    (arguments : Json) : Prop :=
  ∀ p call, buildOpenOrderCall p = .ok call → permitLegs p = legs → p.limitPrice = limitPrice →
    call.clientOrderId = clientOrderId → call.arguments = arguments

/-- An opening of single contracts is encoded alike. -/
theorem encodesAsOpen_orderArguments (clientOrderId : String) (limitPrice : Decimal)
    (legs : List BrokerOptionLeg) :
    EncodesAsOpen clientOrderId limitPrice legs (orderArguments clientOrderId limitPrice 1 legs) := by
  rintro p call hcall rfl rfl hid
  simp only [buildOpenOrderCall, except_bind_eq_ok] at hcall
  obtain ⟨-, -, hcall⟩ := hcall
  rw [← except_pure_eq_ok.mp hcall] at hid ⊢
  have hquantity : p.quantity = 1 := p.quantity_eq_one
  show orderArguments _ p.limitPrice p.quantity (permitLegs p) = _
  rw [hquantity, ← hid]
  rfl

def doubleLegs (quantity : Int) : List BrokerOptionLeg :=
  [⟨"SPY260918C00600000", quantity, "buy", "buy_to_open"⟩,
    ⟨"SPY260918C00605000", quantity, "sell", "sell_to_open"⟩]

section Orders

open MonitoredPaperLifecycle

/-- The contracts of a symbol that legs buy, less those that they sell. -/
def legsPosition (legs : List BrokerOptionLeg) (symbol : String) : Int :=
  ((legs.filter fun leg => leg.symbol = symbol).map fun leg =>
    if leg.side = "buy" then leg.quantity else -leg.quantity).sum

/-- What an order call makes of a flat account. -/
def wirePosition (arguments : Json) (symbol : String) : Option Int := do
  let qty ← wireQuantity arguments
  let legs ← wireLegs arguments
  return qty * legsPosition legs symbol

theorem formed_leg (p : DebitVerticalPermit) (leg : OptionLeg) (side : OptionSide)
    (intent : PositionIntent) :
    (⟨leg.symbol, p.quantity * leg.ratioQty, side.value, intent.value⟩ :
      BrokerOptionLeg).malformed = false ∧ p.quantity * leg.ratioQty = 1 := by
  obtain ⟨hquantity, hsymbol, hside, hintent⟩ := @legTexts_of p leg side intent
  have hratio : leg.ratioQty = 1 := by
    have hleg := leg.accepted
    simp only [OptionLegFields.check, Bool.and_eq_true, beq_iff_eq] at hleg
    exact hleg.1.1.1.2
  refine ⟨?_, by rw [p.quantity_eq_one, hratio]; rfl⟩
  simp only [BrokerOptionLeg.malformed, Bool.or_eq_false_iff, decide_eq_false_iff_not, not_le,
    beq_eq_false_iff_ne]
  exact ⟨⟨⟨strip_ne_empty_of_isExactText hsymbol, hquantity⟩, strip_ne_empty_of_isExactText hside⟩,
    strip_ne_empty_of_isExactText hintent⟩

theorem strip_clientOrderId (w : MonitoredPaperLifecycle) (phase : IntentPhase) (permitId : String)
    (p : DebitVerticalPermit) (correlation : CorrelationIdentity) (limitPrice : Decimal)
    (legs : List BrokerOptionLeg) :
    strip (w.request phase permitId p correlation limitPrice legs).clientOrderId ≠ "" := by
  have hid : (w.request phase permitId p correlation limitPrice legs).clientOrderId =
      phaseLower phase ++ "-" ++ permitId ++ "-" ++
        String.ofList ((correlationSha256 correlation).toList.take 16) := rfl
  rw [hid]
  apply strip_ne_empty_of_mem (c := '-')
  · simp only [String.toList_append, List.mem_append]
    exact .inl (.inr (List.mem_singleton_self _))
  · decide

/-- An order of a worker is encoded, and makes the position of its legs. -/
theorem wirePosition_request {w : MonitoredPaperLifecycle} {phase : IntentPhase} {permitId : String}
    {p : DebitVerticalPermit} {correlation : CorrelationIdentity} {limitPrice : Decimal}
    {legs : List BrokerOptionLeg} (hprice : limitPrice.isFinite) (hne : legs ≠ [])
    (hlegs : ∀ leg ∈ legs, leg.malformed = false ∧ leg.quantity = 1) :
    let r := w.request phase permitId p correlation limitPrice legs
    ∃ arguments, buildLifecycleOrderCall r.clientOrderId r.limitPrice r.legs = .ok arguments ∧
      ∀ symbol, wirePosition arguments symbol = some (legsPosition legs symbol) := by
  refine ⟨_, buildLifecycleOrderCall_eq (strip_clientOrderId w phase permitId p correlation
    limitPrice legs) hprice hne hlegs, fun symbol => ?_⟩
  rw [wirePosition, wireQuantity_orderArguments, wireLegs_orderArguments]
  show some (1 * legsPosition legs symbol) = _
  rw [one_mul]

end Orders

end EsscherMarket.PaperDemo
