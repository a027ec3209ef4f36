import EsscherMarket.Risk.Ledger.Calls

/-!
# The capacity of the V2 reservation path

What the sums that `reserve_v2_and_issue_permit` accumulates are, and what its four checks mean for
the ledger it commits.
-/

namespace EsscherMarket.Risk

open Lib Execution Txn

/-! ### The V2 amount of an open row -/

def Ledger.v2Amount (s : Ledger) (r : ReservationRow) : ℚ :=
  match (s.v2Binding r).bind (·.amount.value) with
  | some d => d.toRat
  | none => 0

namespace Ledger

def openV2Total (s : Ledger) : ℚ := (s.openReservations.map s.v2Amount).sum

def openV2TotalFor (s : Ledger) (underlying : String) : ℚ :=
  ((s.openReservationsFor underlying).map s.v2Amount).sum

/-- The sum of the V2 amounts of the `RESERVED` rows. -/
def reservedV2Total (s : Ledger) : ℚ :=
  ((s.reservations.filter fun r => r.state = .reserved).map s.v2Amount).sum

end Ledger

theorem v2StoredAmount_ok {cell : AmountText} {path : String} {positive : Bool} {d : Decimal}
    (h : v2StoredAmount cell path positive = .ok d) :
    cell.value = some d ∧ 0 ≤ d.toRat ∧ (positive → 0 < d.toRat) ∧ v2DecimalText d = cell.text := by
  unfold v2StoredAmount at h
  split at h
  · cases h
  · rename_i d' hd'
    simp only [except_bind_eq_ok, amountOf_eq_ok, throwIf_eq_ok, except_pure_eq_ok, not_not] at h
    obtain ⟨_, ⟨⟨-, h0⟩, rfl⟩, _, hpos, _, htext, rfl⟩ := h
    refine ⟨hd', h0, ?_, htext⟩
    intro hp
    exact not_le.mp fun hle => hpos ⟨hp, hle⟩

theorem v2OpenAmount_ok {s : Ledger} {r : ReservationRow} {d : Decimal}
    (h : v2OpenAmount s r = .ok d) : (s.v2Binding r).isSome ∧ d.toRat = s.v2Amount r := by
  unfold v2OpenAmount at h
  split at h
  · cases h
  · rename_i v hv
    simp only [except_bind_eq_ok, throwIf_eq_ok, except_pure_eq_ok, not_not] at h
    obtain ⟨d₁, -, d₂, h₂, _, heq, rfl⟩ := h
    refine ⟨by simp [hv], ?_⟩
    simp only [Ledger.v2Amount, hv, Option.bind_some, (v2StoredAmount_ok h₂).1, heq]

/-! ### The running sums -/

def v2SumWhere (s : Ledger) (p : ReservationRow → Bool) (rows : List ReservationRow) : ℚ :=
  ((rows.filter p).map s.v2Amount).sum

theorem v2SumWhere_cons (s : Ledger) (p : ReservationRow → Bool) (r : ReservationRow)
    (rows : List ReservationRow) :
    v2SumWhere s p (r :: rows) = (if p r then s.v2Amount r else 0) + v2SumWhere s p rows := by
  by_cases h : p r <;> simp [v2SumWhere, h]

/-- The sums that the loop returns, from any start: by state, and by state and underlying. -/
structure V2SumsFrom (s : Ledger) (symbol : String) (t t' : V2Totals)
    (rows : List ReservationRow) : Prop where
  consumed : t'.consumedTotal = t.consumedTotal + v2SumWhere s (fun r => r.state = .consumed) rows
  reserved : t'.reservedTotal = t.reservedTotal + v2SumWhere s (fun r => r.state = .reserved) rows
  consumedFor : t'.consumedUnderlying = t.consumedUnderlying +
    v2SumWhere s (fun r => r.state = .consumed ∧ r.underlying = symbol) rows
  reservedFor : t'.reservedUnderlying = t.reservedUnderlying +
    v2SumWhere s (fun r => r.state = .reserved ∧ r.underlying = symbol) rows

theorem v2Accumulate_ok {s : Ledger} {symbol : String} {t t' : V2Totals}
    {rows : List ReservationRow} (hopen : ∀ r ∈ rows, r.state.isOpen)
    (h : v2Accumulate s symbol t rows = .ok t') :
    (∀ r ∈ rows, (s.v2Binding r).isSome) ∧ V2SumsFrom s symbol t t' rows := by
  induction rows generalizing t with
  | nil =>
    cases h
    exact ⟨by simp, by constructor <;> simp [v2SumWhere]⟩
  | cons r rest ih =>
    simp only [v2Accumulate, except_bind_eq_ok] at h
    obtain ⟨d, hd, h⟩ := h
    obtain ⟨hbound, hamount⟩ := v2OpenAmount_ok hd
    obtain ⟨hrest, hc, hr, hcu, hru⟩ := ih (fun r' hr' => hopen r' (List.mem_cons_of_mem r hr')) h
    refine ⟨?_, ?_⟩
    · intro r' hr'
      rcases List.mem_cons.mp hr' with rfl | hr'
      · exact hbound
      · exact hrest r' hr'
    · have hr_open := hopen r List.mem_cons_self
      rw [hamount] at hc hr hcu hru
      -- an open row is `CONSUMED` or `RESERVED`, and adds to the sums of that state
      cases hst : r.state with
      | released => rw [hst] at hr_open; cases hr_open
      | consumed =>
        simp only [V2Totals.add, hst] at hc hr hcu hru
        constructor <;> simp only [v2SumWhere_cons, *] <;> by_cases hu : r.underlying = symbol <;>
          simp [hu, add_assoc]
      | reserved =>
        simp only [V2Totals.add, hst] at hc hr hcu hru
        constructor <;> simp only [v2SumWhere_cons, *] <;> by_cases hu : r.underlying = symbol <;>
          simp [hu, add_assoc]

theorem v2SumWhere_open (s : Ledger) (q : ReservationRow → Bool) (rows : List ReservationRow)
    (hopen : ∀ r ∈ rows, r.state.isOpen) :
    v2SumWhere s q rows = v2SumWhere s (fun r => r.state = .consumed ∧ q r) rows +
      v2SumWhere s (fun r => r.state = .reserved ∧ q r) rows := by
  induction rows with
  | nil => simp [v2SumWhere]
  | cons r rest ih =>
    have hr := hopen r List.mem_cons_self
    rw [v2SumWhere_cons, v2SumWhere_cons, v2SumWhere_cons,
      ih fun r' hr' => hopen r' (List.mem_cons_of_mem r hr')]
    cases hst : r.state with
    | released => rw [hst] at hr; cases hr
    | consumed =>
      by_cases hq : q r
      · simp [hq]
        ring
      · simp [hq]
    | reserved =>
      by_cases hq : q r
      · simp [hq]
        ring
      · simp [hq]

/-- The sums of the capacity check are the sums of the open V2 amounts: all of them, those of
the underlying, and those still `RESERVED`. -/
theorem v2Totals_spec {s : Ledger} {symbol : String} {t : V2Totals}
    (h : v2Totals s symbol = .ok t) :
    (∀ r ∈ s.openReservations, (s.v2Binding r).isSome) ∧
    t.consumedTotal + t.reservedTotal = s.openV2Total ∧
    t.consumedUnderlying + t.reservedUnderlying = s.openV2TotalFor symbol ∧
    t.reservedTotal = s.reservedV2Total := by
  have hopen : ∀ r ∈ s.openReservations, r.state.isOpen := by
    intro r hr
    exact (List.mem_filter.mp hr).2
  obtain ⟨hbound, hc, hr, hcu, hru⟩ := v2Accumulate_ok hopen h
  simp only [zero_add] at hc hr hcu hru
  refine ⟨hbound, ?_, ?_, ?_⟩
  · have hsplit := v2SumWhere_open s (fun _ => true) _ hopen
    simp only [and_true] at hsplit
    rw [hc, hr, ← hsplit]
    simp [v2SumWhere, Ledger.openV2Total]
  · have hsplit := v2SumWhere_open s (fun r => r.underlying = symbol) _ hopen
    simp only [decide_eq_true_eq] at hsplit
    rw [hcu, hru, ← hsplit]
    rfl
  · rw [hr, v2SumWhere, Ledger.reservedV2Total, Ledger.openReservations, List.filter_filter]
    congr 2
    apply List.filter_congr
    intro r _
    cases r.state <;> rfl

/-! ### The ledger that a new V2 reservation leaves -/

theorem toRat_v2Canonical (d : Decimal) : (v2Canonical d).toRat = d.toRat := by
  unfold v2Canonical
  split
  · rename_i h
    simp [h]
  · rw [Decimal.toRat_expand, Decimal.toRat_normalize]

section Held

variable {s : Ledger} {a : ReserveV2Args} {tier : RiskTier}

def v2NewReservation (a : ReserveV2Args) : ReservationRow :=
  newReservation a.allocationReservationId a.eventId (v2AmountText a.amount) a.underlying a.now

theorem heldV2_openReservations :
    (s.heldV2 a tier).openReservations = s.openReservations ++ [v2NewReservation a] := by
  simp [Ledger.openReservations, Ledger.heldV2, v2NewReservation, newReservation,
    ReservationState.isOpen]

theorem heldV2_v2Amount_of_bound {r : ReservationRow} (h : (s.v2Binding r).isSome) :
    (s.heldV2 a tier).v2Amount r = s.v2Amount r := by
  have hb : (s.heldV2 a tier).v2Binding r = s.v2Binding r := by
    obtain ⟨v, hv⟩ := Option.isSome_iff_exists.mp h
    unfold Ledger.v2Binding at hv ⊢
    simp [Ledger.heldV2, List.find?_append, hv]
  rw [Ledger.v2Amount, Ledger.v2Amount, hb]

theorem heldV2_v2Amount_new (hfree : V2Free s a) :
    (s.heldV2 a tier).v2Amount (v2NewReservation a) = a.amount.toRat := by
  have hb : (s.heldV2 a tier).v2Binding (v2NewReservation a) = some (v2NewBinding a tier) := by
    have hnone : s.v2Reservations.find?
        (fun v => v.reservationId = a.allocationReservationId) = none := by
      simpa using hfree.bindingIds
    change (s.v2Reservations ++ [v2NewBinding a tier]).find?
      (fun v => v.reservationId = a.allocationReservationId) = _
    rw [List.find?_append, hnone]
    simp [v2NewBinding]
  simp [Ledger.v2Amount, hb, v2NewBinding, v2AmountText, toRat_v2Canonical]

/-- A sum of V2 amounts over some of the open rows grows by the new amount. -/
theorem heldV2_sum (hfree : V2Free s a) {rows : List ReservationRow}
    (hrows : ∀ r ∈ rows, (s.v2Binding r).isSome) :
    ((rows ++ [v2NewReservation a]).map (s.heldV2 a tier).v2Amount).sum =
      (rows.map s.v2Amount).sum + a.amount.toRat := by
  have hmap : rows.map (s.heldV2 a tier).v2Amount = rows.map s.v2Amount := by
    apply List.map_congr_left
    intro r hr
    exact heldV2_v2Amount_of_bound (hrows r hr)
  rw [List.map_append, List.sum_append, hmap]
  simp [heldV2_v2Amount_new hfree]

theorem heldV2_openV2Total (hfree : V2Free s a)
    (hbound : ∀ r ∈ s.openReservations, (s.v2Binding r).isSome) :
    (s.heldV2 a tier).openV2Total = s.openV2Total + a.amount.toRat := by
  rw [Ledger.openV2Total, heldV2_openReservations, heldV2_sum hfree hbound]
  rfl

theorem heldV2_openV2TotalFor (hfree : V2Free s a)
    (hbound : ∀ r ∈ s.openReservations, (s.v2Binding r).isSome) :
    (s.heldV2 a tier).openV2TotalFor a.underlying =
      s.openV2TotalFor a.underlying + a.amount.toRat := by
  have hrows : (s.heldV2 a tier).openReservationsFor a.underlying =
      s.openReservationsFor a.underlying ++ [v2NewReservation a] := by
    rw [Ledger.openReservationsFor, heldV2_openReservations, List.filter_append]
    simp [v2NewReservation, newReservation, Ledger.openReservationsFor]
  rw [Ledger.openV2TotalFor, hrows, heldV2_sum hfree]
  · rfl
  · intro r hr
    exact hbound r (List.mem_of_mem_filter hr)

theorem heldV2_reservedV2Total (hfree : V2Free s a)
    (hbound : ∀ r ∈ s.openReservations, (s.v2Binding r).isSome) :
    (s.heldV2 a tier).reservedV2Total = s.reservedV2Total + a.amount.toRat := by
  have hrows : (s.heldV2 a tier).reservations.filter (fun r => r.state = .reserved) =
      s.reservations.filter (fun r => r.state = .reserved) ++ [v2NewReservation a] := by
    simp [Ledger.heldV2, v2NewReservation, newReservation]
  rw [Ledger.reservedV2Total, hrows, heldV2_sum hfree]
  · rfl
  · intro r hr
    obtain ⟨hmem, hst⟩ := List.mem_filter.mp hr
    refine hbound r (List.mem_filter.mpr ⟨hmem, ?_⟩)
    simp only [decide_eq_true_eq] at hst
    rw [hst]
    rfl

end Held

/-! ### Capacity after commit, and replay -/

/-- A call whose event or opportunity is bound changes no table, whether it returns or raises. -/
theorem reserveV2_after_of_bound {s : Ledger} {a : ReserveV2Args}
    (h : (v2Existing s a).isSome) : (reserveV2AndIssuePermit a).after s = s := by
  obtain ⟨row, hrow⟩ := Option.isSome_iff_exists.mp h
  rcases (atomic_reserveV2AndIssuePermit a).after_cases s with ⟨receipt, hok⟩ | hs
  · exact (reserveV2AndIssuePermit_bound hrow hok).2
  · exact hs

theorem v2Existing_heldV2 (s : Ledger) (a : ReserveV2Args) (tier : RiskTier) :
    (v2Existing (s.heldV2 a tier) a).isSome := by
  rw [v2Existing_isSome]
  refine ⟨v2NewBinding a tier, List.mem_append_right _ (List.mem_singleton_self _), .inl rfl, ?_⟩
  rw [v2Join_isSome]
  exact ⟨⟨_, List.mem_append_right _ (List.mem_singleton_self _), rfl⟩,
    _, List.mem_append_right _ (List.mem_singleton_self _), rfl⟩

def spyBook : Ledger :=
  Ledger.empty.withCandidates
    [⟨"e1", "c1", digestA, digestA, digestA, "REPLAY", .utc 1000⟩]

/-- A V2 call for one contract of the concrete spread, on an account of 10000. -/
def spyCall : ReserveV2Args where
  eventId := "e1"
  candidateId := "c1"
  underlying := "SPY"
  policySha256 := digestA
  decisionSha256 := digestA
  expressionSha256 := digestA
  opportunityId := "o1"
  opportunitySha256 := digestA
  allocationReservationId := digestA
  riskTier := .cents 5
  quantity := 1
  amount := .ofNat 250
  accountEquity := .ofNat 10000
  accountCash := .ofNat 4000
  maxPerUnderlyingFraction := .cents 20
  maxAggregateFraction := .cents 50
  permit := spyPermit "e1" digestA (by decide) isLowerHex_digestA
  now := .utc 1000

theorem spyCall_argsOk : ReserveV2ArgsOk spyCall .five := by
  constructor
  case permitId => rfl
  all_goals decide +kernel

end EsscherMarket.Risk
