import EsscherMarket.Lifecycle.Returns

/-!
# What settles a permit and a reservation

A call of the worker may persist a filled opening or release a reservation only on the broker's
fresh truth.
-/

namespace EsscherMarket.Lifecycle

open Lib Execution Risk Prog MonitoredPaperLifecycle

variable {β : Type}

/-! ### Up to the order's truth -/

section Submission

variable {w : MonitoredPaperLifecycle} {p : DebitVerticalPermit} {r : BrokerOrderRequest}
  {ack : BrokerOrderAck} {A : LifecycleOp → Prop}

theorem uses_transact {handler : RiskRejected → LifecycleError} {c : LedgerCall}
    (h : A (.ledger c)) : Uses (S := lifecycleSig) A (transact handler c) :=
  (uses_perform (S := lifecycleSig) h).bind fun _ => uses_ofExcept _

/-- Commit the intent, remember it, submit the order and bind its receipt. -/
theorem uses_claimPermit (hguard : ∀ op, Guard op → A op) {qty : Int}
    (hrecord : ∀ a, A (.ledger (.recordLifecycleIntent a)))
    (hremember : A (.remember w.worker r.phase r.permitId)) :
    Uses (S := lifecycleSig) A (w.claimPermit r qty) := by
  refine Uses.bind ?_ fun _ => uses_perform (S := lifecycleSig) hremember
  exact (guard_now.mono hguard).bind fun t => uses_transact (hrecord _)

theorem uses_bindAck (hguard : ∀ op, Guard op → A op)
    (hbind : ∀ permitId phase orderId t, A (.ledger (.bindLifecycleIntent permitId phase orderId t))) :
    Uses (S := lifecycleSig) A (bindAck r ack) :=
  (uses_raiseIf _ _).bind fun _ => (guard_now.mono hguard).bind fun _ =>
    uses_transact (hbind _ _ _ _)

def Submitting (op : LifecycleOp) : Prop := Unfilling op ∧ op ≠ .readPositions

theorem Guard.submitting {op : LifecycleOp} (h : Guard op) : Submitting op := by
  refine ⟨h.unfilling, ?_⟩
  rintro rfl
  exact h.elim

theorem submitting_submitOpening : Uses (S := lifecycleSig) Submitting (w.submitOpening p) := by
  have hguard : ∀ op, Guard op → Submitting op := fun _ h => h.submitting
  have hledger : ∀ {c : LedgerCall}, Unfilling (.ledger c) → Submitting (.ledger c) := by
    intro c hc
    exact ⟨hc, by simp⟩
  have hsubmit : Submitting (.submitOpen (w.openRequest p)) := ⟨trivial, by simp⟩
  refine (guard_requireOpening.mono hguard).bind fun _ => ?_
  refine (uses_claimPermit hguard (fun a => hledger trivial) ⟨trivial, by simp⟩).bind fun _ => ?_
  refine (uses_perform (S := lifecycleSig) hsubmit).bind fun _ => ?_
  refine (uses_ofExcept _).bind fun ack => ?_
  refine (uses_bindAck hguard fun _ _ _ _ => hledger trivial).bind fun _ => ?_
  refine (guard_now.mono hguard).bind fun t => ?_
  exact (uses_transact (hledger (by trivial))).bind fun _ => uses_pure _

theorem ran_submitOpening {e : Setting β} {x x' : Desk β × Nat} {tr : List Answered}
    (h : Ran (S := lifecycleSig) e.answer (w.submitOpening p) x ack x' tr) :
    ⟨.submitOpen (w.openRequest p), .ok ack⟩ ∈ tr := by
  obtain ⟨_, x₁, tr₁, tr₂, -, h₁, rfl⟩ := h.of_bind
  obtain ⟨_, x₂, tr₃, tr₄, -, h₂, rfl⟩ := h₁.of_bind
  obtain ⟨tr₅, h₃, rfl⟩ := h₂.of_perform_bind
  obtain ⟨ack', hack, h₃⟩ := h₃.of_ofExcept_bind
  obtain ⟨_, x₃, tr₆, tr₇, -, h₄, rfl⟩ := h₃.of_bind
  obtain ⟨t, x₄, tr₈, tr₉, -, h₅, rfl⟩ := h₄.of_bind
  obtain ⟨_, x₅, tr₁₀, tr₁₁, -, h₆, rfl⟩ := h₅.of_bind
  cases h₆.result
  rw [except_mapError_eq_ok.mp hack]
  simp

/-- The writes of an opening whose order is not filled fill no permit. -/
theorem submitting_recordOpenTransition {state : LifecycleState} (truth : BrokerOrderTruth)
    (h : state ≠ .openFilled) :
    Uses (S := lifecycleSig) Submitting (w.recordOpenTransition state truth) := by
  have hguard : ∀ op, Guard op → Submitting op := fun _ h => h.submitting
  have hmark : ∀ id t, Submitting (.ledger (.markLifecycleIntentReconciled id t)) :=
    fun _ _ => ⟨trivial, by simp⟩
  refine (guard_now.mono hguard).bind fun t => ?_
  cases state with
  | openFilled => exact absurd rfl h
  | openCanceled =>
    refine Uses.bind (uses_transact ⟨?_, by simp⟩) fun _ => uses_transact (hmark _ _)
    show "CANCELED" ≠ "FILLED"
    decide
  | _ => exact uses_transact ⟨by trivial, by simp⟩

end Submission

theorem recordOpenTransition_positions {w : MonitoredPaperLifecycle} (state : LifecycleState)
    (truth : BrokerOrderTruth) : Uses (S := lifecycleSig) (fun op => op ≠ .readPositions)
      (w.recordOpenTransition state truth) := by
  have hguard : ∀ op, Guard op → op ≠ .readPositions := fun _ h => h.submitting.2
  refine (guard_now.mono hguard).bind fun t => ?_
  cases state with
  | openFilled => exact (uses_transact (by simp)).bind fun _ => uses_transact (by simp)
  | openCanceled => exact (uses_transact (by simp)).bind fun _ => uses_transact (by simp)
  | _ => exact uses_transact (by simp)

theorem status_of_openFilled {truth : BrokerOrderTruth} {qty : Int}
    (h : reduceOpenOrder truth qty = .openFilled) : truth.status = "filled" := by
  unfold reduceOpenOrder at h
  by_contra hne
  rw [if_neg hne] at h
  split at h
  · cases h
  · split at h
    · split at h <;> cases h
    · split at h <;> cases h

/-! ### A filled opening -/

/-- A permit is filled only on filled truth, whose positions passed the comparison. -/
theorem endsAfter_openPosition {w : MonitoredPaperLifecycle} {p : DebitVerticalPermit}
    {e : Setting β} {x : Desk β × Nat} {permitId : String}
    (hx : permitState x.1.ledger permitId ≠ some .filled) :
    EndsAfter (S := lifecycleSig) e.answer (w.openPosition p) x fun _ x' tr =>
      permitState x'.1.ledger permitId ≠ some .filled ∨
        ∃ ack truth snapshot, BoundTruth w (w.openRequest p) ack tr truth snapshot ∧
          truth.status = "filled" := by
  have hkeep : ∀ op (x : Desk β × Nat), Unfilling op →
      permitState x.1.ledger permitId ≠ some .filled →
      permitState (e.answer op x).2.1.ledger permitId ≠ some .filled :=
    fun op x hop hx => hop.keeps hx
  refine endsAfter_bind
    (submitting_submitOpening.endsAfter (fun op x hop => hkeep op x hop.1) hx) ?_
    fun _ _ _ h => .inl h.1
  rintro ack x₁ tr₁ ⟨hx₁, htr₁⟩
  refine endsAfter_bind
    ((quiet_freshBoundTruth.mono fun _ h => h.unfilling).endsAfter hkeep hx₁).ran ?_
    fun _ _ _ h => .inl h.1.1
  rintro ⟨truth, snapshot⟩ x₂ tr₂ ⟨⟨hx₂, -⟩, hran⟩
  have hbound := ran_freshBoundTruth (hran _ rfl)
  by_cases hstate : reduceOpenOrder truth p.quantity = .openFilled
  · have hrest : Uses (S := lifecycleSig) (fun op => op ≠ .readPositions) (do
        w.recordOpenTransition (reduceOpenOrder truth p.quantity) truth
        return (reduceOpenOrder truth p.quantity, ack.orderId)) :=
      (recordOpenTransition_positions _ truth).bind fun _ => uses_pure _
    refine (hrest.endsAfter (J := fun _ => True) (fun _ _ _ _ => trivial) trivial).mono ?_
    intro _ x₃ tr₃ h₃
    exact .inr ⟨ack, truth, snapshot, hbound.append (fun c hc => (htr₁ c hc).2) h₃.2,
      status_of_openFilled hstate⟩
  · have hrest : Uses (S := lifecycleSig) Submitting (do
        w.recordOpenTransition (reduceOpenOrder truth p.quantity) truth
        return (reduceOpenOrder truth p.quantity, ack.orderId)) :=
      (submitting_recordOpenTransition truth hstate).bind fun _ => uses_pure _
    exact (hrest.endsAfter (fun op x hop => hkeep op x hop.1) hx₂).mono fun _ _ _ h => .inl h.1

/-- What a call of `open` that filled its permit has read. -/
theorem truth_of_filled {w : MonitoredPaperLifecycle} {p : DebitVerticalPermit} {e : Setting β}
    {d : Desk β} {permitId : String} (hbefore : permitState d.ledger permitId ≠ some .filled)
    (hafter : permitState (e.runCall (w.openPosition p) d).2.ledger permitId = some .filled) :
    ∃ ack truth snapshot, BoundTruth w (w.openRequest p) ack (e.answered (w.openPosition p) d) truth
      snapshot ∧ truth.status = "filled" := by
  rcases endsAfter_openPosition (w := w) (p := p) (e := e) (x := (d, 0)) hbefore with
    hunfilled | hbound
  · exact absurd hafter hunfilled
  · exact hbound

/-! ### Net positions -/

def netQuantity (rows : List PositionTruth) (symbol : String) : ℚ :=
  ((rows.filter fun row => row.symbol = symbol).map (·.qty.toRat)).sum

def supersededQuantity (rows : List PositionTruth) (symbol : String) : ℚ :=
  ((rows.filter fun row => row.symbol = symbol).dropLast.map (·.qty.toRat)).sum

def legQuantity (p : DebitVerticalPermit) (leg : OptionLeg) : ℚ :=
  if leg.side = .buy then p.quantity * leg.ratioQty else -(p.quantity * leg.ratioQty)

/-- The net position is that of the permit's two legs, and nothing else. -/
def NetMatches (p : DebitVerticalPermit) (rows : List PositionTruth) : Prop :=
  netQuantity rows p.longLeg.symbol = legQuantity p p.longLeg ∧
    netQuantity rows p.shortLeg.symbol = legQuantity p p.shortLeg ∧
    ∀ symbol, symbol ≠ p.longLeg.symbol → symbol ≠ p.shortLeg.symbol →
      netQuantity rows symbol = 0

/-- The last row of a symbol is what its dictionary holds. -/
theorem netQuantity_eq (rows : List PositionTruth) (symbol : String) :
    netQuantity rows symbol = supersededQuantity rows symbol +
      (dictGet (rows.map fun p => (p.symbol, p.qty.toRat)) symbol).getD 0 := by
  have hlast : dictGet (rows.map fun p => (p.symbol, p.qty.toRat)) symbol =
      (rows.filter fun row => row.symbol = symbol).getLast?.map (·.qty.toRat) := by
    rw [dictGet, ← List.map_reverse, List.find?_map, Option.map_map, ← List.head?_filter,
      List.filter_reverse, List.head?_reverse]
    rfl
  rw [hlast, netQuantity, supersededQuantity]
  rcases List.eq_nil_or_concat (rows.filter fun row => row.symbol = symbol) with hnil | hcons
  · simp [hnil]
  · obtain ⟨init, last, hcons⟩ := hcons
    rw [hcons]
    simp

theorem dictGet_eq_of_dictEq {pairs pairs' : List (String × ℚ)} (h : dictEq pairs pairs' = true)
    (key : String) : dictGet pairs key = dictGet pairs' key := by
  have hmissing : ∀ {l : List (String × ℚ)}, (∀ kv ∈ l, kv.1 ≠ key) → dictGet l key = none := by
    intro l hl
    rw [dictGet, Option.map_eq_none_iff, List.find?_eq_none]
    intro kv hkv
    simpa using hl kv (List.mem_reverse.mp hkv)
  by_cases hkey : ∃ kv ∈ pairs ++ pairs', kv.1 = key
  · obtain ⟨kv, hkv, rfl⟩ := hkey
    simpa using List.all_eq_true.mp h kv hkv
  · push Not at hkey
    rw [hmissing fun kv hkv => hkey kv (List.mem_append_left _ hkv),
      hmissing fun kv hkv => hkey kv (List.mem_append_right _ hkv)]

theorem dictGet_expectedPositions (w : MonitoredPaperLifecycle) (p : DebitVerticalPermit)
    (symbol : String) : (dictGet (expectedPositions (w.openRequest p)) symbol).getD 0 =
      if symbol = p.longLeg.symbol then legQuantity p p.longLeg
      else if symbol = p.shortLeg.symbol then legQuantity p p.shortLeg else 0 := by
  obtain ⟨hbuy, -, hsell, -⟩ := p.sides
  have hne := p.symbol_ne
  have hexpected : expectedPositions (w.openRequest p) =
      [(p.longLeg.symbol, legQuantity p p.longLeg),
        (p.shortLeg.symbol, legQuantity p p.shortLeg)] := by
    simp [expectedPositions, openRequest, request, openLegs, legQuantity, hbuy, hsell,
      OptionSide.value]
  rw [hexpected, dictGet]
  by_cases hlong : symbol = p.longLeg.symbol
  · subst hlong
    simp [hne.symm]
  · by_cases hshort : symbol = p.shortLeg.symbol
    · subst hshort
      simp [hne.symm]
    · simp [hlong, hshort, Ne.symm (a := symbol) hlong, Ne.symm (a := symbol) hshort]

/-- Rows that pass the comparison have the right net position exactly if what the dictionary
forgets cancels out. -/
theorem netMatches_iff {w : MonitoredPaperLifecycle} {p : DebitVerticalPermit}
    {rows : List PositionTruth}
    (h : dictEq (rows.map fun p => (p.symbol, p.qty.toRat)) (expectedPositions (w.openRequest p))) :
    NetMatches p rows ↔ ∀ symbol, supersededQuantity rows symbol = 0 := by
  have hnet : ∀ symbol, netQuantity rows symbol = supersededQuantity rows symbol +
      if symbol = p.longLeg.symbol then legQuantity p p.longLeg
      else if symbol = p.shortLeg.symbol then legQuantity p p.shortLeg else 0 := by
    intro symbol
    rw [netQuantity_eq, dictGet_eq_of_dictEq h, dictGet_expectedPositions]
  constructor
  · rintro ⟨hlong, hshort, hother⟩ symbol
    have hsymbol := hnet symbol
    by_cases hl : symbol = p.longLeg.symbol
    · rw [if_pos hl, hl, hlong] at hsymbol
      rw [hl]
      linarith
    · by_cases hs : symbol = p.shortLeg.symbol
      · rw [if_neg hl, if_pos hs, hs, hshort] at hsymbol
        rw [hs]
        linarith
      · rw [if_neg hl, if_neg hs, hother symbol hl hs] at hsymbol
        linarith
  · intro hzero
    refine ⟨?_, ?_, fun symbol hl hs => ?_⟩
    · rw [hnet, hzero, if_pos rfl, zero_add]
    · rw [hnet, hzero, if_neg p.symbol_ne.symm, if_pos rfl, zero_add]
    · rw [hnet, hzero, if_neg hl, if_neg hs, zero_add]

/-- A call of `open` that fills its permit has read one fresh positions snapshot, whose net
quantities are those of the legs exactly if for every symbol the rows before its last one net to
zero. -/
theorem open_filled_net (w : MonitoredPaperLifecycle) (p : DebitVerticalPermit) (e : Setting β)
    (d : Desk β) (hbefore : permitState d.ledger p.permitId ≠ some .filled)
    (hafter : permitState (e.runCall (w.openPosition p) d).2.ledger p.permitId = some .filled) :
    ∃ snapshot : BrokerPositionSnapshot,
      (∀ x, ⟨.readPositions, .ok x⟩ ∈ e.answered (w.openPosition p) d ↔ x = snapshot) ∧
      FreshIn w (e.answered (w.openPosition p) d) snapshot.observedAt ∧
      (NetMatches p snapshot.positions ↔
        ∀ symbol, supersededQuantity snapshot.positions symbol = 0) := by
  obtain ⟨ack, truth, snapshot, hbound, hstatus⟩ := truth_of_filled hbefore hafter
  exact ⟨snapshot, hbound.positionsRead, hbound.positionsFresh,
    netMatches_iff (hbound.legs rfl hstatus)⟩

def filling (t : DateTime) (rows : List PositionTruth) : Setting (Option BrokerOrderRequest) :=
  .still t (fillingBroker t "PA1" rows)

theorem positions_filling {α : Type} {t : DateTime} {rows : List PositionTruth}
    {x : LifecycleProg α} {d : Desk (Option BrokerOrderRequest)}
    {snapshot : BrokerPositionSnapshot}
    (h : ⟨.readPositions, .ok snapshot⟩ ∈ (filling t rows).answered x d) :
    snapshot.positions = rows := by
  obtain ⟨⟨d', n⟩, hread⟩ := exists_of_mem_trace h
  have hport : Except.ok snapshot = ((fillingBroker t "PA1" rows).readPositions d'.broker).1 := hread
  cases hb : d'.broker with
  | none =>
    rw [hb] at hport
    cases hport
  | some r =>
    rw [hb] at hport
    cases hport
    rfl

theorem scene_priceInBounds : priceInBounds (sceneWorker.openRequest scenePermit)
    (sceneWorker.openRequest scenePermit).limitPrice = true := by
  show (decide (0 < (Decimal.cents 250).toRat) &&
    decide ((Decimal.cents 250).toRat ≤ (Decimal.cents 250).toRat)) = true
  norm_num [Decimal.toRat_cents]

/-- The concrete opening is filled, whatever rows the comparison accepts. -/
theorem scene_fills (rows : List PositionTruth)
    (hrows : ∀ row ∈ rows, row.symbol ≠ "" ∧ row.qty.isFinite ∧ row.observedAt = .utc 1200)
    (hlegs : dictEq (rows.map fun p => (p.symbol, p.qty.toRat))
      (expectedPositions (sceneWorker.openRequest scenePermit))) :
    permitState ((filling (.utc 1200) rows).runCall (sceneWorker.openPosition scenePermit)
      sceneDesk).2.ledger scenePermit.permitId = some .filled := by
  have hreads : Reads sceneWorker (fillingBroker (.utc 1200) "PA1" rows) (.utc 1200)
      (sceneWorker.openRequest scenePermit) _ (some (sceneWorker.openRequest scenePermit)) _ _ _ :=
    reads_filling rfl (by decide) rfl rfl rfl scene_priceInBounds hrows fun _ => hlegs
  have hsubmit : (fillingBroker (.utc 1200) "PA1" rows).submitOpen
      (sceneWorker.openRequest scenePermit) sceneDesk.broker =
        (.ok ⟨"order-1", (sceneWorker.openRequest scenePermit).clientOrderId, .utc 1200⟩,
          some (sceneWorker.openRequest scenePermit)) := rfl
  obtain ⟨s, hfilled, hreturns⟩ := returns_openPosition (d := sceneDesk) canOpen_scene
    (by simp [sceneDesk]) freshOrder_scene rfl hsubmit hreads rfl rfl rfl
  obtain ⟨q, row, hq, -, hstate, -⟩ := hfilled.paired
  have hcall := hreturns.runCall
  rw [filling, hcall, permitState, hq, Option.map_some, hstate]

theorem scene_unfilled : permitState sceneDesk.ledger scenePermit.permitId ≠ some .filled := by
  simp [permitState, sceneDesk, sceneLedger, Ledger.permit]

def sceneRow (symbol : String) (qty : Int) : PositionTruth := ⟨symbol, .ofInt qty, .utc 1200⟩

def legRows : List PositionTruth :=
  [sceneRow "SPY260918C00500000" 1, sceneRow "SPY260918C00505000" (-1)]

/-- The long leg is reported twice, first with seven contracts. -/
def repeatedRows : List PositionTruth := sceneRow "SPY260918C00500000" 7 :: legRows

/-- The comparison accepts both, although the second nets to eight contracts of the long leg. -/
theorem sceneRows_accepted :
    (∀ rows ∈ [legRows, repeatedRows], dictEq (rows.map fun p => (p.symbol, p.qty.toRat))
      (expectedPositions (sceneWorker.openRequest scenePermit))) ∧
    netQuantity repeatedRows scenePermit.longLeg.symbol = 8 ∧
    legQuantity scenePermit scenePermit.longLeg = 1 := by
  decide +kernel

theorem open_filled_net_legs :
    permitState ((filling (.utc 1200) legRows).runCall (sceneWorker.openPosition scenePermit)
      sceneDesk).2.ledger scenePermit.permitId = some .filled ∧
    ∃ snapshot : BrokerPositionSnapshot, snapshot.positions = legRows ∧
      NetMatches scenePermit snapshot.positions := by
  have hfilled := scene_fills legRows (by decide) (sceneRows_accepted.1 _ (by simp))
  obtain ⟨snapshot, hread, -, hnet⟩ :=
    open_filled_net sceneWorker scenePermit (filling (.utc 1200) legRows) sceneDesk scene_unfilled
      hfilled
  have hrows := positions_filling ((hread snapshot).mpr rfl)
  refine ⟨hfilled, snapshot, hrows, hnet.mpr fun symbol => ?_⟩
  rw [hrows, supersededQuantity, legRows]
  by_cases hlong : symbol = "SPY260918C00500000"
  · subst hlong
    decide
  · by_cases hshort : symbol = "SPY260918C00505000"
    · subst hshort
      decide
    · simp [sceneRow, Ne.symm (a := symbol) hlong, Ne.symm (a := symbol) hshort]

/-- The opening is persisted as filled although the account is long eight contracts. -/
theorem open_filled_net_repeated :
    permitState sceneDesk.ledger scenePermit.permitId ≠ some .filled ∧
    permitState ((filling (.utc 1200) repeatedRows).runCall (sceneWorker.openPosition scenePermit)
      sceneDesk).2.ledger scenePermit.permitId = some .filled ∧
    ∃ snapshot : BrokerPositionSnapshot,
      ⟨.readPositions, .ok snapshot⟩ ∈
        (filling (.utc 1200) repeatedRows).answered (sceneWorker.openPosition scenePermit)
          sceneDesk ∧
      netQuantity snapshot.positions scenePermit.longLeg.symbol = 8 ∧
      ¬ NetMatches scenePermit snapshot.positions := by
  have hfilled := scene_fills repeatedRows (by decide) (sceneRows_accepted.1 _ (by simp))
  refine ⟨scene_unfilled, hfilled, ?_⟩
  obtain ⟨ack, truth, snapshot, hbound, -⟩ := truth_of_filled scene_unfilled hfilled
  have hread := (hbound.positionsRead snapshot).mpr rfl
  have hrows := positions_filling hread
  obtain ⟨-, hnet, hleg⟩ := sceneRows_accepted
  refine ⟨snapshot, hread, ?_, ?_⟩
  · rw [hrows]
    exact hnet
  · rintro ⟨hlong, -⟩
    rw [hrows] at hlong
    have heq : (8 : ℚ) = 1 := hnet.symm.trans (hlong.trans hleg)
    norm_num at heq

/-! ### A flat close -/

def reservationState (s : Ledger) (eventId : String) : Option ReservationState :=
  (s.reservationForEvent eventId).map (·.state)

/-- What a call has to see before it may release a reservation: fresh truth of its order, filled for
the opening quantity, and a fresh snapshot with zero rows only. -/
def FlatEvidence (w : MonitoredPaperLifecycle) (p : DebitVerticalPermit) (tr : List Answered) :
    Prop :=
  ∃ (r : BrokerOrderRequest) (ack : BrokerOrderAck) (truth : BrokerOrderTruth)
    (snapshot : BrokerPositionSnapshot),
    ⟨.submitClose r, .ok ack⟩ ∈ tr ∧ ⟨.readOrder ack.orderId, .ok truth⟩ ∈ tr ∧
    ⟨.readPositions, .ok snapshot⟩ ∈ tr ∧ truth.orderId = ack.orderId ∧
    truth.toOrderIdentity = r.toOrderIdentity ∧ FreshIn w tr truth.observedAt ∧
    FreshIn w tr snapshot.observedAt ∧ truth.status = "filled" ∧ truth.filledQty = p.quantity ∧
    ∀ row ∈ snapshot.positions, row.qty.isFinite ∧ row.qty.toRat = 0

section Closing

variable {w : MonitoredPaperLifecycle} {p : DebitVerticalPermit} {c : ClosePermit}
  {openOrderId : String} {e : Setting β} {x x' : Desk β × Nat} {tr : List Answered}

theorem reserving_submitClosing :
    Uses (S := lifecycleSig) Reserving (w.submitClosing p c openOrderId) := by
  have hguard : ∀ op, Guard op → Reserving op := fun _ h => h.quiet.reserving
  refine ((guard_requireClosing c openOrderId).mono hguard).bind fun correlation => ?_
  refine (uses_ofExcept _).bind fun legs => ?_
  refine (uses_claimPermit hguard (fun _ => trivial) trivial).bind fun _ => ?_
  have hsubmit : ∀ r, Reserving (.submitClose r) := fun _ => trivial
  refine (uses_perform (S := lifecycleSig) (hsubmit _)).bind fun _ => ?_
  refine (uses_ofExcept _).bind fun ack => ?_
  exact (uses_bindAck hguard fun _ _ _ _ => trivial).bind fun _ => uses_pure _

theorem ran_submitClosing {r : BrokerOrderRequest} {ack : BrokerOrderAck}
    (h : Ran (S := lifecycleSig) e.answer (w.submitClosing p c openOrderId) x (r, ack) x' tr) :
    ⟨.submitClose r, .ok ack⟩ ∈ tr := by
  obtain ⟨correlation, x₁, tr₁, tr₂, -, h₁, rfl⟩ := h.of_bind
  obtain ⟨legs, -, h₁⟩ := h₁.of_ofExcept_bind
  obtain ⟨_, x₂, tr₃, tr₄, -, h₂, rfl⟩ := h₁.of_bind
  obtain ⟨tr₅, h₃, rfl⟩ := h₂.of_perform_bind
  obtain ⟨ack', hack, h₃⟩ := h₃.of_ofExcept_bind
  obtain ⟨_, x₃, tr₆, tr₇, -, h₄, rfl⟩ := h₃.of_bind
  cases h₄.result
  rw [except_mapError_eq_ok.mp hack]
  simp

/-- A close that wrote its proof released the reservation. -/
theorem ran_recordFlat {r : BrokerOrderRequest} {u : Unit}
    (h : Ran (S := lifecycleSig) e.answer (w.recordFlat p r) x u x' tr) :
    reservationState x'.1.ledger w.correlation.eventRunId = some .released := by
  obtain ⟨t, x₁, tr₁, tr₂, -, h₁, -⟩ := h.of_bind
  obtain ⟨_, x₂, tr₃, tr₄, hrelease, h₂, -⟩ := h₁.of_bind
  obtain ⟨t', x₃, tr₅, tr₆, hnow, hmark, -⟩ := h₂.of_bind
  obtain ⟨q, row, events, -, -, -, hrow, -, -, hshape⟩ :=
    releaseConsumedAfterFlat_ok (ran_transact hrelease)
  have hmarked := markLifecycleIntentReconciled_ok (ran_transact hmark)
  rw [(ran_now hnow).2] at hmarked
  have hset : x₂.1.ledger.reservations = reservationsSet w.correlation.eventRunId .released t
      x₁.1.ledger.reservations := by
    rw [hshape]
    rfl
  have hreleased := reservationForEvent_reservationsSet hset hrow
  have hsame : x'.1.ledger.reservationForEvent w.correlation.eventRunId =
      x₂.1.ledger.reservationForEvent w.correlation.eventRunId := by
    rw [hmarked]
    rfl
  rw [reservationState, hsame, hreleased]
  rfl

/-- The state of an order's truth with which a close goes on. -/
theorem closedFlat_of_requireClosed {orderId : String} {truth : BrokerOrderTruth}
    {positions : List PositionTruth} {qty : Int}
    (h : requireClosed orderId (reduceCloseOrder truth positions qty) = .ok ()) :
    reduceCloseOrder truth positions qty = .closedFlat ∧ truth.status = "filled" ∧
      truth.filledQty = qty ∧ positions.any PositionTruth.remains = false := by
  simp only [requireClosed, except_bind_eq_ok, throwIf_eq_ok] at h
  obtain ⟨_, hpart, hmanual⟩ := h
  unfold reduceCloseOrder at hpart hmanual ⊢
  split at hpart
  · exact absurd rfl hpart
  rename_i hstatus
  rw [if_neg hstatus] at hmanual ⊢
  split at hmanual
  · rename_i hfilled
    split at hmanual
    · exact absurd rfl hmanual
    rename_i hqty
    split at hmanual
    · exact absurd rfl hmanual
    rename_i hrows
    rw [if_pos hfilled, if_neg hqty, if_neg hrows]
    exact ⟨rfl, hfilled, not_not.mp hqty, Bool.not_eq_true _ ▸ hrows⟩
  · exact absurd rfl hmanual

theorem qty_of_not_remains {row : PositionTruth} (h : row.remains = false) :
    row.qty.isFinite = true ∧ row.qty.toRat = 0 := by
  unfold PositionTruth.remains at h
  rw [Bool.not_eq_false'] at h
  cases hq : row.qty with
  | finite n c e =>
    rw [hq] at h
    refine ⟨rfl, ?_⟩
    have hzero : (Decimal.ofNat 0).toRat = 0 := Decimal.toRat_ofNat 0
    rw [← hzero]
    simpa [decimalEq, Decimal.ofNat] using h
  | _ =>
    rw [hq] at h
    cases h

/-- How a close ends: on the evidence, or with an error and every reservation as it was. -/
theorem endsAfter_closePosition (w : MonitoredPaperLifecycle) (p : DebitVerticalPermit)
    (c : ClosePermit) (openOrderId : String) (e : Setting β) (x : Desk β × Nat) :
    EndsAfter (S := lifecycleSig) e.answer
    (w.closePosition p c openOrderId) x fun result x' tr =>
      (FlatEvidence w p tr ∧ ∀ a, result = .ok a → a.1 = .closedFlat ∧
        reservationState x'.1.ledger w.correlation.eventRunId = some .released) ∨
      (x'.1.ledger.reservations = x.1.ledger.reservations ∧ ∃ error, result = .error error) := by
  have hkeep : ∀ op (y : Desk β × Nat), Reserving op →
      y.1.ledger.reservations = x.1.ledger.reservations →
      (e.answer op y).2.1.ledger.reservations = x.1.ledger.reservations :=
    fun op y hop hy => (hop.keeps (e := e)).trans hy
  refine endsAfter_bind (reserving_submitClosing.endsAfter hkeep rfl).ran ?_
    fun error _ _ h => .inr ⟨h.1.1, error, rfl⟩
  rintro ⟨r, ack⟩ x₁ tr₁ ⟨⟨hx₁, -⟩, hsubmitted⟩
  have hsubmit := ran_submitClosing (hsubmitted _ rfl)
  refine endsAfter_bind
    ((quiet_freshBoundTruth.mono fun _ h => h.reserving).endsAfter hkeep hx₁).ran ?_
    fun error _ _ h => .inr ⟨h.1.1, error, rfl⟩
  rintro ⟨truth, snapshot⟩ x₂ tr₂ ⟨⟨hx₂, -⟩, hran⟩
  have hbound := ran_freshBoundTruth (hran _ rfl)
  obtain ⟨horder, hidentity, -⟩ := checkOrderTruth_ok hbound.order
  refine endsAfter_ofExcept_bind ?_ fun error _ => .inr ⟨hx₂, error, rfl⟩
  rintro ⟨⟩ hclosed
  obtain ⟨hstate, hstatus, hqty, hrows⟩ := closedFlat_of_requireClosed hclosed
  refine endsAfter_ofExcept_bind ?_ fun error _ => .inr ⟨hx₂, error, rfl⟩
  intro _ _
  have hevidence : ∀ tr, FlatEvidence w p (tr₁ ++ (tr₂ ++ tr)) := by
    intro tr
    have hsub : tr₂ ⊆ tr₁ ++ (tr₂ ++ tr) := fun c hc => by simp [hc]
    refine ⟨r, ack, truth, snapshot, List.mem_append_left _ hsubmit, hsub hbound.orderRead,
      hsub ((hbound.positionsRead snapshot).mpr rfl), horder, hidentity,
      hbound.orderFresh.mono hsub, hbound.positionsFresh.mono hsub, hstatus, hqty, ?_⟩
    intro row hrow
    exact qty_of_not_remains (by simpa using List.any_eq_false.mp hrows row hrow)
  have hwrite : EndsAfter (S := lifecycleSig) e.answer (w.recordFlat p r) x₂ fun result x' _ =>
      ∀ u, result = .ok u →
        reservationState x'.1.ledger w.correlation.eventRunId = some .released :=
    (EndsAfter.ran (Q := fun _ _ _ => True) trivial).mono fun _ _ _ h u hu =>
      ran_recordFlat (h.2 u hu)
  refine endsAfter_bind hwrite ?_ fun error _ _ _ => .inl ⟨hevidence _, fun _ ha => nomatch ha⟩
  intro u x₃ tr₃ hreleased
  refine .inl ⟨hevidence _, ?_⟩
  rintro a ha
  cases ha
  exact ⟨hstate, hreleased u rfl⟩

end Closing

/-- Release only on a flat close: a call of `close` that returns has released the reservation on the
evidence it saw; one without it leaves every reservation as it was. -/
theorem close_flat (w : MonitoredPaperLifecycle) (p : DebitVerticalPermit) (c : ClosePermit)
    (openOrderId : String) (e : Setting β) (d : Desk β) :
    (∀ state orderId, (e.runCall (w.closePosition p c openOrderId) d).1 = .ok (state, orderId) →
      state = .closedFlat ∧ FlatEvidence w p (e.answered (w.closePosition p c openOrderId) d) ∧
      reservationState (e.runCall (w.closePosition p c openOrderId) d).2.ledger
        w.correlation.eventRunId = some .released) ∧
    (¬ FlatEvidence w p (e.answered (w.closePosition p c openOrderId) d) →
      (∃ error, (e.runCall (w.closePosition p c openOrderId) d).1 = .error error) ∧
      (e.runCall (w.closePosition p c openOrderId) d).2.ledger.reservations =
        d.ledger.reservations) := by
  rcases endsAfter_closePosition w p c openOrderId e (d, 0) with ⟨hevidence, hok⟩ | ⟨hsame, error, herror⟩
  · refine ⟨fun state orderId hresult => ?_, fun hnot => absurd hevidence hnot⟩
    obtain ⟨hstate, hreleased⟩ := hok _ hresult
    exact ⟨hstate, hevidence, hreleased⟩
  · have hresult : (e.runCall (w.closePosition p c openOrderId) d).1 = .error error := herror
    refine ⟨fun state orderId hok => ?_, fun _ => ⟨⟨error, hresult⟩, hsame⟩⟩
    rw [hresult] at hok
    cases hok

def sceneClose : ClosePermit where
  permitId := closePermitId scenePermit.permitId "e1" digestA digestA (.utc 1650) (.utc 1750)
    (.finite true 200 (-2))
  openPermitId := scenePermit.permitId
  eventRunId := "e1"
  policySha256 := digestA
  snapshotSha256 := digestA
  issuedAt := .utc 1650
  expiresAt := .utc 1750
  limitPrice := .finite true 200 (-2)
  accepted := by
    have hids : ¬ (strip (closePermitId scenePermit.permitId "e1" digestA digestA (.utc 1650)
        (.utc 1750) (.finite true 200 (-2))) = "" ∨ strip scenePermit.permitId = "" ∨
        strip "e1" = "") := by
      push Not
      exact ⟨strip_ne_empty_of_isExactText (isExactText_closePermitId _ _ _ _ _ _ _),
        strip_ne_empty_of_isExactText isExactText_scenePermit, by decide⟩
    simp only [ClosePermitFields.validate, except_bind_eq_ok, throwIf_eq_ok]
    exact ⟨(), hids, (), by decide, (), by decide, (), by decide, (), by decide, (),
      by decide, (), by decide +kernel, by decide +kernel⟩

def sceneFilledLedger : Ledger :=
  ((Ledger.empty.withReservations
    [⟨"r1", "e1", .ofStr (.ofNat 250), .consumed, "SPY", .utc 1000, .utc 1200⟩]).withPermits
      [⟨scenePermit.permitId, "e1", "r1", digestA, .filled, .utc 1000, .utc 1200⟩]).withSubmissions
        [⟨scenePermit.permitId, "e1", "order-1", .utc 1200⟩]

theorem isExactText_sceneClose : isExactText sceneClose.permitId = true :=
  isExactText_closePermitId _ _ _ _ _ _ _

theorem canClose_scene {correlation : CorrelationIdentity}
    (h : sceneCorrelation.withClosePermit sceneClose.permitId = .ok correlation) :
    CanClose sceneWorker scenePermit sceneClose "order-1" correlation (.utc 1700)
      sceneFilledLedger := by
  have hfields := withClosePermit_ok h
  have hevent : correlation.eventRunId = "e1" := congrArg CorrelationFields.eventRunId hfields
  have hreservation : correlation.reservationId = "r1" :=
    congrArg CorrelationFields.reservationId hfields
  have hidentity : sceneWorker.requireOpenIdentity scenePermit = .ok () := canOpen_scene.identity
  constructor
  case utc => rfl
  case clocks => exact canOpen_scene.clocks
  case boundary => exact canOpen_scene.boundary
  case scope => exact canOpen_scene.scope
  case deadlineAware => rfl
  case deadline => decide
  case permit =>
    simp only [requireClosePermit, except_bind_eq_ok, throwIf_eq_ok]
    refine ⟨(), hidentity, (), ?_, (), ?_, (), ?_, ?_⟩
    · push Not
      exact ⟨rfl, rfl, rfl, rfl⟩
    · decide +kernel
    · exact not_not.mpr rfl
    · intro hne
      exact hne.1 rfl
  case correlated => exact h
  case exitAware => rfl
  case exit => decide
  case issued => decide
  case expires => decide
  case texts =>
    exact orderTexts_request isExactText_sceneClose isExactText_scenePermit
      (by rw [hevent]; decide) (by rw [hreservation]; decide) (by decide)
      rfl rfl
  case unclaimed =>
    exact ⟨by simp [sceneFilledLedger, Ledger.empty], by simp [sceneFilledLedger, Ledger.empty]⟩
  case submission => simp [sceneFilledLedger, Ledger.submissionForPermit]
  case held =>
    refine ⟨⟨"r1", "e1", .ofStr (.ofNat 250), .consumed, "SPY", .utc 1000, .utc 1200⟩,
      ⟨scenePermit.permitId, "e1", "r1", digestA, .filled, .utc 1000, .utc 1200⟩, rfl, rfl, rfl, ?_,
      rfl, rfl, rfl⟩
    simp [Ledger.permit, sceneFilledLedger]

theorem close_flat_scene : ∃ orderId,
    ((filling (.utc 1700) []).runCall (sceneWorker.closePosition scenePermit sceneClose "order-1")
      ⟨sceneFilledLedger, fun _ _ => [], none⟩).1 = .ok (.closedFlat, orderId) ∧
    FlatEvidence sceneWorker scenePermit ((filling (.utc 1700) []).answered
      (sceneWorker.closePosition scenePermit sceneClose "order-1")
      ⟨sceneFilledLedger, fun _ _ => [], none⟩) := by
  obtain ⟨correlation, hcorrelation⟩ := withClosePermit_returns sceneCorrelation
    (strip_ne_empty_of_isExactText isExactText_sceneClose)
  have hprice : priceInBounds (sceneWorker.closeRequest scenePermit sceneClose correlation
      (reversedLegs scenePermit)) (.finite true 200 (-2)) = true := by
    show (decide ((Decimal.finite true 200 (-2)).toRat ≤ (Decimal.finite true 200 (-2)).toRat) &&
      decide ((Decimal.finite true 200 (-2)).toRat ≤ 0)) = true
    norm_num [Decimal.toRat_finite]
  have hreads : Reads sceneWorker (fillingBroker (.utc 1700) "PA1" []) (.utc 1700)
      (sceneWorker.closeRequest scenePermit sceneClose correlation (reversedLegs scenePermit)) _
      (some (sceneWorker.closeRequest scenePermit sceneClose correlation
        (reversedLegs scenePermit))) _ _ _ :=
    reads_filling rfl (by decide) rfl rfl rfl hprice (by simp) fun hphase => by cases hphase
  have horder : isExactText "order-2" = true := by decide
  have hsubmit : (fillingBroker (.utc 1700) "PA1" []).submitClose
      (sceneWorker.closeRequest scenePermit sceneClose correlation (reversedLegs scenePermit)) none =
        (.ok ⟨"order-2", (sceneWorker.closeRequest scenePermit sceneClose correlation
          (reversedLegs scenePermit)).clientOrderId, .utc 1700⟩,
          some (sceneWorker.closeRequest scenePermit sceneClose correlation
            (reversedLegs scenePermit))) := rfl
  obtain ⟨s, row, -, -, hreturns⟩ := returns_closePosition
    (d := ⟨sceneFilledLedger, fun _ _ => [], none⟩) (canClose_scene hcorrelation) (by simp) horder
    (by simp [sceneFilledLedger, Ledger.empty]) rfl hsubmit hreads rfl rfl
    (by simp [filledPositions])
  have hcall := congrArg Prod.fst hreturns.runCall
  exact ⟨"order-2", hcall, ((close_flat sceneWorker scenePermit sceneClose "order-1"
    (filling (.utc 1700) []) ⟨sceneFilledLedger, fun _ _ => [], none⟩).1 _ _ hcall).2.1⟩

end EsscherMarket.Lifecycle
