import EsscherMarket.Lifecycle.Settlement

/-!
# A position opened and closed

A worker at a broker that fills its orders and reports them truthfully opens a position and, after
the exit time, closes it: `open_close_returns`.
-/

namespace EsscherMarket.Lifecycle

open Lib Execution Risk Prog MonitoredPaperLifecycle

variable {β : Type} {w : MonitoredPaperLifecycle} {p : DebitVerticalPermit} {c : ClosePermit}
  {openOrderId : String} {correlation : CorrelationIdentity} {t t' : DateTime} {s : Ledger}
  {rows : List PositionTruth}

/-! ### After the opening -/

/-- What an intent is found by. -/
def intentKeys (i : LifecycleIntentRow) : String × String × IntentPhase × Option String :=
  (i.permitId, i.eventId, i.phase, i.brokerOrderId)

/-- The ledger of a filled opening, for its close. -/
structure Opened (w : MonitoredPaperLifecycle) (p : DebitVerticalPermit) (t : DateTime)
    (orderId : String) (s s' : Ledger) : Prop where
  submission : (s'.submissionForPermit p.permitId).map (·.brokerOrderId) = some orderId
  held : ∃ row q, s'.reservationForEvent p.eventRunId = some row ∧
    row.reservationId = w.correlation.reservationId ∧ row.state = .consumed ∧
    s'.permit p.permitId = some q ∧ q.eventId = p.eventRunId ∧
    q.reservationId = w.correlation.reservationId ∧ q.state = .filled
  intents : s'.lifecycleIntents.map intentKeys =
    (s.lifecycleIntents ++ [boundRow (w.openRequest p) 1 t orderId]).map intentKeys

theorem opened_of_fills {orderId : String} {observedAt : DateTime} {s₁ s₂ s₃ : Ledger}
    (hs₁ : Submitted w p t orderId s s₁)
    (hs₂ : reconcileObservedOrder
      ⟨p.eventRunId, p.permitId, orderId, "FILLED", .ofInt 1, observedAt, t⟩ s₁ = .ok () s₂)
    (hs₃ : markLifecycleIntentReconciled p.permitId t s₂ = .ok () s₃) (hfilled : Filled p s₃) :
    Opened w p t orderId s s₃ := by
  obtain ⟨x, hx, -, hxOrder⟩ := hs₁.submission
  obtain ⟨r, hr, hrId⟩ := hs₁.row
  obtain ⟨q, row, hq, hqEvent, hqState, hrow, hid, hrowState⟩ := hfilled.paired.pair
  obtain ⟨_, _, state, target, fills, events, -, -, -, -, -, -, -, hshape⟩ :=
    reconcileObservedOrder_ok hs₂
  have hshape₃ := markLifecycleIntentReconciled_ok hs₃
  have hreservations : s₂.reservations =
      reservationsSet p.eventRunId target t s₁.reservations := by
    rw [hshape]
    rfl
  have hfound : s₃.reservationForEvent p.eventRunId =
      some { r with state := target, updatedAt := t } := by
    rw [hshape₃]
    exact reservationForEvent_reservationsSet hreservations hr
  have hrowId : row.reservationId = w.correlation.reservationId := by
    rw [hrow] at hfound
    rw [Option.some.inj hfound]
    exact hrId
  refine ⟨?_, ⟨row, q, hrow, hrowId, hrowState, hq, hqEvent, hid ▸ hrowId, hqState⟩, ?_⟩
  · have hsame : s₃.submissionForPermit p.permitId = s₁.submissionForPermit p.permitId := by
      rw [hshape₃, hshape]
      rfl
    rw [hsame, hx, Option.map_some, hxOrder]
  · have hintents : s₂.lifecycleIntents = s₁.lifecycleIntents := by
      rw [hshape]
      rfl
    rw [← hs₁.intents, ← hintents, hshape₃]
    exact Table.map_setWhere fun _ => rfl

/-! ### The close -/

/-- What the close at `t` asks of the worker and its permit, and of the ledger before the opening. -/
structure WillClose (w : MonitoredPaperLifecycle) (p : DebitVerticalPermit) (c : ClosePermit)
    (correlation : CorrelationIdentity) (t : DateTime) (s : Ledger) : Prop where
  utc : t.tzinfo = .utc
  deadlineAware : w.clocks.flatteningDeadlineAt.isAware
  deadline : t.micros ≤ w.clocks.flatteningDeadlineAt.micros
  permit : w.requireClosePermit p c = .ok ()
  correlated : w.correlation.withClosePermit c.permitId = .ok correlation
  exitAware : w.clocks.timeExitAt.isAware
  exit : w.clocks.timeExitAt.micros ≤ t.micros
  issued : c.issuedAt.micros ≤ t.micros
  expires : t.micros < c.expiresAt.micros
  text : isExactText c.permitId
  other : c.permitId ≠ p.permitId
  unclaimed : Unclaimed (w.closeRequest p c correlation (reversedLegs p)) s

theorem canClose_of_opened {orderId : String} {s' : Ledger} (hopen : CanOpen w p t s)
    (hclose : WillClose w p c correlation t' s) (h : Opened w p t orderId s s') :
    CanClose w p c orderId correlation t' s' := by
  have hcorrelation := withClosePermit_ok hclose.correlated
  have hevent : correlation.eventRunId = w.correlation.eventRunId := by rw [hcorrelation]
  have hreservation : correlation.reservationId = w.correlation.reservationId := by
    rw [hcorrelation]
  have hboundary := throwIf_eq_ok.mp hopen.boundary
  push Not at hboundary
  have hkeys : ∀ i ∈ s'.lifecycleIntents, ∃ j ∈ s.lifecycleIntents ++
      [boundRow (w.openRequest p) 1 t orderId], intentKeys j = intentKeys i := by
    intro i hi
    have hmem := List.mem_map_of_mem (f := intentKeys) hi
    rw [h.intents] at hmem
    exact List.mem_map.mp hmem
  have hfree : Unclaimed (w.closeRequest p c correlation (reversedLegs p)) s' := by
    refine ⟨fun i hi => ?_, fun i hi heventId => ?_⟩
    · obtain ⟨j, hj, hkey⟩ := hkeys i hi
      have hsame : j.permitId = i.permitId := congrArg Prod.fst hkey
      rw [← hsame]
      rcases List.mem_append.mp hj with hj | hj
      · exact hclose.unclaimed.permit j hj
      · rw [List.mem_singleton.mp hj]
        exact hclose.other.symm
    · obtain ⟨j, hj, hkey⟩ := hkeys i hi
      have hphase : j.phase = i.phase := congrArg (fun keys => keys.2.2.1) hkey
      have hsame : j.eventId = i.eventId := congrArg (fun keys => keys.2.1) hkey
      rw [← hphase]
      rcases List.mem_append.mp hj with hj | hj
      · exact hclose.unclaimed.event j hj (hsame.trans heventId)
      · rw [List.mem_singleton.mp hj]
        exact fun hclosing => IntentPhase.noConfusion hclosing
  exact {
    utc := hclose.utc
    clocks := hopen.clocks
    boundary := hopen.boundary
    scope := hopen.scope
    deadlineAware := hclose.deadlineAware
    deadline := hclose.deadline
    permit := hclose.permit
    correlated := hclose.correlated
    exitAware := hclose.exitAware
    exit := hclose.exit
    issued := hclose.issued
    expires := hclose.expires
    texts := orderTexts_request hclose.text hopen.texts.openPermitId
      (hevent ▸ hopen.texts.eventRunId) (hreservation ▸ hopen.texts.reservationId)
      hopen.texts.accountId hboundary.2.1 hboundary.2.2
    unclaimed := hfree
    submission := h.submission
    held := h.held }

theorem priceInBounds_open (w : MonitoredPaperLifecycle) (p : DebitVerticalPermit) :
    priceInBounds (w.openRequest p) p.limitPrice = true := by
  have hcheck := p.accepted
  simp only [DebitVerticalPermitFields.check, DebitVerticalPermitFields.checkTerms,
    Bool.and_eq_true] at hcheck
  have hpositive : 0 < p.limitPrice.toRat := by
    have hmoney := hcheck.2.1.1.2
    cases hprice : p.limitPrice with
    | finite negative n e =>
      simp only [hprice, requireMoney, Bool.and_eq_true, Bool.not_eq_true', bne_iff_ne] at hmoney
      have hn : (0 : ℚ) < n := by exact_mod_cast Nat.pos_of_ne_zero hmoney.1.2
      rw [hmoney.1.1, Decimal.toRat_finite, if_neg (by decide), one_mul]
      exact mul_pos hn (zpow_pos (by norm_num) e)
    | _ =>
      rw [hprice] at hmoney
      cases hmoney
  exact Bool.and_eq_true_iff.mpr ⟨decide_eq_true hpositive, decide_eq_true le_rfl⟩

theorem priceInBounds_close (w : MonitoredPaperLifecycle) (p : DebitVerticalPermit)
    (c : ClosePermit) (correlation : CorrelationIdentity) :
    priceInBounds (w.closeRequest p c correlation (reversedLegs p)) c.limitPrice = true := by
  have hc := c.accepted
  simp only [ClosePermitFields.validate, except_bind_eq_ok, throwIf_eq_ok] at hc
  obtain ⟨_, -, _, -, _, -, _, -, _, -, _, -, _, hprice, -⟩ := hc
  push Not at hprice
  exact Bool.and_eq_true_iff.mpr ⟨decide_eq_true le_rfl, decide_eq_true hprice.2.le⟩

/-! ### The whole position -/

/-- A position that can be opened and closed is: at a broker that fills both orders and reports the
legs and then none, the reservation is released in the end. -/
theorem open_close_returns {d : Desk (Option BrokerOrderRequest)} (hopen : CanOpen w p t d.ledger)
    (hclose : WillClose w p c correlation t' d.ledger) (hage : 0 ≤ w.truthMaxAgeSeconds)
    (hmemory : p.permitId ∉ d.memory w.worker .opening ∧ c.permitId ∉ d.memory w.worker .closing)
    (horder : FreshOrder "order-1" d.ledger)
    (hids : ∀ i ∈ d.ledger.lifecycleIntents, i.brokerOrderId ≠ some "order-2")
    (hrows : ∀ row ∈ rows, row.symbol ≠ "" ∧ row.qty.isFinite ∧ row.observedAt = t)
    (hlegs : dictEq (rows.map fun row => (row.symbol, row.qty.toRat))
      (expectedPositions (w.openRequest p))) :
    ∃ d₁ d₂, Returns (.still t (fillingBroker t w.accountId rows)) (w.openPosition p) d
        (.openFilled, "order-1") d₁ ∧ permitState d₁.ledger p.permitId = some .filled ∧
      Returns (.still t' (fillingBroker t' w.accountId [])) (w.closePosition p c "order-1") d₁
        (.closedFlat, "order-2") d₂ ∧
      reservationState d₂.ledger p.eventRunId = some .released := by
  have hboundary := throwIf_eq_ok.mp hopen.boundary
  push Not at hboundary
  have hreads : Reads w (fillingBroker t w.accountId rows) t (w.openRequest p) _
      (some (w.openRequest p)) _ _ _ :=
    reads_filling (isAware_of_utc hopen.utc) hage hboundary.2.1 hboundary.2.2 p.isFinite_limitPrice
      (priceInBounds_open w p) hrows fun _ => hlegs
  have hsubmit : (fillingBroker t w.accountId rows).submitOpen (w.openRequest p) d.broker =
      (.ok ⟨"order-1", (w.openRequest p).clientOrderId, t⟩, some (w.openRequest p)) := rfl
  obtain ⟨s₁, s₂, s₃, hs₁, hs₂, hs₃, hfilled, hreturns⟩ :=
    settles_openPosition hopen hmemory.1 horder rfl hsubmit hreads rfl rfl hopen.utc
  have hopened := opened_of_fills hs₁ hs₂ hs₃ hfilled
  have hcanClose := canClose_of_opened hopen hclose hopened
  have hclosing : Reads w (fillingBroker t' w.accountId []) t'
      (w.closeRequest p c correlation (reversedLegs p)) _
      (some (w.closeRequest p c correlation (reversedLegs p))) _ _ _ :=
    reads_filling (isAware_of_utc hclose.utc) hage hboundary.2.1 hboundary.2.2 c.isFinite_limitPrice
      (priceInBounds_close w p c correlation) (by simp) fun hphase => by cases hphase
  have hsubmitClose : ∀ b, (fillingBroker t' w.accountId []).submitClose
      (w.closeRequest p c correlation (reversedLegs p)) b =
        (.ok ⟨"order-2", (w.closeRequest p c correlation (reversedLegs p)).clientOrderId, t'⟩,
          some (w.closeRequest p c correlation (reversedLegs p))) := fun _ => rfl
  have hnew : ∀ i ∈ s₃.lifecycleIntents, i.brokerOrderId ≠ some "order-2" := by
    intro i hi
    have hmem := List.mem_map_of_mem (f := intentKeys) hi
    rw [hopened.intents] at hmem
    obtain ⟨j, hj, hkey⟩ := List.mem_map.mp hmem
    have hsame : j.brokerOrderId = i.brokerOrderId := congrArg (fun keys => keys.2.2.2) hkey
    rw [← hsame]
    rcases List.mem_append.mp hj with hj | hj
    · exact hids j hj
    · rw [List.mem_singleton.mp hj]
      have hne : ("order-1" : String) ≠ "order-2" := by decide
      exact fun hbound => hne (Option.some.inj hbound)
  have hquiet : c.permitId ∉ (d.remembering w .opening p.permitId).memory w.worker .closing := by
    simpa [Desk.remembering] using hmemory.2
  have horderText : isExactText "order-2" = true := by decide
  obtain ⟨s₄, row, hrow, hreleased, hcloses⟩ := returns_closePosition
    (d := ⟨s₃, (d.remembering w .opening p.permitId).memory, some (w.openRequest p)⟩) hcanClose
    hquiet horderText hnew rfl (hsubmitClose _) hclosing rfl rfl (by simp [filledPositions])
  obtain ⟨q, _, hq, -, hstate, -⟩ := hfilled.paired
  refine ⟨_, _, hreturns, ?_, hcloses, ?_⟩
  · rw [permitState, hq, Option.map_some, hstate]
  · rw [reservationState, hrow, Option.map_some, hreleased]

theorem sceneClose_ne_scenePermit : sceneClose.permitId ≠ scenePermit.permitId := by
  have hclose : sceneClose.permitId.toList.head? = some 'p' := by
    rw [show sceneClose.permitId = closePermitId _ _ _ _ _ _ _ from rfl, closePermitId,
      String.toList_append]
    rfl
  have hopen : scenePermit.permitId.toList.head? = some 'r' := by
    rw [show scenePermit.permitId = paperExecutionPermitId _ from rfl, paperExecutionPermitId,
      String.toList_append]
    rfl
  intro heq
  rw [heq, hopen] at hclose
  cases hclose

theorem open_close_returns_scene : ∃ d₁ d₂,
    Returns (.still (.utc 1200) (fillingBroker (.utc 1200) "PA1" legRows))
      (sceneWorker.openPosition scenePermit) sceneDesk (.openFilled, "order-1") d₁ ∧
    Returns (.still (.utc 1700) (fillingBroker (.utc 1700) "PA1" []))
      (sceneWorker.closePosition scenePermit sceneClose "order-1") d₁ (.closedFlat, "order-2") d₂ := by
  obtain ⟨correlation, hcorrelation⟩ := withClosePermit_returns sceneCorrelation
    (strip_ne_empty_of_isExactText isExactText_sceneClose)
  have hcan := canClose_scene hcorrelation
  have hnone : ∀ i ∈ sceneDesk.ledger.lifecycleIntents, False := by
    simp [sceneDesk, sceneLedger, Ledger.empty]
  have hclose : WillClose sceneWorker scenePermit sceneClose correlation (.utc 1700)
      sceneDesk.ledger :=
    ⟨rfl, rfl, hcan.deadline, hcan.permit, hcorrelation, rfl, hcan.exit, hcan.issued, hcan.expires,
      isExactText_sceneClose, sceneClose_ne_scenePermit,
      ⟨fun i hi => (hnone i hi).elim, fun i hi => (hnone i hi).elim⟩⟩
  obtain ⟨d₁, d₂, hopened, -, hclosed, -⟩ := @open_close_returns sceneWorker scenePermit sceneClose
    correlation (.utc 1200) (.utc 1700) legRows sceneDesk canOpen_scene hclose (by decide)
    (by simp [sceneDesk]) freshOrder_scene (fun i hi => (hnone i hi).elim) (by decide)
    (sceneRows_accepted.1 _ (by simp))
  exact ⟨d₁, d₂, hopened, hclosed⟩

end EsscherMarket.Lifecycle
