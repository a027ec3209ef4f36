import EsscherMarket.Risk.Ledger.Effects

/-!
# When the lifecycle methods return

`Effects` reads off what a method has done where it returned; this file gives, for the methods that
the lifecycle worker calls, what is enough for them to return, with the ledger that results.
-/

namespace EsscherMarket.Risk

open Lib Execution Txn

variable {s : Ledger}

/-! ### Lifecycle intents -/

def LifecycleIntentArgs.row (a : LifecycleIntentArgs) : LifecycleIntentRow :=
  ⟨a.permitId, a.phase, a.eventId, a.openPermitId, a.reservationId, a.correlationSha256,
    a.policySha256, a.snapshotSha256, a.accountId, a.accountClass, a.orderClass,
    a.clientOrderId, a.requestSha256, a.requestJson, none, .intended, a.now, a.now⟩

/-- The arguments that `record_lifecycle_intent` accepts. -/
structure IntentArgsOk (a : LifecycleIntentArgs) : Prop where
  permitId : isExactText a.permitId
  eventId : isExactText a.eventId
  openPermitId : isExactText a.openPermitId
  reservationId : isExactText a.reservationId
  correlation : isLowerHex 64 a.correlationSha256
  policy : isLowerHex 64 a.policySha256
  snapshot : isLowerHex 64 a.snapshotSha256
  accountId : isExactText a.accountId
  accountClass : isExactText a.accountClass
  orderClass : isExactText a.orderClass
  clientOrderId : isExactText a.clientOrderId
  request : a.requestJson.isObject
  requestSha256 : a.requestSha256 = a.requestJson.sha256
  fields : (expectedRequestFields a).all (fieldIs a.requestJson)
  nowUtc : a.now.tzinfo = .utc

theorem validatedIntent_of {a : LifecycleIntentArgs} (h : IntentArgsOk a) :
    validatedIntent a = .ok a.row := by
  have hhash : isLowerHex 64 a.requestSha256 := by
    rw [h.requestSha256]
    exact Json.isLowerHex_sha256 _
  simp only [validatedIntent, except_bind_eq_ok, identifier_eq_ok, sha256Text_eq_ok,
    throwIf_eq_ok, timestamp_eq_ok, except_pure_eq_ok, not_not]
  exact ⟨_, ⟨h.permitId, rfl⟩, _, ⟨h.eventId, rfl⟩, _, ⟨h.openPermitId, rfl⟩, _,
    ⟨h.reservationId, rfl⟩, _, ⟨h.correlation, rfl⟩, _, ⟨h.policy, rfl⟩, _, ⟨h.snapshot, rfl⟩, _,
    ⟨h.accountId, rfl⟩, _, ⟨h.accountClass, rfl⟩, _, ⟨h.orderClass, rfl⟩, _,
    ⟨h.clientOrderId, rfl⟩, _, ⟨hhash, rfl⟩, (), by simp [h.request, h.requestSha256], (), h.fields,
    _, ⟨h.nowUtc, rfl⟩, rfl⟩

theorem recordLifecycleIntent_returns {a : LifecycleIntentArgs} (h : IntentArgsOk a)
    (hpermit : ∀ i ∈ s.lifecycleIntents, i.permitId ≠ a.permitId)
    (hevent : ∀ i ∈ s.lifecycleIntents, i.eventId = a.eventId → i.phase ≠ a.phase) :
    ∃ s', recordLifecycleIntent a s = .ok () s' := by
  simp only [recordLifecycleIntent, lift_bind_eq_ok, immediateOr_eq_ok]
  simp only [bind_eq_ok, appendPassport_eq_ok]
  exact ⟨_, a.row, validatedIntent_of h, (), _,
    (insertLifecycleIntent_eq_ok rfl).mpr ⟨⟨hpermit, hevent⟩, rfl⟩, h.nowUtc, rfl⟩

theorem bindLifecycleIntent_returns {permitId brokerOrderId : String} {phase : IntentPhase}
    {now : DateTime} {i : LifecycleIntentRow} (hpermit : isExactText permitId)
    (horder : isExactText brokerOrderId) (hnow : now.tzinfo = .utc)
    (hfound : s.lifecycleIntentForPermit permitId = some i) (hphase : i.phase = phase)
    (hstate : i.state = .intended)
    (hfree : ∀ i ∈ s.lifecycleIntents, i.brokerOrderId ≠ some brokerOrderId) :
    ∃ s', bindLifecycleIntent permitId phase brokerOrderId now s = .ok () s' := by
  have hothers : ¬ (s.lifecycleIntents.any fun i =>
      i.permitId ≠ permitId ∧ i.brokerOrderId = some brokerOrderId) = true := by
    simp only [List.any_eq_true, decide_eq_true_eq, not_exists, not_and]
    exact fun i hi _ => hfree i hi
  have hmatch : (s.lifecycleIntentForPermit permitId).filter
      (fun i => i.phase = phase ∧ i.state = .intended) = some i := by
    simp [hfound, hphase, hstate]
  simp only [bindLifecycleIntent, identifier_bind_eq_ok, timestamp_bind_eq_ok, immediateOr_eq_ok,
    select_bind_eq_ok, orRaise_bind_eq_ok, raiseIf_bind_eq_ok, write_bind_eq_ok,
    appendPassport_eq_ok]
  exact ⟨_, hpermit, horder, hnow, i, hmatch, hothers, hnow, rfl⟩

theorem markLifecycleIntentReconciled_returns {permitId : String} {now : DateTime}
    {i : LifecycleIntentRow} (hpermit : isExactText permitId) (hnow : now.tzinfo = .utc)
    (hfound : s.lifecycleIntentForPermit permitId = some i) (hstate : i.state = .submitted) :
    ∃ s', markLifecycleIntentReconciled permitId now s = .ok () s' := by
  have hbound : ¬ (s.lifecycleIntentForPermit permitId).map (·.state) ≠ some .submitted := by
    simp [hfound, hstate]
  simp only [markLifecycleIntentReconciled, identifier_bind_eq_ok, timestamp_bind_eq_ok,
    immediate_eq_ok, select_bind_eq_ok, raiseIf_bind_eq_ok, write_eq_ok]
  exact ⟨_, hpermit, hnow, hbound, rfl⟩

/-! ### Permits and reservations -/

structure Paired (s : Ledger) (permitId eventId : String) (ps : PermitState)
    (rs : ReservationState) : Prop where
  pair : ∃ p r, s.permit permitId = some p ∧ p.eventId = eventId ∧ p.state = ps ∧
    s.reservationForEvent eventId = some r ∧ r.reservationId = p.reservationId ∧ r.state = rs

theorem transitionPermit_returns {permitId : String} {p : PermitRow} {expected target : PermitState}
    {now : DateTime} (hp : s.permit permitId = some p) (hstate : p.state = expected)
    (hnow : now.tzinfo = .utc) :
    transitionPermit permitId expected target now s =
      .ok () (s.withPermits (permitsSet permitId target now s.permits)) := by
  simp only [transitionPermit, select_bind_eq_ok, orRaise_bind_eq_ok, raiseIf_bind_eq_ok,
    timestamp_bind_eq_ok, write_eq_ok, not_not]
  exact ⟨p, hp, hstate, hnow, trivial⟩

theorem recordSubmission_returns {a : SubmissionArgs}
    (h : Paired s a.permitId a.eventId .issued .reserved) (hevent : isExactText a.eventId) (hpermit : isExactText a.permitId)
    (horder : isExactText a.brokerOrderId) (hnow : a.now.tzinfo = .utc)
    (hfresh : ∀ x ∈ s.submissions, x.permitId ≠ a.permitId)
    (hfree : ∀ x ∈ s.submissions, x.brokerOrderId ≠ a.brokerOrderId)
    (hpassport : a.appendPassport = false) : ∃ s', recordSubmission a s = .ok () s' := by
  obtain ⟨p, r, hp, hpe, hps, hr, hid, hst⟩ := h.pair
  obtain ⟨hpm, hpid⟩ : p ∈ s.permits ∧ p.permitId = a.permitId :=
    ⟨List.mem_of_find?_eq_some hp, by simpa using List.find?_some hp⟩
  have hexists : ∃ q ∈ permitsSet a.permitId .submitted a.now s.permits,
      q.permitId = a.permitId := by
    refine ⟨_, List.mem_map_of_mem hpm, ?_⟩
    split <;> exact hpid
  simp only [recordSubmission, identifier_bind_eq_ok, timestamp_bind_eq_ok, immediateOr_eq_ok,
    select_bind_eq_ok, orRaise_bind_eq_ok, Option.filter_eq_some_iff, decide_eq_true_eq, id]
  simp only [bind_eq_ok, insertSubmission_eq_ok, hpassport, Bool.false_eq_true, if_false,
    pure_eq_ok]
  exact ⟨_, hevent, hpermit, horder, hnow, p, ⟨hp, hpe⟩, r, ⟨hr, hid, hst⟩, (), _,
    transitionPermit_returns hp hps hnow, (), _, ⟨⟨hfresh, hfree⟩, hexists, rfl⟩, trivial,
    rfl⟩

/-- A complete fill is recorded once. -/
theorem reconcileObservedOrder_returns {a : ReconcileArgs} {x : SubmissionRow}
    (h : Paired s a.permitId a.eventId .submitted .reserved)
    (hevent : isExactText a.eventId) (hpermit : isExactText a.permitId)
    (horder : isExactText a.brokerOrderId) (hstatus : a.status = "FILLED")
    (hquantity : a.filledQuantity.isFinite ∧ 0 < a.filledQuantity.toRat)
    (hobserved : a.observedAt.tzinfo = .utc) (hnow : a.now.tzinfo = .utc)
    (hx : s.submissionForPermit a.permitId = some x) (hxe : x.eventId = a.eventId)
    (hxo : x.brokerOrderId = a.brokerOrderId)
    (hfree : ∀ f ∈ s.fills, f.fillId ≠ a.brokerOrderId) :
    ∃ s', reconcileObservedOrder a s = .ok () s' := by
  obtain ⟨p, r, hp, hpe, hps, hr, hid, hst⟩ := h.pair
  have hterminal : terminalTransition a.permitId a.status a.filledQuantity.toRat =
      .ok (.filled, .consumed, .fillObserved) := by
    rw [terminalTransition, if_pos hstatus, if_neg (not_le.mpr hquantity.2)]
  have hstatusText : isExactText a.status := by
    rw [hstatus]
    decide
  simp only [reconcileObservedOrder, identifier_bind_eq_ok, amountOf_bind_eq_ok,
    timestamp_bind_eq_ok, immediateOr_eq_ok, select_bind_eq_ok, orRaise_bind_eq_ok,
    raiseIf_bind_eq_ok, Option.filter_eq_some_iff, decide_eq_true_eq, not_not, id]
  simp only [lift_bind_eq_ok]
  simp only [settle, bind_eq_ok, setReservationState_eq_ok, insertFill_eq_ok,
    appendPassport_eq_ok]
  exact ⟨_, hevent, hpermit, horder, hstatusText, ⟨hquantity.1, hquantity.2.le⟩, hobserved, hnow, p,
    ⟨hp, hpe⟩, x, ⟨hx, hxe, hxo⟩, hps, r, ⟨hr, hid, hst⟩, _, hterminal, (), _,
    transitionPermit_returns hp hps hnow, (), _, rfl, (), _, ⟨hfree, rfl⟩, (), _, ⟨hnow, rfl⟩, hnow,
    rfl⟩

theorem releaseConsumedAfterFlat_returns {eventId permitId : String} {now : DateTime}
    (h : Paired s permitId eventId .filled .consumed) (hevent : isExactText eventId)
    (hpermit : isExactText permitId) (hnow : now.tzinfo = .utc) :
    ∃ s', releaseConsumedAfterFlat eventId permitId now s = .ok () s' := by
  obtain ⟨p, r, hp, hpe, hps, hr, hid, hst⟩ := h.pair
  simp only [releaseConsumedAfterFlat, identifier_bind_eq_ok, timestamp_bind_eq_ok,
    immediate_eq_ok, select_bind_eq_ok, orRaise_bind_eq_ok, Option.filter_eq_some_iff,
    decide_eq_true_eq, id]
  simp only [bind_eq_ok, setReservationState_eq_ok, appendPassport_eq_ok]
  exact ⟨_, hevent, hpermit, hnow, p, ⟨hp, hpe, hps⟩, r, ⟨hr, hid, hst⟩, (), _, rfl, hnow, rfl⟩

end EsscherMarket.Risk
