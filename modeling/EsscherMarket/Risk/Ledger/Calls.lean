import EsscherMarket.Risk.Ledger.Effects

/-!
# All calls of the ledger, and the V2 bindings over whole runs

Every method of the ledger that writes, as one type of calls.  A call does one of six things to the
reservations, permits and V2 bindings (`TableStep`), and rows of these tables are never deleted.
-/

namespace EsscherMarket.Risk

open Lib Execution Txn

/-! ### Calls -/

inductive LedgerCall where
  | recordCandidate (a : CandidateArgs)
  | freezeCandidate (a : CandidateArgs)
  | recordNotRun (eventId reason : String) (now : DateTime)
  | markNotRun (eventId reason : String) (now : DateTime)
  | reserve (eventId : String) (amount : Decimal) (underlying : String) (now : DateTime)
  | consumeReservation (eventId : String) (now : DateTime)
  | releaseReservation (eventId : String) (now : DateTime)
  | recordPermit (permitId eventId reservationId permitSha256 : String) (now : DateTime)
  | updatePermitState (permitId toState : String) (now : DateTime)
  | recordLifecycleIntent (a : LifecycleIntentArgs)
  | bindLifecycleIntent (permitId : String) (phase : IntentPhase) (brokerOrderId : String)
      (now : DateTime)
  | markLifecycleIntentReconciled (permitId : String) (now : DateTime)
  | recordSubmission (a : SubmissionArgs)
  | recordFill (a : FillArgs)
  | reconcileObservedOrder (a : ReconcileArgs)
  | releaseConsumedAfterFlat (eventId permitId : String) (now : DateTime)
  | reserveAndIssuePermit (a : ReserveArgs)
  | reserveV2AndIssuePermit (a : ReserveV2Args)
  | recordAccountSnapshot (equity : Decimal) (now : DateTime)
  | setControlState (state : ControlState) (reason : Option String) (now : DateTime)
  | setControlStateWithPassport (state : ControlState) (reason : Option String) (payload : Json)
      (now : DateTime)

def LedgerCall.Res : LedgerCall → Type
  | reserve _ _ _ _ => String
  | reserveAndIssuePermit _ => String × String × String
  | reserveV2AndIssuePermit _ => V2ReservationReceipt
  | _ => Unit

def LedgerCall.txn : (c : LedgerCall) → LedgerTxn c.Res
  | recordCandidate a => Risk.recordCandidate a
  | freezeCandidate a => Risk.freezeCandidate a
  | recordNotRun eventId reason now => Risk.recordNotRun eventId reason now
  | markNotRun eventId reason now => Risk.markNotRun eventId reason now
  | reserve eventId amount underlying now => Risk.reserve eventId amount underlying now
  | consumeReservation eventId now => Risk.consumeReservation eventId now
  | releaseReservation eventId now => Risk.releaseReservation eventId now
  | recordPermit permitId eventId reservationId permitSha256 now =>
      Risk.recordPermit permitId eventId reservationId permitSha256 now
  | updatePermitState permitId toState now => Risk.updatePermitState permitId toState now
  | recordLifecycleIntent a => Risk.recordLifecycleIntent a
  | bindLifecycleIntent permitId phase brokerOrderId now =>
      Risk.bindLifecycleIntent permitId phase brokerOrderId now
  | markLifecycleIntentReconciled permitId now => Risk.markLifecycleIntentReconciled permitId now
  | recordSubmission a => Risk.recordSubmission a
  | recordFill a => Risk.recordFill a
  | reconcileObservedOrder a => Risk.reconcileObservedOrder a
  | releaseConsumedAfterFlat eventId permitId now =>
      Risk.releaseConsumedAfterFlat eventId permitId now
  | reserveAndIssuePermit a => Risk.reserveAndIssuePermit a
  | reserveV2AndIssuePermit a => Risk.reserveV2AndIssuePermit a
  | recordAccountSnapshot equity now => Risk.recordAccountSnapshot equity now
  | setControlState state reason now => Risk.setControlState state reason now
  | setControlStateWithPassport state reason payload now =>
      Risk.setControlStateWithPassport state reason payload now

def LedgerCall.exec (s : Ledger) (c : LedgerCall) : Ledger := c.txn.after s

/-! ### What a call does to reservations, permits and bindings -/

/-- What one call can do to the three tables. -/
inductive TableStep (s s' : Ledger) : Prop where
  | frame (hr : s'.reservations = s.reservations) (hp : s'.permits = s.permits)
      (hv : s'.v2Reservations = s.v2Reservations)
  | reserve (r : ReservationRow) (hid : ∀ r' ∈ s.reservations, r'.reservationId ≠ r.reservationId)
      (hr : s'.reservations = s.reservations ++ [r]) (hp : s'.permits = s.permits)
      (hv : s'.v2Reservations = s.v2Reservations)
  | permit (p : PermitRow) (hid : ∀ p' ∈ s.permits, p'.permitId ≠ p.permitId)
      (hr : s'.reservations = s.reservations) (hp : s'.permits = s.permits ++ [p])
      (hv : s'.v2Reservations = s.v2Reservations)
  | hold (r : ReservationRow) (p : PermitRow)
      (hrid : ∀ r' ∈ s.reservations, r'.reservationId ≠ r.reservationId)
      (hpid : ∀ p' ∈ s.permits, p'.permitId ≠ p.permitId)
      (hr : s'.reservations = s.reservations ++ [r]) (hp : s'.permits = s.permits ++ [p])
      (hv : s'.v2Reservations = s.v2Reservations)
  | holdV2 (a : ReserveV2Args) (tier : RiskTier) (hfree : V2Free s a)
      (h : s' = s.heldV2 a tier)
  | update (f : PermitRow → PermitRow) (g : ReservationRow → ReservationRow)
      (hf : ∀ p, (f p).permitId = p.permitId)
      (hg : ∀ r, (g r).reservationId = r.reservationId ∧ (g r).eventId = r.eventId ∧
        (g r).amount = r.amount ∧ (g r).underlying = r.underlying)
      (hr : s'.reservations = s.reservations.map g) (hp : s'.permits = s.permits.map f)
      (hv : s'.v2Reservations = s.v2Reservations)

theorem tableStep_reservationsSet {s s' : Ledger} {event : String} {q : ReservationState}
    {now : DateTime} (hr : s'.reservations = reservationsSet event q now s.reservations)
    (hp : s'.permits = s.permits) (hv : s'.v2Reservations = s.v2Reservations) : TableStep s s' := by
  refine .update id (fun r => if r.eventId = event then { r with state := q, updatedAt := now } else r)
    (fun _ => rfl) ?_ ?_ ?_ hv
  · intro r
    split <;> exact ⟨rfl, rfl, rfl, rfl⟩
  · simp [hr, reservationsSet, Table.setWhere]
  · simp [hp]

theorem tableStep_permitsSet {s s' : Ledger} {permitId : String} {t : PermitState}
    {now : DateTime} (hr : s'.reservations = s.reservations)
    (hp : s'.permits = permitsSet permitId t now s.permits)
    (hv : s'.v2Reservations = s.v2Reservations) : TableStep s s' := by
  refine .update (fun p => if p.permitId = permitId then { p with state := t, updatedAt := now } else p)
    id ?_ (fun _ => ⟨rfl, rfl, rfl, rfl⟩) ?_ ?_ hv
  · intro p
    split <;> rfl
  · simp [hr]
  · simp [hp, permitsSet, Table.setWhere]

theorem TableStep.of_after {α : Type} {x : LedgerTxn α} {s : Ledger} (hx : Atomic x)
    (hok : ∀ {a s'}, x s = .ok a s' → TableStep s s') : TableStep s (Txn.after x s) := by
  rcases hx.after_cases s with ⟨a, ha⟩ | hs
  · exact hok ha
  · rw [hs]
    exact .frame rfl rfl rfl

/-- What a call does to the three tables. -/
theorem tableStep_exec (s : Ledger) (c : LedgerCall) : TableStep s (c.exec s) := by
  cases c with
  | recordCandidate a =>
    refine .of_after (atomic_recordCandidate a) fun hok => ?_
    obtain ⟨rows, rfl⟩ := recordCandidate_ok hok
    exact .frame rfl rfl rfl
  | freezeCandidate a =>
    refine .of_after (atomic_freezeCandidate a) fun hok => ?_
    obtain ⟨rows, events, rfl⟩ := freezeCandidate_ok hok
    exact .frame rfl rfl rfl
  | recordNotRun eventId reason now =>
    refine .of_after (atomic_recordNotRunWith false eventId reason now) fun hok => ?_
    obtain ⟨-, events, rfl⟩ := recordNotRunWith_ok hok
    exact .frame rfl rfl rfl
  | markNotRun eventId reason now =>
    refine .of_after (atomic_recordNotRunWith true eventId reason now) fun hok => ?_
    obtain ⟨-, events, rfl⟩ := recordNotRunWith_ok hok
    exact .frame rfl rfl rfl
  | reserve eventId amount underlying now =>
    refine .of_after (atomic_reserve eventId amount underlying now) fun hok => ?_
    obtain ⟨hid, -, rfl⟩ := reserve_ok hok
    exact .reserve _ hid rfl rfl rfl
  | consumeReservation eventId now =>
    refine .of_after (atomic_transitionReservation eventId .reserved .consumed now) fun hok => ?_
    rw [transitionReservation_ok hok]
    exact tableStep_reservationsSet rfl rfl rfl
  | releaseReservation eventId now =>
    refine .of_after (atomic_transitionReservation eventId .reserved .released now) fun hok => ?_
    rw [transitionReservation_ok hok]
    exact tableStep_reservationsSet rfl rfl rfl
  | recordPermit permitId eventId reservationId permitSha256 now =>
    refine .of_after (atomic_recordPermit permitId eventId reservationId permitSha256 now)
      fun hok => ?_
    obtain ⟨hid, rfl⟩ := recordPermit_ok hok
    exact .permit _ hid rfl rfl rfl
  | updatePermitState permitId toState now =>
    refine .of_after (atomic_updatePermitState permitId toState now) fun hok => ?_
    rw [updatePermitState_ok hok]
    exact tableStep_permitsSet rfl rfl rfl
  | recordLifecycleIntent a =>
    refine .of_after (atomic_recordLifecycleIntent a) fun hok => ?_
    obtain ⟨row, events, -, -, -, rfl⟩ := recordLifecycleIntent_ok hok
    exact .frame rfl rfl rfl
  | bindLifecycleIntent permitId phase brokerOrderId now =>
    refine .of_after (atomic_bindLifecycleIntent permitId phase brokerOrderId now) fun hok => ?_
    obtain ⟨events, rfl⟩ := bindLifecycleIntent_ok hok
    exact .frame rfl rfl rfl
  | markLifecycleIntentReconciled permitId now =>
    refine .of_after (atomic_markLifecycleIntentReconciled permitId now) fun hok => ?_
    rw [markLifecycleIntentReconciled_ok hok]
    exact .frame rfl rfl rfl
  | recordSubmission a =>
    refine .of_after (atomic_recordSubmission a) fun hok => ?_
    obtain ⟨p, r, events, -, -, -, -, -, -, -, rfl⟩ := recordSubmission_ok hok
    exact tableStep_permitsSet rfl rfl rfl
  | recordFill a =>
    refine .of_after (atomic_recordFill a) fun hok => ?_
    obtain ⟨rows, rfl⟩ := recordFill_ok hok
    exact .frame rfl rfl rfl
  | reconcileObservedOrder a =>
    refine .of_after (atomic_reconcileObservedOrder a) fun hok => ?_
    obtain ⟨p, r, t, q, fills, events, -, -, -, -, -, -, -, rfl⟩ := reconcileObservedOrder_ok hok
    refine .update
      (fun p => if p.permitId = a.permitId then { p with state := t, updatedAt := a.now } else p)
      (fun r => if r.eventId = a.eventId then { r with state := q, updatedAt := a.now } else r)
      ?_ ?_ ?_ ?_ rfl
    · intro p
      split <;> rfl
    · intro r
      split <;> exact ⟨rfl, rfl, rfl, rfl⟩
    · simp [reservationsSet, Table.setWhere]
    · simp [permitsSet, Table.setWhere]
  | releaseConsumedAfterFlat eventId permitId now =>
    refine .of_after (atomic_releaseConsumedAfterFlat eventId permitId now) fun hok => ?_
    obtain ⟨p, r, events, -, -, -, -, -, -, rfl⟩ := releaseConsumedAfterFlat_ok hok
    exact tableStep_reservationsSet rfl rfl rfl
  | reserveAndIssuePermit a =>
    refine .of_after (atomic_reserveAndIssuePermit a) fun hok => ?_
    obtain ⟨-, -, -, hfree, -, rfl⟩ := reserveAndIssuePermit_eq_ok.mp hok
    exact .hold _ _ hfree.reservationIds hfree.permitIds rfl rfl rfl
  | reserveV2AndIssuePermit a =>
    refine .of_after (atomic_reserveV2AndIssuePermit a) fun hok => ?_
    rcases reserveV2AndIssuePermit_ok hok with rfl | ⟨tier, hfree, rfl⟩
    · exact .frame rfl rfl rfl
    · exact .holdV2 a tier hfree rfl
  | recordAccountSnapshot equity now =>
    refine .of_after (atomic_recordAccountSnapshot equity now) fun hok => ?_
    obtain ⟨rows, rfl⟩ := recordAccountSnapshot_ok hok
    exact .frame rfl rfl rfl
  | setControlState state reason now =>
    refine .of_after (atomic_setControlState state reason now) fun hok => ?_
    rw [setControlState_ok hok]
    exact .frame rfl rfl rfl
  | setControlStateWithPassport state reason payload now =>
    refine .of_after (atomic_setControlStateWithPassport state reason payload now) fun hok => ?_
    obtain ⟨events, rfl⟩ := setControlStateWithPassport_ok hok
    exact .frame rfl rfl rfl

/-! ### The V2 bindings -/

/-- Identities are unique, and every V2 binding agrees with its reservation and has its permit. -/
structure V2Consistent (s : Ledger) : Prop where
  reservationIds : (s.reservations.map (·.reservationId)).Nodup
  permitIds : (s.permits.map (·.permitId)).Nodup
  bindingIds : (s.v2Reservations.map (·.reservationId)).Nodup
  bound : ∀ v ∈ s.v2Reservations, ∃ r ∈ s.reservations, r.reservationId = v.reservationId ∧
    r.amount = v.amount ∧ r.underlying = v.underlying
  permitted : ∀ v ∈ s.v2Reservations, ∃ p ∈ s.permits, p.permitId = v.permitId

namespace V2Consistent

variable {s s' : Ledger}

theorem empty : V2Consistent Ledger.empty := by
  constructor <;> simp [Ledger.empty]

/-- More reservations and permits, under new identities, and the same bindings. -/
theorem extend (h : V2Consistent s)
    (hrid : (s'.reservations.map (·.reservationId)).Nodup)
    (hpid : (s'.permits.map (·.permitId)).Nodup)
    (hr : ∀ r ∈ s.reservations, r ∈ s'.reservations) (hp : ∀ p ∈ s.permits, p ∈ s'.permits)
    (hv : s'.v2Reservations = s.v2Reservations) : V2Consistent s' := by
  refine ⟨hrid, hpid, by rw [hv]; exact h.bindingIds, ?_, ?_⟩
  · intro v hmem
    obtain ⟨r, hr', he⟩ := h.bound v (hv ▸ hmem)
    exact ⟨r, hr r hr', he⟩
  · intro v hmem
    obtain ⟨p, hp', he⟩ := h.permitted v (hv ▸ hmem)
    exact ⟨p, hp p hp', he⟩

theorem holdV2 (h : V2Consistent s) {a : ReserveV2Args} {tier : RiskTier} (hfree : V2Free s a) :
    V2Consistent (s.heldV2 a tier) := by
  constructor
  · exact Table.nodup_map_concat h.reservationIds hfree.reservationIds
  · exact Table.nodup_map_concat h.permitIds hfree.permitIds
  · exact Table.nodup_map_concat h.bindingIds hfree.bindingIds
  · intro v hv
    rcases List.mem_append.mp hv with hv | hv
    · obtain ⟨r, hr, he⟩ := h.bound v hv
      exact ⟨r, List.mem_append_left _ hr, he⟩
    · rw [List.mem_singleton.mp hv]
      exact ⟨_, List.mem_append_right _ (List.mem_singleton_self _), rfl, rfl, rfl⟩
  · intro v hv
    rcases List.mem_append.mp hv with hv | hv
    · obtain ⟨p, hp, he⟩ := h.permitted v hv
      exact ⟨p, List.mem_append_left _ hp, he⟩
    · rw [List.mem_singleton.mp hv]
      exact ⟨_, List.mem_append_right _ (List.mem_singleton_self _), rfl⟩

/-- One call keeps the bindings consistent. -/
theorem step (h : V2Consistent s) (hstep : TableStep s s') : V2Consistent s' := by
  cases hstep with
  | frame hr hp hv =>
    refine h.extend ?_ ?_ ?_ ?_ hv
    · rw [hr]
      exact h.reservationIds
    · rw [hp]
      exact h.permitIds
    · simp [hr]
    · simp [hp]
  | reserve r hid hr hp hv =>
    refine h.extend ?_ ?_ ?_ ?_ hv
    · rw [hr]
      exact Table.nodup_map_concat h.reservationIds hid
    · rw [hp]
      exact h.permitIds
    · intro r' hr'
      rw [hr]
      exact List.mem_append_left _ hr'
    · simp [hp]
  | permit p hid hr hp hv =>
    refine h.extend ?_ ?_ ?_ ?_ hv
    · rw [hr]
      exact h.reservationIds
    · rw [hp]
      exact Table.nodup_map_concat h.permitIds hid
    · simp [hr]
    · intro p' hp'
      rw [hp]
      exact List.mem_append_left _ hp'
  | hold r p hrid hpid hr hp hv =>
    refine h.extend ?_ ?_ ?_ ?_ hv
    · rw [hr]
      exact Table.nodup_map_concat h.reservationIds hrid
    · rw [hp]
      exact Table.nodup_map_concat h.permitIds hpid
    · intro r' hr'
      rw [hr]
      exact List.mem_append_left _ hr'
    · intro p' hp'
      rw [hp]
      exact List.mem_append_left _ hp'
  | holdV2 a tier hfree heq =>
    rw [heq]
    exact h.holdV2 hfree
  | update f g hf hg hr hp hv =>
    constructor
    · rw [hr, List.map_map]
      simpa [Function.comp_def, hg] using h.reservationIds
    · rw [hp, List.map_map]
      simpa [Function.comp_def, hf] using h.permitIds
    · rw [hv]
      exact h.bindingIds
    · intro v hmem
      obtain ⟨r, hr', hid, ham, hun⟩ := h.bound v (hv ▸ hmem)
      obtain ⟨g1, -, g3, g4⟩ := hg r
      exact ⟨g r, hr ▸ List.mem_map_of_mem hr', g1.trans hid, g3.trans ham, g4.trans hun⟩
    · intro v hmem
      obtain ⟨p, hp', hid⟩ := h.permitted v (hv ▸ hmem)
      exact ⟨f p, hp ▸ List.mem_map_of_mem hp', (hf p).trans hid⟩

end V2Consistent

/-- The ledgers reached from a freshly migrated one by any sequence of calls. -/
def Ledger.Reachable (s : Ledger) : Prop :=
  ∃ calls : List LedgerCall, s = calls.foldl LedgerCall.exec Ledger.empty

theorem v2Consistent_run {s : Ledger} (h : V2Consistent s) (calls : List LedgerCall) :
    V2Consistent (calls.foldl LedgerCall.exec s) := by
  induction calls generalizing s with
  | nil => exact h
  | cons c rest ih => exact ih (h.step (tableStep_exec s c))

/-- The bindings are consistent in every reachable ledger. -/
theorem v2Consistent_reachable {s : Ledger} (h : s.Reachable) : V2Consistent s := by
  obtain ⟨calls, rfl⟩ := h
  exact v2Consistent_run .empty calls

/-! ### Bindings are never lost -/

theorem v2Join_isSome {s : Ledger} {v : V2ReservationRow} :
    (s.v2Join v).isSome ↔ (∃ r ∈ s.reservations, r.reservationId = v.reservationId) ∧
      ∃ p ∈ s.permits, p.permitId = v.permitId := by
  unfold Ledger.v2Join
  cases hr : s.reservations.find? fun r => r.reservationId = v.reservationId with
  | none =>
    have hr' : ¬ ∃ r ∈ s.reservations, r.reservationId = v.reservationId := by
      simpa using hr
    simp [hr']
  | some r =>
    have hr' : ∃ r ∈ s.reservations, r.reservationId = v.reservationId :=
      ⟨r, List.mem_of_find?_eq_some hr, by simpa using List.find?_some hr⟩
    cases hp : s.permits.find? fun p => p.permitId = v.permitId with
    | none =>
      have hp' : ¬ ∃ p ∈ s.permits, p.permitId = v.permitId := by
        simpa using hp
      simp [hp']
    | some p =>
      have hp' : ∃ p ∈ s.permits, p.permitId = v.permitId :=
        ⟨p, List.mem_of_find?_eq_some hp, by simpa using List.find?_some hp⟩
      simp [hr', hp']

/-- The event or the opportunity of a call is bound to a reservation with a permit. -/
theorem v2Existing_isSome {s : Ledger} {a : ReserveV2Args} :
    (v2Existing s a).isSome ↔ ∃ v ∈ s.v2Reservations,
      (v.eventId = a.eventId ∨ v.opportunityId = a.opportunityId) ∧ (s.v2Join v).isSome := by
  simp only [v2Existing, Option.isSome_or, Bool.or_eq_true, Ledger.v2ReservationForEvent,
    Ledger.v2ReservationForOpportunity, List.findSome?_isSome_iff]
  constructor
  · rintro (⟨v, hv, h⟩ | ⟨v, hv, h⟩)
    · split at h
      · exact ⟨v, hv, .inl ‹_›, h⟩
      · cases h
    · split at h
      · exact ⟨v, hv, .inr ‹_›, h⟩
      · cases h
  · rintro ⟨v, hv, he | ho, h⟩
    · exact .inl ⟨v, hv, by rwa [if_pos he]⟩
    · exact .inr ⟨v, hv, by rwa [if_pos ho]⟩

/-- A binding with its reservation and its permit survives every call. -/
theorem v2Bound_step {s s' : Ledger} (hstep : TableStep s s') {v : V2ReservationRow}
    (hv : v ∈ s.v2Reservations) (hj : (s.v2Join v).isSome) :
    v ∈ s'.v2Reservations ∧ (s'.v2Join v).isSome := by
  rw [v2Join_isSome] at hj ⊢
  obtain ⟨⟨r, hr, hrid⟩, p, hp, hpid⟩ := hj
  cases hstep with
  | frame hr' hp' hv' => exact ⟨hv' ▸ hv, ⟨r, hr' ▸ hr, hrid⟩, p, hp' ▸ hp, hpid⟩
  | reserve r₀ hid hr' hp' hv' =>
    exact ⟨hv' ▸ hv, ⟨r, hr' ▸ List.mem_append_left _ hr, hrid⟩, p, hp' ▸ hp, hpid⟩
  | permit p₀ hid hr' hp' hv' =>
    exact ⟨hv' ▸ hv, ⟨r, hr' ▸ hr, hrid⟩, p, hp' ▸ List.mem_append_left _ hp, hpid⟩
  | hold r₀ p₀ hrid' hpid' hr' hp' hv' =>
    exact ⟨hv' ▸ hv, ⟨r, hr' ▸ List.mem_append_left _ hr, hrid⟩, p,
      hp' ▸ List.mem_append_left _ hp, hpid⟩
  | holdV2 a tier hfree heq =>
    subst heq
    exact ⟨List.mem_append_left _ hv, ⟨r, List.mem_append_left _ hr, hrid⟩, p,
      List.mem_append_left _ hp, hpid⟩
  | update f g hf hg hr' hp' hv' =>
    exact ⟨hv' ▸ hv, ⟨g r, hr' ▸ List.mem_map_of_mem hr, (hg r).1.trans hrid⟩, f p,
      hp' ▸ List.mem_map_of_mem hp, (hf p).trans hpid⟩

theorem v2Existing_isSome_run {s : Ledger} {a : ReserveV2Args} (h : (v2Existing s a).isSome)
    (calls : List LedgerCall) : (v2Existing (calls.foldl LedgerCall.exec s) a).isSome := by
  induction calls generalizing s with
  | nil => exact h
  | cons c rest ih =>
    apply ih
    rw [v2Existing_isSome] at h ⊢
    obtain ⟨v, hv, ha, hj⟩ := h
    obtain ⟨hv', hj'⟩ := v2Bound_step (tableStep_exec s c) hv hj
    exact ⟨v, hv', ha, hj'⟩

end EsscherMarket.Risk
