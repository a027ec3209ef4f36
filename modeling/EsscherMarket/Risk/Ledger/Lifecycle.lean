import EsscherMarket.Risk.Ledger.Effects

/-!
# The permit and reservation lifecycle over whole runs

The state of one event is spread over five tables.  They stay in step over every sequence of the
ledger's lifecycle methods, with any arguments and with failing calls included.
-/

namespace EsscherMarket.Risk

open Lib Execution Txn

/-! ### The invariant -/

inductive LifecyclePair : PermitState → ReservationState → Prop where
  | issued : LifecyclePair .issued .reserved
  | submitted : LifecyclePair .submitted .reserved
  | filled : LifecyclePair .filled .consumed
  | flat : LifecyclePair .filled .released
  | cancelled : LifecyclePair .cancelled .released

theorem LifecyclePair.reserved_of_issued {r : ReservationState} (h : LifecyclePair .issued r) :
    r = .reserved := by
  cases h
  rfl

structure LifecycleInv (s : Ledger) : Prop where
  reservationEvents : (s.reservations.map (·.eventId)).Nodup
  permitIds : (s.permits.map (·.permitId)).Nodup
  permitEvents : (s.permits.map (·.eventId)).Nodup
  /-- A permit names the reservation of its event, and their states are a pair. -/
  owns : ∀ p ∈ s.permits, ∃ r ∈ s.reservations, r.eventId = p.eventId ∧
    r.reservationId = p.reservationId ∧ LifecyclePair p.state r.state
  /-- A reservation is never without its permit. -/
  permitted : ∀ r ∈ s.reservations, ∃ p ∈ s.permits, p.eventId = r.eventId
  submitted : ∀ p ∈ s.permits, (∃ x ∈ s.submissions, x.permitId = p.permitId) ↔ p.state ≠ .issued
  submissionPermits : ∀ x ∈ s.submissions, ∃ p ∈ s.permits, p.permitId = x.permitId
  notRunFree : ∀ n ∈ s.notRun, ∀ r ∈ s.reservations, r.eventId ≠ n.eventId

namespace LifecycleInv

variable {s s' : Ledger}

theorem empty : LifecycleInv Ledger.empty := by
  constructor <;> simp [Ledger.empty]

/-- A call that leaves the four tables alone keeps the invariant. -/
theorem frame (h : LifecycleInv s) (hr : s'.reservations = s.reservations)
    (hp : s'.permits = s.permits) (hx : s'.submissions = s.submissions)
    (hn : s'.notRun = s.notRun) : LifecycleInv s' := by
  obtain ⟨h1, h2, h3, h4, h5, h6, h7, h8⟩ := h
  constructor <;> simp only [hr, hp, hx, hn] <;> assumption

theorem abstain (h : LifecycleInv s) {row : NotRunRow}
    (hfree : ∀ r ∈ s.reservations, r.eventId ≠ row.eventId) :
    LifecycleInv (s.withNotRun (s.notRun ++ [row])) := by
  obtain ⟨h1, h2, h3, h4, h5, h6, h7, h8⟩ := h
  refine ⟨h1, h2, h3, h4, h5, h6, h7, ?_⟩
  intro n hn r hr
  rcases List.mem_append.mp hn with hn | hn
  · exact h8 n hn r hr
  · rw [List.mem_singleton.mp hn]
    exact hfree r hr

/-- Storing a new reservation with its permit. -/
theorem hold (h : LifecycleInv s) {r : ReservationRow} {p : PermitRow}
    (hevent : p.eventId = r.eventId) (hid : p.reservationId = r.reservationId)
    (hp : p.state = .issued) (hr : r.state = .reserved)
    (hfresh : ∀ r' ∈ s.reservations, r'.eventId ≠ r.eventId)
    (hpermit : ∀ p' ∈ s.permits, p'.permitId ≠ p.permitId)
    (hnotRun : ∀ n ∈ s.notRun, n.eventId ≠ r.eventId) :
    LifecycleInv ((s.withReservations (s.reservations ++ [r])).withPermits (s.permits ++ [p])) := by
  have hpevent : ∀ p' ∈ s.permits, p'.eventId ≠ p.eventId := by
    intro p' hp' heq
    obtain ⟨r', hr', he, -, -⟩ := h.owns p' hp'
    exact hfresh r' hr' (by rw [he, heq, hevent])
  constructor
  · exact Table.nodup_map_concat h.reservationEvents hfresh
  · exact Table.nodup_map_concat h.permitIds hpermit
  · exact Table.nodup_map_concat h.permitEvents hpevent
  · intro q hq
    rcases List.mem_append.mp hq with hq | hq
    · obtain ⟨r', hr', he⟩ := h.owns q hq
      exact ⟨r', List.mem_append_left _ hr', he⟩
    · rw [List.mem_singleton.mp hq]
      refine ⟨r, by simp, hevent.symm, hid.symm, ?_⟩
      rw [hp, hr]
      exact .issued
  · intro r' hr'
    rcases List.mem_append.mp hr' with hr' | hr'
    · obtain ⟨q, hq, he⟩ := h.permitted r' hr'
      exact ⟨q, List.mem_append_left _ hq, he⟩
    · rw [List.mem_singleton.mp hr']
      exact ⟨p, by simp, hevent⟩
  · intro q hq
    rcases List.mem_append.mp hq with hq | hq
    · exact h.submitted q hq
    · -- the new permit's identity is unused, so no submission names it
      rw [List.mem_singleton.mp hq, hp]
      simp only [ne_eq, not_true_eq_false, iff_false, not_exists, not_and]
      intro x hx heq
      obtain ⟨q', hq', hid'⟩ := h.submissionPermits x hx
      exact hpermit q' hq' (hid'.trans heq)
  · intro x hx
    obtain ⟨q, hq, he⟩ := h.submissionPermits x hx
    exact ⟨q, List.mem_append_left _ hq, he⟩
  · intro n hn r' hr'
    rcases List.mem_append.mp hr' with hr' | hr'
    · exact h.notRunFree n hn r' hr'
    · rw [List.mem_singleton.mp hr']
      exact (hnotRun n hn).symm

/-- Moving permits and reservations together.  The rows change by `f` and `g`, which keep
every identity and keep the states paired. -/
theorem update (h : LifecycleInv s) {f : PermitRow → PermitRow}
    {g : ReservationRow → ReservationRow} {w : List SubmissionRow}
    (hfp : ∀ p, (f p).permitId = p.permitId) (hfe : ∀ p, (f p).eventId = p.eventId)
    (hfr : ∀ p, (f p).reservationId = p.reservationId) (hge : ∀ r, (g r).eventId = r.eventId)
    (hgr : ∀ r, (g r).reservationId = r.reservationId)
    (hpair : ∀ p ∈ s.permits, ∀ r ∈ s.reservations, r.eventId = p.eventId →
      LifecyclePair p.state r.state → LifecyclePair (f p).state (g r).state)
    (hsub : ∀ p ∈ s.permits, (∃ x ∈ w, x.permitId = p.permitId) ↔ (f p).state ≠ .issued)
    (hsubPermits : ∀ x ∈ w, ∃ p ∈ s.permits, p.permitId = x.permitId) :
    LifecycleInv (((s.withReservations (s.reservations.map g)).withPermits
      (s.permits.map f)).withSubmissions w) := by
  constructor
  · simpa [Function.comp_def, hge] using h.reservationEvents
  · simpa [Function.comp_def, hfp] using h.permitIds
  · simpa [Function.comp_def, hfe] using h.permitEvents
  · intro q hq
    obtain ⟨p, hp, rfl⟩ := List.mem_map.mp hq
    obtain ⟨r, hr, he, hid, hst⟩ := h.owns p hp
    refine ⟨g r, List.mem_map_of_mem hr, ?_, ?_, hpair p hp r hr he hst⟩
    · rw [hge, hfe, he]
    · rw [hgr, hfr, hid]
  · intro q hq
    obtain ⟨r, hr, rfl⟩ := List.mem_map.mp hq
    obtain ⟨p, hp, he⟩ := h.permitted r hr
    exact ⟨f p, List.mem_map_of_mem hp, by rw [hfe, hge, he]⟩
  · intro q hq
    obtain ⟨p, hp, rfl⟩ := List.mem_map.mp hq
    rw [hfp]
    exact hsub p hp
  · intro x hx
    obtain ⟨p, hp, he⟩ := hsubPermits x hx
    exact ⟨f p, List.mem_map_of_mem hp, by rw [hfp, he]⟩
  · intro n hn q hq
    obtain ⟨r, hr, rfl⟩ := List.mem_map.mp hq
    rw [hge]
    exact h.notRunFree n hn r hr

end LifecycleInv

/-! ### The rows a lookup returns -/

section Lookup

variable {s : Ledger} {id event : String} {p : PermitRow} {r : ReservationRow}

theorem permit_mem (h : s.permit id = some p) : p ∈ s.permits ∧ p.permitId = id :=
  ⟨List.mem_of_find?_eq_some h, by simpa using List.find?_some h⟩

theorem notRunExists_false (h : s.notRunExists event = false) :
    ∀ n ∈ s.notRun, n.eventId ≠ event := by
  simpa [Ledger.notRunExists] using h

end Lookup

/-! ### One step -/

section Step

variable {s s' : Ledger} {u : Unit}

/-- On a ledger in step, a permit found by identity is the only row of its event. -/
theorem LifecycleInv.permit_unique (h : LifecycleInv s) {p q : PermitRow} (hp : p ∈ s.permits)
    (hq : q ∈ s.permits) (hevent : q.eventId = p.eventId) : q = p :=
  Table.eq_of_key h.permitEvents hq hp hevent

theorem lifecycleInv_recordSubmission {a : SubmissionArgs} (h : LifecycleInv s)
    (hok : recordSubmission a s = .ok u s') : LifecycleInv s' := by
  obtain ⟨p, r, events, hp, hpe, hps, hr, hid, hst, hnew, rfl⟩ := recordSubmission_ok hok
  obtain ⟨hpm, hpid⟩ := permit_mem hp
  have key := h.update (f := fun p => if p.permitId = a.permitId then
      { p with state := .submitted, updatedAt := a.now } else p) (g := id)
    (w := s.submissions ++ [⟨a.permitId, a.eventId, a.brokerOrderId, a.now⟩])
    (by intro q; split <;> rfl) (by intro q; split <;> rfl) (by intro q; split <;> rfl)
    (fun _ => rfl) (fun _ => rfl) ?_ ?_ ?_
  · refine key.frame ?_ ?_ rfl rfl
    · simp
    · simp [permitsSet, Table.setWhere]
  · intro q hq r' hr' he hpair
    by_cases hqid : q.permitId = a.permitId
    · -- the submitted permit was `ISSUED`, so its reservation is `RESERVED`
      have hqp : q = p := Table.eq_of_key h.permitIds hq hpm (hqid.trans hpid.symm)
      subst hqp
      rw [hps] at hpair
      simp only [if_pos hqid, id]
      rw [hpair.reserved_of_issued]
      exact .submitted
    · simpa only [if_neg hqid, id] using hpair
  · intro q hq
    by_cases hqid : q.permitId = a.permitId
    · simp [hqid]
    · simp only [List.mem_append, List.mem_singleton, if_neg hqid]
      rw [← h.submitted q hq]
      constructor
      · rintro ⟨x, hx | rfl, hxid⟩
        · exact ⟨x, hx, hxid⟩
        · exact absurd hxid.symm hqid
      · rintro ⟨x, hx, hxid⟩
        exact ⟨x, .inl hx, hxid⟩
  · intro x hx
    rcases List.mem_append.mp hx with hx | hx
    · exact h.submissionPermits x hx
    · rw [List.mem_singleton.mp hx]
      exact ⟨p, hpm, hpid⟩

theorem lifecycleInv_reconcileObservedOrder {a : ReconcileArgs} (h : LifecycleInv s)
    (hok : reconcileObservedOrder a s = .ok u s') : LifecycleInv s' := by
  obtain ⟨p, r, t, q, fills, events, hp, hpe, hps, hr, hid, hst, htq, rfl⟩ :=
    reconcileObservedOrder_ok hok
  obtain ⟨hpm, hpid⟩ := permit_mem hp
  have htq' : LifecyclePair t q ∧ t ≠ .issued := by
    rcases htq with ⟨-, rfl, rfl⟩ | ⟨-, rfl, rfl⟩
    · exact ⟨.filled, by simp⟩
    · exact ⟨.cancelled, by simp⟩
  have key := h.update (f := fun p => if p.permitId = a.permitId then
      { p with state := t, updatedAt := a.now } else p)
    (g := fun r => if r.eventId = a.eventId then { r with state := q, updatedAt := a.now } else r)
    (w := s.submissions)
    (by intro x; split <;> rfl) (by intro x; split <;> rfl) (by intro x; split <;> rfl)
    (by intro x; split <;> rfl) (by intro x; split <;> rfl) ?_ ?_ h.submissionPermits
  · refine key.frame ?_ ?_ rfl rfl
    · simp [reservationsSet, Table.setWhere]
    · simp [permitsSet, Table.setWhere]
  · intro x hx r' hr' he hpair
    by_cases hxid : x.permitId = a.permitId
    · have hxp : x = p := Table.eq_of_key h.permitIds hx hpm (hxid.trans hpid.symm)
      subst hxp
      simp only [if_pos hxid, if_pos (he.trans hpe)]
      exact htq'.1
    · -- another permit has another event, so its reservation is untouched
      have hxe : x.eventId ≠ a.eventId := by
        intro heq
        exact hxid ((h.permit_unique hpm hx (heq.trans hpe.symm)) ▸ hpid)
      simpa only [if_neg hxid, if_neg (he ▸ hxe)] using hpair
  · intro x hx
    by_cases hxid : x.permitId = a.permitId
    · have hxp : x = p := Table.eq_of_key h.permitIds hx hpm (hxid.trans hpid.symm)
      rw [h.submitted x hx, if_pos hxid, hxp, hps]
      simp [htq'.2]
    · rw [h.submitted x hx, if_neg hxid]

theorem lifecycleInv_releaseConsumedAfterFlat {eventId permitId : String} {now : DateTime}
    (h : LifecycleInv s) (hok : releaseConsumedAfterFlat eventId permitId now s = .ok u s') :
    LifecycleInv s' := by
  obtain ⟨p, r, events, hp, hpe, hps, hr, hid, hst, rfl⟩ := releaseConsumedAfterFlat_ok hok
  obtain ⟨hpm, -⟩ := permit_mem hp
  have key := h.update (f := id)
    (g := fun r => if r.eventId = eventId then { r with state := .released, updatedAt := now } else r)
    (w := s.submissions) (fun _ => rfl) (fun _ => rfl) (fun _ => rfl)
    (by intro x; split <;> rfl) (by intro x; split <;> rfl) ?_ h.submitted h.submissionPermits
  · refine key.frame ?_ ?_ rfl rfl
    · simp [reservationsSet, Table.setWhere]
    · simp
  · intro x hx r' hr' he hpair
    by_cases hre : r'.eventId = eventId
    · have hxp : x = p := h.permit_unique hpm hx (by rw [← he, hre, hpe])
      simp only [if_pos hre, id, hxp, hps]
      exact .flat
    · simpa only [if_neg hre, id] using hpair

theorem lifecycleInv_reserveAndIssuePermit {a : ReserveArgs} {ids : String × String × String}
    (h : LifecycleInv s) (hok : reserveAndIssuePermit a s = .ok ids s') : LifecycleInv s' := by
  obtain ⟨-, -, -, hfree, -, rfl⟩ := reserveAndIssuePermit_eq_ok.mp hok
  refine (h.hold ?_ ?_ ?_ ?_ hfree.events hfree.permitIds
    (notRunExists_false hfree.notRun)).frame rfl rfl rfl rfl <;> rfl

theorem lifecycleInv_reserveV2AndIssuePermit {a : ReserveV2Args} {receipt : V2ReservationReceipt}
    (h : LifecycleInv s) (hok : reserveV2AndIssuePermit a s = .ok receipt s') :
    LifecycleInv s' := by
  rcases reserveV2AndIssuePermit_ok hok with rfl | ⟨tier, hfree, rfl⟩
  · exact h
  · refine (h.hold ?_ ?_ ?_ ?_ hfree.events hfree.permitIds
      (notRunExists_false hfree.notRun)).frame rfl rfl rfl rfl <;> rfl

end Step

/-! ### Runs -/

/-- A call of one of the ledger's lifecycle methods. -/
inductive LifecycleCall where
  | freezeCandidate (a : CandidateArgs)
  | markNotRun (eventId reason : String) (now : DateTime)
  | reserveAndIssuePermit (a : ReserveArgs)
  | reserveV2AndIssuePermit (a : ReserveV2Args)
  | recordSubmission (a : SubmissionArgs)
  | recordFill (a : FillArgs)
  | reconcileObservedOrder (a : ReconcileArgs)
  | releaseConsumedAfterFlat (eventId permitId : String) (now : DateTime)

def LifecycleCall.exec (s : Ledger) : LifecycleCall → Ledger
  | freezeCandidate a => (Risk.freezeCandidate a).after s
  | markNotRun eventId reason now => (Risk.markNotRun eventId reason now).after s
  | reserveAndIssuePermit a => (Risk.reserveAndIssuePermit a).after s
  | reserveV2AndIssuePermit a => (Risk.reserveV2AndIssuePermit a).after s
  | recordSubmission a => (Risk.recordSubmission a).after s
  | recordFill a => (Risk.recordFill a).after s
  | reconcileObservedOrder a => (Risk.reconcileObservedOrder a).after s
  | releaseConsumedAfterFlat eventId permitId now =>
      (Risk.releaseConsumedAfterFlat eventId permitId now).after s

/-- Atomic methods that keep the invariant when they return keep it in every call. -/
theorem LifecycleInv.after {α : Type} {x : LedgerTxn α} {s : Ledger} (h : LifecycleInv s)
    (hx : Atomic x) (hok : ∀ {a s'}, x s = .ok a s' → LifecycleInv s') :
    LifecycleInv (Txn.after x s) := by
  rcases hx.after_cases s with ⟨a, ha⟩ | hs
  · exact hok ha
  · rw [hs]
    exact h

theorem lifecycleInv_exec {s : Ledger} (h : LifecycleInv s) (c : LifecycleCall) :
    LifecycleInv (c.exec s) := by
  cases c with
  | freezeCandidate a =>
    refine h.after (atomic_freezeCandidate a) fun hok => ?_
    obtain ⟨rows, events, rfl⟩ := freezeCandidate_ok hok
    exact h.frame rfl rfl rfl rfl
  | markNotRun eventId reason now =>
    refine h.after (atomic_recordNotRunWith true eventId reason now) fun hok => ?_
    obtain ⟨hnone, events, rfl⟩ := recordNotRunWith_ok hok
    exact (h.abstain (reservationForEvent_none_iff.mp hnone)).frame rfl rfl rfl rfl
  | reserveAndIssuePermit a =>
    exact h.after (atomic_reserveAndIssuePermit a) fun hok =>
      lifecycleInv_reserveAndIssuePermit h hok
  | reserveV2AndIssuePermit a =>
    exact h.after (atomic_reserveV2AndIssuePermit a) fun hok =>
      lifecycleInv_reserveV2AndIssuePermit h hok
  | recordSubmission a =>
    exact h.after (atomic_recordSubmission a) fun hok => lifecycleInv_recordSubmission h hok
  | recordFill a =>
    refine h.after (atomic_recordFill a) fun hok => ?_
    obtain ⟨rows, rfl⟩ := recordFill_ok hok
    exact h.frame rfl rfl rfl rfl
  | reconcileObservedOrder a =>
    exact h.after (atomic_reconcileObservedOrder a) fun hok =>
      lifecycleInv_reconcileObservedOrder h hok
  | releaseConsumedAfterFlat eventId permitId now =>
    exact h.after (atomic_releaseConsumedAfterFlat eventId permitId now) fun hok =>
      lifecycleInv_releaseConsumedAfterFlat h hok

/-- The invariant holds after any sequence of calls. -/
theorem lifecycleInv_run {s : Ledger} (h : LifecycleInv s) (calls : List LifecycleCall) :
    LifecycleInv (calls.foldl LifecycleCall.exec s) := by
  induction calls generalizing s with
  | nil => exact h
  | cons c rest ih => exact ih (lifecycleInv_exec h c)

/-- The lifecycle of every event, in every reachable ledger: a reservation exactly when a permit,
their states one of five pairs, a submission exactly when the permit is not `ISSUED`, and no
reservation of what is `NOT_RUN`. -/
theorem lifecycle_reachable (calls : List LifecycleCall) (event : String) :
    let s := calls.foldl LifecycleCall.exec Ledger.empty
    (s.reservations.filter fun r => r.eventId = event).length ≤ 1 ∧
    (s.permits.filter fun p => p.eventId = event).length ≤ 1 ∧
    (∀ r ∈ s.reservations, r.eventId = event → ∃ p ∈ s.permits, p.eventId = event) ∧
    (∀ p ∈ s.permits, p.eventId = event →
      (∃ r ∈ s.reservations, r.eventId = event ∧ r.reservationId = p.reservationId ∧
        ((p.state, r.state) = (.issued, .reserved) ∨ (p.state, r.state) = (.submitted, .reserved) ∨
          (p.state, r.state) = (.filled, .consumed) ∨ (p.state, r.state) = (.filled, .released) ∨
          (p.state, r.state) = (.cancelled, .released))) ∧
      ((∃ x ∈ s.submissions, x.permitId = p.permitId) ↔ p.state ≠ .issued)) ∧
    ¬ (s.notRunExists event = true ∧ ∃ r ∈ s.reservations, r.eventId = event) := by
  intro s
  have h : LifecycleInv s := lifecycleInv_run .empty calls
  refine ⟨Table.length_filter_le_one h.reservationEvents event,
    Table.length_filter_le_one h.permitEvents event, ?_, ?_, ?_⟩
  · rintro r hr rfl
    exact h.permitted r hr
  · rintro p hp rfl
    refine ⟨?_, h.submitted p hp⟩
    obtain ⟨r, hr, he, hid, hpair⟩ := h.owns p hp
    refine ⟨r, hr, he, hid, ?_⟩
    generalize p.state = ps at hpair ⊢
    generalize r.state = rs at hpair ⊢
    cases hpair <;> simp
  · rintro ⟨hn, r, hr, he⟩
    simp only [Ledger.notRunExists, List.any_eq_true, decide_eq_true_eq] at hn
    obtain ⟨n, hn, hne⟩ := hn
    exact h.notRunFree n hn r hr (he.trans hne.symm)

end EsscherMarket.Risk
