import EsscherMarket.Risk.Ledger.Reserve

/-!
# What a returning ledger method did

One lemma for each method of the ledger: if the call returned, then its checks held of the ledger
before it, and the ledger after it is this one.  Later modules use these and never unfold a method.
A call that raised left the ledger as it was (`atomic_…`).
-/

namespace EsscherMarket.Risk

open Lib Execution Txn

variable {s s' : Ledger} {u : Unit}

/-! ### Candidates and abstentions -/

theorem storeCandidate_ok {row : CandidateRow} (h : storeCandidate row s = .ok u s') :
    s' = s.withCandidates (s.candidates ++ [row]) := by
  simp only [storeCandidate, select_bind_eq_ok, raiseIf_bind_eq_ok, insertCandidate_eq_ok] at h
  exact h.2.2.2.symm

theorem recordCandidate_ok {a : CandidateArgs} (h : recordCandidate a s = .ok u s') :
    ∃ rows, s' = s.withCandidates rows := by
  simp only [recordCandidate, lift_bind_eq_ok, immediate_eq_ok] at h
  obtain ⟨row, -, h⟩ := h
  exact ⟨_, storeCandidate_ok h⟩

theorem freezeCandidate_ok {a : CandidateArgs} (h : freezeCandidate a s = .ok u s') :
    ∃ rows events, s' = (s.withCandidates rows).withPassportEvents events := by
  simp only [freezeCandidate, lift_bind_eq_ok, immediate_eq_ok] at h
  obtain ⟨row, -, h⟩ := h
  simp only [bind_eq_ok, appendPassport_eq_ok] at h
  obtain ⟨_, s₁, h₁, -, rfl⟩ := h
  rw [storeCandidate_ok h₁]
  exact ⟨_, _, rfl⟩

theorem recordNotRunWith_ok {passport : Bool} {eventId reason : String} {now : DateTime}
    (h : recordNotRunWith passport eventId reason now s = .ok u s') :
    s.reservationForEvent eventId = none ∧
      ∃ events, s' = (s.withNotRun (s.notRun ++ [⟨eventId, reason, now⟩])).withPassportEvents events
    := by
  simp only [recordNotRunWith, identifier_bind_eq_ok, timestamp_bind_eq_ok, immediate_eq_ok,
    select_bind_eq_ok, raiseIf_bind_eq_ok, id] at h
  obtain ⟨-, -, -, -, hr, h⟩ := h
  simp only [bind_eq_ok, insertNotRun_eq_ok] at h
  obtain ⟨_, s₁, ⟨-, h₁⟩, h⟩ := h
  refine ⟨by simpa using hr, ?_⟩
  subst h₁
  cases passport with
  | false =>
    simp only [Bool.false_eq_true, if_false, pure_eq_ok] at h
    exact ⟨s.passportEvents, h.2.symm⟩
  | true =>
    simp only [if_true, appendPassport_eq_ok] at h
    exact ⟨_, h.2.symm⟩

/-! ### Reservations and permits -/

theorem setReservationState_eq_ok {event : String} {state : ReservationState} {now : DateTime} :
    setReservationState event state now s = .ok u s' ↔
      s.withReservations (reservationsSet event state now s.reservations) = s' := by
  rw [setReservationState, write_eq_ok]

theorem transitionPermit_ok {permitId : String} {expected target : PermitState}
    {now : DateTime} (h : transitionPermit permitId expected target now s = .ok u s') :
    (∃ p, s.permit permitId = some p ∧ p.state = expected) ∧
      s' = s.withPermits (permitsSet permitId target now s.permits) := by
  simp only [transitionPermit, select_bind_eq_ok, orRaise_bind_eq_ok, raiseIf_bind_eq_ok,
    timestamp_bind_eq_ok, write_eq_ok, not_not] at h
  obtain ⟨p, hp, hs, -, h⟩ := h
  exact ⟨⟨p, hp, hs⟩, h.symm⟩

theorem reserve_ok {eventId underlying : String} {amount : Decimal} {now : DateTime}
    {reservationId : String} (h : reserve eventId amount underlying now s = .ok reservationId s') :
    (∀ r ∈ s.reservations, r.reservationId ≠ "rsv-" ++ eventId) ∧
      (∀ r ∈ s.reservations, r.eventId ≠ eventId) ∧
      s' = s.withReservations (s.reservations ++
        [newReservation ("rsv-" ++ eventId) eventId (.ofStr amount) underlying now]) := by
  simp only [reserve, identifier_bind_eq_ok, amountOf_bind_eq_ok, underlyingText_bind_eq_ok,
    timestamp_bind_eq_ok, immediate_eq_ok, select_bind_eq_ok, raiseIf_bind_eq_ok] at h
  obtain ⟨-, -, -, -, -, -, h⟩ := h
  simp only [bind_eq_ok, insertReservation_eq_ok, pure_eq_ok] at h
  obtain ⟨_, s₁, ⟨⟨hid, hev⟩, h₁⟩, -, h⟩ := h
  exact ⟨hid, hev, (h₁.trans h).symm⟩

theorem transitionReservation_ok {eventId : String} {fromState toState : ReservationState}
    {now : DateTime} (h : transitionReservation eventId fromState toState now s = .ok u s') :
    s' = s.withReservations (reservationsSet eventId toState now s.reservations) := by
  simp only [transitionReservation, identifier_bind_eq_ok, timestamp_bind_eq_ok, immediate_eq_ok,
    select_bind_eq_ok, raiseIf_bind_eq_ok, setReservationState_eq_ok] at h
  exact h.2.2.2.symm

theorem recordPermit_ok {permitId eventId reservationId permitSha256 : String} {now : DateTime}
    (h : recordPermit permitId eventId reservationId permitSha256 now s = .ok u s') :
    (∀ p ∈ s.permits, p.permitId ≠ permitId) ∧
      s' = s.withPermits
        (s.permits ++ [newPermit permitId eventId reservationId permitSha256 now]) := by
  simp only [recordPermit, identifier_bind_eq_ok, sha256Text_bind_eq_ok, timestamp_bind_eq_ok,
    immediate_eq_ok, select_bind_eq_ok, orRaise_bind_eq_ok, insertPermit_eq_ok] at h
  obtain ⟨-, -, -, -, -, _, -, hnew, h⟩ := h
  exact ⟨hnew, h.symm⟩

theorem updatePermitState_ok {permitId toState : String} {now : DateTime}
    (h : updatePermitState permitId toState now s = .ok u s') :
    s' = s.withPermits (permitsSet permitId .submitted now s.permits) := by
  simp only [updatePermitState, identifier_bind_eq_ok, immediate_eq_ok, select_bind_eq_ok,
    raiseIf_bind_eq_ok] at h
  exact (transitionPermit_ok h.2.2.2).2

/-! ### Lifecycle intents -/

/-- An accepted intent repeats the arguments, and its request repeats the intent. -/
theorem validatedIntent_ok {a : LifecycleIntentArgs} {row : LifecycleIntentRow}
    (h : validatedIntent a = .ok row) :
    (expectedRequestFields a).all (fieldIs a.requestJson) ∧
    row = ⟨a.permitId, a.phase, a.eventId, a.openPermitId, a.reservationId, a.correlationSha256,
      a.policySha256, a.snapshotSha256, a.accountId, a.accountClass, a.orderClass,
      a.clientOrderId, a.requestSha256, a.requestJson, none, .intended, a.now, a.now⟩ := by
  simp only [validatedIntent, except_bind_eq_ok, identifier_eq_ok, sha256Text_eq_ok,
    throwIf_eq_ok, timestamp_eq_ok, except_pure_eq_ok, not_not] at h
  obtain ⟨_, ⟨-, rfl⟩, _, ⟨-, rfl⟩, _, ⟨-, rfl⟩, _, ⟨-, rfl⟩, _, ⟨-, rfl⟩, _, ⟨-, rfl⟩, _,
    ⟨-, rfl⟩, _, ⟨-, rfl⟩, _, ⟨-, rfl⟩, _, ⟨-, rfl⟩, _, ⟨-, rfl⟩, _, ⟨-, rfl⟩, _, -, _, hf, _,
    ⟨-, rfl⟩, rfl⟩ := h
  exact ⟨hf, rfl⟩

theorem recordLifecycleIntent_ok {a : LifecycleIntentArgs}
    (h : recordLifecycleIntent a s = .ok u s') :
    ∃ row events, validatedIntent a = .ok row ∧
      (∀ i ∈ s.lifecycleIntents, i.permitId ≠ a.permitId) ∧
      (∀ i ∈ s.lifecycleIntents, i.eventId = a.eventId → i.phase ≠ a.phase) ∧
      s' = (s.withLifecycleIntents (s.lifecycleIntents ++ [row])).withPassportEvents events := by
  simp only [recordLifecycleIntent, lift_bind_eq_ok, immediateOr_eq_ok] at h
  obtain ⟨row, hrow, h⟩ := h
  simp only [bind_eq_ok, appendPassport_eq_ok] at h
  obtain ⟨_, s₁, hins, -, rfl⟩ := h
  obtain ⟨-, hrow'⟩ := validatedIntent_ok hrow
  rw [insertLifecycleIntent_eq_ok (by rw [hrow'])] at hins
  obtain ⟨⟨hid, hev⟩, rfl⟩ := hins
  refine ⟨row, _, hrow, ?_, ?_, rfl⟩
  · simpa [hrow'] using hid
  · simpa [hrow'] using hev

theorem bindLifecycleIntent_ok {permitId brokerOrderId : String} {phase : IntentPhase}
    {now : DateTime} (h : bindLifecycleIntent permitId phase brokerOrderId now s = .ok u s') :
    ∃ events, s' = (s.withLifecycleIntents (Table.setWhere (fun i => i.permitId = permitId)
      (fun i => { i with brokerOrderId := some brokerOrderId, state := .submitted, updatedAt := now })
      s.lifecycleIntents)).withPassportEvents events := by
  simp only [bindLifecycleIntent, identifier_bind_eq_ok, timestamp_bind_eq_ok, immediateOr_eq_ok,
    select_bind_eq_ok, orRaise_bind_eq_ok, raiseIf_bind_eq_ok, write_bind_eq_ok,
    appendPassport_eq_ok] at h
  obtain ⟨-, -, -, _, -, -, -, h⟩ := h
  exact ⟨_, h.symm⟩

theorem markLifecycleIntentReconciled_ok {permitId : String} {now : DateTime}
    (h : markLifecycleIntentReconciled permitId now s = .ok u s') :
    s' = s.withLifecycleIntents (Table.setWhere (fun i => i.permitId = permitId)
      (fun i => { i with state := .reconciled, updatedAt := now }) s.lifecycleIntents) := by
  simp only [markLifecycleIntentReconciled, identifier_bind_eq_ok, timestamp_bind_eq_ok,
    immediate_eq_ok, select_bind_eq_ok, raiseIf_bind_eq_ok, write_eq_ok] at h
  exact h.2.2.2.symm

/-! ### Submissions, fills and reconciliation -/

theorem recordSubmission_ok {a : SubmissionArgs} (h : recordSubmission a s = .ok u s') :
    ∃ p r events, s.permit a.permitId = some p ∧ p.eventId = a.eventId ∧ p.state = .issued ∧
      s.reservationForEvent a.eventId = some r ∧ r.reservationId = p.reservationId ∧
      r.state = .reserved ∧ (∀ x ∈ s.submissions, x.permitId ≠ a.permitId) ∧
      s' = ((s.withPermits (permitsSet a.permitId .submitted a.now s.permits)).withSubmissions
        (s.submissions ++ [⟨a.permitId, a.eventId, a.brokerOrderId, a.now⟩])).withPassportEvents
          events := by
  simp only [recordSubmission, identifier_bind_eq_ok, timestamp_bind_eq_ok, immediateOr_eq_ok,
    select_bind_eq_ok, orRaise_bind_eq_ok, Option.filter_eq_some_iff, decide_eq_true_eq, id] at h
  obtain ⟨-, -, -, -, p, ⟨hp, hpe⟩, r, ⟨hr, hid, hst⟩, h⟩ := h
  simp only [bind_eq_ok, insertSubmission_eq_ok] at h
  obtain ⟨_, s₁, h₁, _, s₂, ⟨⟨hnew, -⟩, -, h₂⟩, h⟩ := h
  obtain ⟨⟨p', hp', hps⟩, rfl⟩ := transitionPermit_ok h₁
  rw [hp] at hp'
  cases hp'
  subst h₂
  refine ⟨p, r, ?_⟩
  split at h
  · simp only [appendPassport_eq_ok] at h
    exact ⟨_, hp, hpe, hps, hr, hid, hst, hnew, h.2.symm⟩
  · simp only [pure_eq_ok] at h
    exact ⟨s.passportEvents, hp, hpe, hps, hr, hid, hst, hnew, h.2.symm⟩

theorem recordFill_ok {a : FillArgs} (h : recordFill a s = .ok u s') :
    ∃ rows, s' = s.withFills rows := by
  simp only [recordFill, identifier_bind_eq_ok, amountOf_bind_eq_ok, timestamp_bind_eq_ok,
    immediateOr_eq_ok, select_bind_eq_ok, orRaise_bind_eq_ok, insertFill_eq_ok] at h
  obtain ⟨-, -, -, -, -, -, _, -, -, h⟩ := h
  exact ⟨_, h.symm⟩

theorem terminalTransition_ok {permitId status : String} {quantity : ℚ}
    {t : PermitState × ReservationState × PassportEventType}
    (h : terminalTransition permitId status quantity = .ok t) :
    status = "FILLED" ∧ t = (.filled, .consumed, .fillObserved) ∨
      status ≠ "FILLED" ∧ t = (.cancelled, .released, .reservationReleased) := by
  unfold terminalTransition at h
  split at h
  · rename_i hfilled
    split at h
    · cases h
    · cases h
      exact .inl ⟨hfilled, rfl⟩
  · rename_i hfilled
    split at h
    · cases h
      exact .inr ⟨hfilled, rfl⟩
    · split at h <;> cases h

theorem settle_ok {fill : FillRow} {t : PermitState × ReservationState × PassportEventType}
    {now : DateTime} (h : settle fill t now s = .ok u s') :
    ∃ fills events, s' = (((s.withPermits
      (permitsSet fill.permitId t.1 now s.permits)).withReservations
      (reservationsSet fill.eventId t.2.1 now s.reservations)).withFills fills).withPassportEvents
        events := by
  simp only [settle, bind_eq_ok, setReservationState_eq_ok, insertFill_eq_ok,
    appendPassport_eq_ok] at h
  obtain ⟨_, s₁, h₁, _, s₂, h₂, _, s₃, ⟨-, h₃⟩, _, s₄, ⟨-, h₄⟩, -, h₅⟩ := h
  obtain ⟨-, rfl⟩ := transitionPermit_ok h₁
  subst h₂ h₃ h₄ h₅
  exact ⟨_, _, rfl⟩

theorem reconcileObservedOrder_ok {a : ReconcileArgs}
    (h : reconcileObservedOrder a s = .ok u s') :
    ∃ p r t q fills events, s.permit a.permitId = some p ∧ p.eventId = a.eventId ∧
      p.state = .submitted ∧ s.reservationForEvent a.eventId = some r ∧
      r.reservationId = p.reservationId ∧ r.state = .reserved ∧
      (a.status = "FILLED" ∧ t = .filled ∧ q = .consumed ∨
        a.status ≠ "FILLED" ∧ t = .cancelled ∧ q = .released) ∧
      s' = (((s.withPermits (permitsSet a.permitId t a.now s.permits)).withReservations
        (reservationsSet a.eventId q a.now s.reservations)).withFills fills).withPassportEvents
          events := by
  simp only [reconcileObservedOrder, identifier_bind_eq_ok, amountOf_bind_eq_ok,
    timestamp_bind_eq_ok, immediateOr_eq_ok, select_bind_eq_ok, orRaise_bind_eq_ok,
    raiseIf_bind_eq_ok, Option.filter_eq_some_iff, decide_eq_true_eq, not_not, id] at h
  obtain ⟨-, -, -, -, -, -, -, p, ⟨hp, hpe⟩, _, -, hps, r, ⟨hr, hid, hst⟩, h⟩ := h
  obtain ⟨t, ht, h⟩ := lift_bind_eq_ok.mp h
  obtain ⟨fills, events, rfl⟩ := settle_ok h
  refine ⟨p, r, t.1, t.2.1, fills, events, hp, hpe, hps, hr, hid, hst, ?_, rfl⟩
  rcases terminalTransition_ok ht with ⟨hfilled, rfl⟩ | ⟨hfilled, rfl⟩
  · exact .inl ⟨hfilled, rfl, rfl⟩
  · exact .inr ⟨hfilled, rfl, rfl⟩

theorem releaseConsumedAfterFlat_ok {eventId permitId : String} {now : DateTime}
    (h : releaseConsumedAfterFlat eventId permitId now s = .ok u s') :
    ∃ p r events, s.permit permitId = some p ∧ p.eventId = eventId ∧ p.state = .filled ∧
      s.reservationForEvent eventId = some r ∧ r.reservationId = p.reservationId ∧
      r.state = .consumed ∧
      s' = (s.withReservations
        (reservationsSet eventId .released now s.reservations)).withPassportEvents events := by
  simp only [releaseConsumedAfterFlat, identifier_bind_eq_ok, timestamp_bind_eq_ok,
    immediate_eq_ok, select_bind_eq_ok, orRaise_bind_eq_ok, Option.filter_eq_some_iff,
    decide_eq_true_eq, id] at h
  obtain ⟨-, -, -, p, ⟨hp, hpe, hps⟩, r, ⟨hr, hid, hst⟩, h⟩ := h
  simp only [bind_eq_ok, setReservationState_eq_ok, appendPassport_eq_ok] at h
  obtain ⟨_, s₁, h₁, -, h⟩ := h
  subst h₁ h
  exact ⟨p, r, _, hp, hpe, hps, hr, hid, hst, rfl⟩

/-! ### The V1 reservation path -/

def Frozen (s : Ledger) (event candidate policy decision expression : String) : Prop :=
  ∃ c, s.candidateForEvent event = some c ∧ c.policySha256 = policy ∧
    c.candidateId = candidate ∧ c.decisionSha256 = decision ∧ c.expressionSha256 = expression

theorem requireFrozen_eq_ok {detail event candidate policy decision expression : String} :
    requireFrozen detail event candidate policy decision expression s = .ok u s' ↔
      Frozen s event candidate policy decision expression ∧ s = s' := by
  simp only [requireFrozen, select_bind_eq_ok, orRaise_bind_eq_ok, raiseIf_bind_eq_ok,
    raiseIf_eq_ok, not_not, Frozen]
  constructor
  · rintro ⟨c, hc, hp, hi, hd, he, h⟩
    exact ⟨⟨c, hc, hp, hi, hd, he⟩, h⟩
  · rintro ⟨⟨c, hc, hp, hi, hd, he⟩, h⟩
    exact ⟨c, hc, hp, hi, hd, he, h⟩

def receiptPair (s : Ledger) (payload : Json) (now : DateTime) : List PassportRow :=
  let held := s.passportEvents ++ [passportRow s PassportEventType.reservationHeld.value payload now]
  held ++ [passportRow (s.withPassportEvents held) PassportEventType.permitIssued.value payload now]

/-- The accepted arguments of the V1 path. -/
structure ReserveArgsOk (a : ReserveArgs) : Prop where
  eventOk : isExactText a.eventId
  underlyingOk : isExactText a.underlying ∧ isUpper a.underlying
  candidateOk : isExactText a.candidateId
  policyOk : isLowerHex 64 a.riskPolicySha256
  decisionOk : isLowerHex 64 a.decisionSha256
  expressionOk : isLowerHex 64 a.expressionSha256
  amountNonneg : a.amount.isFinite ∧ 0 ≤ a.amount.toRat
  aggregatePos : a.aggregateLimit.isFinite ∧ 0 < a.aggregateLimit.toRat
  expressionsPos : 0 < a.maxOpenExpressions
  entriesPos : 0 < a.maxEntriesPerDay
  permitId : a.permit.permitId = debitVerticalPermitId a.permit.toDebitVerticalPermitFields
  nowUtc : a.now.tzinfo = .utc

theorem checkReserveArgs_eq_ok {a : ReserveArgs} {u : Unit} :
    checkReserveArgs a = .ok u ↔ ReserveArgsOk a := by
  simp only [checkReserveArgs, except_bind_eq_ok, identifier_eq_ok, underlyingText_eq_ok,
    sha256Text_eq_ok, amountOf_eq_ok, positiveLimit_eq_ok, positiveInt_eq_ok, throwIf_eq_ok,
    timestamp_eq_ok, except_pure_eq_ok, not_not]
  constructor
  · rintro ⟨_, ⟨he, -⟩, _, ⟨hu, -⟩, _, ⟨hc, -⟩, _, ⟨hp, -⟩, _, ⟨hd, -⟩, _, ⟨hx, -⟩, _, ⟨ha, -⟩, _,
      ⟨hl, -⟩, _, ⟨ho, -⟩, _, ⟨hn, -⟩, _, hid, _, ⟨hutc, -⟩, -⟩
    exact ⟨he, hu, hc, hp, hd, hx, ha, hl, ho, hn, hid, hutc⟩
  · intro h
    exact ⟨_, ⟨h.eventOk, rfl⟩, _, ⟨h.underlyingOk, rfl⟩, _, ⟨h.candidateOk, rfl⟩, _,
      ⟨h.policyOk, rfl⟩, _, ⟨h.decisionOk, rfl⟩, _, ⟨h.expressionOk, rfl⟩, _,
      ⟨h.amountNonneg, rfl⟩, _, ⟨h.aggregatePos, rfl⟩, _, ⟨h.expressionsPos, rfl⟩, _,
      ⟨h.entriesPos, rfl⟩, (), h.permitId, _, ⟨h.nowUtc, rfl⟩, trivial⟩

/-- The budgets that the V1 path rechecks in its transaction. -/
structure BudgetsOk (s : Ledger) (a : ReserveArgs) : Prop where
  entries : (s.entriesToday a.now : Int) < a.maxEntriesPerDay
  expressions : (s.openReservationCount : Int) < a.maxOpenExpressions
  aggregate : ∃ held, s.openReservationTotal = .ok held ∧
    held + a.amount.toRat ≤ a.aggregateLimit.toRat

theorem recheckBudgets_eq_ok {a : ReserveArgs} :
    recheckBudgets a s = .ok u s' ↔ BudgetsOk s a ∧ s = s' := by
  simp only [recheckBudgets, select_bind_eq_ok, raiseIf_bind_eq_ok, lift_bind_eq_ok,
    raiseIf_eq_ok, not_le, not_lt, id]
  constructor
  · rintro ⟨he, ho, held, hheld, hle, h⟩
    exact ⟨⟨he, ho, held, hheld, hle⟩, h⟩
  · rintro ⟨⟨he, ho, held, hheld, hle⟩, h⟩
    exact ⟨he, ho, held, hheld, hle, h⟩

/-- The ledger after the V1 path stored a reservation and its permit. -/
def Ledger.held (s : Ledger) (a : ReserveArgs) : Ledger :=
  ((s.withReservations (s.reservations ++
    [newReservation ("rsv-" ++ a.eventId) a.eventId (.ofStr a.amount) a.underlying a.now])).withPermits
    (s.permits ++ [newPermit a.permit.permitId a.eventId ("rsv-" ++ a.eventId)
      (debitVerticalPermitSha256 a.permit) a.now])).withPassportEvents
    (receiptPair s (reservePayload a) a.now)

/-- What a V1 call that stores has found free. -/
structure V1Free (s : Ledger) (a : ReserveArgs) : Prop where
  notRun : s.notRunExists a.eventId = false
  reservationIds : ∀ r ∈ s.reservations, r.reservationId ≠ "rsv-" ++ a.eventId
  events : ∀ r ∈ s.reservations, r.eventId ≠ a.eventId
  permitIds : ∀ p ∈ s.permits, p.permitId ≠ a.permit.permitId

theorem reservationForEvent_none_iff {event : String} :
    s.reservationForEvent event = none ↔ ∀ r ∈ s.reservations, r.eventId ≠ event := by
  simp [Ledger.reservationForEvent]

/-- When the V1 path stores a reservation, and what it stores. -/
theorem reserveAndIssuePermit_eq_ok {a : ReserveArgs} {ids : String × String × String} :
    reserveAndIssuePermit a s = .ok ids s' ↔
      ReserveArgsOk a ∧
        Frozen s a.eventId a.candidateId a.riskPolicySha256 a.decisionSha256 a.expressionSha256 ∧
        BudgetsOk s a ∧ V1Free s a ∧
        ids = ("rsv-" ++ a.eventId, a.permit.permitId, debitVerticalPermitSha256 a.permit) ∧
        s' = s.held a := by
  simp only [reserveAndIssuePermit, lift_bind_eq_ok, immediateOr_eq_ok, select_bind_eq_ok,
    raiseIf_bind_eq_ok, id]
  constructor
  · rintro ⟨_, hargs, hnr, h⟩
    rw [bind_eq_ok] at h
    obtain ⟨_, s₁, h₁, h⟩ := h
    obtain ⟨hfrozen, rfl⟩ := requireFrozen_eq_ok.mp h₁
    rw [raiseIf_bind_eq_ok, bind_eq_ok] at h
    obtain ⟨-, _, s₂, h₂, h⟩ := h
    obtain ⟨hbudget, rfl⟩ := recheckBudgets_eq_ok.mp h₂
    simp only [bind_eq_ok, insertReservation_eq_ok, insertPermit_eq_ok, appendPassport_eq_ok,
      pure_eq_ok] at h
    obtain ⟨_, s₃, ⟨⟨hid, hev⟩, h₃⟩, _, s₄, ⟨hp, h₄⟩, _, s₅, ⟨-, h₅⟩, _, s₆, ⟨-, h₆⟩, hids, h₇⟩ := h
    subst h₃ h₄ h₅ h₆ h₇
    exact ⟨checkReserveArgs_eq_ok.mp hargs, hfrozen, hbudget,
      ⟨by simpa using hnr, hid, hev, hp⟩, hids.symm, rfl⟩
  · rintro ⟨hargs, hfrozen, hbudget, hfree, rfl, rfl⟩
    refine ⟨(), checkReserveArgs_eq_ok.mpr hargs, by simp [hfree.notRun], ?_⟩
    rw [bind_eq_ok]
    refine ⟨(), s, requireFrozen_eq_ok.mpr ⟨hfrozen, rfl⟩, ?_⟩
    rw [raiseIf_bind_eq_ok, bind_eq_ok]
    refine ⟨by simp [reservationForEvent_none_iff.mpr hfree.events], (), s,
      recheckBudgets_eq_ok.mpr ⟨hbudget, rfl⟩, ?_⟩
    simp only [bind_eq_ok, insertReservation_eq_ok, insertPermit_eq_ok, appendPassport_eq_ok,
      pure_eq_ok]
    exact ⟨(), _, ⟨⟨hfree.reservationIds, hfree.events⟩, rfl⟩, (), _, ⟨hfree.permitIds, rfl⟩, (), _,
      ⟨hargs.nowUtc, rfl⟩, (), _, ⟨hargs.nowUtc, rfl⟩, trivial, rfl⟩

/-! ### The V2 reservation path -/

/-- The accepted arguments of the V2 path. -/
structure ReserveV2ArgsOk (a : ReserveV2Args) (tier : RiskTier) : Prop where
  eventOk : isExactText a.eventId
  candidateOk : isExactText a.candidateId
  underlyingOk : isExactText a.underlying ∧ isUpper a.underlying
  policyOk : isLowerHex 64 a.policySha256
  decisionOk : isLowerHex 64 a.decisionSha256
  expressionOk : isLowerHex 64 a.expressionSha256
  opportunityOk : isExactText a.opportunityId
  opportunityDigestOk : isLowerHex 64 a.opportunitySha256
  allocationOk : isLowerHex 64 a.allocationReservationId
  tierFinite : a.riskTier.isFinite
  tierValue : a.riskTier.toRat = tier.toRat
  quantityPos : 0 < a.quantity
  amountPos : a.amount.isFinite ∧ 0 < a.amount.toRat
  equityPos : a.accountEquity.isFinite ∧ 0 < a.accountEquity.toRat
  cashNonneg : a.accountCash.isFinite ∧ 0 ≤ a.accountCash.toRat
  cashLe : a.accountCash.toRat ≤ a.accountEquity.toRat
  perUnderlying : a.maxPerUnderlyingFraction.isFinite ∧
    a.maxPerUnderlyingFraction.toRat = (Decimal.cents 20).toRat
  aggregate : a.maxAggregateFraction.isFinite ∧
    a.maxAggregateFraction.toRat = (Decimal.cents 50).toRat
  permitId : a.permit.permitId = debitVerticalPermitId a.permit.toDebitVerticalPermitFields
  permitEvent : a.permit.eventRunId = a.eventId
  permitDecision : a.permit.decisionSha256 = a.decisionSha256
  permitPolicy : a.permit.policySha256 = a.policySha256
  permitUnderlying : a.permit.underlying = a.underlying
  permitQuantity : a.permit.quantity = a.quantity
  permitLoss : a.permit.maximumLoss.toRat = a.amount.toRat
  nowUtc : a.now.tzinfo = .utc

theorem RiskTier.ofDecimal_eq_some {d : Decimal} {t : RiskTier} :
    RiskTier.ofDecimal d = some t ↔ d.toRat = t.toRat := by
  constructor
  · intro h
    unfold RiskTier.ofDecimal at h
    split at h
    · cases h
      assumption
    · split at h
      · cases h
        assumption
      · split at h
        · cases h
          assumption
        · cases h
  · intro h
    cases t <;> simp only [RiskTier.ofDecimal, h] <;> decide +kernel

theorem RiskTier.toRat_pos (t : RiskTier) : 0 < t.toRat := by
  cases t <;> decide +kernel

theorem v2RiskTier_eq_ok {value : Decimal} {path : String} {t : RiskTier} :
    v2RiskTier value path = .ok t ↔ value.isFinite ∧ value.toRat = t.toRat := by
  simp only [v2RiskTier, except_bind_eq_ok, positiveLimit_eq_ok]
  constructor
  · rintro ⟨_, ⟨⟨hf, -⟩, rfl⟩, h⟩
    split at h
    · rename_i t' ht'
      cases h
      exact ⟨hf, RiskTier.ofDecimal_eq_some.mp ht'⟩
    · cases h
  · rintro ⟨hf, ht⟩
    refine ⟨value, ⟨⟨hf, by rw [ht]; exact t.toRat_pos⟩, rfl⟩, ?_⟩
    rw [RiskTier.ofDecimal_eq_some.mpr ht]
    rfl

theorem checkReserveV2Args_eq_ok {a : ReserveV2Args} {tier : RiskTier} :
    checkReserveV2Args a = .ok tier ↔ ReserveV2ArgsOk a tier := by
  simp only [checkReserveV2Args, except_bind_eq_ok, identifier_eq_ok, underlyingText_eq_ok,
    sha256Text_eq_ok, positiveInt_eq_ok, positiveLimit_eq_ok, amountOf_eq_ok, throwIf_eq_ok,
    v2RiskTier_eq_ok, timestamp_eq_ok, not_lt, not_or, not_not, except_pure_eq_ok]
  constructor
  · rintro ⟨_, ⟨he, -⟩, _, ⟨hc, -⟩, _, ⟨hu, -⟩, _, ⟨hp, -⟩, _, ⟨hd, -⟩, _, ⟨hx, -⟩, _, ⟨ho, -⟩, _,
      ⟨hod, -⟩, _, ⟨hal, -⟩, t, ⟨htf, htv⟩, _, ⟨hq, -⟩, _, ⟨ham, -⟩, _, ⟨heq, -⟩, _, ⟨hca, -⟩, _, hce,
      _, ⟨⟨hpu, -⟩, -⟩, _, ⟨⟨hag, -⟩, -⟩, _, ⟨hpu', hag'⟩, _, hid, _, ⟨h1, h2, h3, h4, h5, h6⟩, _,
      ⟨hutc, -⟩, rfl⟩
    exact ⟨he, hc, hu, hp, hd, hx, ho, hod, hal, htf, htv, hq, ham, heq, hca, hce, ⟨hpu, hpu'⟩,
      ⟨hag, hag'⟩, hid, h1, h2, h3, h4, h5, h6, hutc⟩
  · intro h
    have hpu : 0 < a.maxPerUnderlyingFraction.toRat := by
      rw [h.perUnderlying.2]
      decide +kernel
    have hag : 0 < a.maxAggregateFraction.toRat := by
      rw [h.aggregate.2]
      decide +kernel
    exact ⟨_, ⟨h.eventOk, rfl⟩, _, ⟨h.candidateOk, rfl⟩, _, ⟨h.underlyingOk, rfl⟩, _,
      ⟨h.policyOk, rfl⟩, _, ⟨h.decisionOk, rfl⟩, _, ⟨h.expressionOk, rfl⟩, _,
      ⟨h.opportunityOk, rfl⟩, _, ⟨h.opportunityDigestOk, rfl⟩, _, ⟨h.allocationOk, rfl⟩, tier,
      ⟨h.tierFinite, h.tierValue⟩, _, ⟨h.quantityPos, rfl⟩, _, ⟨h.amountPos, rfl⟩, _,
      ⟨h.equityPos, rfl⟩, _, ⟨h.cashNonneg, rfl⟩, (), h.cashLe, _,
      ⟨⟨h.perUnderlying.1, hpu⟩, rfl⟩, _, ⟨⟨h.aggregate.1, hag⟩, rfl⟩, (),
      ⟨h.perUnderlying.2, h.aggregate.2⟩, (), h.permitId, (),
      ⟨h.permitEvent, h.permitDecision, h.permitPolicy, h.permitUnderlying, h.permitQuantity,
        h.permitLoss⟩, _, ⟨h.nowUtc, rfl⟩, rfl⟩

/-- The four capacity checks, on the sums of the open rows. -/
structure V2CapacityOk (a : ReserveV2Args) (tier : RiskTier) (t : V2Totals) : Prop where
  tierCap : a.amount.toRat ≤ tier.toRat * a.accountEquity.toRat
  aggregateCap : t.consumedTotal + t.reservedTotal + a.amount.toRat ≤
    a.maxAggregateFraction.toRat * a.accountEquity.toRat
  underlyingCap : t.consumedUnderlying + t.reservedUnderlying + a.amount.toRat ≤
    a.maxPerUnderlyingFraction.toRat * a.accountEquity.toRat
  cashCap : a.amount.toRat ≤ a.accountCash.toRat - t.reservedTotal

theorem v2CapacityChecks_eq_ok {a : ReserveV2Args} {tier : RiskTier} {t : V2Totals} :
    v2CapacityChecks a tier t s = .ok u s' ↔ V2CapacityOk a tier t ∧ s = s' := by
  simp only [v2CapacityChecks, raiseIf_bind_eq_ok, raiseIf_eq_ok, not_lt]
  constructor
  · rintro ⟨h₁, h₂, h₃, h₄, h⟩
    exact ⟨⟨h₁, h₂, h₃, h₄⟩, h⟩
  · rintro ⟨⟨h₁, h₂, h₃, h₄⟩, h⟩
    exact ⟨h₁, h₂, h₃, h₄, h⟩

/-- The ledger after the V2 path stored a reservation, its permit and its binding. -/
def Ledger.heldV2 (s : Ledger) (a : ReserveV2Args) (tier : RiskTier) : Ledger :=
  (((s.withReservations (s.reservations ++ [newReservation a.allocationReservationId a.eventId
    (v2AmountText a.amount) a.underlying a.now])).withPermits
    (s.permits ++ [newPermit a.permit.permitId a.eventId a.allocationReservationId
      (debitVerticalPermitSha256 a.permit) a.now])).withV2Reservations
    (s.v2Reservations ++ [v2NewBinding a tier])).withPassportEvents
    (receiptPair s (reserveV2Payload a tier) a.now)

/-- What a V2 call that stores has found free. -/
structure V2Free (s : Ledger) (a : ReserveV2Args) : Prop where
  notRun : s.notRunExists a.eventId = false
  reservationIds : ∀ r ∈ s.reservations, r.reservationId ≠ a.allocationReservationId
  events : ∀ r ∈ s.reservations, r.eventId ≠ a.eventId
  permitIds : ∀ p ∈ s.permits, p.permitId ≠ a.permit.permitId
  bindingIds : ∀ v ∈ s.v2Reservations, v.reservationId ≠ a.allocationReservationId
  bindingEvents : ∀ v ∈ s.v2Reservations, v.eventId ≠ a.eventId
  bindingOpportunities : ∀ v ∈ s.v2Reservations, v.opportunityId ≠ a.opportunityId
  bindingAllocations : ∀ v ∈ s.v2Reservations,
    v.allocationReservationId ≠ a.allocationReservationId
  bindingPermits : ∀ v ∈ s.v2Reservations, v.permitId ≠ a.permit.permitId

theorem v2Store_eq_ok {a : ReserveV2Args} {tier : RiskTier} {receipt : V2ReservationReceipt}
    (hnr : s.notRunExists a.eventId = false) :
    v2Store a tier s = .ok receipt s' ↔
      V2Free s a ∧ a.now.tzinfo = .utc ∧ receipt = v2NewReceipt a tier ∧ s' = s.heldV2 a tier := by
  simp only [v2Store, bind_eq_ok, insertReservation_eq_ok, insertPermit_eq_ok,
    insertV2Reservation_eq_ok, appendPassport_eq_ok, pure_eq_ok]
  constructor
  · rintro ⟨_, s₁, ⟨⟨hid, hev⟩, h₁⟩, _, s₂, ⟨hp, h₂⟩, _, s₃, ⟨⟨hvid, hve, hvo, hva, hvp⟩, -, h₃⟩, _,
      s₄, ⟨hutc, h₄⟩, _, s₅, ⟨-, h₅⟩, hrec, h₆⟩
    subst h₁ h₂ h₃ h₄ h₅ h₆
    exact ⟨⟨hnr, hid, hev, hp, hvid, hve, hvo, hva, hvp⟩, hutc, hrec.symm, rfl⟩
  · rintro ⟨⟨-, hid, hev, hp, hvid, hve, hvo, hva, hvp⟩, hutc, rfl, rfl⟩
    refine ⟨(), _, ⟨⟨hid, hev⟩, rfl⟩, (), _, ⟨hp, rfl⟩, (), _, ⟨⟨hvid, hve, hvo, hva, hvp⟩, ?_, rfl⟩,
      (), _, ⟨hutc, rfl⟩, (), _, ⟨hutc, rfl⟩, rfl, rfl⟩
    exact ⟨⟨_, List.mem_append_right _ (List.mem_singleton_self _), rfl⟩,
      _, List.mem_append_right _ (List.mem_singleton_self _), rfl⟩

/-- When the V2 path stores a new binding, and what it stores. -/
theorem reserveV2AndIssuePermit_new {a : ReserveV2Args} {receipt : V2ReservationReceipt}
    (hnew : v2Existing s a = none) :
    reserveV2AndIssuePermit a s = .ok receipt s' ↔
      ∃ tier, checkReserveV2Args a = .ok tier ∧
        Frozen s a.eventId a.candidateId a.policySha256 a.decisionSha256 a.expressionSha256 ∧
        (∃ t, v2Totals s a.underlying = .ok t ∧ V2CapacityOk a tier t) ∧ V2Free s a ∧
        a.now.tzinfo = .utc ∧ receipt = v2NewReceipt a tier ∧ s' = s.heldV2 a tier := by
  simp only [reserveV2AndIssuePermit, lift_bind_eq_ok, immediateOr_eq_ok, select_bind_eq_ok,
    raiseIf_bind_eq_ok, id]
  constructor
  · rintro ⟨tier, hargs, hnr, h⟩
    rw [bind_eq_ok] at h
    obtain ⟨_, s₁, h₁, h⟩ := h
    obtain ⟨hfrozen, rfl⟩ := requireFrozen_eq_ok.mp h₁
    rw [hnew] at h
    simp only [raiseIf_bind_eq_ok, lift_bind_eq_ok] at h
    obtain ⟨-, t, ht, h⟩ := h
    rw [bind_eq_ok] at h
    obtain ⟨_, s₂, h₂, h⟩ := h
    obtain ⟨hcap, rfl⟩ := v2CapacityChecks_eq_ok.mp h₂
    exact ⟨tier, hargs, hfrozen, ⟨t, ht, hcap⟩, (v2Store_eq_ok (by simpa using hnr)).mp h⟩
  · rintro ⟨tier, hargs, hfrozen, ⟨t, ht, hcap⟩, hfree, hutc, hrec, hs⟩
    refine ⟨tier, hargs, by simp [hfree.notRun], ?_⟩
    rw [bind_eq_ok]
    refine ⟨(), s, requireFrozen_eq_ok.mpr ⟨hfrozen, rfl⟩, ?_⟩
    rw [hnew]
    simp only [raiseIf_bind_eq_ok, lift_bind_eq_ok]
    refine ⟨by simp [reservationForEvent_none_iff.mpr hfree.events], t, ht, ?_⟩
    rw [bind_eq_ok]
    exact ⟨(), s, v2CapacityChecks_eq_ok.mpr ⟨hcap, rfl⟩,
      (v2Store_eq_ok hfree.notRun).mpr ⟨hfree, hutc, hrec, hs⟩⟩

/-- A V2 call whose event or opportunity is bound returns only as an exact replay, and changes
nothing. -/
theorem reserveV2AndIssuePermit_bound {a : ReserveV2Args} {receipt : V2ReservationReceipt}
    {row : V2Row} (hrow : v2Existing s a = some row)
    (h : reserveV2AndIssuePermit a s = .ok receipt s') :
    (∃ tier, checkReserveV2Args a = .ok tier ∧
      matchesExpected row.binding (v2NewBinding a tier)) ∧ s' = s := by
  simp only [reserveV2AndIssuePermit, lift_bind_eq_ok, immediateOr_eq_ok, select_bind_eq_ok,
    raiseIf_bind_eq_ok, id] at h
  obtain ⟨tier, hargs, -, h⟩ := h
  rw [bind_eq_ok] at h
  obtain ⟨_, s₁, h₁, h⟩ := h
  obtain ⟨-, rfl⟩ := requireFrozen_eq_ok.mp h₁
  rw [hrow] at h
  simp only [v2Replay, select_bind_eq_ok, raiseIf_bind_eq_ok, lift_eq_ok, not_not] at h
  obtain ⟨-, hmatch, -, -, h⟩ := h
  exact ⟨⟨tier, hargs, hmatch⟩, h.symm⟩

/-- The V2 path either replays, and then changes nothing, or stores a new binding after its four
capacity checks. -/
theorem reserveV2AndIssuePermit_ok {a : ReserveV2Args} {receipt : V2ReservationReceipt}
    (h : reserveV2AndIssuePermit a s = .ok receipt s') :
    s' = s ∨ ∃ tier, V2Free s a ∧ s' = s.heldV2 a tier := by
  cases hx : v2Existing s a with
  | some row => exact .inl (reserveV2AndIssuePermit_bound hx h).2
  | none =>
    obtain ⟨tier, -, -, -, hfree, -, -, hs⟩ := (reserveV2AndIssuePermit_new hx).mp h
    exact .inr ⟨tier, hfree, hs⟩

/-! ### Account snapshots and the control state -/

theorem recordAccountSnapshot_ok {equity : Decimal} {now : DateTime}
    (h : recordAccountSnapshot equity now s = .ok u s') :
    ∃ rows, s' = s.withAccountSnapshots rows := by
  simp only [recordAccountSnapshot, lift_bind_eq_ok, write_eq_ok] at h
  obtain ⟨_, -, _, -, h⟩ := h
  exact ⟨_, h.symm⟩

theorem setControlState_ok {state : ControlState} {reason : Option String} {now : DateTime}
    (h : setControlState state reason now s = .ok u s') :
    s' = s.withControlState (some ⟨state, reason, now⟩) := by
  simp only [setControlState, timestamp_bind_eq_ok, write_eq_ok] at h
  exact h.2.symm

theorem setControlStateWithPassport_ok {state : ControlState} {reason : Option String}
    {payload : Json} {now : DateTime}
    (h : setControlStateWithPassport state reason payload now s = .ok u s') :
    ∃ events, s' = (s.withControlState (some ⟨state, reason, now⟩)).withPassportEvents events := by
  simp only [setControlStateWithPassport, immediate_eq_ok, bind_eq_ok, appendPassport_eq_ok] at h
  obtain ⟨_, s₁, h₁, -, rfl⟩ := h
  rw [setControlState_ok h₁]
  exact ⟨_, rfl⟩

/-! ### Atomicity -/

theorem atomic_immediateOr {α : Type} (onIntegrity : String → LedgerError) (body : LedgerTxn α) :
    Atomic (immediateOr onIntegrity body) :=
  atomic_immediate _

theorem atomic_recordCandidate (a : CandidateArgs) : Atomic (recordCandidate a) :=
  atomic_lift_bind fun _ => atomic_immediate _

theorem atomic_freezeCandidate (a : CandidateArgs) : Atomic (freezeCandidate a) :=
  atomic_lift_bind fun _ => atomic_immediate _

theorem atomic_recordNotRunWith (passport : Bool) (eventId reason : String) (now : DateTime) :
    Atomic (recordNotRunWith passport eventId reason now) :=
  atomic_lift_bind fun _ => atomic_lift_bind fun _ => atomic_lift_bind fun _ => atomic_immediate _

theorem atomic_reserve (eventId : String) (amount : Decimal) (underlying : String)
    (now : DateTime) : Atomic (reserve eventId amount underlying now) :=
  atomic_lift_bind fun _ => atomic_lift_bind fun _ => atomic_lift_bind fun _ =>
    atomic_lift_bind fun _ => atomic_immediate _

theorem atomic_transitionReservation (eventId : String) (fromState toState : ReservationState)
    (now : DateTime) : Atomic (transitionReservation eventId fromState toState now) :=
  atomic_lift_bind fun _ => atomic_lift_bind fun _ => atomic_immediate _

theorem atomic_recordPermit (permitId eventId reservationId permitSha256 : String)
    (now : DateTime) : Atomic (recordPermit permitId eventId reservationId permitSha256 now) :=
  atomic_lift_bind fun _ => atomic_lift_bind fun _ => atomic_lift_bind fun _ =>
    atomic_lift_bind fun _ => atomic_lift_bind fun _ => atomic_immediate _

theorem atomic_updatePermitState (permitId toState : String) (now : DateTime) :
    Atomic (updatePermitState permitId toState now) :=
  atomic_lift_bind fun _ => atomic_lift_bind fun _ => atomic_immediate _

theorem atomic_recordLifecycleIntent (a : LifecycleIntentArgs) :
    Atomic (recordLifecycleIntent a) :=
  atomic_lift_bind fun _ => atomic_immediateOr _ _

theorem atomic_bindLifecycleIntent (permitId : String) (phase : IntentPhase)
    (brokerOrderId : String) (now : DateTime) :
    Atomic (bindLifecycleIntent permitId phase brokerOrderId now) :=
  atomic_lift_bind fun _ => atomic_lift_bind fun _ => atomic_lift_bind fun _ =>
    atomic_immediateOr _ _

theorem atomic_markLifecycleIntentReconciled (permitId : String) (now : DateTime) :
    Atomic (markLifecycleIntentReconciled permitId now) :=
  atomic_lift_bind fun _ => atomic_lift_bind fun _ => atomic_immediate _

theorem atomic_recordSubmission (a : SubmissionArgs) : Atomic (recordSubmission a) :=
  atomic_lift_bind fun _ => atomic_lift_bind fun _ => atomic_lift_bind fun _ =>
    atomic_lift_bind fun _ => atomic_immediateOr _ _

theorem atomic_recordFill (a : FillArgs) : Atomic (recordFill a) :=
  atomic_lift_bind fun _ => atomic_lift_bind fun _ => atomic_lift_bind fun _ =>
    atomic_lift_bind fun _ => atomic_lift_bind fun _ => atomic_lift_bind fun _ =>
      atomic_immediateOr _ _

theorem atomic_reconcileObservedOrder (a : ReconcileArgs) : Atomic (reconcileObservedOrder a) :=
  atomic_lift_bind fun _ => atomic_lift_bind fun _ => atomic_lift_bind fun _ =>
    atomic_lift_bind fun _ => atomic_lift_bind fun _ => atomic_lift_bind fun _ =>
      atomic_lift_bind fun _ => atomic_immediateOr _ _

theorem atomic_releaseConsumedAfterFlat (eventId permitId : String) (now : DateTime) :
    Atomic (releaseConsumedAfterFlat eventId permitId now) :=
  atomic_lift_bind fun _ => atomic_lift_bind fun _ => atomic_lift_bind fun _ => atomic_immediate _

theorem atomic_reserveAndIssuePermit (a : ReserveArgs) : Atomic (reserveAndIssuePermit a) :=
  atomic_lift_bind fun _ => atomic_immediateOr _ _

theorem atomic_reserveV2AndIssuePermit (a : ReserveV2Args) : Atomic (reserveV2AndIssuePermit a) :=
  atomic_lift_bind fun _ => atomic_immediateOr _ _

theorem atomic_recordAccountSnapshot (equity : Decimal) (now : DateTime) :
    Atomic (recordAccountSnapshot equity now) :=
  atomic_lift_bind fun _ => atomic_lift_bind fun _ => atomic_write _

theorem atomic_setControlState (state : ControlState) (reason : Option String) (now : DateTime) :
    Atomic (setControlState state reason now) :=
  atomic_lift_bind fun _ => atomic_write _

theorem atomic_setControlStateWithPassport (state : ControlState) (reason : Option String)
    (payload : Json) (now : DateTime) :
    Atomic (setControlStateWithPassport state reason payload now) :=
  atomic_immediate _

end EsscherMarket.Risk
