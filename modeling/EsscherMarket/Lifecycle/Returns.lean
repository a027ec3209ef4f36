import EsscherMarket.Lifecycle.Runs

/-!
# When a call of the worker returns

`Runs` reads off what a call has gone through; this file gives what is enough for an opening to end
filled and for a close to end flat, where the clock stands still, the gate is open and the broker
answers as it should.
-/

namespace EsscherMarket.Lifecycle

open Lib Execution Risk Prog MonitoredPaperLifecycle

variable {β : Type}

/-- A clock that stands still, and an open gate. -/
def Setting.still (t : DateTime) (port : PaperBroker β) : Setting β := ⟨fun _ => t, true, port⟩

/-- The call returns `a` and leaves the desk as `d'`, however often the clock was read before. -/
def Returns {α : Type} (e : Setting β) (x : LifecycleProg α) (d : Desk β) (a : α) (d' : Desk β) :
    Prop :=
  ∀ n, ∃ n', run (S := lifecycleSig) e.answer x (d, n) = (.ok a, (d', n'))

section Rules

variable {α γ : Type} {e : Setting β} {d d' d'' : Desk β} {t : DateTime} {port : PaperBroker β}

theorem Returns.runCall {x : LifecycleProg α} {a : α} (h : Returns e x d a d') :
    e.runCall x d = (.ok a, d') := by
  obtain ⟨n', hrun⟩ := h 0
  simp only [Setting.runCall, hrun]

theorem returns_pure (a : α) : Returns e (pure a) d a d := fun n => ⟨n, rfl⟩

theorem Returns.bind {x : LifecycleProg α} {f : α → LifecycleProg γ} {a : α} {b : γ}
    (hx : Returns e x d a d') (hf : Returns e (f a) d' b d'') : Returns e (x >>= f) d b d'' := by
  intro n
  obtain ⟨n₁, hx⟩ := hx n
  obtain ⟨n₂, hf⟩ := hf n₁
  exact ⟨n₂, run_bind hx hf⟩

theorem returns_ofExcept {x : Except LifecycleError α} {a : α} (hx : x = .ok a) :
    Returns e (ofExcept x) d a d := by
  subst hx
  exact returns_pure a

theorem returns_raiseIf {c : Prop} [Decidable c] {error : LifecycleError} (hc : ¬ c) :
    Returns e (raiseIf c error) d () d := by
  rw [raiseIf, if_neg hc]
  exact returns_pure ()

theorem returns_now (ht : t.isAware) : Returns (.still t port) now d t d := by
  intro n
  refine ⟨n + 1, ?_⟩
  refine run_perform_bind ?_
  exact run_raiseIf_bind (not_not.mpr ht) rfl

theorem returns_requireMutation : Returns (.still t port) requireMutation d () d := by
  intro n
  refine ⟨n, ?_⟩
  refine run_perform_bind ?_
  show run _ (raiseIf (true = false) _) _ = _
  rw [raiseIf, if_neg (by simp)]
  rfl

theorem returns_readLedger {id path : String} (hid : isExactText id) (f : Ledger → α) :
    Returns e (readLedger id path f) d (f d.ledger) d := by
  intro n
  refine ⟨n, ?_⟩
  refine run_ofExcept_bind (a := ()) ?_ rfl
  rw [identifier_eq_ok.mpr ⟨hid, rfl⟩]
  rfl

theorem returns_transact {handler : RiskRejected → LifecycleError} {c : LedgerCall} {a : c.Res}
    {s : Ledger} (h : c.txn d.ledger = .ok a s) :
    Returns e (transact handler c) d a { d with ledger := s } := by
  intro n
  refine ⟨n, ?_⟩
  refine run_perform_bind ?_
  have hanswer : e.answer (.ledger c) (d, n) = (.ok a, { d with ledger := s }, n) := by
    have hexec : c.exec d.ledger = s := Txn.after_of_ok h
    have hresult : c.txn.result d.ledger = .ok a := Txn.result_of_ok h
    show (c.txn.result d.ledger, { d with ledger := c.exec d.ledger }, n) = _
    rw [hexec, hresult]
    rfl
  rw [hanswer]
  rfl

theorem returns_perform (op : LifecycleOp) (r : op.Res) (d' : Desk β)
    (h : ∀ n, e.answer op (d, n) = (r, (d', n))) :
    Returns e (perform (S := lifecycleSig) op) d r d' := by
  intro n
  refine ⟨n, ?_⟩
  have hrun : run (S := lifecycleSig) (ε := LifecycleError) e.answer (perform op) (d, n) =
      (.ok (e.answer op (d, n)).1, (e.answer op (d, n)).2) := rfl
  rw [hrun, h n]

theorem returns_remembered {worker : Nat} {phase : IntentPhase} {permitId : String} :
    Returns e (perform (S := lifecycleSig) (.remembered worker phase permitId)) d
      ((d.memory worker phase).contains permitId) d :=
  fun n => ⟨n, rfl⟩

theorem returns_requireActiveWindow {issuedAt expiresAt : DateTime} {path : String}
    {reason : LifecycleReason} (ht : t.isAware) (hissued : issuedAt.micros ≤ t.micros)
    (hexpires : t.micros < expiresAt.micros) :
    Returns (.still t port) (requireActiveWindow issuedAt expiresAt path reason) d () d :=
  (returns_now ht).bind (returns_raiseIf (by omega))

theorem isBefore_eq {a b : DateTime} (h : a.isAware = b.isAware) :
    isBefore a b = .ok (decide (a.micros < b.micros)) := if_pos h

end Rules

/-! ### Intents -/

section Intents

variable {w : MonitoredPaperLifecycle} {r : BrokerOrderRequest} {qty : Int} {t : DateTime}
  {s : Ledger} {d : Desk β} {port : PaperBroker β}

structure OrderTexts (r : BrokerOrderRequest) : Prop where
  permitId : isExactText r.permitId
  eventRunId : isExactText r.eventRunId
  openPermitId : isExactText r.openPermitId
  reservationId : isExactText r.reservationId
  correlation : isLowerHex 64 r.correlationSha256
  policy : isLowerHex 64 r.policySha256
  snapshot : isLowerHex 64 r.snapshotSha256
  accountId : isExactText r.accountId
  accountClass : isExactText r.accountClass
  orderClass : isExactText r.orderClass
  clientOrderId : isExactText r.clientOrderId

theorem intentArgs_ok (h : OrderTexts r) (ht : t.tzinfo = .utc) :
    IntentArgsOk (intentArgs r qty t) where
  permitId := h.permitId
  eventId := h.eventRunId
  openPermitId := h.openPermitId
  reservationId := h.reservationId
  correlation := h.correlation
  policy := h.policy
  snapshot := h.snapshot
  accountId := h.accountId
  accountClass := h.accountClass
  orderClass := h.orderClass
  clientOrderId := h.clientOrderId
  request := rfl
  requestSha256 := rfl
  fields := by
    simp [expectedRequestFields, intentArgs, fieldIs, brokerOrderRequestPayload, Json.field?]
  nowUtc := ht

theorem orderTexts_request {phase : IntentPhase} {permitId : String} {p : DebitVerticalPermit}
    {correlation : CorrelationIdentity} {limitPrice : Decimal} {legs : List BrokerOptionLeg}
    (hpermit : isExactText permitId) (hopen : isExactText p.permitId)
    (hevent : isExactText correlation.eventRunId)
    (hreservation : isExactText correlation.reservationId) (haccount : isExactText w.accountId)
    (hclass : w.accountClass = paperAccountClass) (horder : w.orderClass = multiLegOrderClass) :
    OrderTexts (w.request phase permitId p correlation limitPrice legs) where
  permitId := hpermit
  eventRunId := hevent
  openPermitId := hopen
  reservationId := hreservation
  correlation := Json.isLowerHex_sha256 _
  policy := p.isLowerHex_digests.1
  snapshot := p.isLowerHex_digests.2
  accountId := haccount
  accountClass := by
    show isExactText w.accountClass = true
    rw [hclass]
    decide
  orderClass := by
    show isExactText w.orderClass = true
    rw [horder]
    decide
  clientOrderId := by
    cases phase with
    | opening =>
      refine Json.isExactText_tagged (c := 'o')
        (l := "pen-".toList ++ permitId.toList ++ "-".toList) ?_ (by decide) _ 15
      simp [phaseLower, String.toList_append]
    | closing =>
      refine Json.isExactText_tagged (c := 'c')
        (l := "lose-".toList ++ permitId.toList ++ "-".toList) ?_ (by decide) _ 15
      simp [phaseLower, String.toList_append]

/-- No intent of the ledger stands in the way of this order's. -/
structure Unclaimed (r : BrokerOrderRequest) (s : Ledger) : Prop where
  permit : ∀ i ∈ s.lifecycleIntents, i.permitId ≠ r.permitId
  event : ∀ i ∈ s.lifecycleIntents, i.eventId = r.eventRunId → i.phase ≠ r.phase

def WithIntent (s : Ledger) (row : LifecycleIntentRow) (s' : Ledger) : Prop :=
  ∃ events, s' = (s.withLifecycleIntents (s.lifecycleIntents ++ [row])).withPassportEvents events

def boundRow (r : BrokerOrderRequest) (qty : Int) (t : DateTime) (orderId : String) :
    LifecycleIntentRow :=
  { (intentArgs r qty t).row with brokerOrderId := some orderId, state := .submitted }

theorem lifecycleIntentForPermit_withIntent {row : LifecycleIntentRow} {s' : Ledger}
    (h : WithIntent s row s') (hfree : ∀ i ∈ s.lifecycleIntents, i.permitId ≠ row.permitId) :
    s'.lifecycleIntentForPermit row.permitId = some row := by
  obtain ⟨events, rfl⟩ := h
  have hnone : s.lifecycleIntents.find? (fun i => i.permitId = row.permitId) = none := by
    simpa using hfree
  simp [Ledger.lifecycleIntentForPermit, Ledger.withLifecycleIntents, Ledger.withPassportEvents,
    List.find?_append, hnone]

/-- The ledger accepts the intent of an order that it has not seen. -/
theorem recordLifecycleIntent_claims (qty : Int) (htexts : OrderTexts r) (ht : t.tzinfo = .utc)
    (hfree : Unclaimed r s) : ∃ s', recordLifecycleIntent (intentArgs r qty t) s = .ok () s' ∧
      WithIntent s (intentArgs r qty t).row s' := by
  have hargs : IntentArgsOk (intentArgs r qty t) := intentArgs_ok htexts ht
  obtain ⟨s', hs'⟩ := recordLifecycleIntent_returns hargs hfree.permit hfree.event
  obtain ⟨row, events, hrow, -, -, hshape⟩ := recordLifecycleIntent_ok hs'
  rw [validatedIntent_of hargs] at hrow
  cases hrow
  exact ⟨s', hs', events, hshape⟩

theorem bindLifecycleIntent_binds {orderId : String} {s₁ : Ledger} (htexts : OrderTexts r)
    (ht : t.tzinfo = .utc) (hfree : Unclaimed r s) (horder : isExactText orderId)
    (hids : ∀ i ∈ s.lifecycleIntents, i.brokerOrderId ≠ some orderId)
    (h : WithIntent s (intentArgs r qty t).row s₁) :
    ∃ s₂, bindLifecycleIntent r.permitId r.phase orderId t s₁ = .ok () s₂ ∧
      WithIntent s (boundRow r qty t orderId) s₂ := by
  have hfound := lifecycleIntentForPermit_withIntent h hfree.permit
  obtain ⟨events₁, rfl⟩ := h
  have hothers : ∀ i ∈ s.lifecycleIntents ++ [(intentArgs r qty t).row],
      i.brokerOrderId ≠ some orderId := by
    intro i hi
    rcases List.mem_append.mp hi with hi | hi
    · exact hids i hi
    · rw [List.mem_singleton.mp hi]
      simp [LifecycleIntentArgs.row]
  obtain ⟨s₂, hs₂⟩ := bindLifecycleIntent_returns htexts.permitId horder ht hfound rfl rfl hothers
  obtain ⟨events, hshape⟩ := bindLifecycleIntent_ok hs₂
  refine ⟨s₂, hs₂, events, ?_⟩
  have hset := Table.setWhere_concat s.lifecycleIntents (intentArgs r qty t).row
    (p := fun i => i.permitId = r.permitId)
    (f := fun i => { i with brokerOrderId := some orderId, state := .submitted, updatedAt := t })
    (by simpa using hfree.permit) (by simp [LifecycleIntentArgs.row, intentArgs])
  rw [hshape]
  exact congrArg (fun rows => (s.withLifecycleIntents rows).withPassportEvents events) hset

end Intents

/-! ### The truth of an order -/

/-- Observed within the allowed age before `t`. -/
structure FreshAt (w : MonitoredPaperLifecycle) (t observedAt : DateTime) : Prop where
  aware : observedAt.isAware
  past : observedAt.micros ≤ t.micros
  age : t.micros - observedAt.micros ≤ w.truthMaxAgeSeconds * 1000000

/-- The broker's answers to the three reads of `_fresh_bound_truth`, all of which it accepts. -/
structure Reads (w : MonitoredPaperLifecycle) (port : PaperBroker β) (t : DateTime)
    (r : BrokerOrderRequest) (ack : BrokerOrderAck) (b : β) (truth : BrokerOrderTruth)
    (snapshot : BrokerPositionSnapshot) (b' : β) : Prop where
  read : ∃ account b₁ b₂, port.readAccount b = (.ok account, b₁) ∧
    port.readOrder ack.orderId b₁ = (.ok truth, b₂) ∧ port.readPositions b₂ = (.ok snapshot, b') ∧
    FreshAt w t account.observedAt ∧ account.accountId = r.accountId ∧
    account.accountClass = paperAccountClass
  accountClass : r.accountClass = paperAccountClass
  orderClass : r.orderClass = multiLegOrderClass
  order : checkOrderTruth r ack truth = .ok ()
  orderFresh : FreshAt w t truth.observedAt
  positions : checkSnapshot r ack snapshot = .ok ()
  positionsFresh : FreshAt w t snapshot.observedAt
  rows : ∀ row ∈ snapshot.positions, row.symbol ≠ "" ∧ row.qty.isFinite ∧ FreshAt w t row.observedAt
  legs : r.phase = .opening → truth.status = "filled" →
    dictEq (snapshot.positions.map fun p => (p.symbol, p.qty.toRat)) (expectedPositions r)

section Truth

variable {w : MonitoredPaperLifecycle} {r : BrokerOrderRequest} {ack : BrokerOrderAck}
  {t : DateTime} {d : Desk β} {port : PaperBroker β} {truth : BrokerOrderTruth}
  {snapshot : BrokerPositionSnapshot} {b' : β}

theorem returns_requireFresh {observedAt : DateTime} {path : String} {reason : LifecycleReason}
    (ht : t.isAware) (h : FreshAt w t observedAt) :
    Returns (.still t port) (w.requireFresh observedAt path reason) d () d := by
  obtain ⟨haware, hpast, hage⟩ := h
  refine (returns_raiseIf (not_not.mpr haware)).bind ?_
  refine (returns_now ht).bind ?_
  refine (returns_raiseIf (by omega)).bind ?_
  exact returns_raiseIf (by omega)

theorem returns_validatePositions {positions : List PositionTruth} (ht : t.isAware)
    (h : ∀ row ∈ positions, row.symbol ≠ "" ∧ row.qty.isFinite ∧ FreshAt w t row.observedAt) :
    Returns (.still t port) (w.validatePositions positions) d () d := by
  induction positions with
  | nil => exact returns_pure ()
  | cons row rest ih =>
    obtain ⟨hsymbol, hfinite, hfresh⟩ := h row List.mem_cons_self
    have hfirst : Returns (.still t port) (w.validatePosition row) d () d :=
      (returns_raiseIf (by simp [hsymbol, hfinite])).bind (returns_requireFresh ht hfresh)
    exact hfirst.bind (ih fun row hrow => h row (List.mem_cons_of_mem _ hrow))

/-- Truth that passes every check is returned. -/
theorem returns_freshBoundTruth (ht : t.isAware)
    (h : Reads w port t r ack d.broker truth snapshot b') :
    Returns (.still t port) (w.freshBoundTruth r ack) d (truth, snapshot)
      { d with broker := b' } := by
  obtain ⟨account, b₁, b₂, haccount, horder, hpositions, hfresh, hid, hclass⟩ := h.read
  refine (returns_perform .readAccount (.ok account) { d with broker := b₁ } fun n => ?_).bind ?_
  · show onBroker (port.readAccount d.broker) d n = _
    rw [haccount]
    rfl
  refine (returns_ofExcept rfl).bind ?_
  refine (returns_perform (.readOrder ack.orderId) (.ok truth) { d with broker := b₂ } fun n => ?_).bind ?_
  · show onBroker (port.readOrder ack.orderId b₁) _ n = _
    rw [horder]
    rfl
  refine (returns_ofExcept rfl).bind ?_
  refine (returns_perform .readPositions (.ok snapshot) { d with broker := b' } fun n => ?_).bind ?_
  · show onBroker (port.readPositions b₂) _ n = _
    rw [hpositions]
    rfl
  refine (returns_ofExcept rfl).bind ?_
  have hvalid : Returns (.still t port) (w.validateAccount account r) { d with broker := b' } ()
      { d with broker := b' } :=
    (returns_requireFresh ht hfresh).bind
      (returns_raiseIf (by simp [hid, hclass, h.accountClass, h.orderClass]))
  refine hvalid.bind ?_
  have htruth : Returns (.still t port) (w.validateOrderTruth r ack truth)
      { d with broker := b' } () { d with broker := b' } :=
    (returns_requireFresh ht h.orderFresh).bind (returns_ofExcept h.order)
  refine htruth.bind ?_
  have hsnapshot : Returns (.still t port) (w.validatePositionTruth r ack snapshot truth)
      { d with broker := b' } () { d with broker := b' } := by
    refine (returns_requireFresh ht h.positionsFresh).bind ?_
    refine (returns_ofExcept h.positions).bind ?_
    refine (returns_validatePositions ht h.rows).bind ?_
    exact returns_raiseIf fun hc => hc.2.2 (h.legs hc.1 hc.2.1)
  exact hsnapshot.bind (returns_pure _)

end Truth

/-! ### Opening -/

/-- What an opening at `t` needs: a worker of the permit's account, clocks and correlation, and a
ledger that knows of no order. -/
structure CanOpen (w : MonitoredPaperLifecycle) (p : DebitVerticalPermit) (t : DateTime)
    (s : Ledger) : Prop where
  utc : t.tzinfo = .utc
  clocks : w.requireClocksVerified = .ok ()
  boundary : w.requirePaperBoundary = .ok ()
  scope : w.requireClockScope p = .ok ()
  issued : p.issuedAt.micros ≤ t.micros
  expires : t.micros < p.expiresAt.micros
  deadlineAware : w.clocks.entryDeadlineAt.isAware
  deadline : t.micros ≤ w.clocks.entryDeadlineAt.micros
  identity : w.requireOpenIdentity p = .ok ()
  texts : OrderTexts (w.openRequest p)
  unclaimed : Unclaimed (w.openRequest p) s
  unsubmitted : ∀ x ∈ s.submissions, x.permitId ≠ p.permitId
  held : ∃ row q, s.reservationForEvent p.eventRunId = some row ∧
    row.reservationId = w.correlation.reservationId ∧ row.state = .reserved ∧
    s.permitForEvent p.eventRunId = some q ∧ s.permit p.permitId = some q ∧
    q.eventId = p.eventRunId ∧ q.reservationId = w.correlation.reservationId ∧ q.state = .issued

structure FreshOrder (orderId : String) (s : Ledger) : Prop where
  text : isExactText orderId
  intents : ∀ i ∈ s.lifecycleIntents, i.brokerOrderId ≠ some orderId
  submissions : ∀ x ∈ s.submissions, x.brokerOrderId ≠ orderId
  fills : ∀ f ∈ s.fills, f.fillId ≠ orderId

def Desk.remembering (d : Desk β) (w : MonitoredPaperLifecycle) (phase : IntentPhase)
    (permitId : String) : Desk β :=
  { d with
    memory := Function.update d.memory w.worker
      (Function.update (d.memory w.worker) phase (permitId :: d.memory w.worker phase)) }

section Opening

variable {w : MonitoredPaperLifecycle} {p : DebitVerticalPermit} {t : DateTime} {d : Desk β}
  {port : PaperBroker β} {ack : BrokerOrderAck} {truth : BrokerOrderTruth}
  {snapshot : BrokerPositionSnapshot} {b b' : β}

theorem isAware_of_utc (ht : t.tzinfo = .utc) : t.isAware = true := by
  simp [DateTime.isAware, ht]

theorem CanOpen.eventRunId {s : Ledger} (h : CanOpen w p t s) :
    w.correlation.eventRunId = p.eventRunId ∧ w.correlation.openPermitId = p.permitId := by
  have hid := throwIf_eq_ok.mp h.identity
  push Not at hid
  exact ⟨hid.2.2.1.symm, hid.1.symm⟩

theorem returns_requireOpening (h : CanOpen w p t d.ledger)
    (hmemory : p.permitId ∉ d.memory w.worker .opening) :
    Returns (.still t port) (w.requireOpening p) d () d := by
  have ht := isAware_of_utc h.utc
  obtain ⟨row, q, hrow, hrowId, hrowState, hq, hpermit, -, hqRow, hqState⟩ := h.held
  have hpermitText : isExactText p.permitId := h.texts.permitId
  have heventText : isExactText p.eventRunId := h.eventRunId.1 ▸ h.texts.eventRunId
  have hqId : q.permitId = p.permitId := by simpa using List.find?_some hpermit
  have hfree : ∀ i ∈ d.ledger.lifecycleIntents, i.permitId ≠ p.permitId := h.unclaimed.permit
  have hnone : d.ledger.lifecycleIntentForPermit p.permitId = none := by
    simpa [Ledger.lifecycleIntentForPermit] using hfree
  unfold requireOpening
  refine (returns_ofExcept h.clocks).bind ?_
  refine (returns_ofExcept h.boundary).bind ?_
  refine (returns_ofExcept h.scope).bind ?_
  refine (returns_requireActiveWindow ht h.issued h.expires).bind ?_
  refine (returns_readLedger hpermitText _).bind ?_
  refine (returns_raiseIf (by simp [hnone])).bind ?_
  refine (returns_now ht).bind ?_
  refine (returns_ofExcept (isBefore_eq (by rw [h.deadlineAware, ht]))).bind ?_
  refine (returns_raiseIf (by simpa using h.deadline)).bind ?_
  refine returns_requireMutation.bind ?_
  have hbinding : Returns (.still t port) (w.requireOpenBinding p) d () d := by
    refine (returns_ofExcept h.identity).bind ?_
    refine (returns_readLedger heventText _).bind ?_
    refine (returns_readLedger heventText _).bind ?_
    exact returns_raiseIf (by simp [hrow, hrowId, hrowState, hq, hqId, hqRow, hqState])
  refine hbinding.bind ?_
  refine returns_remembered.bind ?_
  exact returns_raiseIf (by simp [hmemory])

theorem returns_claimPermit {r : BrokerOrderRequest} {qty : Int} {s : Ledger}
    (ht : t.isAware) (h : recordLifecycleIntent (intentArgs r qty t) d.ledger = .ok () s) :
    Returns (.still t port) (w.claimPermit r qty) d ()
      (Desk.remembering { d with ledger := s } w r.phase r.permitId) := by
  have hrecord : Returns (.still t port) (recordIntent r qty) d () { d with ledger := s } :=
    (returns_now ht).bind (returns_transact (c := .recordLifecycleIntent (intentArgs r qty t)) h)
  exact hrecord.bind (returns_perform _ _ _ fun n => rfl)

theorem returns_bindAck {r : BrokerOrderRequest} {s : Ledger} (ht : t.isAware)
    (htext : isExactText ack.orderId) (hclient : ack.clientOrderId = r.clientOrderId)
    (h : bindLifecycleIntent r.permitId r.phase ack.orderId t d.ledger = .ok () s) :
    Returns (.still t port) (bindAck r ack) d () { d with ledger := s } := by
  have hstrip := strip_ne_empty_of_isExactText htext
  refine (returns_raiseIf (by simp [hstrip, hclient])).bind ?_
  refine (returns_now ht).bind ?_
  exact returns_transact (c := .bindLifecycleIntent r.permitId r.phase ack.orderId t) h

structure Submitted (w : MonitoredPaperLifecycle) (p : DebitVerticalPermit) (t : DateTime)
    (orderId : String) (s s' : Ledger) : Prop where
  paired : Paired s' p.permitId p.eventRunId .submitted .reserved
  submission : ∃ x, s'.submissionForPermit p.permitId = some x ∧ x.eventId = p.eventRunId ∧
    x.brokerOrderId = orderId
  intents : s'.lifecycleIntents = s.lifecycleIntents ++ [boundRow (w.openRequest p) 1 t orderId]
  fills : s'.fills = s.fills
  row : ∃ r, s'.reservationForEvent p.eventRunId = some r ∧
    r.reservationId = w.correlation.reservationId

theorem permit_permitsSet {s s' : Ledger} {id : String} {state : PermitState} {now : DateTime}
    {q : PermitRow} (h : s'.permits = permitsSet id state now s.permits)
    (hq : s.permit id = some q) :
    s'.permit id = some { q with state := state, updatedAt := now } := by
  have hqId : q.permitId = id := by simpa using List.find?_some hq
  have hfind := Table.find?_setWhere s.permits (p := fun p => p.permitId = id)
    (q := fun p => p.permitId = id) (f := fun p => { p with state := state, updatedAt := now })
    fun _ => rfl
  unfold Ledger.permit at hq ⊢
  rw [h, permitsSet, hfind, hq]
  simp [hqId]

theorem reservationForEvent_reservationsSet {s s' : Ledger} {event : String}
    {state : ReservationState} {now : DateTime} {row : ReservationRow}
    (h : s'.reservations = reservationsSet event state now s.reservations)
    (hrow : s.reservationForEvent event = some row) :
    s'.reservationForEvent event = some { row with state := state, updatedAt := now } := by
  have hrowId : row.eventId = event := by simpa using List.find?_some hrow
  have hfind := Table.find?_setWhere s.reservations (p := fun r => r.eventId = event)
    (q := fun r => r.eventId = event) (f := fun r => { r with state := state, updatedAt := now })
    fun _ => rfl
  unfold Ledger.reservationForEvent at hrow ⊢
  rw [h, reservationsSet, hfind, hrow]
  simp [hrowId]

theorem recordSubmission_submits {orderId : String} {s s₁ : Ledger} (h : CanOpen w p t s)
    (horder : FreshOrder orderId s)
    (hs₁ : WithIntent s (boundRow (w.openRequest p) 1 t orderId) s₁) :
    ∃ s₂, recordSubmission ⟨p.eventRunId, p.permitId, orderId, t, false⟩ s₁ = .ok () s₂ ∧
      Submitted w p t orderId s s₂ := by
  obtain ⟨row, q, hrow, hrowId, hrowState, -, hq, hqEvent, hqRow, hqState⟩ := h.held
  obtain ⟨events₁, rfl⟩ := hs₁
  have hpaired : Paired ((s.withLifecycleIntents
      (s.lifecycleIntents ++ [boundRow (w.openRequest p) 1 t orderId])).withPassportEvents events₁)
      p.permitId p.eventRunId .issued .reserved :=
    ⟨q, row, hq, hqEvent, hqState, hrow, hrowId.trans hqRow.symm, hrowState⟩
  obtain ⟨s₂, hs₂⟩ := recordSubmission_returns
    (a := ⟨p.eventRunId, p.permitId, orderId, t, false⟩) hpaired
    (h.eventRunId.1 ▸ h.texts.eventRunId) h.texts.permitId horder.text h.utc h.unsubmitted
    horder.submissions rfl
  obtain ⟨_, _, events, -, -, -, -, -, -, -, hshape⟩ := recordSubmission_ok hs₂
  have hpermits : s₂.permits = permitsSet p.permitId .submitted t s.permits := by
    rw [hshape]
    rfl
  refine ⟨s₂, hs₂, ⟨_, row, permit_permitsSet hpermits hq, hqEvent, rfl, ?_,
    hrowId.trans hqRow.symm, hrowState⟩, ?_, ?_, ?_, ?_⟩
  · rw [hshape]
    exact hrow
  · refine ⟨⟨p.permitId, p.eventRunId, orderId, t⟩, ?_, rfl, rfl⟩
    have hnone : s.submissions.find? (fun x => x.permitId = p.permitId) = none := by
      simpa using h.unsubmitted
    rw [hshape]
    simp [Ledger.submissionForPermit, List.find?_append, hnone]
  · rw [hshape]
    rfl
  · rw [hshape]
    rfl
  · refine ⟨row, ?_, hrowId⟩
    rw [hshape]
    exact hrow

/-- An opening that can be submitted is. -/
theorem returns_submitOpening (h : CanOpen w p t d.ledger)
    (hmemory : p.permitId ∉ d.memory w.worker .opening) (horder : FreshOrder ack.orderId d.ledger)
    (hclient : ack.clientOrderId = (w.openRequest p).clientOrderId)
    (hsubmit : port.submitOpen (w.openRequest p) d.broker = (.ok ack, b)) :
    ∃ s, Submitted w p t ack.orderId d.ledger s ∧
      Returns (.still t port) (w.submitOpening p) d ack
        { ledger := s, memory := (d.remembering w .opening p.permitId).memory, broker := b } := by
  have ht := isAware_of_utc h.utc
  obtain ⟨s₁, hs₁, hclaimed⟩ := recordLifecycleIntent_claims 1 h.texts h.utc h.unclaimed
  obtain ⟨s₂, hs₂, hbound⟩ :=
    bindLifecycleIntent_binds h.texts h.utc h.unclaimed horder.text horder.intents hclaimed
  obtain ⟨s₃, hs₃, hsubmitted⟩ := recordSubmission_submits h horder hbound
  refine ⟨s₃, hsubmitted, ?_⟩
  unfold submitOpening
  refine (returns_requireOpening h hmemory).bind ?_
  rw [p.quantity_eq_one]
  refine (returns_claimPermit ht hs₁).bind ?_
  refine (returns_perform (.submitOpen (w.openRequest p)) (.ok ack)
    { Desk.remembering { d with ledger := s₁ } w .opening p.permitId with broker := b }
    fun n => ?_).bind ?_
  · show onBroker (port.submitOpen (w.openRequest p) d.broker) _ n = _
    rw [hsubmit]
    rfl
  refine (returns_ofExcept rfl).bind ?_
  refine (returns_bindAck (s := s₂) ht horder.text hclient hs₂).bind ?_
  refine (returns_now ht).bind ?_
  have hevent : (w.openRequest p).eventRunId = p.eventRunId := h.eventRunId.1
  rw [hevent]
  refine (returns_transact (c := .recordSubmission _) (a := ()) (s := s₃) ?_).bind
    (returns_pure _)
  exact hs₃

structure Filled (p : DebitVerticalPermit) (s : Ledger) : Prop where
  paired : Paired s p.permitId p.eventRunId .filled .consumed
  submission : ∃ x, s.submissionForPermit p.permitId = some x

theorem reconcile_fills {orderId : String} {s s₁ : Ledger} {observedAt : DateTime}
    (h : CanOpen w p t s) (horder : FreshOrder orderId s) (hs₁ : Submitted w p t orderId s s₁)
    (hobserved : observedAt.tzinfo = .utc) :
    ∃ s₂ s₃, reconcileObservedOrder
        ⟨p.eventRunId, p.permitId, orderId, "FILLED", .ofInt 1, observedAt, t⟩ s₁ = .ok () s₂ ∧
      markLifecycleIntentReconciled p.permitId t s₂ = .ok () s₃ ∧ Filled p s₃ := by
  obtain ⟨x, hx, hxEvent, hxOrder⟩ := hs₁.submission
  obtain ⟨q, row, hq, hqEvent, -, hrow, hid, -⟩ := hs₁.paired.pair
  obtain ⟨s₂, hs₂⟩ := reconcileObservedOrder_returns
    (a := ⟨p.eventRunId, p.permitId, orderId, "FILLED", .ofInt 1, observedAt, t⟩)
    hs₁.paired (h.eventRunId.1 ▸ h.texts.eventRunId) h.texts.permitId horder.text rfl
    (by simp [Decimal.ofInt, Decimal.isFinite, Decimal.toRat, Decimal.pow10]) hobserved h.utc hx
    hxEvent hxOrder (hs₁.fills ▸ horder.fills)
  obtain ⟨_, _, state, _, fills, events, -, -, -, -, -, -, htq, hshape⟩ :=
    reconcileObservedOrder_ok hs₂
  rcases htq with ⟨-, rfl, rfl⟩ | ⟨hne, -⟩
  swap
  · exact absurd rfl hne
  have hpermits : s₂.permits = permitsSet p.permitId .filled t s₁.permits := by
    rw [hshape]
    rfl
  have hreservations : s₂.reservations =
      reservationsSet p.eventRunId .consumed t s₁.reservations := by
    rw [hshape]
    rfl
  have hintent : s₂.lifecycleIntentForPermit p.permitId =
      some (boundRow (w.openRequest p) 1 t orderId) := by
    have hfound : s₁.lifecycleIntentForPermit p.permitId =
        some (boundRow (w.openRequest p) 1 t orderId) := by
      have hnone : s.lifecycleIntents.find? (fun i => i.permitId = p.permitId) = none := by
        have hfree : ∀ i ∈ s.lifecycleIntents, i.permitId ≠ p.permitId := h.unclaimed.permit
        simpa using hfree
      have hid : (boundRow (w.openRequest p) 1 t orderId).permitId = p.permitId := rfl
      rw [Ledger.lifecycleIntentForPermit, hs₁.intents, List.find?_append, hnone]
      simp [hid]
    rw [hshape]
    exact hfound
  obtain ⟨s₃, hs₃⟩ := markLifecycleIntentReconciled_returns h.texts.permitId h.utc hintent rfl
  have hshape₃ := markLifecycleIntentReconciled_ok hs₃
  have hq₂ := permit_permitsSet hpermits hq
  have hrow₂ := reservationForEvent_reservationsSet hreservations hrow
  refine ⟨s₂, s₃, hs₂, hs₃, ⟨{ q with state := .filled, updatedAt := t },
    { row with state := .consumed, updatedAt := t }, ?_, hqEvent, rfl, ?_, hid, rfl⟩, x, ?_⟩
  · rw [hshape₃]
    exact hq₂
  · rw [hshape₃]
    exact hrow₂
  · rw [hshape₃, hshape]
    exact hx

/-- The ledgers of an opening that fills. -/
theorem settles_openPosition (h : CanOpen w p t d.ledger)
    (hmemory : p.permitId ∉ d.memory w.worker .opening) (horder : FreshOrder ack.orderId d.ledger)
    (hclient : ack.clientOrderId = (w.openRequest p).clientOrderId)
    (hsubmit : port.submitOpen (w.openRequest p) d.broker = (.ok ack, b))
    (hreads : Reads w port t (w.openRequest p) ack b truth snapshot b')
    (hstatus : truth.status = "filled") (hfilled : truth.filledQty = 1)
    (hobserved : truth.observedAt.tzinfo = .utc) :
    ∃ s₁ s₂ s, Submitted w p t ack.orderId d.ledger s₁ ∧ reconcileObservedOrder
        ⟨p.eventRunId, p.permitId, ack.orderId, "FILLED", .ofInt 1, truth.observedAt, t⟩ s₁ =
          .ok () s₂ ∧ markLifecycleIntentReconciled p.permitId t s₂ = .ok () s ∧ Filled p s ∧
      Returns (.still t port) (w.openPosition p) d (.openFilled, ack.orderId)
        { ledger := s, memory := (d.remembering w .opening p.permitId).memory, broker := b' } := by
  have ht := isAware_of_utc h.utc
  obtain ⟨heventId, hpermitId⟩ := h.eventRunId
  obtain ⟨s₁, hs₁, hopening⟩ := returns_submitOpening h hmemory horder hclient hsubmit
  obtain ⟨s₂, s₃, hs₂, hs₃, hdone⟩ := reconcile_fills h horder hs₁ hobserved
  obtain ⟨horderId, -⟩ := checkOrderTruth_ok hreads.order
  have hstate : reduceOpenOrder truth p.quantity = .openFilled := by
    rw [reduceOpenOrder, if_pos hstatus, hfilled, p.quantity_eq_one, if_pos rfl]
  refine ⟨s₁, s₂, s₃, hs₁, hs₂, hs₃, hdone, ?_⟩
  unfold openPosition
  refine hopening.bind ?_
  refine (returns_freshBoundTruth ht hreads).bind ?_
  dsimp only
  rw [hstate]
  have hrecord : Returns (.still t port) (w.recordOpenTransition .openFilled truth)
      { ledger := s₁, memory := (d.remembering w .opening p.permitId).memory, broker := b' } ()
      { ledger := s₃, memory := (d.remembering w .opening p.permitId).memory, broker := b' } := by
    refine (returns_now ht).bind ?_
    refine (returns_transact (c := .reconcileObservedOrder _) (a := ()) (s := s₂) ?_).bind ?_
    · rw [openingReconciliation, heventId, hpermitId, horderId, hfilled]
      exact hs₂
    · rw [hpermitId]
      exact returns_transact (c := .markLifecycleIntentReconciled _ _) (a := ()) hs₃
  exact hrecord.bind (returns_pure _)

/-- And its complete fill is persisted. -/
theorem returns_openPosition (h : CanOpen w p t d.ledger)
    (hmemory : p.permitId ∉ d.memory w.worker .opening) (horder : FreshOrder ack.orderId d.ledger)
    (hclient : ack.clientOrderId = (w.openRequest p).clientOrderId)
    (hsubmit : port.submitOpen (w.openRequest p) d.broker = (.ok ack, b))
    (hreads : Reads w port t (w.openRequest p) ack b truth snapshot b')
    (hstatus : truth.status = "filled") (hfilled : truth.filledQty = 1)
    (hobserved : truth.observedAt.tzinfo = .utc) :
    ∃ s, Filled p s ∧ Returns (.still t port) (w.openPosition p) d (.openFilled, ack.orderId)
      { ledger := s, memory := (d.remembering w .opening p.permitId).memory, broker := b' } := by
  obtain ⟨_, _, s, -, -, -, hfilledLedger, hreturns⟩ :=
    settles_openPosition h hmemory horder hclient hsubmit hreads hstatus hfilled hobserved
  exact ⟨s, hfilledLedger, hreturns⟩

end Opening

/-! ### Closing -/

def reversedLegs (p : DebitVerticalPermit) : List BrokerOptionLeg :=
  [⟨p.longLeg.symbol, p.quantity * p.longLeg.ratioQty, "sell", "sell_to_close"⟩,
    ⟨p.shortLeg.symbol, p.quantity * p.shortLeg.ratioQty, "buy", "buy_to_close"⟩]

theorem closeLegs_eq (p : DebitVerticalPermit) : closeLegs p = .ok (reversedLegs p) := by
  obtain ⟨hbuy, hbuyToOpen, hsell, hsellToOpen⟩ := p.sides
  simp only [closeLegs, List.mapM_cons, List.mapM_nil, hbuy, hbuyToOpen, hsell, hsellToOpen,
    inverseIntent]
  rfl

theorem isExactText_closePermitId (openPermitId eventRunId policySha256 snapshotSha256 : String)
    (issuedAt expiresAt : DateTime) (limitPrice : Decimal) :
    isExactText (closePermitId openPermitId eventRunId policySha256 snapshotSha256 issuedAt
      expiresAt limitPrice) = true :=
  Json.isExactText_tagged (c := 'p') (l := "c-".toList) (by decide) (by decide) _ 31

/-- What a close at `t` needs: the worker, the closing permit and a ledger that proves a filled
opening and knows of no close. -/
structure CanClose (w : MonitoredPaperLifecycle) (p : DebitVerticalPermit) (c : ClosePermit)
    (openOrderId : String) (correlation : CorrelationIdentity) (t : DateTime) (s : Ledger) :
    Prop where
  utc : t.tzinfo = .utc
  clocks : w.requireClocksVerified = .ok ()
  boundary : w.requirePaperBoundary = .ok ()
  scope : w.requireClockScope p = .ok ()
  deadlineAware : w.clocks.flatteningDeadlineAt.isAware
  deadline : t.micros ≤ w.clocks.flatteningDeadlineAt.micros
  permit : w.requireClosePermit p c = .ok ()
  correlated : w.correlation.withClosePermit c.permitId = .ok correlation
  exitAware : w.clocks.timeExitAt.isAware
  exit : w.clocks.timeExitAt.micros ≤ t.micros
  issued : c.issuedAt.micros ≤ t.micros
  expires : t.micros < c.expiresAt.micros
  texts : OrderTexts (w.closeRequest p c correlation (reversedLegs p))
  unclaimed : Unclaimed (w.closeRequest p c correlation (reversedLegs p)) s
  submission : (s.submissionForPermit p.permitId).map (·.brokerOrderId) = some openOrderId
  held : ∃ row q, s.reservationForEvent p.eventRunId = some row ∧
    row.reservationId = w.correlation.reservationId ∧ row.state = .consumed ∧
    s.permit p.permitId = some q ∧ q.eventId = p.eventRunId ∧
    q.reservationId = w.correlation.reservationId ∧ q.state = .filled

section Closing

variable {w : MonitoredPaperLifecycle} {p : DebitVerticalPermit} {c : ClosePermit}
  {openOrderId : String} {correlation : CorrelationIdentity} {t : DateTime} {d : Desk β}
  {port : PaperBroker β} {ack : BrokerOrderAck} {truth : BrokerOrderTruth}
  {snapshot : BrokerPositionSnapshot} {b b' : β}

theorem withClosePermit_ok {x y : CorrelationIdentity} {permitId : String}
    (h : x.withClosePermit permitId = .ok y) :
    y.toCorrelationFields = { x.toCorrelationFields with closePermitId := some permitId } := by
  simp only [CorrelationIdentity.withClosePermit] at h
  split at h
  · cases h
    rfl
  · cases h

theorem withClosePermit_returns (x : CorrelationIdentity) {permitId : String}
    (h : strip permitId ≠ "") : ∃ y, x.withClosePermit permitId = .ok y := by
  have hcheck : ({ x.toCorrelationFields with closePermitId := some permitId } :
      CorrelationFields).check = true := by
    have hold := x.accepted
    simp only [CorrelationFields.check, Bool.and_eq_true] at hold ⊢
    exact ⟨hold.1, bne_iff_ne.mpr h⟩
  exact ⟨⟨_, hcheck⟩, dif_pos hcheck⟩

theorem CanClose.eventRunId {s : Ledger} (h : CanClose w p c openOrderId correlation t s) :
    w.correlation.eventRunId = p.eventRunId ∧ correlation.eventRunId = p.eventRunId := by
  obtain ⟨_, hidentity, -⟩ := except_bind_eq_ok.mp h.permit
  have hid := throwIf_eq_ok.mp hidentity
  push Not at hid
  have hsame := congrArg CorrelationFields.eventRunId (withClosePermit_ok h.correlated)
  exact ⟨hid.2.2.1.symm, hsame.trans hid.2.2.1.symm⟩

theorem returns_requireClosing (h : CanClose w p c openOrderId correlation t d.ledger)
    (hmemory : c.permitId ∉ d.memory w.worker .closing) :
    Returns (.still t port) (w.requireClosing p c openOrderId) d correlation d := by
  have ht := isAware_of_utc h.utc
  obtain ⟨row, q, hrow, hrowId, hrowState, hq, -, -, hqState⟩ := h.held
  obtain ⟨heventId, hcorrelated⟩ := h.eventRunId
  have hpermitText : isExactText p.permitId := h.texts.openPermitId
  have heventText : isExactText p.eventRunId := hcorrelated ▸ h.texts.eventRunId
  have hnone : d.ledger.lifecycleIntentForEventPhase p.eventRunId .closing = none := by
    have hfree := h.unclaimed.event
    rw [show (w.closeRequest p c correlation (reversedLegs p)).eventRunId = p.eventRunId from
      hcorrelated] at hfree
    simp only [Ledger.lifecycleIntentForEventPhase, List.find?_eq_none, decide_eq_true_eq, not_and]
    exact hfree
  unfold requireClosing
  refine (returns_ofExcept h.clocks).bind ?_
  refine (returns_ofExcept h.boundary).bind ?_
  refine (returns_ofExcept h.scope).bind ?_
  refine returns_requireMutation.bind ?_
  refine (returns_now ht).bind ?_
  refine (returns_ofExcept (isBefore_eq (by rw [h.deadlineAware, ht]))).bind ?_
  refine (returns_raiseIf (by simpa using h.deadline)).bind ?_
  have hbinding : Returns (.still t port) (w.requireCloseBinding p c openOrderId) d correlation
      d := by
    refine (returns_ofExcept h.permit).bind ?_
    refine (returns_readLedger hpermitText _).bind ?_
    refine (returns_readLedger heventText _).bind ?_
    refine (returns_raiseIf (by simp [h.submission])).bind ?_
    refine (returns_readLedger hpermitText _).bind ?_
    refine (returns_raiseIf (by simp [hq, hqState, hrow, hrowId, hrowState])).bind ?_
    exact returns_ofExcept h.correlated
  refine hbinding.bind ?_
  refine (returns_ofExcept (isBefore_eq (by rw [h.exitAware, ht]))).bind ?_
  refine (returns_raiseIf (by simpa using h.exit)).bind ?_
  refine (returns_requireActiveWindow ht h.issued h.expires).bind ?_
  rw [heventId]
  refine (returns_readLedger heventText _).bind ?_
  refine (returns_raiseIf (by simp [hnone])).bind ?_
  refine returns_remembered.bind ?_
  exact (returns_raiseIf (by simp [hmemory])).bind (returns_pure _)

/-- A close that can be submitted is. -/
theorem returns_submitClosing (h : CanClose w p c openOrderId correlation t d.ledger)
    (hmemory : c.permitId ∉ d.memory w.worker .closing) (hack : isExactText ack.orderId)
    (hids : ∀ i ∈ d.ledger.lifecycleIntents, i.brokerOrderId ≠ some ack.orderId)
    (hclient : ack.clientOrderId =
      (w.closeRequest p c correlation (reversedLegs p)).clientOrderId)
    (hsubmit : port.submitClose (w.closeRequest p c correlation (reversedLegs p)) d.broker =
      (.ok ack, b)) :
    ∃ s, WithIntent d.ledger
        (boundRow (w.closeRequest p c correlation (reversedLegs p)) 1 t ack.orderId) s ∧
      Returns (.still t port) (w.submitClosing p c openOrderId) d
        (w.closeRequest p c correlation (reversedLegs p), ack)
        { ledger := s, memory := (d.remembering w .closing c.permitId).memory, broker := b } := by
  have ht := isAware_of_utc h.utc
  obtain ⟨s₁, hs₁, hclaimed⟩ := recordLifecycleIntent_claims 1 h.texts h.utc h.unclaimed
  obtain ⟨s₂, hs₂, hbound⟩ :=
    bindLifecycleIntent_binds h.texts h.utc h.unclaimed hack hids hclaimed
  refine ⟨s₂, hbound, ?_⟩
  unfold submitClosing
  refine (returns_requireClosing h hmemory).bind ?_
  refine (returns_ofExcept (closeLegs_eq p)).bind ?_
  rw [p.quantity_eq_one]
  refine (returns_claimPermit ht hs₁).bind ?_
  refine (returns_perform
    (.submitClose (w.closeRequest p c correlation (reversedLegs p))) (.ok ack)
    { Desk.remembering { d with ledger := s₁ } w .closing c.permitId with broker := b }
    fun n => ?_).bind ?_
  · show onBroker (port.submitClose _ d.broker) _ n = _
    rw [hsubmit]
    rfl
  refine (returns_ofExcept rfl).bind ?_
  exact (returns_bindAck (s := s₂) ht hack hclient hs₂).bind (returns_pure _)

theorem release_flattens {orderId : String} {s s₁ : Ledger}
    (h : CanClose w p c openOrderId correlation t s)
    (hs₁ : WithIntent s (boundRow (w.closeRequest p c correlation (reversedLegs p)) 1 t orderId)
      s₁) :
    ∃ s₂ s₃ row, releaseConsumedAfterFlat p.eventRunId p.permitId t s₁ = .ok () s₂ ∧
      markLifecycleIntentReconciled c.permitId t s₂ = .ok () s₃ ∧
      s₃.reservationForEvent p.eventRunId = some row ∧ row.state = .released := by
  obtain ⟨row, q, hrow, hrowId, hrowState, hq, hqEvent, hqRow, hqState⟩ := h.held
  have hfound := lifecycleIntentForPermit_withIntent hs₁ h.unclaimed.permit
  obtain ⟨events₁, rfl⟩ := hs₁
  have hpaired : Paired ((s.withLifecycleIntents (s.lifecycleIntents ++
      [boundRow (w.closeRequest p c correlation (reversedLegs p)) 1 t orderId])).withPassportEvents
        events₁) p.permitId p.eventRunId .filled .consumed :=
    ⟨q, row, hq, hqEvent, hqState, hrow, hrowId.trans hqRow.symm, hrowState⟩
  obtain ⟨s₂, hs₂⟩ := releaseConsumedAfterFlat_returns hpaired
    (h.eventRunId.2 ▸ h.texts.eventRunId) h.texts.openPermitId h.utc
  obtain ⟨_, _, events, -, -, -, -, -, -, hshape⟩ := releaseConsumedAfterFlat_ok hs₂
  have hintent : s₂.lifecycleIntentForPermit c.permitId =
      some (boundRow (w.closeRequest p c correlation (reversedLegs p)) 1 t orderId) := by
    rw [hshape]
    exact hfound
  obtain ⟨s₃, hs₃⟩ := markLifecycleIntentReconciled_returns h.texts.permitId h.utc hintent rfl
  have hreservations : s₂.reservations = reservationsSet p.eventRunId .released t s.reservations := by
    rw [hshape]
    rfl
  refine ⟨s₂, s₃, { row with state := .released, updatedAt := t }, hs₂, hs₃, ?_, rfl⟩
  rw [markLifecycleIntentReconciled_ok hs₃]
  exact reservationForEvent_reservationsSet hreservations hrow

/-- And its complete fill into no position is flat. -/
theorem returns_closePosition (h : CanClose w p c openOrderId correlation t d.ledger)
    (hmemory : c.permitId ∉ d.memory w.worker .closing) (hack : isExactText ack.orderId)
    (hids : ∀ i ∈ d.ledger.lifecycleIntents, i.brokerOrderId ≠ some ack.orderId)
    (hclient : ack.clientOrderId =
      (w.closeRequest p c correlation (reversedLegs p)).clientOrderId)
    (hsubmit : port.submitClose (w.closeRequest p c correlation (reversedLegs p)) d.broker =
      (.ok ack, b))
    (hreads : Reads w port t (w.closeRequest p c correlation (reversedLegs p)) ack b truth snapshot
      b')
    (hstatus : truth.status = "filled") (hfilled : truth.filledQty = 1)
    (hflat : ∀ row ∈ snapshot.positions, row.remains = false) :
    ∃ s row, s.reservationForEvent p.eventRunId = some row ∧ row.state = .released ∧
      Returns (.still t port) (w.closePosition p c openOrderId) d (.closedFlat, ack.orderId)
        { ledger := s, memory := (d.remembering w .closing c.permitId).memory, broker := b' } := by
  have ht := isAware_of_utc h.utc
  obtain ⟨heventId, -⟩ := h.eventRunId
  obtain ⟨s₁, hs₁, hclosing⟩ := returns_submitClosing h hmemory hack hids hclient hsubmit
  obtain ⟨s₂, s₃, row, hs₂, hs₃, hrow, hreleased⟩ := release_flattens h hs₁
  have hnone : snapshot.positions.filter PositionTruth.remains = [] := by simpa using hflat
  have hany : snapshot.positions.any PositionTruth.remains = false := by simpa using hflat
  have hstate : reduceCloseOrder truth snapshot.positions p.quantity = .closedFlat := by
    simp [reduceCloseOrder, hstatus, hfilled, p.quantity_eq_one, hany]
  refine ⟨s₃, row, hrow, hreleased, ?_⟩
  unfold closePosition
  refine hclosing.bind ?_
  refine (returns_freshBoundTruth ht hreads).bind ?_
  dsimp only
  rw [hstate]
  refine (returns_ofExcept rfl).bind ?_
  refine (returns_ofExcept (a := ()) ?_).bind ?_
  · exact throwIf_eq_ok.mpr (by simp [hnone])
  have hrecord : Returns (.still t port)
      (w.recordFlat p (w.closeRequest p c correlation (reversedLegs p)))
      { ledger := s₁, memory := (d.remembering w .closing c.permitId).memory, broker := b' } ()
      { ledger := s₃, memory := (d.remembering w .closing c.permitId).memory, broker := b' } := by
    refine (returns_now ht).bind ?_
    refine (returns_transact (c := .releaseConsumedAfterFlat _ _ _) (a := ()) (s := s₂) ?_).bind ?_
    · rw [heventId]
      exact hs₂
    · exact (returns_now ht).bind
        (returns_transact (c := .markLifecycleIntentReconciled _ _) (a := ()) hs₃)
  exact hrecord.bind (returns_pure _)

end Closing

/-! ### A broker that fills at once -/

def filledOrderId : IntentPhase → String
  | .opening => "order-1"
  | .closing => "order-2"

/-- The truth of an order that was filled at `t`. -/
def filledTruth (t : DateTime) (r : BrokerOrderRequest) : BrokerOrderTruth :=
  ⟨r.toOrderIdentity, filledOrderId r.phase, "filled", 1, t, r.limitPrice⟩

/-- Positions at `t`, correlated to the order. -/
def filledPositions (t : DateTime) (rows : List PositionTruth) (r : BrokerOrderRequest) :
    BrokerPositionSnapshot :=
  ⟨r.toOrderIdentity, filledOrderId r.phase, r.limitPrice, t, rows⟩

/-- A broker that fills every order at once and reports `rows`; its state is the last order. -/
def fillingBroker (t : DateTime) (accountId : String) (rows : List PositionTruth) :
    PaperBroker (Option BrokerOrderRequest) where
  submitOpen r _ := (.ok ⟨filledOrderId r.phase, r.clientOrderId, t⟩, some r)
  submitClose r _ := (.ok ⟨filledOrderId r.phase, r.clientOrderId, t⟩, some r)
  readOrder _ b := match b with
    | some r => (.ok (filledTruth t r), b)
    | none => (.error (.outage "no order"), b)
  readPositions b := match b with
    | some r => (.ok (filledPositions t rows r), b)
    | none => (.error (.outage "no order"), b)
  readAccount b := (.ok ⟨accountId, paperAccountClass, .ofNat 1, .ofNat 1, t⟩, b)

section Filling

variable {w : MonitoredPaperLifecycle} {t : DateTime} {r : BrokerOrderRequest}
  {rows : List PositionTruth}

theorem OrderIdentity.mismatches_self (a : OrderIdentity) {beforeLegs : List (String × Bool)}
    (h : ∀ field ∈ beforeLegs, field.2 = true) : a.mismatches a beforeLegs = [] := by
  refine filterMap_failed_eq_nil.mpr ?_
  intro field hfield
  rcases List.mem_append.mp hfield with hfield | hfield
  · rcases List.mem_append.mp hfield with hfield | hfield
    · simp only [beq_self_eq_true, List.mem_cons, List.not_mem_nil, or_false] at hfield
      rcases hfield with rfl | rfl | rfl | rfl | rfl | rfl | rfl | rfl | rfl | rfl | rfl <;> rfl
    · exact h field hfield
  · rw [List.mem_singleton.mp hfield]
    exact beq_self_eq_true _

theorem decimalEq_self {x : Decimal} (h : x.isFinite) : decimalEq x x = true := by
  cases x with
  | finite n c e => simp [decimalEq]
  | _ => cases h

theorem checkOrderTruth_filled (hprice : r.limitPrice.isFinite)
    (hbounds : priceInBounds r r.limitPrice) (client : String) :
    checkOrderTruth r ⟨filledOrderId r.phase, client, t⟩ (filledTruth t r) = .ok () := by
  have hnone : (if (filledTruth t r).orderId = filledOrderId r.phase then ([] : List String)
      else ["order_id"]) ++ r.toOrderIdentity.mismatches (filledTruth t r).toOrderIdentity [] = [] := by
    rw [filledTruth, if_pos rfl, OrderIdentity.mismatches_self _ (by simp)]
    rfl
  simp only [checkOrderTruth]
  rw [hnone]
  simp only [except_bind_eq_ok, throwIf_eq_ok]
  exact ⟨(), trivial, (), by simp [filledTruth, hprice], by simpa [filledTruth] using hbounds⟩

theorem checkSnapshot_filled (hprice : r.limitPrice.isFinite) (client : String) :
    checkSnapshot r ⟨filledOrderId r.phase, client, t⟩ (filledPositions t rows r) = .ok () := by
  have hnone : (if (filledPositions t rows r).orderId = filledOrderId r.phase
      then ([] : List String) else ["order_id"]) ++
        r.toOrderIdentity.mismatches (filledPositions t rows r).toOrderIdentity
          [("limit_price", decimalEq (filledPositions t rows r).limitPrice r.limitPrice)] = [] := by
    rw [filledPositions, if_pos rfl,
      OrderIdentity.mismatches_self _ (by simpa using decimalEq_self hprice)]
    rfl
  simp only [checkSnapshot]
  rw [hnone]

/-- Its truth passes every check, if the rows are well formed and match the legs. -/
theorem reads_filling (ht : t.isAware) (hage : 0 ≤ w.truthMaxAgeSeconds)
    (haccount : r.accountClass = paperAccountClass) (horder : r.orderClass = multiLegOrderClass)
    (hprice : r.limitPrice.isFinite) (hbounds : priceInBounds r r.limitPrice)
    (hrows : ∀ row ∈ rows, row.symbol ≠ "" ∧ row.qty.isFinite ∧ row.observedAt = t)
    (hlegs : r.phase = .opening →
      dictEq (rows.map fun p => (p.symbol, p.qty.toRat)) (expectedPositions r)) :
    Reads w (fillingBroker t r.accountId rows) t r ⟨filledOrderId r.phase, r.clientOrderId, t⟩
      (some r) (filledTruth t r) (filledPositions t rows r) (some r) := by
  have hfresh : FreshAt w t t := ⟨ht, le_rfl, by omega⟩
  refine ⟨⟨_, _, _, rfl, rfl, rfl, hfresh, rfl, rfl⟩, haccount, horder,
    checkOrderTruth_filled hprice hbounds _, hfresh, checkSnapshot_filled hprice _, hfresh, ?_,
    fun hphase _ => hlegs hphase⟩
  intro row hrow
  obtain ⟨hsymbol, hfinite, hat⟩ := hrows row hrow
  exact ⟨hsymbol, hfinite, hat ▸ hfresh⟩

end Filling

/-! ### A concrete lifecycle -/

def scenePermit : DebitVerticalPermit :=
  spyPermit "e1" digestA strip_e1 isLowerHex_digestA

def sceneClocks : LifecycleClocks where
  eventRunId := "e1"
  cohortId := "BMO"
  policySha256 := digestA
  sourceSha256 := digestA
  observationWindowStartAt := .utc 100
  observationWindowEndAt := .utc 200
  entryDeadlineAt := .utc 1400
  timeExitAt := .utc 1600
  flatteningDeadlineAt := .utc 1800
  accepted := by decide

def sceneCorrelation : CorrelationIdentity where
  eventRunId := "e1"
  snapshotSha256 := digestA
  decisionSha256 := digestA
  expressionSha256 := digestA
  reservationId := "r1"
  openPermitId := scenePermit.permitId
  closePermitId := none
  accepted := by
    have hpermit : (strip scenePermit.permitId != "") = true := strip_paperExecutionPermitId _
    have hevent : (strip "e1" != "") = true := by decide
    have hreservation : (strip "r1" != "") = true := by decide
    have hdigest : (digestA.length == 64) = true := by decide
    simp only [CorrelationFields.check, hevent, hdigest, hreservation, hpermit]
    rfl

def sceneWorker : MonitoredPaperLifecycle :=
  ⟨0, sceneClocks, sceneCorrelation, "PA1", paperAccountClass, multiLegOrderClass,
    defaultTruthMaxAgeSeconds⟩

def sceneLedger : Ledger :=
  (Ledger.empty.withReservations
    [⟨"r1", "e1", .ofStr (.ofNat 250), .reserved, "SPY", .utc 1000, .utc 1000⟩]).withPermits
      [⟨scenePermit.permitId, "e1", "r1", digestA, .issued, .utc 1000, .utc 1000⟩]

def sceneDesk : Desk (Option BrokerOrderRequest) := ⟨sceneLedger, fun _ _ => [], none⟩

theorem freshOrder_scene : FreshOrder "order-1" sceneLedger :=
  ⟨by decide, by simp [sceneLedger, Ledger.empty], by simp [sceneLedger, Ledger.empty],
    by simp [sceneLedger, Ledger.empty]⟩

theorem isExactText_scenePermit : isExactText scenePermit.permitId = true :=
  isExactText_paperExecutionPermitId _

theorem canOpen_scene : CanOpen sceneWorker scenePermit (.utc 1200) sceneLedger where
  utc := rfl
  clocks := by decide
  boundary := by decide
  scope := throwIf_eq_ok.mpr (by
    push Not
    exact ⟨rfl, rfl⟩)
  issued := by decide
  expires := by decide
  deadlineAware := rfl
  deadline := by decide
  identity := throwIf_eq_ok.mpr (by
    push Not
    exact ⟨rfl, rfl, rfl, rfl, rfl⟩)
  texts := orderTexts_request isExactText_scenePermit isExactText_scenePermit
    (by decide) (by decide) (by decide) rfl rfl
  unclaimed := ⟨by simp [sceneLedger, Ledger.empty], by simp [sceneLedger, Ledger.empty]⟩
  unsubmitted := by simp [sceneLedger, Ledger.empty]
  held := by
    refine ⟨_, _, rfl, rfl, rfl, rfl, ?_, rfl, rfl, rfl⟩
    simp [Ledger.permit, sceneLedger]

end EsscherMarket.Lifecycle
