import EsscherMarket.Lifecycle.Settlement

/-!
# Workers that share one ledger

Any number of worker objects and of calls on them, each call a thread, interleaved at their ledger
transactions, ledger reads, broker calls and memory accesses.  A crash is a call that takes no
further step, a restart one more object.

The guards of a worker read before they act; what decides is the uniqueness of an intent.  A monitor
keeps the intent that a call has committed, and the ledger commits one once.
-/

namespace EsscherMarket.Lifecycle

open Lib Execution Risk Prog MonitoredPaperLifecycle

/-! ### Intents in the ledger -/

structure IntentKey where
  permitId : String
  eventId : String
  phase : IntentPhase

/-- Neither the permit nor the phase of the event is the same. -/
def IntentKey.Apart (a b : IntentKey) : Prop :=
  a.permitId ≠ b.permitId ∧ (a.eventId = b.eventId → a.phase ≠ b.phase)

theorem IntentKey.Apart.symm {a b : IntentKey} (h : a.Apart b) : b.Apart a :=
  ⟨h.1.symm, fun he => (h.2 he.symm).symm⟩

def rowKey (i : LifecycleIntentRow) : IntentKey := ⟨i.permitId, i.eventId, i.phase⟩

def argsKey (a : LifecycleIntentArgs) : IntentKey := ⟨a.permitId, a.eventId, a.phase⟩

def Intended (s : Ledger) (key : IntentKey) (request : Json) : Prop :=
  ∃ i ∈ s.lifecycleIntents, rowKey i = key ∧ i.requestJson = request

theorem Intended.of_eq {s s' : Ledger} {key : IntentKey} {request : Json}
    (h : Intended s key request) (heq : s'.lifecycleIntents = s.lifecycleIntents) :
    Intended s' key request := by
  obtain ⟨i, hi, hk⟩ := h
  exact ⟨i, heq ▸ hi, hk⟩

/-- An update in place that keeps the keys and the requests. -/
theorem Intended.of_map {s s' : Ledger} {key : IntentKey} {request : Json}
    {f : LifecycleIntentRow → LifecycleIntentRow} (h : Intended s key request)
    (hf : ∀ i, rowKey (f i) = rowKey i ∧ (f i).requestJson = i.requestJson)
    (heq : s'.lifecycleIntents = s.lifecycleIntents.map f) : Intended s' key request := by
  obtain ⟨i, hi, hkey, hreq⟩ := h
  refine ⟨f i, heq ▸ List.mem_map_of_mem hi, (hf i).1.trans hkey, (hf i).2.trans hreq⟩

/-- What one call of the ledger does to the table of intents. -/
inductive IntentStep (s : Ledger) : List LifecycleIntentRow → Prop
  | same : IntentStep s s.lifecycleIntents
  | record (row : LifecycleIntentRow) (hfree : ∀ i ∈ s.lifecycleIntents, i.permitId ≠ row.permitId) :
    IntentStep s (s.lifecycleIntents ++ [row])
  | bind (permitId orderId : String) (now : DateTime) (horder : isExactText orderId) :
    IntentStep s (Table.setWhere (fun i => i.permitId = permitId)
      (fun i => { i with brokerOrderId := some orderId, state := .submitted, updatedAt := now })
      s.lifecycleIntents)
  | reconcile (permitId : String) (now : DateTime)
    (hsubmitted : ∃ i, s.lifecycleIntentForPermit permitId = some i ∧ i.state = .submitted) :
    IntentStep s (Table.setWhere (fun i => i.permitId = permitId)
      (fun i => { i with state := .reconciled, updatedAt := now }) s.lifecycleIntents)

/-- An atomic method that does such a step where it returns does one. -/
theorem IntentStep.of_after {α : Type} {x : LedgerTxn α} {s : Ledger} (hx : Txn.Atomic x)
    (hok : ∀ {a s'}, x s = .ok a s' → IntentStep s s'.lifecycleIntents) :
    IntentStep s (Txn.after x s).lifecycleIntents := by
  rcases hx.after_cases s with ⟨a, ha⟩ | hs
  · exact hok ha
  · rw [hs]
    exact .same

theorem bindLifecycleIntent_exact {s s' : Ledger} {permitId brokerOrderId : String}
    {phase : IntentPhase} {now : DateTime}
    (h : bindLifecycleIntent permitId phase brokerOrderId now s = .ok () s') :
    isExactText brokerOrderId = true := by
  simp only [bindLifecycleIntent, identifier_bind_eq_ok] at h
  exact h.2.1

theorem markLifecycleIntentReconciled_submitted {s s' : Ledger} {permitId : String} {now : DateTime}
    (h : markLifecycleIntentReconciled permitId now s = .ok () s') :
    ∃ i, s.lifecycleIntentForPermit permitId = some i ∧ i.state = .submitted := by
  simp only [markLifecycleIntentReconciled, identifier_bind_eq_ok, timestamp_bind_eq_ok,
    Txn.immediate_eq_ok, Txn.select_bind_eq_ok, Txn.raiseIf_bind_eq_ok, not_not] at h
  exact Option.map_eq_some_iff.mp h.2.2.1

/-- No call of the ledger does anything else to its intents. -/
theorem intentStep_exec (s : Ledger) (c : LedgerCall) :
    IntentStep s (c.exec s).lifecycleIntents := by
  cases c with
  | recordCandidate a =>
    refine IntentStep.of_after (atomic_recordCandidate a) fun hok => ?_
    obtain ⟨rows, rfl⟩ := recordCandidate_ok hok
    exact .same
  | freezeCandidate a =>
    refine IntentStep.of_after (atomic_freezeCandidate a) fun hok => ?_
    obtain ⟨rows, events, rfl⟩ := freezeCandidate_ok hok
    exact .same
  | recordNotRun eventId reason now =>
    refine IntentStep.of_after (atomic_recordNotRunWith false eventId reason now) fun hok => ?_
    obtain ⟨-, events, rfl⟩ := recordNotRunWith_ok hok
    exact .same
  | markNotRun eventId reason now =>
    refine IntentStep.of_after (atomic_recordNotRunWith true eventId reason now) fun hok => ?_
    obtain ⟨-, events, rfl⟩ := recordNotRunWith_ok hok
    exact .same
  | reserve eventId amount underlying now =>
    refine IntentStep.of_after (atomic_reserve eventId amount underlying now) fun hok => ?_
    obtain ⟨-, -, rfl⟩ := reserve_ok hok
    exact .same
  | consumeReservation eventId now =>
    refine IntentStep.of_after (atomic_transitionReservation eventId .reserved .consumed now) fun hok => ?_
    rw [transitionReservation_ok hok]
    exact .same
  | releaseReservation eventId now =>
    refine IntentStep.of_after (atomic_transitionReservation eventId .reserved .released now) fun hok => ?_
    rw [transitionReservation_ok hok]
    exact .same
  | recordPermit permitId eventId reservationId permitSha256 now =>
    refine IntentStep.of_after (atomic_recordPermit permitId eventId reservationId permitSha256 now)
      fun hok => ?_
    obtain ⟨-, rfl⟩ := recordPermit_ok hok
    exact .same
  | updatePermitState permitId toState now =>
    refine IntentStep.of_after (atomic_updatePermitState permitId toState now) fun hok => ?_
    rw [updatePermitState_ok hok]
    exact .same
  | recordLifecycleIntent a =>
    refine IntentStep.of_after (atomic_recordLifecycleIntent a) fun hok => ?_
    obtain ⟨row, events, hrow, hfree, -, rfl⟩ := recordLifecycleIntent_ok hok
    have hpermit : row.permitId = a.permitId := by rw [(validatedIntent_ok hrow).2]
    exact .record row (hpermit ▸ hfree)
  | bindLifecycleIntent permitId phase brokerOrderId now =>
    refine IntentStep.of_after (atomic_bindLifecycleIntent permitId phase brokerOrderId now) fun hok => ?_
    have horder := bindLifecycleIntent_exact hok
    obtain ⟨events, rfl⟩ := bindLifecycleIntent_ok hok
    exact .bind permitId brokerOrderId now horder
  | markLifecycleIntentReconciled permitId now =>
    refine IntentStep.of_after (atomic_markLifecycleIntentReconciled permitId now) fun hok => ?_
    have hsubmitted := markLifecycleIntentReconciled_submitted hok
    rw [markLifecycleIntentReconciled_ok hok]
    exact .reconcile permitId now hsubmitted
  | recordSubmission a =>
    refine IntentStep.of_after (atomic_recordSubmission a) fun hok => ?_
    obtain ⟨p, r, events, -, -, -, -, -, -, -, rfl⟩ := recordSubmission_ok hok
    exact .same
  | recordFill a =>
    refine IntentStep.of_after (atomic_recordFill a) fun hok => ?_
    obtain ⟨rows, rfl⟩ := recordFill_ok hok
    exact .same
  | reconcileObservedOrder a =>
    refine IntentStep.of_after (atomic_reconcileObservedOrder a) fun hok => ?_
    obtain ⟨p, r, t, q, fills, events, -, -, -, -, -, -, -, rfl⟩ := reconcileObservedOrder_ok hok
    exact .same
  | releaseConsumedAfterFlat eventId permitId now =>
    refine IntentStep.of_after (atomic_releaseConsumedAfterFlat eventId permitId now) fun hok => ?_
    obtain ⟨p, r, events, -, -, -, -, -, -, rfl⟩ := releaseConsumedAfterFlat_ok hok
    exact .same
  | reserveAndIssuePermit a =>
    refine IntentStep.of_after (atomic_reserveAndIssuePermit a) fun hok => ?_
    obtain ⟨-, -, -, -, -, rfl⟩ := reserveAndIssuePermit_eq_ok.mp hok
    exact .same
  | reserveV2AndIssuePermit a =>
    refine IntentStep.of_after (atomic_reserveV2AndIssuePermit a) fun hok => ?_
    rcases reserveV2AndIssuePermit_ok hok with rfl | ⟨tier, -, rfl⟩
    · exact .same
    · exact .same
  | recordAccountSnapshot equity now =>
    refine IntentStep.of_after (atomic_recordAccountSnapshot equity now) fun hok => ?_
    obtain ⟨rows, rfl⟩ := recordAccountSnapshot_ok hok
    exact .same
  | setControlState state reason now =>
    refine IntentStep.of_after (atomic_setControlState state reason now) fun hok => ?_
    rw [setControlState_ok hok]
    exact .same
  | setControlStateWithPassport state reason payload now =>
    refine IntentStep.of_after (atomic_setControlStateWithPassport state reason payload now) fun hok => ?_
    obtain ⟨events, rfl⟩ := setControlStateWithPassport_ok hok
    exact .same

/-- No call of the ledger loses an intent. -/
theorem Intended.exec {s : Ledger} {key : IntentKey} {request : Json}
    (h : Intended s key request) (c : LedgerCall) : Intended (c.exec s) key request := by
  have hstep := intentStep_exec s c
  generalize c.exec s = s' at hstep
  generalize hrows : s'.lifecycleIntents = rows at hstep
  cases hstep with
  | same => exact h.of_eq hrows
  | record row _ =>
    obtain ⟨i, hi, hk⟩ := h
    exact ⟨i, hrows ▸ List.mem_append_left _ hi, hk⟩
  | bind permitId orderId now _ =>
    refine h.of_map (fun i => ?_) hrows
    split <;> exact ⟨rfl, rfl⟩
  | reconcile permitId now _ =>
    refine h.of_map (fun i => ?_) hrows
    split <;> exact ⟨rfl, rfl⟩

/-- An intent is committed once: it was apart from every intent of the ledger, and is there
now. -/
theorem intended_of_recorded {s : Ledger} {a : LifecycleIntentArgs}
    (h : (recordLifecycleIntent a).result s = .ok ()) :
    (∀ {key request}, Intended s key request → key.Apart (argsKey a)) ∧
      Intended ((LedgerCall.recordLifecycleIntent a).exec s) (argsKey a) a.requestJson := by
  obtain ⟨s', hok⟩ := Txn.of_result_ok h
  have hexec : (LedgerCall.recordLifecycleIntent a).exec s = s' := Txn.after_of_ok hok
  obtain ⟨row, events, hrow, hpermit, hevent, rfl⟩ := recordLifecycleIntent_ok hok
  obtain ⟨-, hrow⟩ := validatedIntent_ok hrow
  constructor
  · rintro key request ⟨i, hi, rfl, -⟩
    exact ⟨hpermit i hi, hevent i hi⟩
  · rw [hexec]
    refine ⟨row, List.mem_append_right _ (List.mem_singleton_self _), ?_, ?_⟩
    · rw [hrow]
      rfl
    · rw [hrow]

/-! ### The monitor -/

def commitAnswer (held : Option LifecycleIntentArgs) (a : LifecycleIntentArgs) :
    Except LedgerError Unit → Option LifecycleIntentArgs
  | .ok () => some a
  | .error _ => held

def Holds (held : Option LifecycleIntentArgs) (phase : IntentPhase) (r : BrokerOrderRequest) :
    Prop :=
  r.phase = phase ∧ ∃ t, held = some (intentArgs r 1 t)

/-- The intent that a call has committed, given up with the submission of its order. -/
def intentMonitor : Monitor lifecycleSig (Option LifecycleIntentArgs) where
  next
    | held, .ledger (.recordLifecycleIntent a), r => commitAnswer held a r
    | _, .submitOpen _, _ | _, .submitClose _, _ => none
    | held, _, _ => held
  ok
    | held, .submitOpen r => Holds held .opening r
    | held, .submitClose r => Holds held .closing r
    | _, _ => True

def Plain : LifecycleOp → Prop
  | .ledger (.recordLifecycleIntent _) | .submitOpen _ | .submitClose _ => False
  | _ => True

theorem Plain.ignored {op : LifecycleOp} (h : Plain op) (held : Option LifecycleIntentArgs) :
    intentMonitor.ok held op ∧ ∀ r, intentMonitor.next held op r = held := by
  cases op with
  | ledger c =>
    cases c with
    | recordLifecycleIntent a => exact h.elim
    | _ => exact ⟨trivial, fun _ => rfl⟩
  | submitOpen r => exact h.elim
  | submitClose r => exact h.elim
  | _ => exact ⟨trivial, fun _ => rfl⟩

/-! ### The parts of a call that the monitor ignores -/

theorem Quiet.plain {op : LifecycleOp} (h : Quiet op) : Plain op := by
  cases op with
  | ledger c => exact h.elim
  | submitOpen r => exact h.elim
  | submitClose r => exact h.elim
  | _ => trivial

theorem Guard.plain {op : LifecycleOp} (h : Guard op) : Plain op := h.quiet.plain

section Plain

variable {w : MonitoredPaperLifecycle} {p : DebitVerticalPermit} {r : BrokerOrderRequest}
  {ack : BrokerOrderAck}

theorem plain_of_guard {α : Type} {x : LifecycleProg α} (h : Uses (S := lifecycleSig) Guard x) :
    Uses (S := lifecycleSig) Plain x :=
  h.mono fun _ => Guard.plain

theorem plain_now : Uses (S := lifecycleSig) Plain now := plain_of_guard guard_now

theorem plain_transact {handler : RiskRejected → LifecycleError} {c : LedgerCall}
    (h : Plain (.ledger c)) : Uses (S := lifecycleSig) Plain (transact handler c) :=
  (uses_perform (S := lifecycleSig) h).bind fun _ => uses_ofExcept _

theorem plain_bindAck : Uses (S := lifecycleSig) Plain (bindAck r ack) :=
  (uses_raiseIf _ _).bind fun _ => plain_now.bind fun _ => plain_transact (by trivial)

theorem plain_freshBoundTruth : Uses (S := lifecycleSig) Plain (w.freshBoundTruth r ack) :=
  quiet_freshBoundTruth.mono fun _ => Quiet.plain

theorem plain_recordOpenTransition (state : LifecycleState) (truth : BrokerOrderTruth) :
    Uses (S := lifecycleSig) Plain (w.recordOpenTransition state truth) := by
  refine plain_now.bind fun t => ?_
  cases state with
  | openFilled => exact (plain_transact (by trivial)).bind fun _ => plain_transact (by trivial)
  | openCanceled => exact (plain_transact (by trivial)).bind fun _ => plain_transact (by trivial)
  | _ => exact plain_transact (by trivial)

theorem plain_recordFlat : Uses (S := lifecycleSig) Plain (w.recordFlat p r) :=
  plain_now.bind fun _ => (plain_transact (by trivial)).bind fun _ =>
    plain_now.bind fun _ => plain_transact (by trivial)

theorem plain_recoverOpenState (openOrderId : String) (expectedQty : Int) :
    Uses (S := lifecycleSig) Plain (w.recoverOpenState openOrderId expectedQty) := by
  refine (plain_of_guard (guard_readLedger _ _ _)).bind fun found => ?_
  cases found with
  | none => exact uses_raise _
  | some intent =>
    exact (uses_ofExcept _).bind fun _ => (uses_raiseIf _ _).bind fun _ => plain_now.bind fun _ =>
      plain_freshBoundTruth.bind fun _ => uses_pure _

theorem plain_recoverFlatness : Uses (S := lifecycleSig) Plain w.recoverFlatness := by
  refine (plain_of_guard (guard_readLedger _ _ _)).bind fun found => ?_
  cases found with
  | none => exact uses_pure _
  | some intent =>
    exact (uses_ofExcept _).bind fun _ => plain_now.bind fun _ =>
      plain_freshBoundTruth.bind fun _ => uses_pure _

end Plain

/-! ### Every call keeps to the monitor -/

/-- One call on a worker object, or another user of the ledger. -/
inductive WorkerCall where
  | openPosition (w : MonitoredPaperLifecycle) (p : DebitVerticalPermit)
  | closePosition (w : MonitoredPaperLifecycle) (p : DebitVerticalPermit) (c : ClosePermit)
      (openOrderId : String)
  | recoverOpenState (w : MonitoredPaperLifecycle) (openOrderId : String) (expectedQty : Int)
  | recoverFlatness (w : MonitoredPaperLifecycle)
  | ledgerUser (calls : List LedgerCall)

def useLedger : List LedgerCall → LifecycleProg Unit
  | [] => return ()
  | c :: rest => do
    let _ ← perform (S := lifecycleSig) (.ledger c)
    useLedger rest

def WorkerCall.prog : WorkerCall → LifecycleProg Unit
  | .openPosition w p => do let _ ← w.openPosition p
  | .closePosition w p c openOrderId => do let _ ← w.closePosition p c openOrderId
  | .recoverOpenState w openOrderId expectedQty => do
    let _ ← w.recoverOpenState openOrderId expectedQty
  | .recoverFlatness w => do let _ ← w.recoverFlatness
  | .ledgerUser calls => useLedger calls

section Safe

variable {w : MonitoredPaperLifecycle} {p : DebitVerticalPermit} {r : BrokerOrderRequest}
  {held : Option LifecycleIntentArgs}

theorem safe_plain {α : Type} {x : LifecycleProg α} (hx : Uses (S := lifecycleSig) Plain x) :
    Safe intentMonitor held x fun held' _ => held' = held :=
  hx.safe fun _ h => h.ignored held

theorem safe_ignored {α : Type} {x : LifecycleProg α} (hx : Uses (S := lifecycleSig) Plain x) :
    Safe intentMonitor held x fun _ _ => True :=
  (safe_plain hx).mono fun _ _ _ => trivial

theorem safe_claimPermit (qty : Int) :
    Safe intentMonitor held (w.claimPermit r qty) fun held' _ =>
      ∃ t, held' = some (intentArgs r qty t) := by
  refine Safe.bind (R := fun held' _ => ∃ t, held' = some (intentArgs r qty t)) ?_ ?_
  · refine (safe_plain plain_now).bind ?_
    rintro _ t rfl
    refine safe_perform_bind trivial fun answer => safe_ofExcept fun u hu => ?_
    show ∃ t, commitAnswer _ _ answer = _
    cases answer with
    | ok u => exact ⟨t, rfl⟩
    | error e => cases hu
  · rintro held' _ ⟨t, rfl⟩
    have hop : Plain (.remember w.worker r.phase r.permitId) := trivial
    exact (safe_plain (uses_perform (S := lifecycleSig) hop)).mono fun _ _ h => ⟨t, h⟩

/-- An opening is submitted only with its own intent in hand. -/
theorem safe_openPosition :
    Safe intentMonitor none (w.openPosition p) fun _ _ => True := by
  have hsubmit : Safe intentMonitor none (w.submitOpening p) fun _ _ => True := by
    refine (safe_plain (plain_of_guard guard_requireOpening)).bind ?_
    rintro _ _ rfl
    refine (safe_claimPermit p.quantity).bind ?_
    rintro held _ ⟨t, rfl⟩
    rw [p.quantity_eq_one]
    refine safe_perform_bind ⟨rfl, t, rfl⟩ fun answer => safe_ignored ?_
    refine (uses_ofExcept _).bind fun ack => plain_bindAck.bind fun _ => ?_
    exact plain_now.bind fun _ => (plain_transact (by trivial)).bind fun _ => uses_pure _
  refine hsubmit.bind fun _ ack _ => safe_ignored ?_
  exact plain_freshBoundTruth.bind fun ⟨truth, _⟩ =>
    (plain_recordOpenTransition _ _).bind fun _ => uses_pure _

/-- And so is a close. -/
theorem safe_closePosition (c : ClosePermit) (openOrderId : String) :
    Safe intentMonitor none (w.closePosition p c openOrderId) fun _ _ => True := by
  have hsubmit : Safe intentMonitor none (w.submitClosing p c openOrderId) fun _ _ => True := by
    refine (safe_plain (plain_of_guard (guard_requireClosing c openOrderId))).bind ?_
    rintro _ correlation rfl
    refine safe_ofExcept_bind fun legs _ => ?_
    refine (safe_claimPermit p.quantity).bind ?_
    rintro held _ ⟨t, rfl⟩
    rw [p.quantity_eq_one]
    refine safe_perform_bind ⟨rfl, t, rfl⟩ fun answer => safe_ignored ?_
    exact (uses_ofExcept _).bind fun ack => plain_bindAck.bind fun _ => uses_pure _
  refine hsubmit.bind ?_
  rintro _ ⟨r, ack⟩ -
  refine safe_ignored (plain_freshBoundTruth.bind ?_)
  rintro ⟨truth, positions⟩
  exact (uses_ofExcept _).bind fun _ => (uses_ofExcept _).bind fun _ =>
    plain_recordFlat.bind fun _ => uses_pure _

theorem safe_useLedger (calls : List LedgerCall) :
    Safe intentMonitor held (useLedger calls) fun _ _ => True := by
  induction calls generalizing held with
  | nil => exact safe_pure trivial
  | cons c rest ih => exact safe_perform_bind trivial fun _ => ih

/-- Every call keeps to the monitor. -/
theorem call_safe (c : WorkerCall) : Safe intentMonitor none c.prog fun _ _ => True := by
  cases c with
  | openPosition w p => exact safe_openPosition.bind fun _ _ _ => safe_pure trivial
  | closePosition w p c openOrderId =>
    exact (safe_closePosition c openOrderId).bind fun _ _ _ => safe_pure trivial
  | recoverOpenState w openOrderId expectedQty =>
    exact safe_ignored ((plain_recoverOpenState openOrderId expectedQty).bind fun _ => uses_pure _)
  | recoverFlatness w => exact safe_ignored (plain_recoverFlatness.bind fun _ => uses_pure _)
  | ledgerUser calls => exact safe_useLedger calls

end Safe

/-! ### Pools -/

/-- What the threads share: the ledger, the sets of each worker object, and the orders that the
broker was handed. -/
structure Shared where
  ledger : Ledger
  memory : Nat → IntentPhase → List String
  submitted : List (IntentPhase × BrokerOrderRequest)

/-- The orders of the calls of `submit_open`. -/
def Shared.opens (x : Shared) : List BrokerOrderRequest :=
  (x.submitted.filter fun o => o.1 = .opening).map Prod.snd

/-- The orders of the calls of `submit_close`. -/
def Shared.closes (x : Shared) : List BrokerOrderRequest :=
  (x.submitted.filter fun o => o.1 = .closing).map Prod.snd

/-- How an operation may be answered: the ledger and the memory answer for themselves, the clock,
the gate and the broker in any way. -/
def Shared.Answers : (op : LifecycleOp) → Shared → op.Res → Shared → Prop
  | .ledger c, x, r, x' => c.txn.result x.ledger = r ∧ x' = { x with ledger := c.exec x.ledger }
  | .readLedger, x, r, x' => x.ledger = r ∧ x' = x
  | .remembered worker phase permitId, x, r, x' =>
    (x.memory worker phase).contains permitId = r ∧ x' = x
  | .remember worker phase permitId, x, _, x' => x' = { x with
      memory := Function.update x.memory worker
        (Function.update (x.memory worker) phase (permitId :: x.memory worker phase)) }
  | .submitOpen r, x, _, x' => x' = { x with submitted := x.submitted ++ [(.opening, r)] }
  | .submitClose r, x, _, x' => x' = { x with submitted := x.submitted ++ [(.closing, r)] }
  | .now, x, _, x' | .mutationPermitted, x, _, x' | .readOrder _, x, _, x'
  | .readPositions, x, _, x' | .readAccount, x, _, x' => x' = x

abbrev WorkerPool (ι : Type) : Type :=
  Pool lifecycleSig LifecycleError Unit Shared (Option LifecycleIntentArgs) ι

/-- Calls that are about to start on a ledger, on objects that remember nothing. -/
def workerPool {ι : Type} (s : Ledger) (calls : ι → WorkerCall) : WorkerPool ι where
  store := ⟨s, fun _ _ => [], []⟩
  thread i := (calls i).prog
  seen _ := none

def requestKey (r : BrokerOrderRequest) : IntentKey := ⟨r.permitId, r.eventRunId, r.phase⟩

/-- What was submitted, or is in the hand of a call, has its intent in the ledger; and no two of
these share a permit, or the phase of an event. -/
structure OnceInv {ι : Type} (p : WorkerPool ι) : Prop where
  phases : ∀ o ∈ p.store.submitted, o.2.phase = o.1
  submitted : ∀ o ∈ p.store.submitted,
    Intended p.store.ledger (requestKey o.2) (brokerOrderRequestPayload o.2 1)
  held : ∀ i a, p.seen i = some a → Intended p.store.ledger (argsKey a) a.requestJson
  apart : p.store.submitted.Pairwise fun o o' => (requestKey o.2).Apart (requestKey o'.2)
  heldApart : ∀ i a, p.seen i = some a → ∀ o ∈ p.store.submitted,
    (argsKey a).Apart (requestKey o.2)
  alone : ∀ i j a b, i ≠ j → p.seen i = some a → p.seen j = some b → (argsKey a).Apart (argsKey b)

section Pools

variable {ι : Type}

/-- The ledger changed by one call, and what the calls hold did not. -/
theorem OnceInv.kept {p p' : WorkerPool ι} (h : OnceInv p)
    (hkept : ∀ {key request}, Intended p.store.ledger key request →
      Intended p'.store.ledger key request)
    (hsubmitted : p'.store.submitted = p.store.submitted) (hseen : p'.seen = p.seen) :
    OnceInv p' := by
  obtain ⟨hphases, hsub, hheld, hapart, hheldApart, halone⟩ := h
  constructor
  · rwa [hsubmitted]
  · rw [hsubmitted]
    exact fun o ho => hkept (hsub o ho)
  · rw [hseen]
    exact fun i a hi => hkept (hheld i a hi)
  · rwa [hsubmitted]
  · rwa [hsubmitted, hseen]
  · rwa [hseen]

theorem onceInv_workerPool (s : Ledger) (calls : ι → WorkerCall) :
    OnceInv (workerPool s calls) := by
  constructor <;> simp [workerPool]

/-- The orders handed over by one method have distinct permits and distinct events. -/
theorem OnceInv.nodup {p : WorkerPool ι} (h : OnceInv p) (phase : IntentPhase) :
    let orders := (p.store.submitted.filter fun o => o.1 = phase).map Prod.snd
    (orders.map (·.permitId)).Nodup ∧ (orders.map (·.eventRunId)).Nodup := by
  intro orders
  have hpair : (p.store.submitted.filter fun o => o.1 = phase).Pairwise fun o o' =>
      o.2.permitId ≠ o'.2.permitId ∧ o.2.eventRunId ≠ o'.2.eventRunId := by
    refine (h.apart.filter _).imp_of_mem ?_
    intro o o' ho ho' hapart
    have hphase : o.2.phase = phase := by
      rw [h.phases o (List.mem_of_mem_filter ho)]
      simpa using List.of_mem_filter ho
    have hphase' : o'.2.phase = phase := by
      rw [h.phases o' (List.mem_of_mem_filter ho')]
      simpa using List.of_mem_filter ho'
    exact ⟨hapart.1, fun he => hapart.2 he (hphase.trans hphase'.symm)⟩
  constructor
  · rw [List.map_map, List.Nodup, List.pairwise_map]
    exact hpair.imp fun h => h.1
  · rw [List.map_map, List.Nodup, List.pairwise_map]
    exact hpair.imp fun h => h.2

variable [DecidableEq ι]

/-- An intent was committed: it is apart from everything the ledger knew. -/
theorem OnceInv.committed {p p' : WorkerPool ι} (h : OnceInv p) {i : ι} {a : LifecycleIntentArgs}
    (hkept : ∀ {key request}, Intended p.store.ledger key request →
      Intended p'.store.ledger key request)
    (hsubmitted : p'.store.submitted = p.store.submitted)
    (hseen : p'.seen = Function.update p.seen i (some a))
    (hfresh : ∀ {key request}, Intended p.store.ledger key request → key.Apart (argsKey a))
    (hnow : Intended p'.store.ledger (argsKey a) a.requestJson) : OnceInv p' := by
  have hcases : ∀ j b, p'.seen j = some b → j = i ∧ b = a ∨ j ≠ i ∧ p.seen j = some b := by
    intro j b hj
    rw [hseen] at hj
    by_cases hji : j = i
    · subst hji
      rw [Function.update_self] at hj
      exact .inl ⟨rfl, (Option.some.inj hj).symm⟩
    · rw [Function.update_of_ne hji] at hj
      exact .inr ⟨hji, hj⟩
  constructor
  · rw [hsubmitted]
    exact h.phases
  · rw [hsubmitted]
    exact fun o ho => hkept (h.submitted o ho)
  · intro j b hj
    rcases hcases j b hj with ⟨-, rfl⟩ | ⟨-, hold⟩
    · exact hnow
    · exact hkept (h.held j b hold)
  · rw [hsubmitted]
    exact h.apart
  · intro j b hj o ho
    rw [hsubmitted] at ho
    rcases hcases j b hj with ⟨-, rfl⟩ | ⟨-, hold⟩
    · exact (hfresh (h.submitted o ho)).symm
    · exact h.heldApart j b hold o ho
  · intro j k b c hjk hj hk
    rcases hcases j b hj with ⟨rfl, rfl⟩ | ⟨-, hold⟩
    · rcases hcases k c hk with ⟨rfl, -⟩ | ⟨-, hold'⟩
      · exact absurd rfl hjk
      · exact (hfresh (h.held k c hold')).symm
    · rcases hcases k c hk with ⟨-, rfl⟩ | ⟨-, hold'⟩
      · exact hfresh (h.held j b hold)
      · exact h.alone j k b c hjk hold hold'

theorem OnceInv.submit {p p' : WorkerPool ι} (h : OnceInv p) {i : ι} {phase : IntentPhase}
    {r : BrokerOrderRequest} (hi : Holds (p.seen i) phase r)
    (hledger : p'.store.ledger = p.store.ledger)
    (hsubmitted : p'.store.submitted = p.store.submitted ++ [(phase, r)])
    (hseen : p'.seen = Function.update p.seen i none) : OnceInv p' := by
  obtain ⟨hphase, t, hi⟩ := hi
  have hintended : Intended p.store.ledger (requestKey r) (brokerOrderRequestPayload r 1) :=
    h.held i _ hi
  have hapart := h.heldApart i _ hi
  have hothers : ∀ j b, p'.seen j = some b → j ≠ i ∧ p.seen j = some b := by
    intro j b hj
    rw [hseen] at hj
    by_cases hji : j = i
    · subst hji
      rw [Function.update_self] at hj
      cases hj
    · rw [Function.update_of_ne hji] at hj
      exact ⟨hji, hj⟩
  constructor
  · intro o ho
    rw [hsubmitted] at ho
    rcases List.mem_append.mp ho with ho | ho
    · exact h.phases o ho
    · rw [List.mem_singleton.mp ho]
      exact hphase
  · intro o ho
    rw [hsubmitted] at ho
    rw [hledger]
    rcases List.mem_append.mp ho with ho | ho
    · exact h.submitted o ho
    · rw [List.mem_singleton.mp ho]
      exact hintended
  · intro j b hj
    rw [hledger]
    exact h.held j b (hothers j b hj).2
  · rw [hsubmitted, List.pairwise_append]
    refine ⟨h.apart, List.pairwise_singleton _ _, ?_⟩
    intro o ho o' ho'
    rw [List.mem_singleton.mp ho']
    exact (hapart o ho).symm
  · intro j b hj o ho
    obtain ⟨hji, hold⟩ := hothers j b hj
    rw [hsubmitted] at ho
    rcases List.mem_append.mp ho with ho | ho
    · exact h.heldApart j b hold o ho
    · rw [List.mem_singleton.mp ho]
      exact h.alone j i b _ hji hold hi
  · intro j k b c hjk hj hk
    exact h.alone j k b c hjk (hothers j b hj).2 (hothers k c hk).2

theorem OnceInv.ignored {p : WorkerPool ι} (h : OnceInv p) {i : ι} {op : LifecycleOp}
    {k : op.Res → LifecycleProg Unit} {r : op.Res} {x : Shared}
    (hnext : intentMonitor.next (p.seen i) op r = p.seen i)
    (hkept : ∀ {key request}, Intended p.store.ledger key request →
      Intended x.ledger key request)
    (hsubmitted : x.submitted = p.store.submitted) :
    OnceInv (p.advance intentMonitor i op k r x) := by
  refine h.kept hkept hsubmitted ?_
  show Function.update p.seen i (intentMonitor.next (p.seen i) op r) = p.seen
  rw [hnext, Function.update_eq_self]

theorem OnceInv.commit {p : WorkerPool ι} (h : OnceInv p) {i : ι} {a : LifecycleIntentArgs}
    {k : Except LedgerError Unit → LifecycleProg Unit} {r : Except LedgerError Unit}
    (hr : (recordLifecycleIntent a).result p.store.ledger = r) :
    OnceInv (p.advance intentMonitor i (.ledger (.recordLifecycleIntent a)) k r
      { p.store with ledger := (LedgerCall.recordLifecycleIntent a).exec p.store.ledger }) := by
  have hkept : ∀ {key request}, Intended p.store.ledger key request →
      Intended ((LedgerCall.recordLifecycleIntent a).exec p.store.ledger) key request :=
    fun hint => hint.exec _
  cases r with
  | error e => exact h.ignored rfl hkept rfl
  | ok u =>
    obtain ⟨hfresh, hnow⟩ := intended_of_recorded hr
    exact h.committed hkept rfl rfl hfresh hnow

/-- One step. -/
theorem OnceInv.step {p p' : WorkerPool ι} {i : ι} {op : LifecycleOp} (h : OnceInv p)
    (hobeys : p.Obeys intentMonitor)
    (hstep : Pool.Step intentMonitor Shared.Answers p i op p') : OnceInv p' := by
  have hok := hobeys.ok hstep
  cases hstep with
  | call hthread hstore =>
    cases op with
    | ledger c =>
      obtain ⟨hr, rfl⟩ := hstore
      cases c with
      | recordLifecycleIntent a => exact h.commit hr
      | _ => exact h.ignored rfl (fun hint => hint.exec _) rfl
    | submitOpen r =>
      cases hstore
      exact h.submit hok rfl rfl rfl
    | submitClose r =>
      cases hstore
      exact h.submit hok rfl rfl rfl
    | readLedger =>
      obtain ⟨-, rfl⟩ := hstore
      exact h.ignored rfl id rfl
    | remembered worker phase permitId =>
      obtain ⟨-, rfl⟩ := hstore
      exact h.ignored rfl id rfl
    | _ =>
      cases hstore
      exact h.ignored rfl id rfl

theorem onceInv_reach {s : Ledger} {calls : ι → WorkerCall} {p : WorkerPool ι}
    (h : Pool.Reach intentMonitor Shared.Answers (fun _ _ _ => True) (workerPool s calls) p) :
    OnceInv p ∧ p.Obeys intentMonitor := by
  have hobeys : (workerPool s calls).Obeys intentMonitor := fun i => call_safe (calls i)
  refine ⟨?_, h.obeys hobeys⟩
  exact h.inv hobeys (onceInv_workerPool s calls) fun h hobeys hstep _ => h.step hobeys hstep

/-- At most once, and never before its intent: over any interleaving of calls on any workers,
stopped anywhere, `submit_open` is called once at most for a permit and an event, `submit_close` for
an event, and the ledger holds the intent of the order before. -/
theorem submitted_at_most_once (s : Ledger) (calls : ι → WorkerCall) (p : WorkerPool ι)
    (h : Pool.Reach intentMonitor Shared.Answers (fun _ _ _ => True) (workerPool s calls) p) :
    (p.store.opens.map (·.permitId)).Nodup ∧ (p.store.opens.map (·.eventRunId)).Nodup ∧
    (p.store.closes.map (·.eventRunId)).Nodup ∧
    ∀ i op p' r, Pool.Step intentMonitor Shared.Answers p i op p' →
      op = .submitOpen r ∨ op = .submitClose r →
      ∃ intent ∈ p.store.ledger.lifecycleIntents, intent.permitId = r.permitId ∧
        intent.eventId = r.eventRunId ∧ intent.phase = r.phase ∧
        intent.requestJson = brokerOrderRequestPayload r 1 := by
  obtain ⟨hinv, hobeys⟩ := onceInv_reach h
  have hopens := hinv.nodup .opening
  refine ⟨hopens.1, hopens.2, (hinv.nodup .closing).2, ?_⟩
  intro i op p' r hstep hop
  have hheld : ∃ t, p.seen i = some (intentArgs r 1 t) := by
    have hok := hobeys.ok hstep
    rcases hop with rfl | rfl
    · exact hok.2
    · exact hok.2
  obtain ⟨t, ht⟩ := hheld
  obtain ⟨intent, hmem, hkey, hrequest⟩ := hinv.held i _ ht
  obtain ⟨hpermit, hevent, hphase⟩ := IntentKey.mk.inj hkey
  exact ⟨intent, hmem, hpermit, hevent, hphase, hrequest⟩

end Pools

/-! ### A call that runs without a break -/

section Alone

variable {β ι : Type} [DecidableEq ι]

/-- The pool's ledger and memory are those of the desk. -/
structure SameDesk (d : Desk β) (x : Shared) : Prop where
  ledger : x.ledger = d.ledger
  memory : x.memory = d.memory

def handedOver : LifecycleOp → List (IntentPhase × BrokerOrderRequest)
  | .submitOpen r => [(.opening, r)]
  | .submitClose r => [(.closing, r)]
  | _ => []

theorem SameDesk.answers {d : Desk β} {x : Shared} (h : SameDesk d x) (e : Setting β)
    (op : LifecycleOp) (n : Nat) :
    ∃ x', Shared.Answers op x (e.answer op (d, n)).1 x' ∧ SameDesk (e.answer op (d, n)).2.1 x' ∧
      x'.submitted = x.submitted ++ handedOver op := by
  obtain ⟨ledger, memory, submitted⟩ := x
  obtain ⟨rfl, rfl⟩ := h
  cases op with
  | ledger c => exact ⟨_, ⟨rfl, rfl⟩, ⟨rfl, rfl⟩, (List.append_nil _).symm⟩
  | readLedger => exact ⟨_, ⟨rfl, rfl⟩, ⟨rfl, rfl⟩, (List.append_nil _).symm⟩
  | remembered worker phase permitId =>
    exact ⟨_, ⟨rfl, rfl⟩, ⟨rfl, rfl⟩, (List.append_nil _).symm⟩
  | submitOpen r => exact ⟨_, rfl, ⟨rfl, rfl⟩, rfl⟩
  | submitClose r => exact ⟨_, rfl, ⟨rfl, rfl⟩, rfl⟩
  | _ => exact ⟨_, rfl, ⟨rfl, rfl⟩, (List.append_nil _).symm⟩

/-- A call that runs alone in a setting may run so in a pool. -/
theorem reach_of_run {α : Type} {e : Setting β} {p₀ p : WorkerPool ι} {i : ι}
    {x : LifecycleProg α} {f : α → LifecycleProg Unit} {d d' : Desk β} {n n' : Nat} {a : α}
    (h : Pool.Reach intentMonitor Shared.Answers (fun _ _ _ => True) p₀ p)
    (hthread : p.thread i = x >>= f) (hsame : SameDesk d p.store)
    (hrun : run (S := lifecycleSig) e.answer x (d, n) = (.ok a, (d', n'))) :
    ∃ p', Pool.Reach intentMonitor Shared.Answers (fun _ _ _ => True) p₀ p' ∧
      SameDesk d' p'.store ∧ p'.thread i = f a ∧
      p'.store.submitted = p.store.submitted ++
        (trace (S := lifecycleSig) e.answer x (d, n)).flatMap fun c => handedOver c.1 := by
  induction x generalizing p d n with
  | done b =>
    cases hrun
    exact ⟨p, h, hsame, hthread, (List.append_nil _).symm⟩
  | raise error => cases hrun
  | call op k ih =>
    obtain ⟨x', hanswer, hsame', hsubmitted⟩ := hsame.answers e op n
    have hcall : p.thread i = .call op fun r => k r >>= f := hthread
    have hreach := h.step (Pool.Step.call hcall hanswer) trivial
    have hnext : (p.advance intentMonitor i op (fun r => k r >>= f) (e.answer op (d, n)).1 x').thread
        i = k (e.answer op (d, n)).1 >>= f := Function.update_self _ _ _
    obtain ⟨p', hp', hdesk, hthread', hmore⟩ := ih _ hreach hnext hsame' hrun
    refine ⟨p', hp', hdesk, hthread', ?_⟩
    rw [hmore]
    have hstore : (p.advance intentMonitor i op (fun r => k r >>= f) (e.answer op (d, n)).1
        x').store.submitted = p.store.submitted ++ handedOver op := hsubmitted
    rw [hstore, List.append_assoc]
    rfl

end Alone

/-- Two calls for one permit, of which one has submitted its order. -/
theorem submitted_at_most_once_scene : ∃ p : WorkerPool Bool,
    Pool.Reach intentMonitor Shared.Answers (fun _ _ _ => True)
      (workerPool sceneLedger fun _ => .openPosition sceneWorker scenePermit) p ∧
    sceneWorker.openRequest scenePermit ∈ p.store.opens ∧
    (p.store.opens.map (·.permitId)).Nodup := by
  have hsubmit : (fillingBroker (.utc 1200) "PA1" legRows).submitOpen
      (sceneWorker.openRequest scenePermit) sceneDesk.broker =
        (.ok ⟨"order-1", (sceneWorker.openRequest scenePermit).clientOrderId, .utc 1200⟩,
          some (sceneWorker.openRequest scenePermit)) := rfl
  obtain ⟨s, -, hreturns⟩ :=
    returns_submitOpening (d := sceneDesk) canOpen_scene (by simp [sceneDesk]) freshOrder_scene rfl hsubmit
  obtain ⟨n', hrun⟩ := hreturns 0
  have hthread : (workerPool sceneLedger fun _ : Bool =>
      WorkerCall.openPosition sceneWorker scenePermit).thread true =
        sceneWorker.submitOpening scenePermit >>= _ := bind_assoc _ _ _
  obtain ⟨p, hreach, -, -, hsubmitted⟩ := reach_of_run .init hthread ⟨rfl, rfl⟩ hrun
  refine ⟨p, hreach, ?_, (submitted_at_most_once _ _ p hreach).1⟩
  have hmem : (.opening, sceneWorker.openRequest scenePermit) ∈ p.store.submitted := by
    rw [hsubmitted]
    refine List.mem_append_right _ (List.mem_flatMap.mpr ⟨_, ran_submitOpening ⟨hrun, rfl⟩, ?_⟩)
    exact List.mem_singleton_self _
  refine List.mem_map.mpr ⟨_, List.mem_filter.mpr ⟨hmem, ?_⟩, rfl⟩
  rfl

end EsscherMarket.Lifecycle
