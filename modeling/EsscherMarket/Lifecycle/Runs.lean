import EsscherMarket.Lifecycle.Worker
import EsscherMarket.Risk.Ledger.Returns

/-!
# One call of a worker, alone

What a call does by itself, against a broker that answers by its state and a clock with a reading
for each time it is asked.
-/

namespace EsscherMarket.Lifecycle

open Lib Execution Risk Prog MonitoredPaperLifecycle

/-! ### The setting of a call -/

/-- The broker's methods, over its state. -/
structure PaperBroker (β : Type) where
  submitOpen : BrokerOrderRequest → β → Except BrokerError BrokerOrderAck × β
  submitClose : BrokerOrderRequest → β → Except BrokerError BrokerOrderAck × β
  readOrder : String → β → Except BrokerError BrokerOrderTruth × β
  readPositions : β → Except BrokerError BrokerPositionSnapshot × β
  readAccount : β → Except BrokerError AccountTruth × β

/-- What a call finds: the ledger, the sets of the worker objects and the broker. -/
structure Desk (β : Type) where
  ledger : Ledger
  memory : Nat → IntentPhase → List String
  broker : β

/-- What answers a call: the readings of the clock in turn, the gate, and the broker. -/
structure Setting (β : Type) where
  clock : Nat → DateTime
  permitted : Bool
  port : PaperBroker β

variable {β : Type}

def onBroker {α : Type} (x : α × β) (d : Desk β) (n : Nat) : α × (Desk β × Nat) :=
  (x.1, { d with broker := x.2 }, n)

/-- How the setting answers; the second component counts the readings of the clock. -/
def Setting.answer (e : Setting β) : (op : LifecycleOp) → Desk β × Nat → op.Res × (Desk β × Nat)
  | .now, (d, n) => (e.clock n, d, n + 1)
  | .mutationPermitted, x => (e.permitted, x)
  | .ledger c, (d, n) => (c.txn.result d.ledger, { d with ledger := c.exec d.ledger }, n)
  | .readLedger, x => (x.1.ledger, x)
  | .remembered worker phase permitId, x => ((x.1.memory worker phase).contains permitId, x)
  | .remember worker phase permitId, (d, n) => ((), { d with
      memory := Function.update d.memory worker
        (Function.update (d.memory worker) phase (permitId :: d.memory worker phase)) }, n)
  | .submitOpen r, (d, n) => onBroker (e.port.submitOpen r d.broker) d n
  | .submitClose r, (d, n) => onBroker (e.port.submitClose r d.broker) d n
  | .readOrder orderId, (d, n) => onBroker (e.port.readOrder orderId d.broker) d n
  | .readPositions, (d, n) => onBroker (e.port.readPositions d.broker) d n
  | .readAccount, (d, n) => onBroker (e.port.readAccount d.broker) d n

def Setting.runCall {α : Type} (e : Setting β) (p : LifecycleProg α) (d : Desk β) :
    Except LifecycleError α × Desk β :=
  let r := run (S := lifecycleSig) e.answer p (d, 0)
  (r.1, r.2.1)

abbrev Answered : Type := (op : LifecycleOp) × op.Res

def Setting.answered {α : Type} (e : Setting β) (p : LifecycleProg α) (d : Desk β) :
    List Answered :=
  trace (S := lifecycleSig) e.answer p (d, 0)

/-! ### The parts of a call that only look -/

/-- What the guards use: the clock, the gate, the ledger's rows and the memory. -/
def Guard : LifecycleOp → Prop
  | .now | .mutationPermitted | .readLedger | .remembered _ _ _ => True
  | _ => False

def Quiet : LifecycleOp → Prop
  | .readOrder _ | .readPositions | .readAccount => True
  | op => Guard op

theorem Guard.quiet {op : LifecycleOp} (h : Guard op) : Quiet op := by
  cases op with
  | readOrder orderId => trivial
  | readPositions => trivial
  | readAccount => trivial
  | _ => exact h

section Guards

variable {w : MonitoredPaperLifecycle} {p : DebitVerticalPermit} {r : BrokerOrderRequest}
  {ack : BrokerOrderAck}

theorem guard_now : Uses (S := lifecycleSig) Guard now := by
  have hop : Guard .now := trivial
  exact (uses_perform (S := lifecycleSig) hop).bind fun _ =>
    (uses_raiseIf _ _).bind fun _ => uses_pure _

theorem guard_requireMutation : Uses (S := lifecycleSig) Guard requireMutation := by
  have hop : Guard .mutationPermitted := trivial
  exact (uses_perform (S := lifecycleSig) hop).bind fun (permitted : Bool) =>
    uses_raiseIf (permitted = false) _

theorem guard_readLedger {α : Type} (id path : String) (f : Ledger → α) :
    Uses (S := lifecycleSig) Guard (readLedger id path f) := by
  have hop : Guard .readLedger := trivial
  exact (uses_ofExcept _).bind fun _ =>
    (uses_perform (S := lifecycleSig) hop).bind fun _ => uses_pure _

theorem guard_requireActiveWindow (issuedAt expiresAt : DateTime) (path : String)
    (reason : LifecycleReason) :
    Uses (S := lifecycleSig) Guard (requireActiveWindow issuedAt expiresAt path reason) :=
  guard_now.bind fun _ => uses_raiseIf _ _

theorem guard_requireOpenBinding : Uses (S := lifecycleSig) Guard (w.requireOpenBinding p) :=
  (uses_ofExcept _).bind fun _ => (guard_readLedger _ _ _).bind fun _ =>
    (guard_readLedger _ _ _).bind fun _ => uses_raiseIf _ _

theorem guard_requireCloseBinding (c : ClosePermit) (openOrderId : String) :
    Uses (S := lifecycleSig) Guard (w.requireCloseBinding p c openOrderId) :=
  (uses_ofExcept _).bind fun _ => (guard_readLedger _ _ _).bind fun _ =>
    (guard_readLedger _ _ _).bind fun _ => (uses_raiseIf _ _).bind fun _ =>
    (guard_readLedger _ _ _).bind fun _ => (uses_raiseIf _ _).bind fun _ => uses_ofExcept _

theorem guard_remembered {phase : IntentPhase} {permitId : String} {α : Type}
    {f : Bool → LifecycleProg α} (h : ∀ b, Uses (S := lifecycleSig) Guard (f b)) :
    Uses (S := lifecycleSig) Guard
      (perform (S := lifecycleSig) (.remembered w.worker phase permitId) >>= f) := by
  have hop : Guard (.remembered w.worker phase permitId) := trivial
  exact (uses_perform (S := lifecycleSig) hop).bind h

theorem guard_requireOpening : Uses (S := lifecycleSig) Guard (w.requireOpening p) := by
  unfold requireOpening
  refine (uses_ofExcept _).bind fun _ => ?_
  refine (uses_ofExcept _).bind fun _ => ?_
  refine (uses_ofExcept _).bind fun _ => ?_
  refine (guard_requireActiveWindow _ _ _ _).bind fun _ => ?_
  refine (guard_readLedger _ _ _).bind fun _ => ?_
  refine (uses_raiseIf _ _).bind fun _ => ?_
  refine guard_now.bind fun _ => ?_
  refine (uses_ofExcept _).bind fun _ => ?_
  refine (uses_raiseIf _ _).bind fun _ => ?_
  refine guard_requireMutation.bind fun _ => ?_
  refine guard_requireOpenBinding.bind fun _ => ?_
  exact guard_remembered fun _ => uses_raiseIf _ _

theorem guard_requireClosing (c : ClosePermit) (openOrderId : String) :
    Uses (S := lifecycleSig) Guard (w.requireClosing p c openOrderId) := by
  unfold requireClosing
  refine (uses_ofExcept _).bind fun _ => ?_
  refine (uses_ofExcept _).bind fun _ => ?_
  refine (uses_ofExcept _).bind fun _ => ?_
  refine guard_requireMutation.bind fun _ => ?_
  refine guard_now.bind fun _ => ?_
  refine (uses_ofExcept _).bind fun _ => ?_
  refine (uses_raiseIf _ _).bind fun _ => ?_
  refine (guard_requireCloseBinding c openOrderId).bind fun _ => ?_
  refine (uses_ofExcept _).bind fun _ => ?_
  refine (uses_raiseIf _ _).bind fun _ => ?_
  refine (guard_requireActiveWindow _ _ _ _).bind fun _ => ?_
  refine (guard_readLedger _ _ _).bind fun _ => ?_
  refine (uses_raiseIf _ _).bind fun _ => ?_
  refine guard_remembered fun _ => ?_
  exact (uses_raiseIf _ _).bind fun _ => uses_pure _

theorem guard_requireFresh (observedAt : DateTime) (path : String) (reason : LifecycleReason) :
    Uses (S := lifecycleSig) Guard (w.requireFresh observedAt path reason) :=
  (uses_raiseIf _ _).bind fun _ => guard_now.bind fun _ => (uses_raiseIf _ _).bind fun _ =>
    uses_raiseIf _ _

theorem guard_validateAccount (account : AccountTruth) :
    Uses (S := lifecycleSig) Guard (w.validateAccount account r) :=
  (guard_requireFresh _ _ _).bind fun _ => uses_raiseIf _ _

theorem guard_validateOrderTruth (truth : BrokerOrderTruth) :
    Uses (S := lifecycleSig) Guard (w.validateOrderTruth r ack truth) :=
  (guard_requireFresh _ _ _).bind fun _ => uses_ofExcept _

theorem guard_validatePositions (positions : List PositionTruth) :
    Uses (S := lifecycleSig) Guard (w.validatePositions positions) := by
  induction positions with
  | nil => exact uses_pure _
  | cons position rest ih =>
    exact ((uses_raiseIf _ _).bind fun _ => guard_requireFresh _ _ _).bind fun _ => ih

theorem guard_validatePositionTruth (snapshot : BrokerPositionSnapshot)
    (truth : BrokerOrderTruth) :
    Uses (S := lifecycleSig) Guard (w.validatePositionTruth r ack snapshot truth) :=
  (guard_requireFresh _ _ _).bind fun _ => (uses_ofExcept _).bind fun _ =>
    (guard_validatePositions _).bind fun _ => uses_raiseIf _ _

theorem quiet_freshBoundTruth : Uses (S := lifecycleSig) Quiet (w.freshBoundTruth r ack) := by
  have haccount : Quiet .readAccount := trivial
  have horder : Quiet (.readOrder ack.orderId) := trivial
  have hpositions : Quiet .readPositions := trivial
  have hguard : ∀ {op : LifecycleOp}, Guard op → Quiet op := fun h => h.quiet
  refine (uses_perform (S := lifecycleSig) haccount).bind fun _ => ?_
  refine (uses_ofExcept _).bind fun account => ?_
  refine (uses_perform (S := lifecycleSig) horder).bind fun _ => ?_
  refine (uses_ofExcept _).bind fun truth => ?_
  refine (uses_perform (S := lifecycleSig) hpositions).bind fun _ => ?_
  refine (uses_ofExcept _).bind fun snapshot => ?_
  refine ((guard_validateAccount account).mono fun _ => hguard).bind fun _ => ?_
  refine ((guard_validateOrderTruth truth).mono fun _ => hguard).bind fun _ => ?_
  refine ((guard_validatePositionTruth snapshot truth).mono fun _ => hguard).bind fun _ => ?_
  exact uses_pure _

end Guards

/-! ### The truth of an order -/

/-- The truth was observed within the allowed age before a reading of the clock. -/
def FreshIn (w : MonitoredPaperLifecycle) (tr : List Answered) (observedAt : DateTime) : Prop :=
  ∃ t : DateTime, ⟨.now, t⟩ ∈ tr ∧ observedAt.micros ≤ t.micros ∧
    t.micros - observedAt.micros ≤ w.truthMaxAgeSeconds * 1000000

/-- What `_fresh_bound_truth` read and checked where it returned. -/
structure BoundTruth (w : MonitoredPaperLifecycle) (r : BrokerOrderRequest) (ack : BrokerOrderAck)
    (tr : List Answered) (truth : BrokerOrderTruth) (snapshot : BrokerPositionSnapshot) :
    Prop where
  orderRead : ⟨.readOrder ack.orderId, .ok truth⟩ ∈ tr
  positionsRead : ∀ x, ⟨.readPositions, .ok x⟩ ∈ tr ↔ x = snapshot
  order : checkOrderTruth r ack truth = .ok ()
  orderFresh : FreshIn w tr truth.observedAt
  positionsFresh : FreshIn w tr snapshot.observedAt
  rowsFresh : ∀ row ∈ snapshot.positions, FreshIn w tr row.observedAt
  legs : r.phase = .opening → truth.status = "filled" →
    dictEq (snapshot.positions.map fun p => (p.symbol, p.qty.toRat)) (expectedPositions r)

section Inversion

variable {w : MonitoredPaperLifecycle} {e : Setting β} {r : BrokerOrderRequest}
  {ack : BrokerOrderAck} {x x' : Desk β × Nat} {tr tr' : List Answered} {u : Unit}

theorem FreshIn.mono {observedAt : DateTime} (h : FreshIn w tr observedAt) (hsub : tr ⊆ tr') :
    FreshIn w tr' observedAt := by
  obtain ⟨t, ht, hle⟩ := h
  exact ⟨t, hsub ht, hle⟩

theorem ran_now {t : DateTime} (h : Ran (S := lifecycleSig) e.answer now x t x' tr) :
    ⟨.now, t⟩ ∈ tr ∧ x'.1 = x.1 := by
  obtain ⟨tr₁, hrest, rfl⟩ := h.of_perform_bind
  obtain ⟨-, hrest⟩ := hrest.of_raiseIf_bind
  cases hrest.result
  exact ⟨List.mem_cons_self, rfl⟩

theorem ran_readLedger {α : Type} {id path : String} {f : Ledger → α} {a : α}
    (h : Ran (S := lifecycleSig) e.answer (readLedger id path f) x a x' tr) :
    a = f x.1.ledger ∧ x'.1 = x.1 := by
  obtain ⟨_, -, h₁⟩ := h.of_ofExcept_bind
  obtain ⟨tr₁, h₂, -⟩ := h₁.of_perform_bind
  cases h₂.result
  exact ⟨rfl, rfl⟩

theorem ran_transact {handler : RiskRejected → LifecycleError} {c : LedgerCall} {a : c.Res}
    (h : Ran (S := lifecycleSig) e.answer (transact handler c) x a x' tr) :
    c.txn x.1.ledger = .ok a x'.1.ledger := by
  obtain ⟨tr₁, hrest, -⟩ := h.of_perform_bind
  have hanswer : (c.txn.result x.1.ledger).mapError (onRejected handler) = .ok a :=
    hrest.of_ofExcept
  obtain ⟨s, hs⟩ := Txn.of_result_ok (except_mapError_eq_ok.mp hanswer)
  have hledger : x'.1.ledger = c.exec x.1.ledger := by
    have hrun := congrArg Prod.snd hrest.result
    rw [run_ofExcept] at hrun
    have hx' : x' = (e.answer (.ledger c) x).2 := hrun.symm
    rw [hx']
    rfl
  rw [hledger, hs]
  exact congrArg (EStateM.Result.ok a) (Txn.after_of_ok hs).symm

theorem ran_requireFresh {observedAt : DateTime} {path : String} {reason : LifecycleReason}
    (h : Ran (S := lifecycleSig) e.answer (w.requireFresh observedAt path reason) x u x' tr) :
    FreshIn w tr observedAt := by
  obtain ⟨-, h⟩ := h.of_raiseIf_bind
  obtain ⟨t, x₁, tr₁, tr₂, hnow, hrest, rfl⟩ := h.of_bind
  obtain ⟨hpast, hrest⟩ := hrest.of_raiseIf_bind
  obtain ⟨hage, -⟩ := hrest.of_raiseIf
  refine ⟨t, List.mem_append_left _ (ran_now hnow).1, ?_, ?_⟩
  · linarith
  · linarith

theorem ran_validatePositions {positions : List PositionTruth}
    (h : Ran (S := lifecycleSig) e.answer (w.validatePositions positions) x u x' tr) :
    ∀ row ∈ positions, FreshIn w tr row.observedAt := by
  induction positions generalizing x tr with
  | nil =>
    intro row hrow
    cases hrow
  | cons position rest ih =>
    obtain ⟨_, x₁, tr₁, tr₂, hfirst, hrest, rfl⟩ := h.of_bind
    obtain ⟨-, hfirst⟩ := hfirst.of_raiseIf_bind
    intro row hrow
    rcases List.mem_cons.mp hrow with rfl | hrow
    · exact (ran_requireFresh hfirst).mono (List.subset_append_left _ _)
    · exact (ih hrest row hrow).mono (List.subset_append_right _ _)

theorem ran_validatePositionTruth {snapshot : BrokerPositionSnapshot} {truth : BrokerOrderTruth}
    (h : Ran (S := lifecycleSig) e.answer (w.validatePositionTruth r ack snapshot truth) x u x'
      tr) :
    FreshIn w tr snapshot.observedAt ∧ (∀ row ∈ snapshot.positions, FreshIn w tr row.observedAt) ∧
      (r.phase = .opening → truth.status = "filled" →
        dictEq (snapshot.positions.map fun p => (p.symbol, p.qty.toRat)) (expectedPositions r)) := by
  obtain ⟨_, x₁, tr₁, tr₂, hfresh, hrest, rfl⟩ := h.of_bind
  obtain ⟨_, -, hrest⟩ := hrest.of_ofExcept_bind
  obtain ⟨_, x₂, tr₃, tr₄, hrows, hlast, rfl⟩ := hrest.of_bind
  obtain ⟨hlegs, -⟩ := hlast.of_raiseIf
  refine ⟨(ran_requireFresh hfresh).mono (List.subset_append_left _ _), ?_, ?_⟩
  · intro row hrow
    have hsub : tr₃ ⊆ tr₁ ++ (tr₃ ++ tr₄) := fun c hc => by simp [hc]
    exact (ran_validatePositions hrows row hrow).mono hsub
  · intro hphase hstatus
    simpa [hphase, hstatus] using hlegs

/-- The checks of `_fresh_bound_truth`, once everything is read. -/
theorem ran_checks {account : AccountTruth} {truth : BrokerOrderTruth}
    {snapshot : BrokerPositionSnapshot} {a : BrokerOrderTruth × BrokerPositionSnapshot}
    (h : Ran (S := lifecycleSig) e.answer (do
      w.validateAccount account r
      w.validateOrderTruth r ack truth
      w.validatePositionTruth r ack snapshot truth
      return (truth, snapshot)) x a x' tr) :
    a = (truth, snapshot) ∧ checkOrderTruth r ack truth = .ok () ∧
      FreshIn w tr truth.observedAt ∧ FreshIn w tr snapshot.observedAt ∧
      (∀ row ∈ snapshot.positions, FreshIn w tr row.observedAt) ∧
      (r.phase = .opening → truth.status = "filled" →
        dictEq (snapshot.positions.map fun p => (p.symbol, p.qty.toRat))
          (expectedPositions r)) := by
  obtain ⟨_, x₁, tr₁, tr₂, haccount, h₁, rfl⟩ := h.of_bind
  obtain ⟨_, x₂, tr₃, tr₄, htruth, h₂, rfl⟩ := h₁.of_bind
  obtain ⟨_, x₃, tr₅, tr₆, hsnapshot, h₃, rfl⟩ := h₂.of_bind
  obtain ⟨_, x₄, tr₇, tr₈, hfresh, hcheck, rfl⟩ := htruth.of_bind
  obtain ⟨hpositions, hrows, hlegs⟩ := ran_validatePositionTruth hsnapshot
  have horder : tr₇ ⊆ tr₁ ++ (tr₇ ++ tr₈ ++ (tr₅ ++ tr₆)) := fun c hc => by simp [hc]
  have hsub : tr₅ ⊆ tr₁ ++ (tr₇ ++ tr₈ ++ (tr₅ ++ tr₆)) := fun c hc => by simp [hc]
  cases h₃.result
  exact ⟨rfl, hcheck.of_ofExcept, (ran_requireFresh hfresh).mono horder, hpositions.mono hsub,
    fun row hrow => (hrows row hrow).mono hsub, hlegs⟩

theorem guard_checks (account : AccountTruth) (truth : BrokerOrderTruth)
    (snapshot : BrokerPositionSnapshot) : Uses (S := lifecycleSig) Guard (do
      w.validateAccount account r
      w.validateOrderTruth r ack truth
      w.validatePositionTruth r ack snapshot truth
      return (truth, snapshot)) :=
  (guard_validateAccount account).bind fun _ => (guard_validateOrderTruth truth).bind fun _ =>
    (guard_validatePositionTruth snapshot truth).bind fun _ => uses_pure _

/-- What the truth is bound to where `_fresh_bound_truth` returns. -/
theorem ran_freshBoundTruth {truth : BrokerOrderTruth} {snapshot : BrokerPositionSnapshot}
    (h : Ran (S := lifecycleSig) e.answer (w.freshBoundTruth r ack) x (truth, snapshot) x' tr) :
    BoundTruth w r ack tr truth snapshot := by
  obtain ⟨tr₁, h₁, rfl⟩ := h.of_perform_bind
  obtain ⟨account, -, h₁⟩ := h₁.of_ofExcept_bind
  obtain ⟨tr₂, h₂, rfl⟩ := h₁.of_perform_bind
  obtain ⟨truth', horder, h₂⟩ := h₂.of_ofExcept_bind
  obtain ⟨tr₃, h₃, rfl⟩ := h₂.of_perform_bind
  obtain ⟨snapshot', hpositions, h₃⟩ := h₃.of_ofExcept_bind
  obtain ⟨heq, hcheck, hfresh, hsnapshot, hrows, hlegs⟩ := ran_checks h₃
  cases heq
  rw [except_mapError_eq_ok.mp horder, except_mapError_eq_ok.mp hpositions]
  have hlater : ∀ a b c : Answered, tr₃ ⊆ a :: b :: c :: tr₃ := fun a b c d hd => by simp [hd]
  refine ⟨by simp, fun y => ?_, hcheck, hfresh.mono (hlater _ _ _),
    hsnapshot.mono (hlater _ _ _), fun row hrow => (hrows row hrow).mono (hlater _ _ _), hlegs⟩
  constructor
  · intro hy
    rcases List.mem_cons.mp hy with hy | hy
    · cases hy
    rcases List.mem_cons.mp hy with hy | hy
    · cases hy
    rcases List.mem_cons.mp hy with hy | hy
    · cases hy
      rfl
    · have hguard : Guard .readPositions :=
        (guard_checks account truth snapshot).mem_trace (h₃.calls ▸ hy)
      exact hguard.elim
  · rintro rfl
    simp

/-- The truth of a part of a call is that of the call, if the rest reads no positions. -/
theorem BoundTruth.append {truth : BrokerOrderTruth} {snapshot : BrokerPositionSnapshot}
    {before after : List Answered} (h : BoundTruth w r ack tr truth snapshot)
    (hbefore : ∀ c ∈ before, c.1 ≠ .readPositions) (hafter : ∀ c ∈ after, c.1 ≠ .readPositions) :
    BoundTruth w r ack (before ++ (tr ++ after)) truth snapshot := by
  have hsub : tr ⊆ before ++ (tr ++ after) := fun c hc => by simp [hc]
  refine ⟨hsub h.orderRead, fun y => ⟨fun hy => ?_, fun hy => hsub ((h.positionsRead y).mpr hy)⟩,
    h.order, h.orderFresh.mono hsub, h.positionsFresh.mono hsub,
    fun row hrow => (h.rowsFresh row hrow).mono hsub, h.legs⟩
  rcases List.mem_append.mp hy with hy | hy
  · exact absurd rfl (hbefore _ hy)
  rcases List.mem_append.mp hy with hy | hy
  · exact (h.positionsRead y).mp hy
  · exact absurd rfl (hafter _ hy)

end Inversion

/-- A list of named comparisons names no field iff all of them hold. -/
theorem filterMap_failed_eq_nil {fields : List (String × Bool)} :
    (fields.filterMap fun field => if field.2 then none else some field.1) = [] ↔
      ∀ field ∈ fields, field.2 = true := by
  rw [List.filterMap_eq_nil_iff]
  refine forall₂_congr fun field _ => ?_
  cases h : field.2 <;> simp

theorem OrderIdentity.eq_of_mismatches {a b : OrderIdentity} {beforeLegs : List (String × Bool)}
    (h : a.mismatches b beforeLegs = []) : b = a := by
  have hall := filterMap_failed_eq_nil.mp h
  obtain ⟨⟩ := a
  obtain ⟨⟩ := b
  simp only [List.mem_append, or_imp, forall_and, List.forall_mem_cons, List.not_mem_nil,
    beq_iff_eq, false_imp_iff, implies_true, and_true] at hall
  obtain ⟨⟨⟨rfl, rfl, rfl, rfl, rfl, rfl, rfl, rfl, rfl, rfl, rfl⟩, -⟩, rfl⟩ := hall
  rfl

theorem checkOrderTruth_ok {r : BrokerOrderRequest} {ack : BrokerOrderAck}
    {truth : BrokerOrderTruth} (h : checkOrderTruth r ack truth = .ok ()) :
    truth.orderId = ack.orderId ∧ truth.toOrderIdentity = r.toOrderIdentity ∧
      truth.limitPrice.isFinite = true ∧ priceInBounds r truth.limitPrice = true := by
  simp only [checkOrderTruth] at h
  split at h
  · cases h
  · rename_i hnone
    obtain ⟨hid, hidentity⟩ := List.append_eq_nil_iff.mp hnone
    have horder : truth.orderId = ack.orderId := by
      by_contra hne
      simp [hne] at hid
    obtain ⟨_, -, h⟩ := except_bind_eq_ok.mp h
    obtain ⟨_, hform, h⟩ := except_bind_eq_ok.mp h
    have hform := throwIf_eq_ok.mp hform
    have hprice := throwIf_eq_ok.mp h
    push Not at hform hprice
    exact ⟨horder, OrderIdentity.eq_of_mismatches hidentity, hform.2.2, hprice⟩

/-! ### What a call does to the broker -/

/-- The operations that leave the broker alone. -/
def Offline : LifecycleOp → Prop
  | .submitOpen _ | .submitClose _ | .readOrder _ | .readPositions | .readAccount => False
  | _ => True

theorem Guard.offline {op : LifecycleOp} (h : Guard op) : Offline op := by
  cases op with
  | now => trivial
  | mutationPermitted => trivial
  | readLedger => trivial
  | remembered worker phase permitId => trivial
  | _ => exact h.elim

theorem Offline.broker {e : Setting β} {op : LifecycleOp} {x : Desk β × Nat} (h : Offline op) :
    (e.answer op x).2.1.broker = x.1.broker := by
  cases op with
  | submitOpen r => exact h.elim
  | submitClose r => exact h.elim
  | readOrder orderId => exact h.elim
  | readPositions => exact h.elim
  | readAccount => exact h.elim
  | _ => rfl

section Broker

variable {w : MonitoredPaperLifecycle} {e : Setting β} {r : BrokerOrderRequest}
  {ack : BrokerOrderAck} {x x' : Desk β × Nat} {tr : List Answered} {α : Type} {a : α}

theorem ran_offline {p : LifecycleProg α} (hp : Uses (S := lifecycleSig) Offline p)
    (h : Ran (S := lifecycleSig) e.answer p x a x' tr) : x'.1.broker = x.1.broker := by
  have hkeep : ∀ op (y : Desk β × Nat), Offline op → y.1.broker = x.1.broker →
      (e.answer op y).2.1.broker = x.1.broker :=
    fun op y hop hy => hop.broker.trans hy
  have hrun := hp.run_inv hkeep rfl
  rw [h.result] at hrun
  exact hrun

/-- The three reads of `_fresh_bound_truth`, one after the other. -/
theorem ran_reads {truth : BrokerOrderTruth} {snapshot : BrokerPositionSnapshot}
    (h : Ran (S := lifecycleSig) e.answer (w.freshBoundTruth r ack) x (truth, snapshot) x' tr) :
    ∃ account b₁ b₂, e.port.readAccount x.1.broker = (.ok account, b₁) ∧
      e.port.readOrder ack.orderId b₁ = (.ok truth, b₂) ∧
      e.port.readPositions b₂ = (.ok snapshot, x'.1.broker) := by
  obtain ⟨tr₁, h₁, -⟩ := h.of_perform_bind
  obtain ⟨account, haccount, h₁⟩ := h₁.of_ofExcept_bind
  obtain ⟨tr₂, h₂, -⟩ := h₁.of_perform_bind
  obtain ⟨truth', horder, h₂⟩ := h₂.of_ofExcept_bind
  obtain ⟨tr₃, h₃, -⟩ := h₂.of_perform_bind
  obtain ⟨snapshot', hpositions, h₃⟩ := h₃.of_ofExcept_bind
  obtain ⟨heq, -⟩ := ran_checks h₃
  cases heq
  have hbroker := ran_offline ((guard_checks account truth snapshot).mono fun _ h => h.offline) h₃
  rw [hbroker]
  exact ⟨account, _, _, Prod.ext (except_mapError_eq_ok.mp haccount) rfl,
    Prod.ext (except_mapError_eq_ok.mp horder) rfl,
    Prod.ext (except_mapError_eq_ok.mp hpositions) rfl⟩

end Broker

/-! ### What the parts of a call leave in the ledger -/

def permitState (s : Ledger) (permitId : String) : Option PermitState :=
  (s.permit permitId).map (·.state)

/-- The operations that fill no permit: of the ledger's methods, those of a call before its order
is known to be filled. -/
def Unfilling : LifecycleOp → Prop
  | .ledger (.recordLifecycleIntent _) | .ledger (.bindLifecycleIntent _ _ _ _)
  | .ledger (.recordSubmission _) | .ledger (.markLifecycleIntentReconciled _ _)
  | .ledger (.recordFill _) => True
  | .ledger (.reconcileObservedOrder a) => a.status ≠ "FILLED"
  | .ledger _ => False
  | _ => True

/-- The operations that keep every reservation: of the ledger's methods, those of a close before
its order is known to be flat. -/
def Reserving : LifecycleOp → Prop
  | .ledger (.recordLifecycleIntent _) | .ledger (.bindLifecycleIntent _ _ _ _) => True
  | .ledger _ => False
  | _ => True

theorem permitState_permitsSet {s s' : Ledger} {permitId id : String} {t : PermitState}
    {now : DateTime} (h : s'.permits = permitsSet id t now s.permits) (ht : t ≠ .filled)
    (hs : permitState s permitId ≠ some .filled) : permitState s' permitId ≠ some .filled := by
  have hfind := Table.find?_setWhere s.permits (p := fun p => p.permitId = id)
    (q := fun p => p.permitId = permitId)
    (f := fun p => { p with state := t, updatedAt := now }) fun _ => rfl
  have heq : permitState s' permitId = (s.permit permitId).map fun p =>
      if p.permitId = id then t else p.state := by
    unfold permitState Ledger.permit
    rw [h, permitsSet, hfind, Option.map_map]
    congr 1
    funext p
    by_cases hp : p.permitId = id
    · simp [hp]
    · simp [hp]
  rw [heq]
  intro hfilled
  obtain ⟨p, hp, hstate⟩ := Option.map_eq_some_iff.mp hfilled
  split at hstate
  · exact ht hstate
  · exact hs (Option.map_eq_some_iff.mpr ⟨p, hp, hstate⟩)

/-- The state of a permit after a method that returned, or changed nothing. -/
theorem permitState_of_after {α : Type} {t : LedgerTxn α} {s : Ledger} {permitId : String}
    (ht : Txn.Atomic t) (hs : permitState s permitId ≠ some .filled)
    (hok : ∀ {a s'}, t s = .ok a s' → permitState s' permitId ≠ some .filled) :
    permitState (Txn.after t s) permitId ≠ some .filled := by
  rcases ht.after_cases s with ⟨a, ha⟩ | heq
  · exact hok ha
  · rw [heq]
    exact hs

/-- An operation that fills no permit fills no permit. -/
theorem Unfilling.keeps {e : Setting β} {op : LifecycleOp} {x : Desk β × Nat} {permitId : String}
    (h : Unfilling op) (hx : permitState x.1.ledger permitId ≠ some .filled) :
    permitState (e.answer op x).2.1.ledger permitId ≠ some .filled := by
  cases op with
  | ledger c =>
    cases c with
    | recordLifecycleIntent a =>
      refine permitState_of_after (atomic_recordLifecycleIntent a) hx fun hok => ?_
      obtain ⟨row, events, -, -, -, rfl⟩ := recordLifecycleIntent_ok hok
      exact hx
    | bindLifecycleIntent id phase brokerOrderId now =>
      refine permitState_of_after (atomic_bindLifecycleIntent id phase brokerOrderId now) hx
        fun hok => ?_
      obtain ⟨events, rfl⟩ := bindLifecycleIntent_ok hok
      exact hx
    | markLifecycleIntentReconciled id now =>
      refine permitState_of_after (atomic_markLifecycleIntentReconciled id now) hx fun hok => ?_
      rw [markLifecycleIntentReconciled_ok hok]
      exact hx
    | recordSubmission a =>
      refine permitState_of_after (atomic_recordSubmission a) hx fun hok => ?_
      obtain ⟨p, r, events, -, -, -, -, -, -, -, rfl⟩ := recordSubmission_ok hok
      exact permitState_permitsSet (t := .submitted) rfl (by simp) hx
    | recordFill a =>
      refine permitState_of_after (atomic_recordFill a) hx fun hok => ?_
      obtain ⟨rows, rfl⟩ := recordFill_ok hok
      exact hx
    | reconcileObservedOrder a =>
      refine permitState_of_after (atomic_reconcileObservedOrder a) hx fun hok => ?_
      obtain ⟨p, r, t, q, fills, events, -, -, -, -, -, -, htq, rfl⟩ :=
        reconcileObservedOrder_ok hok
      rcases htq with ⟨hfilled, -⟩ | ⟨-, rfl, rfl⟩
      · exact absurd hfilled h
      · exact permitState_permitsSet (t := .cancelled) rfl (by simp) hx
    | _ => exact h.elim
  | _ => exact hx

theorem reservations_of_after {α : Type} {t : LedgerTxn α} {s : Ledger} (ht : Txn.Atomic t)
    (hok : ∀ {a s'}, t s = .ok a s' → s'.reservations = s.reservations) :
    (Txn.after t s).reservations = s.reservations := by
  rcases ht.after_cases s with ⟨a, ha⟩ | heq
  · exact hok ha
  · rw [heq]

/-- An operation that keeps every reservation keeps every reservation. -/
theorem Reserving.keeps {e : Setting β} {op : LifecycleOp} {x : Desk β × Nat} (h : Reserving op) :
    (e.answer op x).2.1.ledger.reservations = x.1.ledger.reservations := by
  cases op with
  | ledger c =>
    cases c with
    | recordLifecycleIntent a =>
      refine reservations_of_after (atomic_recordLifecycleIntent a) fun hok => ?_
      obtain ⟨row, events, -, -, -, rfl⟩ := recordLifecycleIntent_ok hok
      rfl
    | bindLifecycleIntent id phase brokerOrderId now =>
      refine reservations_of_after (atomic_bindLifecycleIntent id phase brokerOrderId now)
        fun hok => ?_
      obtain ⟨events, rfl⟩ := bindLifecycleIntent_ok hok
      rfl
    | _ => exact h.elim
  | _ => rfl

theorem Guard.unfilling {op : LifecycleOp} (h : Guard op) : Unfilling op := by
  cases op with
  | ledger c => exact h.elim
  | _ => trivial

theorem Quiet.unfilling {op : LifecycleOp} (h : Quiet op) : Unfilling op := by
  cases op with
  | ledger c => exact h.elim
  | _ => trivial

theorem Quiet.reserving {op : LifecycleOp} (h : Quiet op) : Reserving op := by
  cases op with
  | ledger c => exact h.elim
  | _ => trivial

end EsscherMarket.Lifecycle
