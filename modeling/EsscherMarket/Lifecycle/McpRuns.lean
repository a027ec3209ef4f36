import EsscherMarket.Lifecycle.McpBroker
import EsscherMarket.Lifecycle.Settlement

/-!
# Calls of the worker over the MCP adapter

A session is watched by a record of its tool calls, which stands beside its state and changes none
of its answers.
-/

namespace EsscherMarket.Lifecycle

open Lib Execution Risk Prog MonitoredPaperLifecycle

variable {η : Type}

/-! ### A session with its record -/

/-- One call of the session's tools. -/
structure Exchange where
  tool : String
  arguments : Json
  answer : ToolAnswer

/-- The session, with a record of its calls kept beside it. -/
def HostMcp.recorded (host : HostMcp η) : HostMcp (η × List Exchange) where
  callTool tool arguments s :=
    ((host.callTool tool arguments s.1).1, (host.callTool tool arguments s.1).2,
      s.2 ++ [⟨tool, arguments, (host.callTool tool arguments s.1).1⟩])
  clock s := ((host.clock s.1).1, (host.clock s.1).2, s.2)

def LifecycleMcpPaperBrokerState.exchanges
    (b : LifecycleMcpPaperBrokerState (η × List Exchange)) : List Exchange :=
  b.session.2

def orderReports (calls : List Exchange) : List Json :=
  calls.filterMap fun x => if x.tool = orderByIdTool then
    match x.answer with
    | .response v => some v
    | _ => none
  else none

@[simp] theorem orderReports_append (l l' : List Exchange) :
    orderReports (l ++ l') = orderReports l ++ orderReports l' :=
  List.filterMap_append

theorem orderReports_eq_nil {l : List Exchange} (h : ∀ x ∈ l, x.tool ≠ orderByIdTool) :
    orderReports l = [] := by
  rw [orderReports, List.filterMap_eq_nil_iff]
  intro x hx
  rw [if_neg (h x hx)]

/-! ### The order call of a request -/

def BrokerOrderRequest.arguments (r : BrokerOrderRequest) : Json :=
  orderArguments r.clientOrderId r.limitPrice ((r.legs.head?.map (·.quantity)).getD 0) r.legs

theorem buildLifecycleOrderCall_ok {r : BrokerOrderRequest} {arguments : Json}
    (h : buildLifecycleOrderCall r.clientOrderId r.limitPrice r.legs = .ok arguments) :
    arguments = r.arguments := by
  obtain ⟨_, -, h⟩ := except_bind_eq_ok.mp h
  obtain ⟨_, -, h⟩ := except_bind_eq_ok.mp h
  unfold BrokerOrderRequest.arguments
  generalize r.legs = legs at h
  cases legs with
  | nil => cases h
  | cons first rest =>
    obtain ⟨_, -, h⟩ := except_bind_eq_ok.mp h
    obtain ⟨_, -, h⟩ := except_bind_eq_ok.mp h
    exact (Except.ok.inj h).symm

/-! ### The adapter's calls -/

section Calls

open LifecycleMcpPaperBroker

variable {host : HostMcp η} {b b' : LifecycleMcpPaperBrokerState (η × List Exchange)}
  {r : BrokerOrderRequest} {ack : BrokerOrderAck}

theorem of_answerOf {α : Type} {x : BrokerM η α} {a : α} {b b' : LifecycleMcpPaperBrokerState η}
    (h : answerOf x b = (.ok a, b')) : x b = .ok a b' := by
  obtain ⟨hresult, hafter⟩ := Prod.mk.inj h
  obtain ⟨b₁, hb₁⟩ := Txn.of_result_ok hresult
  rw [hb₁, ← hafter, Txn.after_of_ok hb₁]

theorem acknowledge_exchanges {identity : ReportedIdentity}
    (h : acknowledge host.recorded r identity b = .ok ack b') : b'.exchanges = b.exchanges := by
  rw [(acknowledge_ok h).2.2]
  rfl

/-- A submission sends the order call, and asks for no report. -/
theorem submit_exchanges {phase : IntentPhase}
    (h : submit host.recorded phase r b = .ok ack b') :
    ∃ calls answer, b'.exchanges = b.exchanges ++ calls ∧
      ⟨openTool, r.arguments, answer⟩ ∈ calls ∧ orderReports calls = [] := by
  obtain ⟨-, h⟩ := Txn.raiseIf_bind_eq_ok.mp h
  obtain ⟨arguments, harguments, h⟩ := Txn.lift_bind_eq_ok.mp h
  obtain rfl := buildLifecycleOrderCall_ok (except_mapError_eq_ok.mp harguments)
  obtain ⟨answer, b₁, hcall, h⟩ := Txn.bind_eq_ok.mp h
  have hb₁ : b₁.exchanges = b.exchanges ++ [⟨openTool, r.arguments, answer⟩] := by
    cases hcall
    rfl
  have hreports : ∀ x ∈ [⟨openTool, r.arguments, answer⟩], Exchange.tool x ≠ orderByIdTool := by
    intro x hx
    rw [List.mem_singleton.mp hx]
    show openTool ≠ orderByIdTool
    decide
  cases answer with
  | ambiguous message =>
    obtain ⟨v, b₂, hread, h⟩ := Txn.bind_eq_ok.mp h
    obtain ⟨hv, rfl⟩ := call_ok hread
    obtain ⟨identity, -, h⟩ := Txn.lift_bind_eq_ok.mp h
    obtain ⟨-, h⟩ := Txn.raiseIf_bind_eq_ok.mp h
    refine ⟨[⟨openTool, r.arguments, .ambiguous message⟩,
      ⟨readbackTool, .obj [("client_order_id", .str r.clientOrderId)], .response v⟩], _, ?_,
      List.mem_cons_self, ?_⟩
    · rw [acknowledge_exchanges h]
      show b₁.exchanges ++ [_] = _
      rw [hb₁, List.append_assoc, ← hv]
      rfl
    · refine orderReports_eq_nil fun x hx => ?_
      rcases List.mem_cons.mp hx with hx | hx
      · exact hreports x (List.mem_singleton.mpr hx)
      · rw [List.mem_singleton.mp hx]
        show readbackTool ≠ orderByIdTool
        decide
  | hostError message => cases h
  | exception => cases h
  | response v =>
    obtain ⟨identity, -, h⟩ := Txn.lift_bind_eq_ok.mp h
    obtain ⟨-, h⟩ := Txn.raiseIf_bind_eq_ok.mp h
    exact ⟨_, _, (acknowledge_exchanges h).trans hb₁, List.mem_cons_self,
      orderReports_eq_nil hreports⟩

theorem positionRows_exchanges {index : Nat} {items : List Json} {rows : List PositionTruth}
    (h : positionRows host.recorded index items b = .ok rows b') :
    b'.exchanges = b.exchanges := by
  induction items generalizing index rows b with
  | nil =>
    obtain ⟨-, rfl⟩ := Txn.pure_eq_ok.mp h
    rfl
  | cons raw rest ih =>
    obtain ⟨⟨symbol, qty⟩, -, h⟩ := Txn.lift_bind_eq_ok.mp h
    obtain ⟨t, b₁, hclock, h⟩ := Txn.bind_eq_ok.mp h
    obtain ⟨rows', b₂, hrows, h⟩ := Txn.bind_eq_ok.mp h
    obtain ⟨-, rfl⟩ := Txn.pure_eq_ok.mp h
    rw [ih hrows, observedAt_ok hclock]
    rfl

theorem readPositions_exchanges {snapshot : BrokerPositionSnapshot}
    (h : readPositions host.recorded b = .ok snapshot b') :
    ∃ v, b'.exchanges = b.exchanges ++ [⟨positionsTool, .obj [], .response v⟩] := by
  obtain ⟨latest, b₁, hselect, h⟩ := Txn.bind_eq_ok.mp h
  cases hselect
  obtain ⟨orderId, -, h₁⟩ := Txn.orRaise_bind_eq_ok.mp h
  obtain ⟨request, b₂, hrequest, h₂⟩ := Txn.bind_eq_ok.mp h₁
  obtain ⟨-, rfl⟩ := requestForOrder_ok hrequest
  obtain ⟨v, b₃, hcall, h₃⟩ := Txn.bind_eq_ok.mp h₂
  obtain ⟨hv, rfl⟩ := call_ok hcall
  obtain ⟨items, -, h₄⟩ := Txn.lift_bind_eq_ok.mp h₃
  obtain ⟨rows, b₄, hrows, h₅⟩ := Txn.bind_eq_ok.mp h₄
  obtain ⟨t, b₅, hclock, hret⟩ := Txn.bind_eq_ok.mp h₅
  obtain ⟨-, rfl⟩ := Txn.pure_eq_ok.mp hret
  refine ⟨v, ?_⟩
  rw [observedAt_ok hclock]
  show b₄.exchanges = _
  rw [positionRows_exchanges hrows, ← hv]
  rfl

/-- The three reads of a truth ask for one report. -/
theorem reads_report {orderId : String} {account : AccountTruth} {truth : BrokerOrderTruth}
    {snapshot : BrokerPositionSnapshot}
    {b₁ b₂ : LifecycleMcpPaperBrokerState (η × List Exchange)}
    (haccount : (port host.recorded).readAccount b = (.ok account, b₁))
    (horder : (port host.recorded).readOrder orderId b₁ = (.ok truth, b₂))
    (hpositions : (port host.recorded).readPositions b₂ = (.ok snapshot, b')) :
    ∃ calls report, b'.exchanges = b.exchanges ++ calls ∧ orderReports calls = [report] := by
  obtain ⟨v, t, hv, -, -, rfl⟩ := readAccount_ok (of_answerOf haccount)
  obtain ⟨request, report, identity, -, hreport, -, -, -, -, -, -, -, rfl⟩ :=
    readOrder_ok (of_answerOf horder)
  obtain ⟨rows, hrows⟩ := readPositions_exchanges (of_answerOf hpositions)
  refine ⟨[⟨accountTool, .obj [], .response v⟩,
    ⟨orderByIdTool, .obj [("order_id", .str orderId)], .response report⟩,
    ⟨positionsTool, .obj [], .response rows⟩], report, ?_, ?_⟩
  · rw [hrows, ← hv, ← hreport]
    show b.exchanges ++ [_] ++ [_] ++ [_] = _
    rw [List.append_assoc, List.append_assoc]
    rfl
  · rfl

end Calls

/-! ### The worker over the adapter -/

section Worker

variable {β : Type} {w : MonitoredPaperLifecycle} {p : DebitVerticalPermit} {c : ClosePermit}
  {openOrderId : String} {r : BrokerOrderRequest} {ack : BrokerOrderAck} {e : Setting β}
  {x x' : Desk β × Nat} {tr : List Answered}

theorem offline_claimPermit {qty : Int} :
    Uses (S := lifecycleSig) Offline (w.claimPermit r qty) :=
  uses_claimPermit (fun _ h => h.offline) (fun _ => trivial) trivial

theorem offline_bindAck : Uses (S := lifecycleSig) Offline (bindAck r ack) :=
  uses_bindAck (fun _ h => h.offline) fun _ _ _ _ => trivial

/-- The one thing that `open` does to the broker before it reads is to submit. -/
theorem ran_submitOpening_broker
    (h : Ran (S := lifecycleSig) e.answer (w.submitOpening p) x ack x' tr) :
    e.port.submitOpen (w.openRequest p) x.1.broker = (.ok ack, x'.1.broker) := by
  obtain ⟨_, x₁, tr₁, tr₂, hguard, h₁, -⟩ := h.of_bind
  obtain ⟨_, x₂, tr₃, tr₄, hclaim, h₂, -⟩ := h₁.of_bind
  obtain ⟨tr₅, h₃, -⟩ := h₂.of_perform_bind
  obtain ⟨ack', hack, h₄⟩ := h₃.of_ofExcept_bind
  have hrest : Uses (S := lifecycleSig) Offline (do
      bindAck (w.openRequest p) ack'
      let t ← now
      transact (fun e => rejectTruth "open.submission"
          ("ledger rejected broker order binding: " ++ e.reason.value))
        (.recordSubmission ⟨(w.openRequest p).eventRunId, (w.openRequest p).permitId, ack'.orderId,
          t, false⟩)
      return ack') :=
    offline_bindAck.bind fun _ => (guard_now.mono fun _ h => h.offline).bind fun _ =>
      (uses_transact trivial).bind fun _ => uses_pure _
  have hx₁ := ran_offline (guard_requireOpening.mono fun _ h => h.offline) hguard
  have hx₂ := ran_offline offline_claimPermit hclaim
  have hx' := ran_offline hrest h₄
  obtain ⟨_, x₃, tr₆, tr₇, -, h₅, -⟩ := h₄.of_bind
  obtain ⟨t, x₄, tr₈, tr₉, -, h₆, -⟩ := h₅.of_bind
  obtain ⟨_, x₅, tr₁₀, tr₁₁, -, h₇, -⟩ := h₆.of_bind
  cases h₇.result
  rw [← hx₁, ← hx₂, hx']
  exact Prod.ext (except_mapError_eq_ok.mp hack) rfl

/-- The one thing that `close` does to the broker before it reads is to submit. -/
theorem ran_submitClosing_broker
    (h : Ran (S := lifecycleSig) e.answer (w.submitClosing p c openOrderId) x (r, ack) x' tr) :
    (∃ correlation legs, closeLegs p = .ok legs ∧ r = w.closeRequest p c correlation legs) ∧
      e.port.submitClose r x.1.broker = (.ok ack, x'.1.broker) := by
  obtain ⟨correlation, x₁, tr₁, tr₂, hguard, h₁, -⟩ := h.of_bind
  obtain ⟨legs, hlegs, h₂⟩ := h₁.of_ofExcept_bind
  obtain ⟨_, x₂, tr₃, tr₄, hclaim, h₃, -⟩ := h₂.of_bind
  obtain ⟨tr₅, h₄, -⟩ := h₃.of_perform_bind
  obtain ⟨ack', hack, h₅⟩ := h₄.of_ofExcept_bind
  have hx₁ := ran_offline ((guard_requireClosing c openOrderId).mono fun _ h => h.offline) hguard
  have hx₂ := ran_offline offline_claimPermit hclaim
  have hx' := ran_offline (offline_bindAck.bind fun _ => uses_pure _) h₅
  obtain ⟨_, x₃, tr₆, tr₇, -, h₆, -⟩ := h₅.of_bind
  cases h₆.result
  refine ⟨⟨correlation, legs, hlegs, rfl⟩, ?_⟩
  rw [← hx₁, ← hx₂, hx']
  exact Prod.ext (except_mapError_eq_ok.mp hack) rfl

theorem offline_recordOpenTransition (state : LifecycleState) (truth : BrokerOrderTruth) :
    Uses (S := lifecycleSig) Offline (w.recordOpenTransition state truth) := by
  refine (guard_now.mono fun _ h => h.offline).bind fun t => ?_
  cases state with
  | openFilled => exact (uses_transact trivial).bind fun _ => uses_transact trivial
  | openCanceled => exact (uses_transact trivial).bind fun _ => uses_transact trivial
  | _ => exact uses_transact trivial

theorem offline_recordFlat : Uses (S := lifecycleSig) Offline (w.recordFlat p r) := by
  have hnow : Uses (S := lifecycleSig) Offline now := guard_now.mono fun _ h => h.offline
  exact hnow.bind fun _ => (uses_transact trivial).bind fun _ => hnow.bind fun _ =>
    uses_transact trivial

end Worker

/-! ### Recovery -/

theorem parseLimitPrice_ok {text : String} {d : Decimal} (h : parseLimitPrice text = .ok d) :
    d.isFinite = true := by
  unfold parseLimitPrice at h
  split at h
  · split at h
    · rename_i hfinite
      cases h
      exact hfinite
    · cases h
  · cases h

theorem parseBrokerOrderRequestPayload_finite {v : Json} {r : BrokerOrderRequest} {qty : Int}
    (h : parseBrokerOrderRequestPayload v = .ok (r, qty)) : r.limitPrice.isFinite = true := by
  simp only [parseBrokerOrderRequestPayload, except_bind_eq_ok] at h
  obtain ⟨_, -, _, -, phase, -, _, -, _, -, price, hprice, _, -, legs, -, _, -, _, -, _, -, _, -, _,
    -, _, -, _, -, _, -, _, -, _, -, _, -, hret⟩ := h
  cases hret
  exact parseLimitPrice_ok hprice

theorem storedRequest_finite {w : MonitoredPaperLifecycle} {intent : LifecycleIntentRow}
    {phase : IntentPhase} {r : BrokerOrderRequest} {qty : Int}
    (h : w.storedRequest intent phase = .ok (r, qty)) : r.limitPrice.isFinite = true := by
  have hparsed : ∀ {expected : CorrelationIdentity}, (do
      let found ← (parseBrokerOrderRequestPayload intent.requestJson).mapError
        fun message => reject .restartStateInvalid "recovery.intent.request_json"
          ("stored request cannot be restored: " ++ message)
      throwIf (brokerOrderRequestSha256 found.1 found.2 ≠ intent.requestSha256 ∨
          found.1.permitId ≠ intent.permitId ∨ found.1.phase ≠ phase ∨
          found.1.eventRunId ≠ w.correlation.eventRunId ∨
          found.1.openPermitId ≠ w.correlation.openPermitId ∨
          found.1.correlationSha256 ≠ correlationSha256 expected)
        (reject .restartStateInvalid "recovery.intent"
          "stored request does not match the durable lifecycle identity")
      return found : Except LifecycleError (BrokerOrderRequest × Int)) = .ok (r, qty) →
      r.limitPrice.isFinite = true := by
    intro expected h
    obtain ⟨⟨r₁, qty₁⟩, hparse, h₁⟩ := except_bind_eq_ok.mp h
    obtain ⟨_, -, hret⟩ := except_bind_eq_ok.mp h₁
    cases hret
    exact parseBrokerOrderRequestPayload_finite (except_mapError_eq_ok.mp hparse)
  cases phase with
  | opening => exact hparsed h
  | closing =>
    obtain ⟨expected, -, h₁⟩ := except_bind_eq_ok.mp h
    exact hparsed h₁

theorem durableSubmittedRequest_ok {w : MonitoredPaperLifecycle} {intent : LifecycleIntentRow}
    {phase : IntentPhase} {r : BrokerOrderRequest} {qty : Int} {orderId : String}
    (h : w.durableSubmittedRequest intent phase = .ok (r, qty, orderId)) :
    intent.brokerOrderId = some orderId ∧ r.limitPrice.isFinite = true := by
  unfold durableSubmittedRequest at h
  cases horder : intent.brokerOrderId with
  | none =>
    rw [horder] at h
    cases h
  | some id =>
    rw [horder] at h
    obtain ⟨_, hid, h₁⟩ := except_bind_eq_ok.mp h
    cases hid
    obtain ⟨_, -, h₂⟩ := except_bind_eq_ok.mp h₁
    obtain ⟨⟨r', qty'⟩, hstored, hret⟩ := except_bind_eq_ok.mp h₂
    cases hret
    exact ⟨rfl, storedRequest_finite hstored⟩
section Recovery

variable {β : Type} {w : MonitoredPaperLifecycle} {e : Setting β} {x x' : Desk β × Nat}
  {tr : List Answered} {state : LifecycleState}

theorem ran_recoverOpenState {openOrderId : String} {qty : Int}
    (h : Ran (S := lifecycleSig) e.answer (w.recoverOpenState openOrderId qty) x state x' tr) :
    ∃ intent r durableQty orderId t truth snapshot y tr',
      x.1.ledger.lifecycleIntentForPermit w.correlation.openPermitId = some intent ∧
      w.durableSubmittedRequest intent .opening = .ok (r, durableQty, orderId) ∧
      state = reduceOpenOrder truth durableQty ∧ y.1 = x.1 ∧
      Ran (S := lifecycleSig) e.answer (w.freshBoundTruth r ⟨orderId, r.clientOrderId, t⟩) y
        (truth, snapshot) x' tr' := by
  obtain ⟨found, x₁, tr₁, tr₂, hread, h₁, -⟩ := h.of_bind
  obtain ⟨hfound, hx₁⟩ := ran_readLedger hread
  cases found with
  | none => cases h₁.result
  | some intent =>
    obtain ⟨⟨r, durableQty, orderId⟩, hdurable, h₂⟩ := h₁.of_ofExcept_bind
    obtain ⟨-, h₃⟩ := h₂.of_raiseIf_bind
    obtain ⟨t, x₂, tr₃, tr₄, hnow, h₄, -⟩ := h₃.of_bind
    obtain ⟨⟨truth, snapshot⟩, x₃, tr₅, tr₆, hfresh, h₅, -⟩ := h₄.of_bind
    cases h₅.result
    exact ⟨intent, r, durableQty, orderId, t, truth, snapshot, x₂, tr₅, hfound.symm, hdurable, rfl,
      (ran_now hnow).2.trans hx₁, hfresh⟩

/-- A recovery of a close that found an intent has read the truth of its order. -/
theorem ran_recoverFlatness {intent : LifecycleIntentRow}
    (hfound : x.1.ledger.lifecycleIntentForEventPhase w.correlation.eventRunId .closing =
      some intent)
    (h : Ran (S := lifecycleSig) e.answer w.recoverFlatness x state x' tr) :
    ∃ r durableQty orderId t truth snapshot y tr',
      w.durableSubmittedRequest intent .closing = .ok (r, durableQty, orderId) ∧
      state = (if reduceCloseOrder truth snapshot.positions durableQty = .closedFlat then
        .closedFlat else .manualRequired) ∧ y.1 = x.1 ∧
      Ran (S := lifecycleSig) e.answer (w.freshBoundTruth r ⟨orderId, r.clientOrderId, t⟩) y
        (truth, snapshot) x' tr' := by
  obtain ⟨found, x₁, tr₁, tr₂, hread, h₁, -⟩ := h.of_bind
  obtain ⟨heq, hx₁⟩ := ran_readLedger hread
  rw [hfound] at heq
  subst heq
  obtain ⟨⟨r, durableQty, orderId⟩, hdurable, h₂⟩ := h₁.of_ofExcept_bind
  obtain ⟨t, x₂, tr₃, tr₄, hnow, h₃, -⟩ := h₂.of_bind
  obtain ⟨⟨truth, snapshot⟩, x₃, tr₅, tr₆, hfresh, h₄, -⟩ := h₃.of_bind
  cases h₄.result
  exact ⟨r, durableQty, orderId, t, truth, snapshot, x₂, tr₅, hdurable, rfl,
    (ran_now hnow).2.trans hx₁, hfresh⟩

end Recovery

end EsscherMarket.Lifecycle
