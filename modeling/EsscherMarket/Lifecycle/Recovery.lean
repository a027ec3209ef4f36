import EsscherMarket.Lifecycle.WireTruth

/-!
# Recovery over a fresh adapter

A recovery rebuilds its request from the ledger's durable intent, and reads the truth through an
adapter that knows only the orders that it submitted itself.
-/

namespace EsscherMarket.Lifecycle

open Lib Execution Risk Prog MonitoredPaperLifecycle
  LifecycleMcpPaperBroker

variable {η : Type}

section Fresh

variable {host : HostMcp η} {clock : Nat → DateTime} {permitted : Bool}
  {w : MonitoredPaperLifecycle} {r : BrokerOrderRequest} {ack : BrokerOrderAck}
  {x x' : Desk (LifecycleMcpPaperBrokerState η) × Nat} {tr : List Answered}

/-- No truth is read through an adapter that has submitted nothing. -/
theorem not_ran_freshBoundTruth {a : BrokerOrderTruth × BrokerPositionSnapshot}
    (hfresh : ∀ orderId, x.1.broker.requestsByOrderId orderId = none) :
    ¬ Ran (S := lifecycleSig) (Setting.answer ⟨clock, permitted, port host⟩)
      (w.freshBoundTruth r ack) x a x' tr := by
  intro h
  obtain ⟨account, b₁, b₂, haccount, horder, -⟩ := ran_reads h
  obtain ⟨v, t, -, -, -, rfl⟩ := readAccount_ok (of_answerOf haccount)
  obtain ⟨request, report, identity, hrequest, -⟩ := readOrder_ok (of_answerOf horder)
  have hnone := hfresh ack.orderId
  rw [show x.1.broker.requestsByOrderId ack.orderId = some request from hrequest] at hnone
  cases hnone

theorem recoverOpenState_fails {session : η} {s : Ledger} {memory : Nat → IntentPhase → List String}
    {openOrderId : String} {qty : Int} {state : LifecycleState} :
    (Setting.runCall ⟨clock, permitted, port host⟩ (w.recoverOpenState openOrderId qty)
      ⟨s, memory, .mint session⟩).1 ≠ .ok state := by
  intro hresult
  obtain ⟨intent, r, durableQty, orderId, t, truth, snapshot, y, tr, -, -, -, hy, hfresh⟩ :=
    ran_recoverOpenState (ran_of_run (Prod.ext hresult rfl))
  refine not_ran_freshBoundTruth (fun id => ?_) hfresh
  rw [hy]
  rfl

end Fresh

/-- No recovery over a fresh adapter: `recover_open_state` returns no state, and `recover_flatness`
none where the ledger holds an intent of the close. -/
theorem recovery_fails (host : HostMcp η) (session : η) (clock : Nat → DateTime) (permitted : Bool)
    (w : MonitoredPaperLifecycle) (s : Ledger) (memory : Nat → IntentPhase → List String) :
    (∀ openOrderId qty state,
      (Setting.runCall ⟨clock, permitted, port host⟩ (w.recoverOpenState openOrderId qty)
        ⟨s, memory, .mint session⟩).1 ≠ .ok state) ∧
    ∀ intent, s.lifecycleIntentForEventPhase w.correlation.eventRunId .closing = some intent →
      ∀ state, (Setting.runCall ⟨clock, permitted, port host⟩ w.recoverFlatness
        ⟨s, memory, .mint session⟩).1 ≠ .ok state := by
  refine ⟨fun openOrderId qty state => recoverOpenState_fails, ?_⟩
  intro intent hfound state hresult
  obtain ⟨r, durableQty, orderId, t, truth, snapshot, y, tr, -, -, hy, hfresh⟩ :=
    ran_recoverFlatness hfound (ran_of_run (Prod.ext hresult rfl))
  refine not_ran_freshBoundTruth (fun id => ?_) hfresh
  rw [hy]
  rfl

def closingIntent : LifecycleIntentRow :=
  boundRow (sceneWorker.closeRequest scenePermit sceneClose sceneCorrelation []) 1 (.utc 1700)
    "order-2"

theorem recovery_fails_closing (state : LifecycleState) :
    (Setting.runCall ⟨fun _ => .utc 1700, true, port (fillingHost echoing)⟩
      sceneWorker.recoverFlatness ⟨sceneFilledLedger.withLifecycleIntents [closingIntent],
        fun _ _ => [], .mint .null⟩).1 ≠ .ok state := by
  have hfound : (sceneFilledLedger.withLifecycleIntents [closingIntent]).lifecycleIntentForEventPhase
      sceneWorker.correlation.eventRunId .closing = some closingIntent := rfl
  exact (recovery_fails (fillingHost echoing) .null (fun _ => .utc 1700) true sceneWorker
    (sceneFilledLedger.withLifecycleIntents [closingIntent]) fun _ _ => []).2 _ hfound state

/-- The worker stops after its order was submitted.  The session reports the order filled, and a
fresh worker over a fresh adapter does not recover it. -/
theorem recovery_fails_crash : ∃ (d : Desk RecordedBroker) (row : LifecycleIntentRow)
    (truth : BrokerOrderTruth),
    (wireSetting echoing).runCall (sceneWorker.submitOpening scenePermit) wireDesk =
      (.ok ⟨"order-1", (sceneWorker.openRequest scenePermit).clientOrderId, .utc 1200⟩, d) ∧
    row ∈ d.ledger.lifecycleIntents ∧ row.state = .submitted ∧ row.brokerOrderId = some "order-1" ∧
    (readOrder (fillingHost echoing).recorded "order-1").result d.broker = .ok truth ∧
    reduceOpenOrder truth 1 = .openFilled ∧
    ((wireSetting echoing).runCall (sceneWorker.recoverOpenState "order-1" 1)
      ⟨d.ledger, fun _ _ => [], .mint d.broker.session⟩).1 ≠ .ok (reduceOpenOrder truth 1) := by
  obtain ⟨x, hsubmit, -⟩ := submit_scene echoing
  obtain ⟨s, hsubmitted, hreturns⟩ := returns_submitOpening (d := wireDesk) canOpen_scene
    (by simp [wireDesk]) freshOrder_scene rfl hsubmit
  have hread := congrArg Prod.fst (readOrder_filling echoing
    (b := submittedBroker (sceneWorker.openRequest scenePermit) [x]) (noError_echoing _)
    clientOrderId_scene rfl rfl rfl)
  refine ⟨_, boundRow (sceneWorker.openRequest scenePermit) 1 (.utc 1200) "order-1", _,
    hreturns.runCall, ?_, rfl, rfl, hread, rfl, ?_⟩
  · rw [hsubmitted.intents]
    simp
  · exact recoverOpenState_fails

end EsscherMarket.Lifecycle
