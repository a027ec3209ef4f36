import EsscherMarket.Lifecycle.McpRuns

/-!
# What the session reported, and what the worker checked

The worker compares the legs and the limit price of an order's truth with those of its request.
Over the MCP adapter both sides of the comparison are the adapter's own stored request.
-/

namespace EsscherMarket.Lifecycle

open Lib Execution Risk Prog MonitoredPaperLifecycle

variable {η : Type}

/-! ### The legs and the price on the wire -/

def textOf : Json → Option String
  | .str s => some s
  | _ => none

/-- A leg as an order call or a report lists it. -/
def wireLeg (v : Json) : Option BrokerOptionLeg := do
  let symbol ← textOf (v.get "symbol")
  let ratioQty ← decimalOf (v.get "ratio_qty")
  let side ← textOf (v.get "side")
  let positionIntent ← textOf (v.get "position_intent")
  if ratioQty.isFinite ∧ ratioQty.toRat.den = 1 then
    some ⟨symbol, ratioQty.toRat.num, side, positionIntent⟩
  else none

def wireLegs (v : Json) : Option (List BrokerOptionLeg) :=
  match v.get "legs" with
  | .arr items => items.mapM wireLeg
  | _ => none

/-- The limit price of an order call or a report. -/
def wirePrice (v : Json) : Option ℚ :=
  (decimalOf (v.get "limit_price")).bind fun d => if d.isFinite then some d.toRat else none

/-- Within the bound: at most that of an opening, at least that of a close. -/
def WithinBound (phase : IntentPhase) (price bound : ℚ) : Prop :=
  match phase with
  | .opening => price ≤ bound
  | .closing => bound ≤ price

/-- The report carries the request's legs, and a price within the bound of its permit. -/
def CarriesOrder (r : BrokerOrderRequest) (report : Json) : Prop :=
  wireLegs report = some r.legs ∧
    ∃ price, wirePrice report = some price ∧ WithinBound r.phase price r.limitPrice.toRat

/-- The report lists the legs of an order call, and a price within that of the call. -/
def EchoesCall (phase : IntentPhase) (arguments report : Json) : Prop :=
  wireLegs report = wireLegs arguments ∧
    ∃ price sent, wirePrice report = some price ∧ wirePrice arguments = some sent ∧
      WithinBound phase price sent

/-- A leg is read back from the order call. -/
theorem wireLeg_encoded (leg : BrokerOptionLeg) : wireLeg leg.encoded = some leg := by
  have hqty : decimalOf (leg.encoded.get "ratio_qty") = some (.ofInt leg.quantity) := by
    have hget : leg.encoded.get "ratio_qty" = .str (toString leg.quantity) := rfl
    rw [hget, decimalOf_str, Decimal.parse_toString]
  have hsymbol : textOf (leg.encoded.get "symbol") = some leg.symbol := rfl
  have hside : textOf (leg.encoded.get "side") = some leg.side := rfl
  have hintent : textOf (leg.encoded.get "position_intent") = some leg.positionIntent := rfl
  have hfinite : (Decimal.ofInt leg.quantity).isFinite = true := rfl
  simp only [wireLeg, hqty, hsymbol, hside, hintent, Option.bind_eq_bind, Option.bind_some,
    hfinite, Decimal.toRat_ofInt, Rat.den_intCast, and_self, if_true, Rat.num_intCast]

theorem wireLegs_arguments (r : BrokerOrderRequest) : wireLegs r.arguments = some r.legs := by
  have hget : r.arguments.get "legs" = .arr (r.legs.map BrokerOptionLeg.encoded) := rfl
  rw [wireLegs, hget]
  show (r.legs.map BrokerOptionLeg.encoded).mapM wireLeg = some r.legs
  induction r.legs with
  | nil => rfl
  | cons leg rest ih =>
    rw [List.map_cons, List.mapM_cons, wireLeg_encoded, ih]
    rfl

theorem wirePrice_arguments {r : BrokerOrderRequest} (h : r.limitPrice.isFinite) :
    wirePrice r.arguments = some r.limitPrice.toRat := by
  obtain ⟨d, hparse, hfinite, hvalue⟩ := Decimal.parse_plainText h
  have hget : r.arguments.get "limit_price" = .str r.limitPrice.plainText := rfl
  rw [wirePrice, hget, decimalOf_str, hparse, Option.bind_some, if_pos hfinite, hvalue]

/-- A report carries the order exactly if it says what the order call said. -/
theorem carriesOrder_iff {r : BrokerOrderRequest} (h : r.limitPrice.isFinite) (report : Json) :
    CarriesOrder r report ↔ EchoesCall r.phase r.arguments report := by
  rw [CarriesOrder, EchoesCall, wireLegs_arguments, wirePrice_arguments h]
  refine and_congr_right fun _ => ⟨?_, ?_⟩
  · rintro ⟨price, hprice, hbound⟩
    exact ⟨price, _, hprice, rfl, hbound⟩
  · rintro ⟨price, sent, hprice, hsent, hbound⟩
    cases hsent
    exact ⟨price, hprice, hbound⟩

/-- What a call left in the session's record: one report, true of the request exactly if it is of
the order call. -/
def ReportsOrder (r : BrokerOrderRequest) (calls : List Exchange) : Prop :=
  ∃ report, orderReports calls = [report] ∧
    (CarriesOrder r report ↔ EchoesCall r.phase r.arguments report)

def Sent (r : BrokerOrderRequest) (calls : List Exchange) : Prop :=
  ∃ answer, ⟨openTool, r.arguments, answer⟩ ∈ calls

/-- The worker over the adapter, with the session's record. -/
def recordedSetting (host : HostMcp η) (clock : Nat → DateTime) (permitted : Bool) :
    Setting (LifecycleMcpPaperBrokerState (η × List Exchange)) :=
  ⟨clock, permitted, LifecycleMcpPaperBroker.port host.recorded⟩

section Reports

variable {host : HostMcp η} {clock : Nat → DateTime} {permitted : Bool}
  {w : MonitoredPaperLifecycle} {r : BrokerOrderRequest} {ack : BrokerOrderAck}
  {x x' : Desk (LifecycleMcpPaperBrokerState (η × List Exchange)) × Nat} {tr : List Answered}

theorem ran_freshBoundTruth_reports {a : BrokerOrderTruth × BrokerPositionSnapshot}
    (hprice : r.limitPrice.isFinite) (h : Ran (S := lifecycleSig)
      (recordedSetting host clock permitted).answer (w.freshBoundTruth r ack) x a x' tr) :
    ∃ calls, x'.1.broker.exchanges = x.1.broker.exchanges ++ calls ∧ ReportsOrder r calls := by
  obtain ⟨account, b₁, b₂, haccount, horder, hpositions⟩ := ran_reads h
  obtain ⟨calls, report, hcalls, hreport⟩ := reads_report haccount horder hpositions
  exact ⟨calls, hcalls, report, hreport, carriesOrder_iff hprice report⟩

theorem ReportsOrder.after_submit {sent calls : List Exchange} (h : ReportsOrder r calls)
    (hsent : orderReports sent = []) : ReportsOrder r (sent ++ calls) := by
  obtain ⟨report, hreport, hiff⟩ := h
  exact ⟨report, by rw [orderReports_append, hsent, hreport, List.nil_append], hiff⟩

end Reports

open LifecycleMcpPaperBroker

/-- A row of the positions that the concrete session reports. -/
def wireRow (symbol qty : String) : Json := .obj [("symbol", .str symbol), ("qty", .str qty)]

/-- A session that fills the order at once.  Its state is the arguments of the order call, and its
report of the order ends with `extra`. -/
def fillingHost (extra : Json → List (String × Json)) : HostMcp Json where
  callTool tool arguments sent :=
    if tool = openTool then
      (.response (.obj [("id", .str "order-1"),
        ("client_order_id", arguments.get "client_order_id"), ("status", .str "accepted")]),
        arguments)
    else if tool = orderByIdTool then
      (.response (.obj ([("id", .str "order-1"), ("client_order_id", sent.get "client_order_id"),
        ("status", .str "filled"), ("filled_qty", .str "1")] ++ extra sent)), sent)
    else if tool = positionsTool then
      (.response (.arr [wireRow "SPY260918C00500000" "1", wireRow "SPY260918C00505000" "-1"]), sent)
    else
      (.response (.obj [("id", .str "PA1"), ("equity", .str "100000"),
        ("buying_power", .str "100000")]), sent)
  clock sent := (.utc 1200, sent)

/-- The session's report of the order, given the arguments of its call. -/
def fillingReport (extra : Json → List (String × Json)) (arguments : Json) : Json :=
  .obj ([("id", .str "order-1"), ("client_order_id", arguments.get "client_order_id"),
    ("status", .str "filled"), ("filled_qty", .str "1")] ++ extra arguments)

abbrev RecordedBroker : Type := LifecycleMcpPaperBrokerState (Json × List Exchange)

section Filling

variable {extra : Json → List (String × Json)} {r : BrokerOrderRequest}

def submittedBroker (r : BrokerOrderRequest) (log : List Exchange) : RecordedBroker :=
  ⟨(r.arguments, log), Function.update (fun _ => none) "order-1" (some r), some "order-1"⟩


/-- An object that names the order, with a status and perhaps a quantity. -/
theorem brokerIdentity_of {phase : String} {v : Json} {orderId client status : String}
    {filledQty : Option Decimal} (hobject : v.isObject = true) (herror : v.field? "error" = none)
    (hid : v.field? "id" = some (.str orderId)) (horder : orderId ≠ "")
    (hclient : v.field? "client_order_id" = some (.str client)) (hne : client ≠ "")
    (hstatus : v.field? "status" = some (.str status)) (hset : status ≠ "")
    (hfilled : reportedFilled phase v = .ok filledQty) :
    brokerIdentity phase v = .ok ⟨orderId, client, status, filledQty⟩ := by
  have hmap : mappingResponse v = .ok v := if_pos ⟨hobject, by rw [herror]; rfl⟩
  have hid' : identityText v "id" = .ok orderId := by
    rw [identityText, hid]
    exact if_pos horder
  have hclient' : identityText v "client_order_id" = .ok client := by
    rw [identityText, hclient]
    exact if_pos hne
  have hstatus' : identityText v "status" = .ok status := by
    rw [identityText, hstatus]
    exact if_pos hset
  simp only [brokerIdentity, hmap, except_bind_eq_ok]
  exact ⟨_, rfl, _, hid', _, hclient', _, hstatus', _, hfilled, rfl⟩

/-- The order is submitted, and the adapter keeps its request. -/
theorem submit_filling (extra : Json → List (String × Json)) (hphase : r.phase = .opening)
    (hne : r.clientOrderId ≠ "")
    (hcall : buildLifecycleOrderCall r.clientOrderId r.limitPrice r.legs = .ok r.arguments)
    (sent : Json) : ∃ x,
    (port (fillingHost extra).recorded).submitOpen r (.mint (sent, [])) =
      (.ok ⟨"order-1", r.clientOrderId, .utc 1200⟩, submittedBroker r [x]) ∧
        x.tool = openTool := by
  have hidentity : brokerIdentity "lifecycle open submission" (.obj [("id", .str "order-1"),
      ("client_order_id", .str r.clientOrderId), ("status", .str "accepted")]) =
        .ok ⟨"order-1", r.clientOrderId, "accepted", none⟩ :=
    brokerIdentity_of rfl rfl rfl (by decide) rfl hne rfl (by decide) rfl
  have hrun : submit (fillingHost extra).recorded .opening r (.mint (sent, [])) =
      .ok ⟨"order-1", r.clientOrderId, .utc 1200⟩ (submittedBroker r
        [⟨openTool, r.arguments, .response (.obj [("id", .str "order-1"),
          ("client_order_id", .str r.clientOrderId), ("status", .str "accepted")])⟩]) := by
    refine Txn.raiseIf_bind_eq_ok.mpr ⟨not_not.mpr hphase, ?_⟩
    refine Txn.lift_bind_eq_ok.mpr ⟨r.arguments, except_mapError_eq_ok.mpr hcall, ?_⟩
    refine Txn.bind_eq_ok.mpr ⟨_, _, rfl, ?_⟩
    refine Txn.lift_bind_eq_ok.mpr ⟨_, except_mapError_eq_ok.mpr hidentity, ?_⟩
    exact Txn.raiseIf_bind_eq_ok.mpr ⟨not_not.mpr rfl, rfl⟩
  exact ⟨_, Prod.ext (Txn.result_of_ok hrun) (Txn.after_of_ok hrun), rfl⟩

def RecordedBroker.after (b : RecordedBroker) (x : Exchange) : RecordedBroker :=
  { b with session := (b.session.1, b.session.2 ++ [x]) }

theorem readAccount_filling (extra : Json → List (String × Json)) (b : RecordedBroker) : ∃ x,
    (port (fillingHost extra).recorded).readAccount b =
      (.ok ⟨"PA1", paperAccountClass, .finite false 100000 0, .finite false 100000 0, .utc 1200⟩,
        b.after x) ∧ x.tool = accountTool := by
  have hfields : accountFields (.obj [("id", .str "PA1"), ("equity", .str "100000"),
      ("buying_power", .str "100000")]) =
        .ok ("PA1", .finite false 100000 0, .finite false 100000 0) := by decide
  have hrun : readAccount (fillingHost extra).recorded b =
      .ok ⟨"PA1", paperAccountClass, .finite false 100000 0, .finite false 100000 0, .utc 1200⟩
        (b.after ⟨accountTool, .obj [], .response (.obj [("id", .str "PA1"),
          ("equity", .str "100000"), ("buying_power", .str "100000")])⟩) := by
    refine Txn.bind_eq_ok.mpr ⟨_, _, Txn.bind_eq_ok.mpr ⟨_, _, rfl, rfl⟩, ?_⟩
    exact Txn.lift_bind_eq_ok.mpr ⟨_, hfields, rfl⟩
  exact ⟨_, Prod.ext (Txn.result_of_ok hrun) (Txn.after_of_ok hrun), rfl⟩

/-- The order is read back filled, with the legs and the price of the stored request. -/
theorem readOrder_filling (extra : Json → List (String × Json)) {b : RecordedBroker}
    (hextra : ∀ kv ∈ extra b.session.1, kv.1 ≠ "error")
    (hne : r.clientOrderId ≠ "") (hphase : r.phase = .opening)
    (hrequest : b.requestsByOrderId "order-1" = some r)
    (hsent : b.session.1.get "client_order_id" = .str r.clientOrderId) :
    (port (fillingHost extra).recorded).readOrder "order-1" b =
      (.ok (filledTruth (.utc 1200) r), b.after ⟨orderByIdTool, .obj [("order_id", .str "order-1")],
        .response (fillingReport extra b.session.1)⟩) := by
  have herror : (fillingReport extra b.session.1).field? "error" = none := by
    have hnone : (extra b.session.1).find? (fun kv => kv.1 == "error") = none := by
      rw [List.find?_eq_none]
      intro kv hkv
      simpa using hextra kv hkv
    simp [fillingReport, Json.field?, hnone]
  have hfilled : reportedFilled "lifecycle order readback" (fillingReport extra b.session.1) =
      .ok (some (.finite false 1 0)) := by
    have hfield : (fillingReport extra b.session.1).field? "filled_qty" = some (.str "1") := by
      simp [fillingReport, Json.field?]
    have hone : decimalOf (.str "1") = some (.finite false 1 0) := by decide
    rw [reportedFilled, hfield]
    simp only [hone]
    exact if_pos ⟨rfl, by norm_num [Decimal.toRat_finite]⟩
  have hidentity : brokerIdentity "lifecycle order readback" (fillingReport extra b.session.1) =
      .ok ⟨"order-1", r.clientOrderId, "filled", some (.finite false 1 0)⟩ := by
    refine brokerIdentity_of rfl herror ?_ (by decide) ?_ hne ?_ (by decide) hfilled
    · simp [fillingReport, Json.field?]
    · simp [fillingReport, Json.field?, hsent]
    · simp [fillingReport, Json.field?]
  have hrun : readOrder (fillingHost extra).recorded "order-1" b =
      .ok ⟨r.toOrderIdentity, "order-1", "filled", 1, .utc 1200, r.limitPrice⟩
        (b.after ⟨orderByIdTool, .obj [("order_id", .str "order-1")],
          .response (fillingReport extra b.session.1)⟩) := by
    have hquantity : filledQuantity "order" (some (.finite false 1 0)) = .ok 1 := by
      norm_num [filledQuantity, Decimal.toRat_finite]
    refine Txn.bind_eq_ok.mpr ⟨r, b, Txn.bind_eq_ok.mpr ⟨_, _, rfl, ?_⟩, ?_⟩
    · exact Txn.orRaise_eq_ok.mpr ⟨hrequest, rfl⟩
    refine Txn.bind_eq_ok.mpr ⟨_, _, Txn.bind_eq_ok.mpr ⟨_, _, rfl, rfl⟩, ?_⟩
    refine Txn.lift_bind_eq_ok.mpr ⟨_, except_mapError_eq_ok.mpr hidentity, ?_⟩
    refine Txn.raiseIf_bind_eq_ok.mpr ⟨by simp, ?_⟩
    exact Txn.lift_bind_eq_ok.mpr ⟨1, hquantity, rfl⟩
  have htruth : filledTruth (.utc 1200) r =
      ⟨r.toOrderIdentity, "order-1", "filled", 1, .utc 1200, r.limitPrice⟩ := by
    rw [filledTruth, hphase]
    rfl
  rw [htruth]
  exact Prod.ext (Txn.result_of_ok hrun) (Txn.after_of_ok hrun)

theorem readPositions_filling (extra : Json → List (String × Json)) {b : RecordedBroker}
    (hphase : r.phase = .opening)
    (hlatest : b.latestOrderId = some "order-1")
    (hrequest : b.requestsByOrderId "order-1" = some r) : ∃ x,
    (port (fillingHost extra).recorded).readPositions b =
      (.ok (filledPositions (.utc 1200) legRows r), b.after x) ∧ x.tool = positionsTool := by
  have hlong : positionFields 0 (wireRow "SPY260918C00500000" "1") =
      .ok ("SPY260918C00500000", .ofInt 1) := by decide
  have hshort : positionFields 1 (wireRow "SPY260918C00505000" "-1") =
      .ok ("SPY260918C00505000", .ofInt (-1)) := by decide
  have hrows : ∀ b : RecordedBroker, positionRows (fillingHost extra).recorded 0
      [wireRow "SPY260918C00500000" "1", wireRow "SPY260918C00505000" "-1"] b =
        .ok legRows b := by
    intro b
    refine Txn.lift_bind_eq_ok.mpr ⟨_, hlong, ?_⟩
    refine Txn.bind_eq_ok.mpr ⟨_, b, rfl, ?_⟩
    refine Txn.bind_eq_ok.mpr ⟨[sceneRow "SPY260918C00505000" (-1)], b, ?_, rfl⟩
    exact Txn.lift_bind_eq_ok.mpr ⟨_, hshort, rfl⟩
  have hrun : readPositions (fillingHost extra).recorded b =
      .ok ⟨r.toOrderIdentity, "order-1", r.limitPrice, .utc 1200, legRows⟩
        (b.after ⟨positionsTool, .obj [], .response (.arr [wireRow "SPY260918C00500000" "1",
          wireRow "SPY260918C00505000" "-1"])⟩) := by
    refine Txn.bind_eq_ok.mpr ⟨_, _, rfl, ?_⟩
    refine Txn.orRaise_bind_eq_ok.mpr ⟨_, hlatest, ?_⟩
    refine Txn.bind_eq_ok.mpr ⟨r, b, Txn.bind_eq_ok.mpr ⟨_, _, rfl, ?_⟩, ?_⟩
    · exact Txn.orRaise_eq_ok.mpr ⟨hrequest, rfl⟩
    refine Txn.bind_eq_ok.mpr ⟨_, _, Txn.bind_eq_ok.mpr ⟨_, _, rfl, rfl⟩, ?_⟩
    refine Txn.lift_bind_eq_ok.mpr ⟨_, rfl, ?_⟩
    exact Txn.bind_eq_ok.mpr ⟨legRows, _, hrows _, rfl⟩
  have hsnapshot : filledPositions (.utc 1200) legRows r =
      ⟨r.toOrderIdentity, "order-1", r.limitPrice, .utc 1200, legRows⟩ := by
    rw [filledPositions, hphase]
    rfl
  rw [hsnapshot]
  exact ⟨_, Prod.ext (Txn.result_of_ok hrun) (Txn.after_of_ok hrun), rfl⟩

end Filling

/-- The concrete opening, over a session that ends its reports with `extra`. -/
def wireDesk : Desk RecordedBroker := ⟨sceneLedger, fun _ _ => [], .mint (.null, [])⟩

def wireSetting (extra : Json → List (String × Json)) : Setting RecordedBroker :=
  recordedSetting (fillingHost extra) (fun _ => .utc 1200) true

theorem orderCall_scene : buildLifecycleOrderCall (sceneWorker.openRequest scenePermit).clientOrderId
    (sceneWorker.openRequest scenePermit).limitPrice (sceneWorker.openRequest scenePermit).legs =
      .ok (sceneWorker.openRequest scenePermit).arguments := by
  have hclient : strip (sceneWorker.openRequest scenePermit).clientOrderId ≠ "" :=
    strip_ne_empty_of_isExactText canOpen_scene.texts.clientOrderId
  have hlegs : checkLegs (openLegs scenePermit) = .ok () := by decide
  refine except_bind_eq_ok.mpr ⟨(), throwIf_eq_ok.mpr hclient, ?_⟩
  refine except_bind_eq_ok.mpr ⟨(), throwIf_eq_ok.mpr (not_not.mpr rfl), ?_⟩
  refine except_bind_eq_ok.mpr ⟨(), hlegs, ?_⟩
  exact except_bind_eq_ok.mpr ⟨(), throwIf_eq_ok.mpr (by decide), rfl⟩

theorem clientOrderId_scene : (sceneWorker.openRequest scenePermit).clientOrderId ≠ "" := by
  intro hempty
  have htext := canOpen_scene.texts.clientOrderId
  rw [hempty] at htext
  exact absurd htext (by decide)

theorem submit_scene (extra : Json → List (String × Json)) : ∃ x,
    (port (fillingHost extra).recorded).submitOpen (sceneWorker.openRequest scenePermit)
      wireDesk.broker = (.ok ⟨"order-1", (sceneWorker.openRequest scenePermit).clientOrderId,
        .utc 1200⟩, submittedBroker (sceneWorker.openRequest scenePermit) [x]) ∧
      x.tool = openTool :=
  submit_filling extra rfl clientOrderId_scene orderCall_scene .null

/-- The opening is filled, whatever else the report says. -/
theorem wire_fills (extra : Json → List (String × Json))
    (hextra : ∀ arguments, ∀ kv ∈ extra arguments, kv.1 ≠ "error") :
    ((wireSetting extra).runCall (sceneWorker.openPosition scenePermit) wireDesk).1 =
      .ok (.openFilled, "order-1") ∧
    orderReports ((wireSetting extra).runCall (sceneWorker.openPosition scenePermit)
      wireDesk).2.broker.exchanges =
        [fillingReport extra (sceneWorker.openRequest scenePermit).arguments] := by
  obtain ⟨x₀, hsubmit, hx₀⟩ := submit_scene extra
  obtain ⟨x₁, haccount, hx₁⟩ := readAccount_filling extra
    (submittedBroker (sceneWorker.openRequest scenePermit) [x₀])
  have htruth := readOrder_filling extra (b := (submittedBroker
    (sceneWorker.openRequest scenePermit) [x₀]).after x₁) (hextra _) clientOrderId_scene rfl rfl rfl
  obtain ⟨x₃, hpositions, hx₃⟩ := readPositions_filling extra
    (b := ((submittedBroker (sceneWorker.openRequest scenePermit) [x₀]).after x₁).after
      ⟨orderByIdTool, .obj [("order_id", .str "order-1")],
        .response (fillingReport extra (sceneWorker.openRequest scenePermit).arguments)⟩)
    rfl rfl rfl
  have hrows : ∀ row ∈ legRows, row.symbol ≠ "" ∧ row.qty.isFinite ∧ row.observedAt = .utc 1200 := by
    decide
  have hfilling := reads_filling (w := sceneWorker) (t := .utc 1200)
    (r := sceneWorker.openRequest scenePermit) rfl (by decide) rfl rfl rfl
    scene_priceInBounds hrows fun _ => sceneRows_accepted.1 _ (by simp)
  have hreads : Reads sceneWorker (port (fillingHost extra).recorded) (.utc 1200)
      (sceneWorker.openRequest scenePermit)
      ⟨"order-1", (sceneWorker.openRequest scenePermit).clientOrderId, .utc 1200⟩ _ _ _ _ :=
    ⟨⟨_, _, _, haccount, htruth, hpositions, hfilling.orderFresh, rfl, rfl⟩, rfl, rfl,
      hfilling.order, hfilling.orderFresh, hfilling.positions, hfilling.positionsFresh,
      hfilling.rows, hfilling.legs⟩
  obtain ⟨s, -, hreturns⟩ := returns_openPosition (d := wireDesk) canOpen_scene
    (by simp [wireDesk]) freshOrder_scene rfl hsubmit hreads rfl rfl rfl
  have hsetting : wireSetting extra = .still (.utc 1200) (port (fillingHost extra).recorded) := rfl
  rw [hsetting, hreturns.runCall]
  refine ⟨rfl, ?_⟩
  have hother : ∀ {x : Exchange}, x.tool ≠ orderByIdTool → orderReports [x] = [] := by
    intro x hx
    exact orderReports_eq_nil fun y hy => by rwa [List.mem_singleton.mp hy]
  have hnone₀ := hother (x := x₀) (by rw [hx₀]; decide)
  have hnone₁ := hother (x := x₁) (by rw [hx₁]; decide)
  have hnone₃ := hother (x := x₃) (by rw [hx₃]; decide)
  show orderReports ([x₀] ++ [x₁] ++ [_] ++ [x₃]) = _
  rw [orderReports_append, orderReports_append, orderReports_append, hnone₀, hnone₁, hnone₃]
  rfl

/-- A report that says what the order call said. -/
def echoing (arguments : Json) : List (String × Json) :=
  [("legs", arguments.get "legs"), ("limit_price", arguments.get "limit_price")]

theorem noError_echoing : ∀ arguments, ∀ kv ∈ echoing arguments, kv.1 ≠ "error" := by
  intro arguments kv hkv
  simp only [echoing, List.mem_cons, List.not_mem_nil, or_false] at hkv
  rcases hkv with rfl | rfl <;> simp

/-- A report of another price, without legs. -/
def dissenting (_ : Json) : List (String × Json) := [("limit_price", .str "4.00")]

end EsscherMarket.Lifecycle
