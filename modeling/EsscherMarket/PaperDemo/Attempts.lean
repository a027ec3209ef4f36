import EsscherMarket.Lib.Processes
import EsscherMarket.Lifecycle.WireTruth
import EsscherMarket.PaperDemo.Run

/-!
# At most one submission

Runs that share an attempt store, in any order and with crashes at any point.
-/

namespace EsscherMarket.PaperDemo

open Lib Execution Lifecycle Prog McpPaperBroker

/-! ### The attempt store -/

def markerName (identity : String) : String :=
  Sha256.hexdigest (Json.utf8 identity) ++ ".attempted"

/-- The marker files, and the calls of the session's tools so far. -/
structure AttemptWorld where
  markers : String → Bool
  calls : List (String × Json)

def AttemptWorld.mark (s : AttemptWorld) (identity : String) : AttemptWorld :=
  { s with markers := Function.update s.markers (markerName identity) true }

/-- How the world answers: the clock and the session as they like, a claim as the file system opens
a marker that must not exist. -/
inductive AttemptWorld.Answers :
    (op : PaperOp) → AttemptWorld → paperSig.Res op → AttemptWorld → Prop
  | clock (s t) : Answers .clock s t s
  | called (s tool arguments answer) : Answers (.callTool tool arguments) s answer
      { s with calls := s.calls ++ [(tool, arguments)] }
  | won (s identity) (h : s.markers (markerName identity) = false) :
      Answers (.claim identity) s ClaimAnswer.won (s.mark identity)
  | lost (s identity) (h : s.markers (markerName identity) = true) :
      Answers (.claim identity) s ClaimAnswer.lost s
  | refused (s identity) : Answers (.claim identity) s ClaimAnswer.notApproved s
  | failed (s identity) : Answers (.claim identity) s ClaimAnswer.osError s
  /-- The marker is there, and writing or flushing it fails. -/
  | failedAfter (s identity) : Answers (.claim identity) s ClaimAnswer.osError (s.mark identity)

/-- The identity that a call must have claimed: the client order id of an order, and `cancel:` with
the order id of a cancel. -/
def attemptKey (tool : String) (arguments : Json) : Option String :=
  if tool = openTool then
    match arguments.get "client_order_id" with
    | .str clientOrderId => some clientOrderId
    | _ => none
  else if tool = cancelTool then
    match arguments.get "order_id" with
    | .str orderId => some ("cancel:" ++ orderId)
    | _ => none
  else none

/-- The claim that a run has won and not used. -/
def attemptMonitor : Monitor paperSig (Option String) where
  next held op := match op with
    | .claim identity => fun (answer : ClaimAnswer) => if answer = .won then some identity else held
    | .callTool tool arguments => fun _ => if (attemptKey tool arguments).isSome then none else held
    | .clock => fun _ => held
  ok held op := match op with
    | .callTool tool arguments => ∀ key, attemptKey tool arguments = some key → held = some key
    | _ => True

/-! ### One run -/

/-- The operations that neither claim nor change anything. -/
def Reads : PaperOp → Prop
  | .clock => True
  | .claim _ => False
  | .callTool tool arguments => attemptKey tool arguments = none

section Safe

variable {held : Option String} {α : Type} {p : PaperProg α}

theorem Reads.safe (h : Uses Reads p) :
    Safe attemptMonitor held p fun held' _ => held' = held := by
  refine h.safe fun op hop => ?_
  cases op with
  | clock => exact ⟨trivial, fun _ => rfl⟩
  | claim identity => exact hop.elim
  | callTool tool arguments =>
    have hnone : attemptKey tool arguments = none := hop
    refine ⟨fun key hkey => ?_, fun _ => ?_⟩
    · rw [hnone] at hkey
      cases hkey
    · show (if (attemptKey tool arguments).isSome then none else held) = held
      rw [hnone]
      rfl

theorem Reads.safe_any (h : Uses Reads p) : Safe attemptMonitor held p fun _ _ => True :=
  (Reads.safe h).mono fun _ _ _ => trivial

theorem uses_readClock : Uses Reads readClock :=
  (uses_perform (S := paperSig) trivial).bind fun _ => uses_pure _

theorem uses_callTool {tool : String} {arguments : Json} (h : attemptKey tool arguments = none) :
    Uses Reads (callTool tool arguments) := by
  refine (uses_perform (S := paperSig) h).bind fun answer => ?_
  cases answer with
  | response v => exact uses_pure v
  | _ => exact uses_raise _

theorem uses_observedTime : Uses Reads observedTime :=
  uses_readClock.bind fun _ => (uses_raiseIf _ _).bind fun _ => uses_pure _

theorem uses_activeTime (issuedAt expiresAt : DateTime) : Uses Reads (activeTime issuedAt expiresAt) :=
  uses_observedTime.bind fun _ => (uses_raiseIf _ _).bind fun _ => uses_raiseIf _ _

theorem attemptKey_readback (clientOrderId : String) :
    attemptKey readbackTool (.obj [("client_order_id", .str clientOrderId)]) = none := by
  rw [attemptKey, if_neg (by decide), if_neg (by decide)]

theorem attemptKey_orderById (orderId : String) :
    attemptKey orderByIdTool (.obj [("order_id", .str orderId)]) = none := by
  rw [attemptKey, if_neg (by decide), if_neg (by decide)]

theorem uses_readOrder (orderId clientOrderId : String) :
    Uses Reads (readOrder orderId clientOrderId) :=
  (uses_callTool (attemptKey_orderById orderId)).bind fun _ => (uses_ofExcept _).bind fun _ =>
    (uses_raiseIf _ _).bind fun _ => uses_pure _

theorem uses_verifyEventFlat (targetSymbols : String × String) :
    Uses Reads (verifyEventFlat targetSymbols) := by
  have hkey : attemptKey positionsTool (.obj []) = none := by
    rw [attemptKey, if_neg (by decide), if_neg (by decide)]
  exact (uses_callTool hkey).bind fun _ => (uses_ofExcept _).bind fun _ =>
    (uses_raiseIf _ _).bind fun _ => uses_observedTime

theorem uses_readback (call : OpenOrderCall) (phase : String)
    (submitted : Except PaperError String) : Uses Reads (readback call phase submitted) := by
  refine Uses.tryCatch ?_ fun e => ?_
  · exact (uses_callTool (attemptKey_readback _)).bind fun _ => uses_ofExcept _
  · cases submitted with
    | ok id => exact uses_raise e
    | error e' => exact uses_raise _

theorem uses_acknowledged (call : OpenOrderCall) (phase : String) (answer : Except PaperError Json) :
    Uses Reads (acknowledged call phase answer) := by
  cases answer with
  | error e => exact uses_pure _
  | ok response =>
    exact (uses_ofExcept _).bind fun _ => (uses_raiseIf _ _).bind fun _ => uses_pure _

theorem uses_readOpen (p : DebitVerticalPermit) : Uses Reads (readOpen p) :=
  (uses_ofExcept _).bind fun _ => (uses_callTool (attemptKey_readback _)).bind fun _ =>
    (uses_ofExcept _).bind fun _ => (uses_raiseIf _ _).bind fun _ =>
      uses_observedTime.bind fun _ => uses_pure _

theorem uses_readTerminal (orderId clientOrderId : String) :
    Uses Reads (readTerminal orderId clientOrderId) :=
  (uses_raiseIf _ _).bind fun _ => (uses_callTool (attemptKey_orderById orderId)).bind fun _ =>
    (uses_raiseIf _ _).bind fun _ => uses_pure _

theorem uses_readTerminalClose (clientOrderId : String) (orderId : Option String) :
    Uses Reads (readTerminalClose clientOrderId orderId) := by
  cases orderId with
  | none => exact uses_pure _
  | some orderId => exact (uses_readTerminal orderId clientOrderId).bind fun _ => uses_pure _

theorem safe_claim (identity : String) :
    Safe attemptMonitor held (claim identity) fun held' claimed =>
      claimed = true → held' = some identity := by
  have hperform : Safe attemptMonitor held
      (perform (S := paperSig) (.claim identity) : PaperProg ClaimAnswer)
      fun held' answer => answer = ClaimAnswer.won → held' = some identity := by
    refine safe_perform trivial fun answer hwon => ?_
    subst hwon
    rfl
  refine hperform.bind ?_
  · intro held' answer hheld
    cases answer with
    | won => exact safe_pure fun _ => hheld rfl
    | lost => exact safe_pure fun h => absurd h (by decide)
    | notApproved => exact safe_raise _
    | osError => exact safe_raise _

theorem safe_callTool {tool key : String} {arguments : Json}
    (h : attemptKey tool arguments = some key) :
    Safe attemptMonitor (some key) (callTool tool arguments) fun _ _ => True := by
  have hok : attemptMonitor.ok (some key) (.callTool tool arguments) := by
    intro key' hkey'
    rw [h] at hkey'
    exact hkey'
  refine safe_perform_bind (S := paperSig) hok fun answer => ?_
  cases answer with
  | response v => exact safe_pure trivial
  | _ => exact safe_raise _

theorem safe_submitAndReadback {call : OpenOrderCall} {submissionPhase readbackPhase : String}
    (h : attemptKey openTool call.arguments = some call.clientOrderId) :
    Safe attemptMonitor (some call.clientOrderId)
      (submitAndReadback call submissionPhase readbackPhase) fun _ _ => True := by
  refine (safe_callTool h).attempt.bind fun _ answer _ => ?_
  exact Reads.safe_any ((uses_acknowledged call submissionPhase answer).bind fun submitted =>
    (uses_readback call readbackPhase submitted).bind fun _ =>
      (uses_raiseIf _ _).bind fun _ => uses_pure _)

/-- The order call of a permit names the client order id that is claimed. -/
theorem attemptKey_orderCall (tag : String) (identity : Json) (limitPrice : Decimal) (quantity : Int)
    (legs : List BrokerOptionLeg) :
    attemptKey openTool (orderCall tag identity limitPrice quantity legs).arguments =
      some (orderCall tag identity limitPrice quantity legs).clientOrderId := by
  rw [attemptKey, if_pos rfl]
  rfl

theorem attemptKey_openCall {p : DebitVerticalPermit} {call : OpenOrderCall}
    (h : buildOpenOrderCall p = .ok call) :
    attemptKey openTool call.arguments = some call.clientOrderId := by
  simp only [buildOpenOrderCall, except_bind_eq_ok, except_pure_eq_ok] at h
  obtain ⟨-, -, rfl⟩ := h
  exact attemptKey_orderCall _ _ _ _ _

theorem attemptKey_closeCall {p : DebitVerticalPermit} {c : ClosePermit} {call : OpenOrderCall}
    (h : buildCloseOrderCall p c = .ok call) :
    attemptKey openTool call.arguments = some call.clientOrderId := by
  simp only [buildCloseOrderCall, except_bind_eq_ok, except_pure_eq_ok] at h
  obtain ⟨-, -, -, -, -, -, -, -, -, -, rfl⟩ := h
  exact attemptKey_orderCall _ _ _ _ _

theorem safe_submitOpen {p : DebitVerticalPermit} {call : OpenOrderCall}
    (h : buildOpenOrderCall p = .ok call) :
    Safe attemptMonitor (some call.clientOrderId) (submitOpen p) fun _ _ => True := by
  refine (Reads.safe (uses_activeTime _ _)).bind ?_
  rintro held' - rfl
  rw [h]
  exact (safe_submitAndReadback (attemptKey_openCall h)).bind fun _ _ _ =>
    Reads.safe_any (uses_observedTime.bind fun _ => uses_pure _)

theorem safe_cancelAndRead (orderId clientOrderId : String) :
    Safe attemptMonitor held (cancelAndRead orderId clientOrderId) fun _ _ => True := by
  have hkey : attemptKey cancelTool (.obj [("order_id", .str orderId)]) =
      some ("cancel:" ++ orderId) := by
    rw [attemptKey, if_neg (by decide), if_pos rfl]
    rfl
  have hcancel : ∀ held' claimed, (claimed = true → held' = some ("cancel:" ++ orderId)) →
      Safe attemptMonitor held' (cancelOrder orderId claimed) fun _ _ => True := by
    intro held' claimed hheld
    cases claimed with
    | false => exact safe_pure trivial
    | true =>
      rw [hheld rfl]
      refine (safe_callTool hkey).attempt.bind fun _ answer _ => ?_
      cases answer with
      | ok response => exact safe_pure trivial
      | error e => exact safe_pure trivial
  refine (safe_claim _).bind fun held' claimed hheld => (hcancel held' claimed hheld).bind
    fun _ failed _ => Reads.safe_any (Uses.tryCatch (uses_readOrder _ _) fun e => ?_)
  split
  · exact uses_raise _
  · exact uses_raise _

theorem safe_settledOpen (receipt : OpenOrderReceipt) :
    Safe attemptMonitor held (settledOpen receipt) fun _ _ => True := by
  refine (Reads.safe (uses_readOrder _ _)).bind fun _ order _ => safe_raiseIf_bind fun _ => ?_
  split
  · exact safe_cancelAndRead _ _
  · exact safe_pure trivial

theorem safe_resolveFilled {p : DebitVerticalPermit} {c : ClosePermit} {receipt : OpenOrderReceipt}
    {order : ReportedIdentity} {call : OpenOrderCall}
    (h : attemptKey openTool call.arguments = some call.clientOrderId) :
    Safe attemptMonitor held (resolveFilled p c receipt order call) fun _ _ => True := by
  have hclose : ∀ held' claimed, (claimed = true → held' = some call.clientOrderId) →
      Safe attemptMonitor held' (closingOrder call claimed) fun _ _ => True := by
    intro held' claimed hheld
    cases claimed with
    | true =>
      rw [hheld rfl]
      exact safe_submitAndReadback h
    | false =>
      exact Reads.safe_any ((uses_callTool (attemptKey_readback _)).bind fun _ =>
        (uses_ofExcept _).bind fun _ => (uses_raiseIf _ _).bind fun _ => uses_pure _)
  refine safe_raiseIf_bind fun _ => safe_raiseIf_bind fun _ => (safe_claim _).bind
    fun held' claimed hheld => (hclose held' claimed hheld).bind fun _ _ _ =>
      Reads.safe_any ((uses_raiseIf _ _).bind fun _ => (uses_raiseIf _ _).bind fun _ =>
        (uses_verifyEventFlat _).bind fun _ => uses_ofExcept _)

theorem safe_resolveToFlat (p : DebitVerticalPermit) (receipt : OpenOrderReceipt) (c : ClosePermit) :
    Safe attemptMonitor held (resolveToFlat p receipt c) fun _ _ => True := by
  refine (Reads.safe (uses_activeTime _ _)).bind fun _ _ _ => safe_ofExcept_bind fun _ _ =>
    safe_raiseIf_bind fun _ => safe_ofExcept_bind fun call hcall =>
      (safe_settledOpen receipt).bind fun _ order _ => safe_raiseIf_bind fun _ => ?_
  split
  · exact Reads.safe_any ((uses_raiseIf _ _).bind fun _ => (uses_verifyEventFlat _).bind
      fun _ => uses_ofExcept _)
  · exact safe_resolveFilled (attemptKey_closeCall hcall)

/-- A run uses each claim that it wins at most once, and calls no order or cancel tool without
one. -/
theorem safe_runPaperDemo (iso : IsoReader) (prepared : PreparedHostMcpSession)
    (p : DebitVerticalPermit) (c : ClosePermit) (approval : PaperDemoApproval) :
    Safe attemptMonitor held (runPaperDemo iso prepared p c approval) fun _ _ => True := by
  have hopening : ∀ {call : OpenOrderCall} {held' : Option String} {claimed : Bool},
      buildOpenOrderCall p = .ok call → (claimed = true → held' = some call.clientOrderId) →
      Safe attemptMonitor held' (openingReceipt p claimed) fun _ _ => True := by
    intro call held' claimed hcall hheld
    cases claimed with
    | true =>
      rw [hheld rfl]
      exact safe_submitOpen hcall
    | false => exact Reads.safe_any (uses_readOpen p)
  refine (Reads.safe uses_readClock).bind fun _ _ _ => safe_raiseIf_bind fun _ =>
    safe_ofExcept_bind fun _ _ => safe_raiseIf_bind fun _ => safe_raiseIf_bind fun _ =>
      safe_ofExcept_bind fun openCall hopen => safe_ofExcept_bind fun closeCall _ => ?_
  refine (safe_claim _).bind fun _ _ hheld => (hopening hopen hheld).bind fun _ receipt _ =>
    (safe_resolveToFlat p receipt c).bind fun _ lifecycle _ => ?_
  exact Reads.safe_any ((uses_readTerminal _ _).bind fun _ => (uses_readTerminalClose _ _).bind
    fun _ => (uses_ofExcept _).bind fun _ => uses_pure _)

end Safe

structure PaperRequest where
  prepared : PreparedHostMcpSession
  openPermit : DebitVerticalPermit
  closePermit : ClosePermit
  approval : PaperDemoApproval

def PaperRequest.run (iso : IsoReader) (r : PaperRequest) : PaperProg PaperReceiptBundle :=
  runPaperDemo iso r.prepared r.openPermit r.closePermit r.approval

/-! ### A concrete run -/

section Demo

def demoTerms : DebitVerticalPermitFields :=
  { spyTerms (paperEventRunId digestA) paperPermitPolicySha256 with
    protocolSha256 := researchDecisionProtocolSha256
    executionProtocolSha256 := alpacaMcpV2ProtocolSha256 }

theorem demoTerms_checkTerms : demoTerms.checkTerms = true := by
  have htime : (DateTime.utc 1000).micros < (DateTime.utc 2000).micros := by decide
  have hrun : (strip (paperEventRunId digestA) != "") = true := by decide
  simp only [DebitVerticalPermitFields.checkTerms, Bool.and_eq_true, decide_eq_true_eq]
  exact ⟨⟨⟨⟨⟨⟨⟨⟨⟨⟨⟨⟨⟨hrun, Json.isLowerHex_sha256 _⟩, isLowerHex_digestA⟩, isLowerHex_digestA⟩,
    isLowerHex_digestA⟩, Json.isLowerHex_sha256 _⟩, Json.isLowerHex_sha256 _⟩, rfl⟩, rfl⟩, htime⟩,
    rfl⟩, rfl⟩, checkLegs_spyTerms⟩, limit_lt_width_spyTerms⟩

def demoPermit : DebitVerticalPermit := .ofTerms demoTerms demoTerms_checkTerms

def demoCloseFields : ClosePermitFields where
  permitId := "close-1"
  openPermitId := demoPermit.permitId
  eventRunId := demoPermit.eventRunId
  policySha256 := paperPermitPolicySha256
  snapshotSha256 := digestA
  issuedAt := .utc 1000
  expiresAt := .utc 2000
  limitPrice := .finite true 100 (-2)

theorem demoCloseFields_validate : demoCloseFields.validate = .ok () := by
  have hpermit : strip demoCloseFields.openPermitId ≠ "" :=
    bne_iff_ne.mp (strip_paperExecutionPermitId _)
  have hidentities : ¬ (strip demoCloseFields.permitId = "" ∨
      strip demoCloseFields.openPermitId = "" ∨ strip demoCloseFields.eventRunId = "") := by
    rw [not_or, not_or]
    exact ⟨by decide, hpermit, by decide⟩
  have hlimit : demoCloseFields.limitPrice = .finite true 100 (-2) := rfl
  have hprice : ¬ (¬ demoCloseFields.limitPrice.isFinite ∨ 0 ≤ demoCloseFields.limitPrice.toRat) := by
    norm_num [hlimit, Decimal.isFinite, Decimal.toRat_finite]
  simp only [ClosePermitFields.validate, except_bind_eq_ok, throwIf_eq_ok, not_not]
  exact ⟨(), hidentities, (), Json.isLowerHex_sha256 _, (), isLowerHex_digestA, (), rfl, (), rfl, (),
    by decide, (), hprice, rfl⟩

def demoClosePermit : ClosePermit := ⟨demoCloseFields, demoCloseFields_validate⟩

def demoRequest : PaperRequest where
  prepared := ⟨digestA⟩
  openPermit := demoPermit
  closePermit := demoClosePermit
  approval := ⟨demoPermit.permitId, digestA, .utc 1000, .utc 2000⟩

theorem registered_demo : registered demoPermit = true := by
  simp only [registered, Bool.and_eq_true, beq_iff_eq]
  exact ⟨⟨⟨⟨rfl, rfl⟩, rfl⟩, rfl⟩, rfl⟩

def demoOpenCall : OpenOrderCall :=
  orderCall "rd-open-" (permitIdentity demoPermit) demoPermit.limitPrice demoPermit.quantity
    ([demoPermit.longLeg, demoPermit.shortLeg].map fun leg =>
      ⟨leg.symbol, leg.ratioQty, leg.side.value, leg.positionIntent.value⟩)

def demoCloseCall : OpenOrderCall :=
  orderCall "rd-close-" (closeIdentity demoPermit demoClosePermit) demoClosePermit.limitPrice
    demoPermit.quantity ([demoPermit.longLeg, demoPermit.shortLeg].map closeLeg)

theorem buildOpenOrderCall_demo : buildOpenOrderCall demoPermit = .ok demoOpenCall := by
  rw [buildOpenOrderCall, registered_demo]
  rfl

theorem buildCloseOrderCall_demo :
    buildCloseOrderCall demoPermit demoClosePermit = .ok demoCloseCall := by
  have hwidth : ¬ |(Decimal.ofNat 505).toRat - (Decimal.ofNat 500).toRat| <
      |(Decimal.finite true 100 (-2)).toRat| := by
    norm_num [Decimal.toRat_finite]
  simp only [buildCloseOrderCall, except_bind_eq_ok, throwIf_eq_ok, not_not]
  exact ⟨(), rfl, (), rfl, (), rfl, (), rfl, (), hwidth, rfl⟩

def filledOrder (id : Json) (economics : List (String × Json)) : Json :=
  .obj ([("id", id), ("client_order_id", id), ("status", .str "filled"),
    ("filled_qty", .str "1")] ++ economics)

def fillOf (price : String) (at_ : DateTime) : List (String × Json) :=
  [("filled_avg_price", .str price), ("filled_at", .str at_.isoformat)]

/-- A session that fills every order at once, a closing one at `closedAt`, and reports no
position. -/
def demoSession (closedAt : DateTime) (tool : String) (arguments : Json) : Json :=
  if tool = orderByIdTool then
    let id := arguments.get "order_id"
    if id.isText demoOpenCall.clientOrderId then filledOrder id (fillOf "2.50" (.utc 1100))
    else filledOrder id (fillOf "-3.00" closedAt)
  else if tool = positionsTool then .arr []
  else filledOrder (arguments.get "client_order_id") []

/-- The world of the run, whose clock stands still. -/
def demoAnswer (closedAt : DateTime) :
    (op : paperSig.Op) → AttemptWorld → paperSig.Res op × AttemptWorld
  | .clock, s => (⟨.utc 1200, by decide⟩, s)
  | .claim identity, s =>
    if s.markers (markerName identity) then (ClaimAnswer.lost, s)
    else (ClaimAnswer.won, s.mark identity)
  | .callTool tool arguments, s =>
    (.response (demoSession closedAt tool arguments),
      { s with calls := s.calls ++ [(tool, arguments)] })

theorem answers_demo (closedAt : DateTime) (op : PaperOp) (s : AttemptWorld) :
    AttemptWorld.Answers op s (demoAnswer closedAt op s).1 (demoAnswer closedAt op s).2 := by
  cases op with
  | clock => exact .clock s _
  | callTool tool arguments => exact .called s tool arguments _
  | claim identity =>
    cases hmarker : s.markers (markerName identity) with
    | true =>
      simp only [demoAnswer, hmarker, if_true]
      exact .lost s identity hmarker
    | false =>
      simp only [demoAnswer, hmarker, Bool.false_eq_true, if_false]
      exact .won s identity hmarker

variable {closedAt : DateTime}

theorem identityOf_filledOrder (phase : String) {id : String} (hid : id ≠ "")
    {economics : List (String × Json)} (h : ∀ kv ∈ economics, kv.1 ≠ "error") :
    identityOf phase (filledOrder (.str id) economics) =
      .ok ⟨id, id, "filled", some (.finite false 1 0)⟩ := by
  have hnone : economics.find? (fun kv => kv.1 == "error") = none := by
    rw [List.find?_eq_none]
    intro kv hkv
    simpa using h kv hkv
  have hfilled : reportedFilled phase (filledOrder (.str id) economics) =
      .ok (some (.finite false 1 0)) := by
    have hfield : (filledOrder (.str id) economics).field? "filled_qty" = some (.str "1") := by
      simp [filledOrder, Json.field?]
    have hone : Risk.decimalOf (.str "1") = some (.finite false 1 0) := by decide
    rw [reportedFilled, hfield]
    simp only [hone]
    exact if_pos ⟨rfl, by norm_num [Decimal.toRat_finite]⟩
  have hidentity : brokerIdentity phase (filledOrder (.str id) economics) =
      .ok ⟨id, id, "filled", some (.finite false 1 0)⟩ := by
    refine brokerIdentity_of rfl ?_ ?_ hid ?_ hid ?_ (by decide) hfilled
    · simp [filledOrder, Json.field?, hnone]
    all_goals simp [filledOrder, Json.field?]
  rw [identityOf, hidentity]
  rfl

theorem clientOrderId_ne_empty : demoOpenCall.clientOrderId ≠ "" ∧ demoCloseCall.clientOrderId ≠ "" ∧
    demoCloseCall.clientOrderId ≠ demoOpenCall.clientOrderId := by
  have htag : ∀ (tag rest : String), tag.toList ≠ [] → tag ++ rest ≠ "" := by
    intro tag rest htag h
    have hlist := congrArg String.toList h
    rw [String.toList_append, String.toList_empty, List.append_eq_nil_iff] at hlist
    exact htag hlist.1
  refine ⟨htag _ _ (by decide), htag _ _ (by decide), fun h => ?_⟩
  have hlist := congrArg (fun text : String => text.toList.take 4) h
  simp only [demoCloseCall, demoOpenCall, orderCall, String.toList_append] at hlist
  rw [List.take_append_of_le_length (by decide), List.take_append_of_le_length (by decide)] at hlist
  exact absurd hlist (by decide)

theorem yields_callTool (tool : String) (arguments : Json) :
    Yields (demoAnswer closedAt) (callTool tool arguments) (demoSession closedAt tool arguments) :=
  fun s => ⟨{ s with calls := s.calls ++ [(tool, arguments)] }, rfl⟩

theorem yields_observedTime : Yields (demoAnswer closedAt) observedTime (.utc 1200) :=
  fun s => ⟨s, rfl⟩

theorem yields_claim (identity : String) (s : AttemptWorld) : ∃ claimed s',
    run (demoAnswer closedAt) (claim identity) s = (.ok claimed, s') := by
  cases hmarker : s.markers (markerName identity) with
  | true =>
    refine ⟨false, s, run_perform_bind (S := paperSig) ?_⟩
    simp only [demoAnswer, hmarker, if_true]
    rfl
  | false =>
    refine ⟨true, s.mark identity, run_perform_bind (S := paperSig) ?_⟩
    simp only [demoAnswer, hmarker, Bool.false_eq_true, if_false]
    rfl

/-- What is done the same after a claim, won or lost. -/
theorem Yields.after_claim {α : Type} {identity : String} {f : Bool → PaperProg α} {a : α}
    (h : ∀ claimed, Yields (demoAnswer closedAt) (f claimed) a) :
    Yields (demoAnswer closedAt) (claim identity >>= f) a := by
  intro s
  obtain ⟨claimed, s₁, hclaim⟩ := @yields_claim closedAt identity s
  obtain ⟨s₂, hs₂⟩ := h claimed s₁
  exact ⟨s₂, run_bind hclaim hs₂⟩

def reportedFilledOrder (id : String) : ReportedIdentity :=
  ⟨id, id, "filled", some (.finite false 1 0)⟩

theorem demoSession_client (tool clientOrderId : String)
    (h : tool ≠ orderByIdTool ∧ tool ≠ positionsTool) (arguments : Json)
    (hid : arguments.get "client_order_id" = .str clientOrderId) :
    demoSession closedAt tool arguments = filledOrder (.str clientOrderId) [] := by
  rw [demoSession, if_neg h.1, if_neg h.2, hid]

theorem yields_readback {clientOrderId : String} (hid : clientOrderId ≠ "") (phase : String) :
    Yields (demoAnswer closedAt) (do
      let response ← callTool readbackTool (.obj [("client_order_id", .str clientOrderId)])
      ofExcept (identityOf phase response)) (reportedFilledOrder clientOrderId) := by
  refine (yields_callTool _ _).bind (yields_ofExcept ?_)
  rw [demoSession_client readbackTool clientOrderId (by decide) _ rfl]
  exact identityOf_filledOrder phase hid (by simp)

theorem yields_submitAndReadback {call : OpenOrderCall} (hid : call.clientOrderId ≠ "")
    (hkey : call.arguments.get "client_order_id" = .str call.clientOrderId)
    (submissionPhase readbackPhase : String) :
    Yields (demoAnswer closedAt) (submitAndReadback call submissionPhase readbackPhase)
      (reportedFilledOrder call.clientOrderId) := by
  have hack : Yields (demoAnswer closedAt) (acknowledged call submissionPhase
      (.ok (filledOrder (.str call.clientOrderId) []))) (.ok call.clientOrderId) :=
    (yields_ofExcept (identityOf_filledOrder _ hid (by simp))).bind
      ((yields_raiseIf (not_not.mpr rfl)).bind (yields_pure _))
  refine (yields_callTool _ _).attempt.bind ?_
  rw [demoSession_client openTool call.clientOrderId (by decide) call.arguments hkey]
  refine hack.bind ((yields_readback hid readbackPhase).tryCatch.bind
    ((yields_raiseIf ?_).bind (yields_pure _)))
  simp [reportedFilledOrder, differs]

theorem demoSession_order (id : String) :
    demoSession closedAt orderByIdTool (.obj [("order_id", .str id)]) =
      if id = demoOpenCall.clientOrderId then filledOrder (.str id) (fillOf "2.50" (.utc 1100))
      else filledOrder (.str id) (fillOf "-3.00" closedAt) := by
  have hget : (Json.obj [("order_id", .str id)]).get "order_id" = .str id := rfl
  rw [demoSession, if_pos rfl, hget]
  show (if (id == demoOpenCall.clientOrderId) = true then _ else _) = _
  by_cases hid : id = demoOpenCall.clientOrderId
  · rw [if_pos hid, if_pos (beq_iff_eq.mpr hid)]
  · rw [if_neg hid, if_neg (fun h => hid (beq_iff_eq.mp h))]

theorem noError_fillOf (price : String) (t : DateTime) : ∀ kv ∈ fillOf price t, kv.1 ≠ "error" := by
  simp [fillOf]

theorem yields_readOrder {id : String} (hid : id ≠ "") :
    Yields (demoAnswer closedAt) (readOrder id id) (reportedFilledOrder id) := by
  have hidentity : identityOf "order readback"
      (demoSession closedAt orderByIdTool (.obj [("order_id", .str id)])) =
        .ok (reportedFilledOrder id) := by
    rw [demoSession_order]
    split_ifs
    · exact identityOf_filledOrder _ hid (noError_fillOf _ _)
    · exact identityOf_filledOrder _ hid (noError_fillOf _ _)
  have hlower : { reportedFilledOrder id with status := lower (reportedFilledOrder id).status } =
      reportedFilledOrder id := by
    have hfilled : lower "filled" = "filled" := by decide
    simp only [reportedFilledOrder, hfilled]
  have hsame : ¬ ((reportedFilledOrder id).orderId ≠ id ∨
      (reportedFilledOrder id).clientOrderId ≠ id) := by simp [reportedFilledOrder]
  refine (yields_callTool _ _).bind ((yields_ofExcept hidentity).bind
    ((yields_raiseIf hsame).bind ?_))
  rw [hlower]
  exact yields_pure _

theorem yields_activeTime {issuedAt expiresAt : DateTime} (h : issuedAt.micros ≤ 1200)
    (h' : 1200 < expiresAt.micros) :
    Yields (demoAnswer closedAt) (activeTime issuedAt expiresAt) () :=
  yields_observedTime.bind ((yields_raiseIf (not_lt.mpr h)).bind (yields_raiseIf (not_le.mpr h')))

theorem yields_verifyEventFlat (targetSymbols : String × String) :
    Yields (demoAnswer closedAt) (verifyEventFlat targetSymbols) (.utc 1200) :=
  (yields_callTool _ _).bind ((@yields_ofExcept _ _ _ _ _ [] _ rfl).bind
    ((yields_raiseIf (by simp)).bind yields_observedTime))

def demoReceipt : OpenOrderReceipt where
  brokerOrderId := demoOpenCall.clientOrderId
  clientOrderId := demoOpenCall.clientOrderId
  brokerStatus := "filled"
  requestSha256 := demoOpenCall.requestSha256
  permitId := demoPermit.permitId
  eventRunId := demoPermit.eventRunId
  observedAt := .utc 1200

theorem yields_openingReceipt (claimed : Bool) :
    Yields (demoAnswer closedAt) (openingReceipt demoPermit claimed) demoReceipt := by
  have hid := clientOrderId_ne_empty.1
  cases claimed with
  | true =>
    exact (yields_activeTime (by decide) (by decide)).bind
      ((yields_ofExcept buildOpenOrderCall_demo).bind
        ((yields_submitAndReadback hid rfl _ _).bind (yields_observedTime.bind (yields_pure _))))
  | false =>
    refine (yields_ofExcept buildOpenOrderCall_demo).bind ?_
    refine (yields_callTool _ _).bind ?_
    rw [demoSession_client readbackTool demoOpenCall.clientOrderId (by decide) _ rfl]
    exact (yields_ofExcept (identityOf_filledOrder _ hid (by simp))).bind
      ((yields_raiseIf (not_not.mpr rfl)).bind (yields_observedTime.bind (yields_pure _)))

theorem yields_closingOrder (claimed : Bool) :
    Yields (demoAnswer closedAt) (closingOrder demoCloseCall claimed)
      (reportedFilledOrder demoCloseCall.clientOrderId) := by
  have hid := clientOrderId_ne_empty.2.1
  cases claimed with
  | true => exact yields_submitAndReadback hid rfl _ _
  | false =>
    refine (yields_callTool _ _).bind ?_
    rw [demoSession_client readbackTool demoCloseCall.clientOrderId (by decide) _ rfl]
    exact (yields_ofExcept (identityOf_filledOrder _ hid (by simp))).bind
      ((yields_raiseIf (not_not.mpr rfl)).bind (yields_pure _))

theorem yields_settledOpen :
    Yields (demoAnswer closedAt) (settledOpen demoReceipt)
      (reportedFilledOrder demoOpenCall.clientOrderId) :=
  (yields_readOrder clientOrderId_ne_empty.1).bind ((yields_raiseIf (by decide)).bind
    (yields_pure _))

def demoLifecycleFields : PaperLifecycleReceiptFields where
  eventRunId := demoPermit.eventRunId
  openPermitId := demoPermit.permitId
  closePermitId := demoClosePermit.permitId
  openOrderId := demoOpenCall.clientOrderId
  openOrderStatus := "filled"
  closeOrderId := some demoCloseCall.clientOrderId
  closeOrderStatus := some "filled"
  closeRequestSha256 := some demoCloseCall.requestSha256
  targetSymbols := (demoPermit.longLeg.symbol, demoPermit.shortLeg.symbol)
  outcome := .closedFlat
  observedAt := .utc 1200

theorem demoLifecycleFields_check : demoLifecycleFields.check = true := by
  have hevent : (strip demoPermit.eventRunId != "") = true := by decide
  have hpermit : (strip demoPermit.permitId != "") = true := strip_paperExecutionPermitId _
  have hopen : (strip demoOpenCall.clientOrderId != "") = true := by
    rw [bne_iff_ne]
    refine strip_ne_empty_of_mem (c := 'r') ?_ (by decide)
    rw [demoOpenCall, orderCall, String.toList_append]
    exact List.mem_append_left _ (by decide)
  have hclose : (demoCloseCall.clientOrderId != "") = true :=
    bne_iff_ne.mpr clientOrderId_ne_empty.2.1
  have hidentities : [demoPermit.eventRunId, demoPermit.permitId, "close-1",
      demoOpenCall.clientOrderId, "filled"].all (fun value => strip value != "") = true := by
    simp only [List.all_cons, List.all_nil, hevent, hpermit, hopen, Bool.true_and, Bool.and_true]
    decide
  have hsymbols : (demoPermit.longLeg.symbol != demoPermit.shortLeg.symbol) = true := by
    decide
  rw [PaperLifecycleReceiptFields.check]
  refine Bool.and_eq_true_iff.mpr ⟨Bool.and_eq_true_iff.mpr ⟨Bool.and_eq_true_iff.mpr
    ⟨hidentities, hsymbols⟩, ?_⟩, rfl⟩
  show (demoCloseCall.clientOrderId != "" && "filled" != "" && true) = true
  rw [hclose]
  decide

def demoLifecycle : PaperLifecycleReceipt := ⟨demoLifecycleFields, demoLifecycleFields_check⟩

theorem yields_resolveFilled :
    Yields (demoAnswer closedAt) (resolveFilled demoPermit demoClosePermit demoReceipt
      (reportedFilledOrder demoOpenCall.clientOrderId) demoCloseCall) demoLifecycle := by
  have hlower : lower "filled" = "filled" := by decide
  have hone : demoPermit.quantity = 1 := rfl
  have hquantity : isQuantity (some (.finite false 1 0)) demoPermit.quantity = true := by
    norm_num [hone, isQuantity, Decimal.toRat_finite]
  refine (yields_raiseIf (not_not.mpr rfl)).bind ((yields_raiseIf ?_).bind
    (Yields.after_claim fun claimed => (yields_closingOrder claimed).bind
      ((yields_raiseIf ?_).bind ((yields_raiseIf ?_).bind
        ((yields_verifyEventFlat _).bind (yields_ofExcept ?_))))))
  · exact fun h => absurd (h.symm.trans hquantity) (by decide)
  · exact not_not.mpr hlower
  · exact fun h => absurd (h.symm.trans hquantity) (by decide)
  · have hstatus : lower (reportedFilledOrder demoCloseCall.clientOrderId).status = "filled" := hlower
    rw [hstatus]
    exact dif_pos demoLifecycleFields_check

theorem yields_resolveToFlat :
    Yields (demoAnswer closedAt) (resolveToFlat demoPermit demoReceipt demoClosePermit)
      demoLifecycle := by
  refine (yields_activeTime (by decide) (by decide)).bind ((yields_ofExcept
    buildOpenOrderCall_demo).bind ((yields_raiseIf ?_).bind ((yields_ofExcept
      buildCloseOrderCall_demo).bind (yields_settledOpen.bind ((yields_raiseIf (by decide)).bind
        yields_resolveFilled)))))
  simp [demoReceipt]

def demoOpenOrder : Json := filledOrder (.str demoOpenCall.clientOrderId) (fillOf "2.50" (.utc 1100))

def demoCloseOrder (closedAt : DateTime) : Json :=
  filledOrder (.str demoCloseCall.clientOrderId) (fillOf "-3.00" closedAt)

theorem yields_readTerminal {id : String} (hid : id ≠ "") {economics : List (String × Json)}
    (h : demoSession closedAt orderByIdTool (.obj [("order_id", .str id)]) =
      filledOrder (.str id) economics) :
    Yields (demoAnswer closedAt) (readTerminal id id) (filledOrder (.str id) economics) := by
  have hsame : ¬ (¬ ((filledOrder (.str id) economics).get "id").isText id ∨
      ¬ ((filledOrder (.str id) economics).get "client_order_id").isText id) := by
    rw [not_or, not_not, not_not]
    exact ⟨beq_self_eq_true id, beq_self_eq_true id⟩
  refine (yields_raiseIf hid).bind ((yields_callTool _ _).bind ?_)
  rw [h]
  exact (yields_raiseIf hsame).bind (yields_pure _)

def demoPnl (closedAt : DateTime) : PaperPnlObservation where
  classification := .paperRealizedPnl
  grossRealizedPnl := some (.finite false 5000 (-2))
  brokerFees := none
  netRealizedPnl := none
  openFilledAt := some (.utc 1100)
  closeFilledAt := some closedAt
  unavailableReason := none

/-- A time at which the closing order of the run can be filled. -/
structure ClosesAt (closedAt : DateTime) : Prop where
  inRange : closedAt.InRange
  canonical : closedAt.canonical = closedAt
  aware : closedAt.isAware = true
  order : 1100 ≤ closedAt.micros

theorem economicsOf_demo (h : ClosesAt closedAt) :
    economicsOf IsoReader.plain .closedFlat demoOpenOrder (some (demoCloseOrder closedAt)) 1 =
      .ok (demoPnl closedAt) := by
  have hqty : ∀ field, finiteDecimal (.str "1") field = .ok (.finite false 1 0) := by
    intro field
    have hone : Risk.decimalOf (.str "1") = some (.finite false 1 0) := by decide
    rw [finiteDecimal, hone]
    rfl
  have hopen : ∀ field, finiteDecimal (.str "2.50") field = .ok (.finite false 250 (-2)) := by
    intro field
    have hprice : Risk.decimalOf (.str "2.50") = some (.finite false 250 (-2)) := by decide
    rw [finiteDecimal, hprice]
    rfl
  have hclose : ∀ field, finiteDecimal (.str "-3.00") field = .ok (.finite true 300 (-2)) := by
    intro field
    have hprice : Risk.decimalOf (.str "-3.00") = some (.finite true 300 (-2)) := by decide
    rw [finiteDecimal, hprice]
    rfl
  have hread : ∀ (t : DateTime) field, t.InRange → t.canonical = t → t.isAware = true →
      awareDatetime IsoReader.plain (.str t.isoformat) field = .ok t := by
    intro t field hrange hcanonical haware
    rw [awareDatetime, IsoReader.plain.reads t hrange, hcanonical]
    exact if_pos haware
  have hpnl : grossOf (.finite false 250 (-2)) (.finite true 300 (-2)) (.ofInt 1) =
      .ok (.finite false 5000 (-2)) := by decide
  have htext : decimalText (.finite false 5000 (-2)) = .ok "50" := by decide
  have hutc : (DateTime.utc 1100).InRange := by decide
  have hsigns : ¬ ((Decimal.finite false 250 (-2)).toRat ≤ 0 ∨
      0 ≤ (Decimal.finite true 300 (-2)).toRat) := by
    norm_num [Decimal.toRat_finite]
  have hexact : ¬ ((Decimal.finite false 1 0).toRat ≠ ((1 : Int) : ℚ) ∨
      (Decimal.finite false 1 0).toRat ≠ ((1 : Int) : ℚ)) := by
    norm_num [Decimal.toRat_finite]
  have hfees : brokerFees [demoOpenOrder, demoCloseOrder closedAt] = .ok none := rfl
  have hqty₁ := hqty "opening filled quantity"
  have hqty₂ := hqty "closing filled quantity"
  simp only [economicsOf, classifyClosed, except_bind_eq_ok, throwIf_eq_ok, except_pure_eq_ok]
  refine ⟨_, hqty₁, _, hqty₂, (), hexact, _, hopen _, _, hclose _, (), hsigns, _,
    hread _ _ hutc rfl rfl, _, hread _ _ h.inRange h.canonical h.aware, (), not_lt.mpr h.order, _,
    hpnl, _, hfees, none, rfl, _, htext, _, rfl, _, rfl, rfl⟩

def demoBundle (closedAt : DateTime) : PaperReceiptBundle :=
  bundleOf demoRequest.approval demoOpenCall demoLifecycle (demoPnl closedAt)

theorem yields_demo (h : ClosesAt closedAt) :
    Yields (demoAnswer closedAt) (demoRequest.run IsoReader.plain) (demoBundle closedAt) := by
  have hopen : Yields (demoAnswer closedAt)
      (readTerminal demoOpenCall.clientOrderId demoOpenCall.clientOrderId) demoOpenOrder :=
    yields_readTerminal clientOrderId_ne_empty.1 (by rw [demoSession_order, if_pos rfl])
  have hclose : Yields (demoAnswer closedAt)
      (readTerminal demoCloseCall.clientOrderId demoCloseCall.clientOrderId)
      (demoCloseOrder closedAt) :=
    yields_readTerminal clientOrderId_ne_empty.2.1
      (by rw [demoSession_order, if_neg clientOrderId_ne_empty.2.2])
  have hpnl : classifyPnl IsoReader.plain demoLifecycle.outcome demoOpenOrder
      (some (demoCloseOrder closedAt)) demoPermit.quantity = .ok (demoPnl closedAt) := by
    have heconomics : economicsOf IsoReader.plain demoLifecycle.outcome demoOpenOrder
        (some (demoCloseOrder closedAt)) demoPermit.quantity = .ok (demoPnl closedAt) :=
      economicsOf_demo h
    rw [classifyPnl, heconomics]
  have hterminal : Yields (demoAnswer closedAt) (readTerminalClose demoCloseCall.clientOrderId
      (some demoCloseCall.clientOrderId)) (some (demoCloseOrder closedAt)) :=
    hclose.bind (yields_pure _)
  have happroved : Yields (demoAnswer closedAt) (runApproved IsoReader.plain demoPermit
      demoClosePermit demoRequest.approval demoOpenCall demoCloseCall) (demoBundle closedAt) := by
    refine Yields.after_claim fun claimed => ?_
    refine (yields_openingReceipt claimed).bind ?_
    refine yields_resolveToFlat.bind ?_
    have hopenId : demoLifecycle.openOrderId = demoOpenCall.clientOrderId := rfl
    have hcloseId : demoLifecycle.closeOrderId = some demoCloseCall.clientOrderId := rfl
    rw [hopenId, hcloseId]
    refine hopen.bind (hterminal.bind ?_)
    exact (yields_ofExcept hpnl).bind (yields_pure _)
  have happroval : validateApproval demoRequest.prepared demoPermit demoRequest.approval
      (.utc 1200) = .ok () := by
    simp only [validateApproval, except_bind_eq_ok, throwIf_eq_ok, not_not]
    exact ⟨(), rfl, (), rfl, (), rfl, (), rfl, by decide⟩
  have hclock : Yields (demoAnswer closedAt) readClock (.utc 1200) := fun s => ⟨s, rfl⟩
  exact hclock.bind ((yields_raiseIf (by decide)).bind ((yields_ofExcept happroval).bind
    ((yields_raiseIf (by decide)).bind ((yields_raiseIf (by decide)).bind
      ((yields_ofExcept buildOpenOrderCall_demo).bind ((yields_ofExcept
        buildCloseOrderCall_demo).bind happroved))))))

end Demo

/-! ### Any number of runs -/

section Runs

variable {ι : Type} [DecidableEq ι]

abbrev AttemptPool (ι : Type) : Type :=
  Pool paperSig PaperError PaperReceiptBundle AttemptWorld (Option String) ι

def isCallOf (name : String) (call : String × Json) : Bool :=
  decide ((attemptKey call.1 call.2).map markerName = some name)

def AttemptWorld.spent (s : AttemptWorld) (name : String) : Nat := s.calls.countP (isCallOf name)

/-- Every claim is won once, held by one run, and used once. -/
structure Once (p : AttemptPool ι) : Prop where
  marked : ∀ name, p.store.spent name ≠ 0 → p.store.markers name = true
  heldMarked : ∀ i key, p.seen i = some key → p.store.markers (markerName key) = true
  unspent : ∀ i key, p.seen i = some key → p.store.spent (markerName key) = 0
  alone : ∀ i j key key', p.seen i = some key → p.seen j = some key' →
    markerName key = markerName key' → i = j
  once : ∀ name, p.store.spent name ≤ 1

variable {p p' : AttemptPool ι} {i : ι} {op : PaperOp}

omit [DecidableEq ι] in
/-- Nobody gains a claim, and no call is made. -/
theorem Once.keep (h : Once p) {s : AttemptWorld} {seen : ι → Option String}
    {thread : ι → PaperProg PaperReceiptBundle}
    (hcalls : ∀ name, s.spent name = p.store.spent name)
    (hmarkers : ∀ name, p.store.markers name = true → s.markers name = true)
    (hseen : ∀ j key, seen j = some key → p.seen j = some key) : Once ⟨s, thread, seen⟩ where
  marked name hname := hmarkers name (h.marked name (hcalls name ▸ hname))
  heldMarked j key hj := hmarkers _ (h.heldMarked j key (hseen j key hj))
  unspent j key hj := (hcalls _).trans (h.unspent j key (hseen j key hj))
  alone j j' key key' hj hj' := h.alone j j' key key' (hseen j key hj) (hseen j' key' hj')
  once name := (hcalls name).trans_le (h.once name)

theorem spent_append (s : AttemptWorld) (name tool : String) (arguments : Json) :
    AttemptWorld.spent { s with calls := s.calls ++ [(tool, arguments)] } name =
      s.spent name + if (attemptKey tool arguments).map markerName = some name then 1 else 0 := by
  rw [AttemptWorld.spent, List.countP_append, List.countP_singleton, AttemptWorld.spent]
  simp only [isCallOf, decide_eq_true_eq]

theorem mark_markers (s : AttemptWorld) (identity name : String) :
    (s.mark identity).markers name = if name = markerName identity then true else s.markers name := by
  rw [AttemptWorld.mark]
  exact Function.update_apply _ _ _ _

theorem Once.won (h : Once p) {identity : String} {thread : ι → PaperProg PaperReceiptBundle}
    (hfree : p.store.markers (markerName identity) = false) :
    Once ⟨p.store.mark identity, thread, Function.update p.seen i (some identity)⟩ := by
  have hunspent : p.store.spent (markerName identity) = 0 := by
    by_contra hspent
    rw [h.marked _ hspent] at hfree
    cases hfree
  have hothers : ∀ j key, j ≠ i → Function.update p.seen i (some identity) j = some key →
      p.seen j = some key ∧ markerName key ≠ markerName identity := by
    intro j key hj hkey
    rw [Function.update_of_ne hj] at hkey
    refine ⟨hkey, fun hname => ?_⟩
    rw [← hname, h.heldMarked j key hkey] at hfree
    cases hfree
  have hself : ∀ key, Function.update p.seen i (some identity) i = some key → key = identity := by
    intro key hkey
    rw [Function.update_self] at hkey
    exact (Option.some.inj hkey).symm
  have hmarkers : ∀ name, p.store.markers name = true →
      (p.store.mark identity).markers name = true := by
    intro name hname
    rw [mark_markers, hname, ite_self]
  constructor
  case marked => exact fun name hname => hmarkers name (h.marked name hname)
  case heldMarked =>
    intro j key hkey
    by_cases hj : j = i
    · subst hj
      rw [hself key hkey, mark_markers, if_pos rfl]
    · exact hmarkers _ (h.heldMarked j key (hothers j key hj hkey).1)
  case unspent =>
    intro j key hkey
    by_cases hj : j = i
    · subst hj
      rw [hself key hkey]
      exact hunspent
    · exact h.unspent j key (hothers j key hj hkey).1
  case alone =>
    intro j j' key key' hkey hkey' hname
    by_cases hj : j = i
    · by_cases hj' : j' = i
      · rw [hj, hj']
      · subst hj
        rw [hself key hkey] at hname
        exact absurd hname.symm (hothers j' key' hj' hkey').2
    · by_cases hj' : j' = i
      · subst hj'
        rw [hself key' hkey'] at hname
        exact absurd hname (hothers j key hj hkey).2
      · exact h.alone j j' key key' (hothers j key hj hkey).1 (hothers j' key' hj' hkey').1 hname
  case once => exact h.once

theorem Once.used (h : Once p) {tool key : String} {arguments : Json}
    {thread : ι → PaperProg PaperReceiptBundle} (hkey : attemptKey tool arguments = some key)
    (hheld : p.seen i = some key) :
    Once ⟨{ p.store with calls := p.store.calls ++ [(tool, arguments)] }, thread,
      Function.update p.seen i none⟩ := by
  have hspent : ∀ name, AttemptWorld.spent
      { p.store with calls := p.store.calls ++ [(tool, arguments)] } name =
        p.store.spent name + if markerName key = name then 1 else 0 := by
    intro name
    rw [spent_append, hkey, Option.map_some]
    simp only [Option.some.injEq]
  have hothers : ∀ j key', Function.update p.seen i none j = some key' →
      p.seen j = some key' ∧ markerName key ≠ markerName key' := by
    intro j key' hj
    by_cases hji : j = i
    · subst hji
      rw [Function.update_self] at hj
      cases hj
    · rw [Function.update_of_ne hji] at hj
      exact ⟨hj, fun hname => hji (h.alone i j key key' hheld hj hname).symm⟩
  constructor
  case marked =>
    intro name hname
    rw [hspent] at hname
    by_cases heq : markerName key = name
    · rw [← heq]
      exact h.heldMarked i key hheld
    · rw [if_neg heq, Nat.add_zero] at hname
      exact h.marked name hname
  case heldMarked => exact fun j key' hj => h.heldMarked j key' (hothers j key' hj).1
  case unspent =>
    intro j key' hj
    rw [hspent, if_neg (hothers j key' hj).2, Nat.add_zero]
    exact h.unspent j key' (hothers j key' hj).1
  case alone =>
    exact fun j j' key' key'' hj hj' =>
      h.alone j j' key' key'' (hothers j key' hj).1 (hothers j' key'' hj').1
  case once =>
    intro name
    rw [hspent]
    by_cases heq : markerName key = name
    · rw [if_pos heq, ← heq, h.unspent i key hheld]
    · rw [if_neg heq]
      exact h.once name

/-- Every step of an obedient run keeps the claims used once. -/
theorem Once.step (h : Once p) (hobeys : p.Obeys attemptMonitor)
    (hstep : Pool.Step attemptMonitor AttemptWorld.Answers p i op p') : Once p' := by
  have hok := hobeys.ok hstep
  cases hstep with
  | @call k r s hthread hstore =>
    have hsame : ∀ j key, Function.update p.seen i (p.seen i) j = some key → p.seen j = some key := by
      rw [Function.update_eq_self]
      exact fun j key hj => hj
    have hgrow : ∀ identity name, p.store.markers name = true →
        (p.store.mark identity).markers name = true := by
      intro identity name hname
      rw [mark_markers, hname, ite_self]
    cases hstore with
    | clock => exact h.keep (fun _ => rfl) (fun _ => id) hsame
    | called _ tool arguments answer =>
      cases hkey : attemptKey tool arguments with
      | none =>
        have hseen : attemptMonitor.next (p.seen i) (.callTool tool arguments) answer = p.seen i := by
          show (if (attemptKey tool arguments).isSome then none else p.seen i) = p.seen i
          rw [hkey]
          rfl
        refine h.keep (fun name => ?_) (fun _ => id) ?_
        · rw [spent_append, hkey]
          rfl
        · rw [hseen]
          exact hsame
      | some key =>
        have hseen : attemptMonitor.next (p.seen i) (.callTool tool arguments) answer = none := by
          show (if (attemptKey tool arguments).isSome then none else p.seen i) = none
          rw [hkey]
          rfl
        have hused := @Once.used ι _ p i h tool key arguments (Function.update p.thread i (k answer))
          hkey (hok key hkey)
        rw [← hseen] at hused
        exact hused
    | won _ identity hfree => exact h.won hfree
    | lost => exact h.keep (fun _ => rfl) (fun _ => id) hsame
    | refused => exact h.keep (fun _ => rfl) (fun _ => id) hsame
    | failed => exact h.keep (fun _ => rfl) (fun _ => id) hsame
    | failedAfter _ identity => exact h.keep (fun _ => rfl) (hgrow identity) hsame

def AttemptPool.initial (iso : IsoReader) (requests : ι → PaperRequest) (markers : String → Bool) :
    AttemptPool ι := ⟨⟨markers, []⟩, fun i => (requests i).run iso, fun _ => none⟩

def AttemptWorld.submissions (s : AttemptWorld) (clientOrderId : String) : Nat :=
  s.calls.countP fun call =>
    call.1 == openTool && (call.2.get "client_order_id").isText clientOrderId

def AttemptWorld.cancels (s : AttemptWorld) (orderId : String) : Nat :=
  s.calls.countP fun call => call.1 == cancelTool && (call.2.get "order_id").isText orderId

theorem str_of_isText {v : Json} {text : String} (h : v.isText text = true) : v = .str text := by
  cases v with
  | str s => exact congrArg Json.str (beq_iff_eq.mp h)
  | _ => cases h

/-- Over any interleaving of runs that share one attempt store, each stopped anywhere, an order is
submitted and cancelled at most once. -/
theorem calls_le_one (iso : IsoReader) (requests : ι → PaperRequest) (markers : String → Bool)
    (p : AttemptPool ι) (h : Pool.Reach attemptMonitor AttemptWorld.Answers (fun _ _ _ => True)
      (AttemptPool.initial iso requests markers) p) :
    (∀ clientOrderId, p.store.submissions clientOrderId ≤ 1) ∧
      ∀ orderId, p.store.cancels orderId ≤ 1 := by
  have hobeys : (AttemptPool.initial iso requests markers).Obeys attemptMonitor :=
    fun i => safe_runPaperDemo iso _ _ _ _
  have hinit : Once (AttemptPool.initial iso requests markers) := by
    constructor
    case marked => exact fun name hname => absurd rfl hname
    case once => exact fun name => Nat.zero_le 1
    all_goals
      intros
      contradiction
  have honce : Once p := h.inv hobeys hinit fun hp hq hstep _ => hp.step hq hstep
  constructor
  · intro clientOrderId
    refine le_trans (List.countP_mono_left fun call _ hcall => ?_)
      (honce.once (markerName clientOrderId))
    rw [Bool.and_eq_true, beq_iff_eq] at hcall
    rw [isCallOf, attemptKey, if_pos hcall.1, str_of_isText hcall.2]
    exact decide_eq_true rfl
  · intro orderId
    refine le_trans (List.countP_mono_left fun call _ hcall => ?_)
      (honce.once (markerName ("cancel:" ++ orderId)))
    rw [Bool.and_eq_true, beq_iff_eq] at hcall
    rw [isCallOf, attemptKey, hcall.1, if_neg (by decide), if_pos rfl, str_of_isText hcall.2]
    exact decide_eq_true rfl

/-- Two runs of one request, one after the other. -/
theorem calls_le_one_demo : ∃ p : AttemptPool Bool,
    (∀ i, p.thread i = .done (demoBundle (.utc 1150))) ∧
      (∀ clientOrderId, p.store.submissions clientOrderId ≤ 1) ∧
        ∀ orderId, p.store.cancels orderId ≤ 1 := by
  have hcloses : ClosesAt (.utc 1150) := ⟨by decide, rfl, rfl, by decide⟩
  let p₀ := AttemptPool.initial IsoReader.plain (fun _ : Bool => demoRequest) fun _ => false
  obtain ⟨s₁, hs₁⟩ := yields_demo hcloses p₀.store
  have hinit : Pool.Reach attemptMonitor (fun op s r s' => demoAnswer (.utc 1150) op s = (r, s'))
      (fun _ _ _ => True) p₀ p₀ := .init
  have htrue : p₀.thread true = demoRequest.run IsoReader.plain := rfl
  rw [← htrue] at hs₁
  obtain ⟨p₁, hreach₁, hstore₁, hthread₁⟩ := hinit.run hs₁
  have hfalse : p₁.thread false = demoRequest.run IsoReader.plain := by
    rw [hthread₁, Function.update_of_ne (by decide)]
    rfl
  obtain ⟨s₂, hs₂⟩ := yields_demo hcloses p₁.store
  rw [← hfalse] at hs₂
  obtain ⟨p₂, hreach₂, hstore₂, hthread₂⟩ := hreach₁.run hs₂
  refine ⟨p₂, fun i => ?_, calls_le_one IsoReader.plain _ _ p₂ (hreach₂.mono ?_)⟩
  · rw [hthread₂, hthread₁]
    cases i with
    | false => exact Function.update_self _ _ _
    | true => rw [Function.update_of_ne (by decide), Function.update_self]
  · rintro op s r s' hanswer
    have hanswers := answers_demo (.utc 1150) op s
    rw [hanswer] at hanswers
    exact hanswers

end Runs


end EsscherMarket.PaperDemo
