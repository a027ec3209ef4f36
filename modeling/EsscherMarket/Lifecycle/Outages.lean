import EsscherMarket.Lib.DecimalSignals
import EsscherMarket.Lifecycle.WireTruth

/-!
# What escapes the adapter

The worker translates a `BrokerOutage`, and passes on everything else.  `_broker_identity` raises
`PaperLifecycleManualRequired` for a filled quantity that it cannot read, and no method of the
adapter catches it.
-/

namespace EsscherMarket.Lifecycle

open Lib Execution Risk Txn

namespace LifecycleMcpPaperBroker

variable {η : Type} (host : HostMcp η)

/-! ### The rest of the adapter -/

def cancelTool : String := "cancel_order_by_id"

/-- The response of a cancellation: everything but an object with fields is an acknowledgement. -/
def checkCancellation (orderId : String) (request : BrokerOrderRequest) :
    Json → BrokerM η Unit
  | .obj (first :: rest) => do
    let identity ← orInvalid "host MCP cancellation acknowledgement was invalid"
      (brokerIdentity "lifecycle cancellation acknowledgement" (.obj (first :: rest)))
    raiseIf (identity.orderId ≠ orderId ∨ identity.clientOrderId ≠ request.clientOrderId)
      (.outage "host MCP cancellation identity did not match durable request")
  | _ => pure ()

def cancelOrder (orderId : String) : BrokerM η BrokerOrderAck := do
  let request ← requestForOrder orderId
  let answer ← callTool host cancelTool (.obj [("order_id", .str orderId)])
  match answer with
  | .ambiguous _ => do
    let truth ← readOrder host orderId
    return ⟨truth.orderId, truth.clientOrderId, truth.observedAt⟩
  | .hostError message =>
    lift (.error (.outage ("host MCP cancellation is unavailable: " ++ message)))
  | .exception => lift (.error (.outage "host MCP cancellation failed"))
  | .response response => do
    checkCancellation orderId request response
    let t ← observedAt host
    return ⟨orderId, request.clientOrderId, t⟩

/-- `_submit` with what `_decimal_text` raises: no caller catches a `decimal.Overflow`. -/
def submitEncoded (phase : IntentPhase) (r : BrokerOrderRequest) : BrokerM η BrokerOrderAck := do
  raiseIf (r.phase = phase ∧
      (buildLifecycleOrderCall r.clientOrderId r.limitPrice r.legs).toOption.isSome ∧
      r.limitPrice.bound = none)
    (.other "decimal.Overflow")
  submit host phase r

/-! ### Calls that end well -/

/-- The call returns, or raises an outage. -/
def Handled {α : Type} (x : BrokerM η α) (b : LifecycleMcpPaperBrokerState η) : Prop :=
  ∀ e b', x b = .error e b' → ∃ message, e = .outage message

def OutageOnly {α : Type} (x : Except BrokerError α) : Prop :=
  ∀ e, x = .error e → ∃ message, e = .outage message

section OutageOnly

variable {α β : Type} {message : String}

theorem outageOnly_ok {a : α} : OutageOnly (.ok a) := by
  intro e h
  cases h

theorem outageOnly_outage : OutageOnly (.error (.outage message) : Except BrokerError α) := by
  intro e h
  exact ⟨message, (Except.error.inj h).symm⟩

theorem outageOnly_throwIf {c : Prop} [Decidable c] : OutageOnly (throwIf c (.outage message)) := by
  by_cases h : c
  · simpa [throwIf, h] using outageOnly_outage
  · simpa [throwIf, h] using outageOnly_ok

theorem OutageOnly.bind {x : Except BrokerError α} {f : α → Except BrokerError β}
    (hx : OutageOnly x) (hf : ∀ a, OutageOnly (f a)) : OutageOnly (x >>= f) := by
  cases x with
  | ok a => exact hf a
  | error e =>
    intro e' h
    obtain rfl := Except.error.inj h
    exact hx e rfl

end OutageOnly

section Rules

variable {α β : Type} {host} {b : LifecycleMcpPaperBrokerState η}

theorem handled_pure {a : α} : Handled (pure a) b := by
  intro e b' h
  cases h

theorem handled_of_ok {x : BrokerM η α} {a : α} {b' : LifecycleMcpPaperBrokerState η}
    (h : x b = .ok a b') : Handled x b := by
  intro e b₁ he
  rw [h] at he
  cases he

/-- A sequence is handled if its first call is, and the rest is wherever that returned. -/
theorem handled_bind {x : BrokerM η α} {f : α → BrokerM η β} :
    Handled (x >>= f) b ↔ Handled x b ∧ ∀ a b', x b = .ok a b' → Handled (f a) b' := by
  have hbind : (x >>= f) b = EStateM.bind x f b := rfl
  unfold Handled
  rw [hbind]
  unfold EStateM.bind
  cases h : x b with
  | ok a b₁ => simp
  | error e b₁ => simp

theorem handled_lift {y : Except BrokerError α} :
    Handled (lift y) b ↔ OutageOnly y := by
  unfold Handled lift OutageOnly
  cases y <;> simp

theorem handled_raiseIf {c : Prop} [Decidable c] {message : String} :
    Handled (raiseIf c (.outage message)) b := by
  by_cases h : c <;> simp [Handled, raiseIf, h]

theorem handled_orRaise {o : Option α} {message : String} :
    Handled (orRaise o (.outage message)) b := by
  cases o <;> simp [Handled, orRaise]

theorem handled_lift_bind {y : Except BrokerError α} {f : α → BrokerM η β} :
    Handled (lift y >>= f) b ↔ OutageOnly y ∧ ∀ a, y = .ok a → Handled (f a) b := by
  rw [handled_bind, handled_lift]
  refine and_congr_right fun _ => ⟨fun h a ha => h a b (lift_eq_ok.mpr ⟨ha, rfl⟩), ?_⟩
  intro h a b' hlift
  obtain ⟨ha, rfl⟩ := lift_eq_ok.mp hlift
  exact h a ha

theorem handled_raiseIf_bind {c : Prop} [Decidable c] {message : String}
    {k : Unit → BrokerM η β} :
    Handled (raiseIf c (.outage message) >>= k) b ↔ (¬ c → Handled (k ()) b) := by
  rw [handled_bind]
  constructor
  · intro h hc
    exact h.2 () b (raiseIf_eq_ok.mpr ⟨hc, rfl⟩)
  · intro h
    refine ⟨handled_raiseIf, ?_⟩
    intro u b' hraise
    obtain ⟨hc, rfl⟩ := raiseIf_eq_ok.mp hraise
    exact h hc

/-- A step that raises another exception. -/
theorem handled_raiseOther_bind {c : Prop} [Decidable c] {message : String}
    {k : Unit → BrokerM η β} :
    Handled (raiseIf c (.other message) >>= k) b ↔ ¬ c ∧ Handled (k ()) b := by
  by_cases h : c
  · have herror : (raiseIf c (.other message) >>= k) b = .error (.other message) b := by
      show EStateM.bind _ _ b = _
      simp [EStateM.bind, raiseIf, h]
    refine iff_of_false (fun hhandled => ?_) fun hnot => hnot.1 h
    obtain ⟨outage, hother⟩ := hhandled _ _ herror
    cases hother
  · have hrest : (raiseIf c (.other message) >>= k) b = k () b := by
      show EStateM.bind _ _ b = _
      simp [EStateM.bind, raiseIf, h]
    rw [Handled, hrest]
    exact ⟨fun hhandled => ⟨h, hhandled⟩, fun hhandled => hhandled.2⟩

theorem handled_requestForOrder_bind {orderId : String} {f : BrokerOrderRequest → BrokerM η β} :
    Handled (requestForOrder orderId >>= f) b ↔
      ∀ r, b.requestsByOrderId orderId = some r → Handled (f r) b := by
  rw [handled_bind]
  constructor
  · intro h r hr
    exact h.2 r b (select_bind_eq_ok.mpr (orRaise_eq_ok.mpr ⟨hr, rfl⟩))
  · intro h
    refine ⟨handled_bind.mpr ⟨handled_of_ok rfl, fun _ _ _ => handled_orRaise⟩, ?_⟩
    intro r b' hrequest
    obtain ⟨hr, rfl⟩ := requestForOrder_ok hrequest
    exact h r hr

theorem handled_callTool_bind {tool : String} {arguments : Json} {f : ToolAnswer → BrokerM η β} :
    Handled (callTool host tool arguments >>= f) b ↔
      Handled (f (host.callTool tool arguments b.session).1)
        { b with session := (host.callTool tool arguments b.session).2 } := by
  rw [handled_bind]
  constructor
  · intro h
    exact h.2 _ _ rfl
  · intro h
    refine ⟨handled_of_ok rfl, ?_⟩
    intro answer b' hcall
    cases hcall
    exact h

theorem handled_outage {message : String} :
    Handled (lift (.error (.outage message)) : BrokerM η α) b := by
  rw [handled_lift]
  intro e h
  exact ⟨message, (Except.error.inj h).symm⟩

theorem handled_call {tool : String} {arguments : Json} : Handled (call host tool arguments) b := by
  refine handled_bind.mpr ⟨handled_of_ok rfl, ?_⟩
  intro answer b₁ _
  rw [handled_lift]
  intro e h
  cases answer <;> cases h <;> exact ⟨_, rfl⟩

theorem handled_observedAt : Handled (observedAt host) b := by
  refine handled_bind.mpr ⟨handled_of_ok rfl, ?_⟩
  intro observed b₁ _
  exact handled_bind.mpr ⟨handled_raiseIf, fun _ _ _ => handled_pure⟩

/-- A call that ends with a reading of the clock. -/
theorem handled_stamped {f : DateTime → α} :
    Handled (do let t ← observedAt host; return f t) b :=
  handled_bind.mpr ⟨handled_observedAt, fun _ _ _ => handled_pure⟩

theorem handled_acknowledge {r : BrokerOrderRequest} {identity : ReportedIdentity} :
    Handled (acknowledge host r identity) b :=
  handled_bind.mpr ⟨handled_of_ok rfl, fun _ _ _ => handled_stamped⟩

end Rules

/-! ### Responses with a filled quantity that cannot be read -/

/-- A number or a text that is read as a finite decimal that is not negative. -/
def readableQuantity (raw : Json) : Bool :=
  match raw with
  | .null | .bool _ | .arr _ | .obj _ => false
  | raw =>
    match decimalOf raw with
    | some d => decide (d.isFinite = true ∧ 0 ≤ d.toRat)
    | none => false

def namesText (v : Json) (name : String) : Bool :=
  match v.field? name with
  | some (.str s) => s != ""
  | _ => false

/-- An order that is named, with a filled quantity that cannot be read. -/
def unresolvable (v : Json) : Bool :=
  v.isObject && (v.field? "error").isNone && namesText v "id" && namesText v "client_order_id" &&
    namesText v "status" &&
    match v.field? "filled_qty" with
    | some raw => !readableQuantity raw
    | none => false

section Identity

variable {α β : Type} {v : Json} {phase name : String}

/-- It raises `PaperLifecycleManualRequired`. -/
def Manual (x : Except IdentityError α) : Prop := ∃ message, x = .error (.manualRequired message)

theorem not_manual_pure {a : α} : ¬ Manual (pure a) := by
  rintro ⟨message, h⟩
  cases h

theorem manual_bind {x : Except IdentityError α} {f : α → Except IdentityError β} :
    Manual (x >>= f) ↔ Manual x ∨ ∃ a, x = .ok a ∧ Manual (f a) := by
  cases x with
  | ok a => simp [Manual, Bind.bind, Except.bind]
  | error e => simp [Manual, Bind.bind, Except.bind]

theorem not_manual_mappingResponse : ¬ Manual (mappingResponse v) := by
  rintro ⟨message, h⟩
  unfold mappingResponse at h
  split at h <;> cases h

theorem mappingResponse_eq_ok {payload : Json} : mappingResponse v = .ok payload ↔
    (v.isObject = true ∧ (v.field? "error").isNone = true) ∧ payload = v := by
  unfold mappingResponse
  split
  · rename_i h
    rw [Except.ok.injEq]
    exact ⟨fun hv => ⟨h, hv.symm⟩, fun hv => hv.2.symm⟩
  · rename_i h
    constructor
    · intro herror
      cases herror
    · rintro ⟨hmap, -⟩
      exact absurd hmap h

theorem not_manual_identityText : ¬ Manual (identityText v name) := by
  rintro ⟨message, h⟩
  unfold identityText at h
  split at h
  · split at h <;> cases h
  · cases h

theorem namesText_iff : namesText v name = true ↔ ∃ s, identityText v name = .ok s := by
  unfold namesText identityText
  cases v.field? name with
  | none => simp
  | some value =>
    cases value with
    | str s => by_cases hs : s = "" <;> simp [hs]
    | _ => simp

/-- An invalid quantity is never reported as an invalid response. -/
theorem manual_reportedFilled : Manual (reportedFilled phase v) ↔
    ∃ raw, v.field? "filled_qty" = some raw ∧ readableQuantity raw = false := by
  unfold reportedFilled Manual
  cases v.field? "filled_qty" with
  | none => simp
  | some raw =>
    simp only [Option.some.injEq, exists_eq_left']
    cases raw with
    | null | bool _ | arr _ | obj _ => simp [readableQuantity]
    | int n =>
      cases hd : decimalOf (.int n) with
      | none => simp [readableQuantity, hd]
      | some d =>
        by_cases h : d.isFinite = true ∧ 0 ≤ d.toRat
        · simp [readableQuantity, hd, h]
        · simp only [readableQuantity, hd, h, if_false, decide_false, Except.error.injEq,
            IdentityError.manualRequired.injEq, exists_eq']
    | real literal =>
      cases hd : decimalOf (.real literal) with
      | none => simp [readableQuantity, hd]
      | some d =>
        by_cases h : d.isFinite = true ∧ 0 ≤ d.toRat
        · simp [readableQuantity, hd, h]
        · simp only [readableQuantity, hd, h, if_false, decide_false, Except.error.injEq,
            IdentityError.manualRequired.injEq, exists_eq']
    | str text =>
      cases hd : decimalOf (.str text) with
      | none => simp [readableQuantity, hd]
      | some d =>
        by_cases h : d.isFinite = true ∧ 0 ≤ d.toRat
        · simp [readableQuantity, hd, h]
        · simp only [readableQuantity, hd, h, if_false, decide_false, Except.error.injEq,
            IdentityError.manualRequired.injEq, exists_eq']

/-- The identity of an order raises another exception exactly for an order that is named, with a
quantity that cannot be read. -/
theorem manual_brokerIdentity : Manual (brokerIdentity phase v) ↔ unresolvable v = true := by
  have hquantity : (∃ raw, v.field? "filled_qty" = some raw ∧ readableQuantity raw = false) ↔
      (match v.field? "filled_qty" with
        | some raw => !readableQuantity raw
        | none => false) = true := by
    cases v.field? "filled_qty" <;> simp
  unfold brokerIdentity unresolvable
  simp only [manual_bind, not_manual_mappingResponse, not_manual_identityText, not_manual_pure,
    manual_reportedFilled, mappingResponse_eq_ok, false_or, and_false, exists_false, or_false,
    Bool.and_eq_true, namesText_iff, ← hquantity]
  constructor
  · rintro ⟨_, ⟨hmap, rfl⟩, id, hid, client, hclient, status, hstatus, hfilled⟩
    exact ⟨⟨⟨⟨hmap, id, hid⟩, client, hclient⟩, status, hstatus⟩, hfilled⟩
  · rintro ⟨⟨⟨⟨hmap, id, hid⟩, client, hclient⟩, status, hstatus⟩, hfilled⟩
    exact ⟨v, ⟨hmap, rfl⟩, id, hid, client, hclient, status, hstatus, hfilled⟩

theorem handled_orInvalid {detail : String} {b : LifecycleMcpPaperBrokerState η} :
    Handled (orInvalid detail (brokerIdentity phase v)) b ↔ unresolvable v = false := by
  rw [← Bool.not_eq_true, ← @manual_brokerIdentity v phase, orInvalid, handled_lift]
  cases brokerIdentity phase v with
  | ok identity => simp [Manual, OutageOnly, except_mapError_ok]
  | error e => cases e <;> simp [Manual, OutageOnly, except_mapError_error]

theorem handled_orInvalid_bind {detail : String} {b : LifecycleMcpPaperBrokerState η}
    {f : ReportedIdentity → BrokerM η α} :
    Handled (orInvalid detail (brokerIdentity phase v) >>= f) b ↔
      unresolvable v = false ∧
        ∀ identity, brokerIdentity phase v = .ok identity → Handled (f identity) b := by
  rw [handled_bind, handled_orInvalid]
  refine and_congr_right fun _ => ⟨fun h identity hok => h identity b ?_, ?_⟩
  · exact lift_eq_ok.mpr ⟨except_mapError_eq_ok.mpr hok, rfl⟩
  · intro h identity b' hlift
    obtain ⟨hok, rfl⟩ := lift_eq_ok.mp hlift
    exact h identity (except_mapError_eq_ok.mp hok)

/-- A response from which an identity is read, and the rest is handled. -/
theorem handled_identity {detail : String} {b : LifecycleMcpPaperBrokerState η}
    {f : ReportedIdentity → BrokerM η α} (hrest : ∀ identity b', Handled (f identity) b') :
    Handled (orInvalid detail (brokerIdentity phase v) >>= f) b ↔ unresolvable v = false := by
  rw [handled_orInvalid_bind]
  exact ⟨fun h => h.1, fun h => ⟨h, fun identity _ => hrest identity b⟩⟩

end Identity

/-! ### The methods -/

section Methods

variable {b : LifecycleMcpPaperBrokerState η}

def responseOf : ToolAnswer → Option Json
  | .response v => some v
  | _ => none

theorem handled_call_bind {α : Type} {tool : String} {arguments : Json} {f : Json → BrokerM η α} :
    Handled (call host tool arguments >>= f) b ↔
      ∀ v, responseOf (host.callTool tool arguments b.session).1 = some v →
        Handled (f v) { b with session := (host.callTool tool arguments b.session).2 } := by
  rw [handled_bind]
  constructor
  · intro h v hv
    refine h.2 v _ (bind_eq_ok.mpr ⟨_, _, rfl, lift_eq_ok.mpr ⟨?_, rfl⟩⟩)
    cases hanswer : (host.callTool tool arguments b.session).1 with
    | response w =>
      rw [hanswer] at hv
      exact congrArg Except.ok (Option.some.inj hv)
    | ambiguous _ | hostError _ | exception =>
      rw [hanswer] at hv
      cases hv
  · intro h
    refine ⟨handled_call, ?_⟩
    intro v b' hcall
    obtain ⟨hv, rfl⟩ := call_ok hcall
    exact h v (by rw [hv]; rfl)

/-- The response from which a submission takes the order: that of the order call, or that of the
readback where the order call timed out. -/
def submissionResponse (clientOrderId : String) (arguments : Json) (s : η) : Option Json :=
  match host.callTool openTool arguments s with
  | (.ambiguous _, s') =>
    responseOf (host.callTool readbackTool (.obj [("client_order_id", .str clientOrderId)]) s').1
  | (answer, _) => responseOf answer

theorem handled_readbackByClientId {r : BrokerOrderRequest} :
    Handled (readbackByClientId host r) b ↔
      ∀ v, responseOf (host.callTool readbackTool
        (.obj [("client_order_id", .str r.clientOrderId)]) b.session).1 = some v →
          unresolvable v = false := by
  unfold readbackByClientId
  rw [handled_call_bind]
  refine forall₂_congr fun v _ => handled_identity fun identity b' => ?_
  exact handled_raiseIf_bind.mpr fun _ => handled_acknowledge

theorem handled_submit {phase : IntentPhase} {r : BrokerOrderRequest} :
    Handled (submit host phase r) b ↔
      (r.phase = phase → ∀ arguments,
        buildLifecycleOrderCall r.clientOrderId r.limitPrice r.legs = .ok arguments →
          ∀ v, submissionResponse host r.clientOrderId arguments b.session = some v →
            unresolvable v = false) := by
  unfold submit
  rw [handled_raiseIf_bind, not_not]
  refine imp_congr_right fun _ => ?_
  rw [handled_lift_bind]
  have houtage : OutageOnly
      ((buildLifecycleOrderCall r.clientOrderId r.limitPrice r.legs).mapError fun message =>
        .outage ("lifecycle request cannot be encoded for MCP: " ++ message)) := by
    intro e he
    cases hbuild : buildLifecycleOrderCall r.clientOrderId r.limitPrice r.legs with
    | ok arguments =>
      rw [hbuild] at he
      cases he
    | error message =>
      rw [hbuild] at he
      exact ⟨_, (Except.error.inj he).symm⟩
  rw [and_iff_right houtage]
  refine forall_congr' fun arguments => ?_
  rw [except_mapError_eq_ok]
  refine imp_congr_right fun _ => ?_
  rw [handled_callTool_bind, submissionResponse]
  rcases hcall : host.callTool openTool arguments b.session with ⟨answer, s'⟩
  cases answer with
  | response v =>
    simp only [responseOf, Option.some.injEq, forall_eq']
    exact handled_identity fun identity b' => handled_raiseIf_bind.mpr fun _ => handled_acknowledge
  | ambiguous message => exact handled_readbackByClientId host
  | hostError message => simp [responseOf, handled_outage]
  | exception => simp [responseOf, handled_outage]

theorem handled_submitEncoded {phase : IntentPhase} {r : BrokerOrderRequest} :
    Handled (submitEncoded host phase r) b ↔
      (r.phase = phase → ∀ arguments,
        buildLifecycleOrderCall r.clientOrderId r.limitPrice r.legs = .ok arguments →
          |r.limitPrice.toRat| < Decimal.overflowLimit ∧
          ∀ v, submissionResponse host r.clientOrderId arguments b.session = some v →
            unresolvable v = false) := by
  unfold submitEncoded
  rw [handled_raiseOther_bind, handled_submit]
  have hrange : ∀ arguments,
      buildLifecycleOrderCall r.clientOrderId r.limitPrice r.legs = .ok arguments →
        (r.limitPrice.bound = none ↔ ¬ |r.limitPrice.toRat| < Decimal.overflowLimit) := by
    intro arguments h
    obtain ⟨_, -, h⟩ := except_bind_eq_ok.mp h
    obtain ⟨_, hfinite, -⟩ := except_bind_eq_ok.mp h
    rw [Decimal.bound_eq_none_iff (not_not.mp (throwIf_eq_ok.mp hfinite)), not_lt]
  constructor
  · rintro ⟨hno, hrest⟩ hphase arguments hbuild
    refine ⟨?_, hrest hphase arguments hbuild⟩
    by_contra hbeyond
    refine hno ⟨hphase, ?_, (hrange arguments hbuild).mpr hbeyond⟩
    rw [hbuild]
    rfl
  · intro h
    refine ⟨?_, fun hphase arguments hbuild => (h hphase arguments hbuild).2⟩
    rintro ⟨hphase, hsome, hnone⟩
    cases hbuild : buildLifecycleOrderCall r.clientOrderId r.limitPrice r.legs with
    | error message =>
      rw [hbuild] at hsome
      cases hsome
    | ok arguments =>
      exact (hrange arguments hbuild).mp hnone (h hphase arguments hbuild).1

theorem handled_readOrder {orderId : String} :
    Handled (readOrder host orderId) b ↔
      ((b.requestsByOrderId orderId).isSome →
        ∀ v, responseOf (host.callTool orderByIdTool (.obj [("order_id", .str orderId)])
          b.session).1 = some v → unresolvable v = false) := by
  unfold readOrder
  rw [handled_requestForOrder_bind]
  have hread : ∀ r : BrokerOrderRequest, Handled (do
      let response ← call host orderByIdTool (.obj [("order_id", .str orderId)])
      let identity ← orInvalid "host MCP order readback was invalid"
        (brokerIdentity "lifecycle order readback" response)
      raiseIf (identity.orderId ≠ orderId ∨ identity.clientOrderId ≠ r.clientOrderId)
        (.outage "host MCP order readback identity did not match durable request")
      let filledQty ← lift (filledQuantity "order" identity.filledQty)
      let t ← observedAt host
      return (⟨r.toOrderIdentity, orderId, identity.status, filledQty, t, r.limitPrice⟩ :
        BrokerOrderTruth)) b ↔
      ∀ v, responseOf (host.callTool orderByIdTool (.obj [("order_id", .str orderId)])
        b.session).1 = some v → unresolvable v = false := by
    intro r
    rw [handled_call_bind]
    refine forall₂_congr fun v _ => handled_identity fun identity b' => ?_
    refine handled_raiseIf_bind.mpr fun _ => handled_lift_bind.mpr ⟨?_, fun _ _ => handled_stamped⟩
    intro e he
    unfold filledQuantity at he
    split at he
    · split at he <;> cases he
      exact ⟨_, rfl⟩
    · cases he
      exact ⟨_, rfl⟩
  cases b.requestsByOrderId orderId with
  | none => simp
  | some r => simpa using hread r

theorem handled_checkCancellation_bind {orderId : String} {r : BrokerOrderRequest} {v : Json}
    {α : Type} {k : Unit → BrokerM η α} (hk : ∀ b', Handled (k ()) b') :
    Handled (checkCancellation orderId r v >>= k) b ↔ unresolvable v = false := by
  have hnamed : ∀ w : Json, w.field? "id" = none → unresolvable w = false := by
    intro w hw
    simp [unresolvable, namesText, hw]
  have hdone : Handled (pure () >>= k) b := handled_bind.mpr ⟨handled_pure, fun _ b' _ => hk b'⟩
  cases v with
  | obj fields =>
    cases fields with
    | nil => exact iff_of_true hdone (hnamed _ rfl)
    | cons first rest =>
      show Handled ((orInvalid _ _ >>= fun identity => raiseIf _ _) >>= k) b ↔ _
      rw [bind_assoc]
      exact handled_identity fun identity b' => handled_raiseIf_bind.mpr fun _ => hk b'
  | null | bool _ | int _ | real _ | str _ | arr _ => exact iff_of_true hdone (hnamed _ rfl)

/-- The response from which a cancellation takes the order: its own, or that of the readback where
it timed out. -/
def cancellationResponse (orderId : String) (s : η) : Option Json :=
  match host.callTool cancelTool (.obj [("order_id", .str orderId)]) s with
  | (.ambiguous _, s') =>
    responseOf (host.callTool orderByIdTool (.obj [("order_id", .str orderId)]) s').1
  | (answer, _) => responseOf answer

theorem handled_cancelOrder {orderId : String} :
    Handled (cancelOrder host orderId) b ↔
      ((b.requestsByOrderId orderId).isSome →
        ∀ v, cancellationResponse host orderId b.session = some v → unresolvable v = false) := by
  unfold cancelOrder
  rw [handled_requestForOrder_bind]
  cases hr : b.requestsByOrderId orderId with
  | none => simp
  | some r =>
    simp only [Option.some.injEq, forall_eq', Option.isSome_some, forall_true_left]
    rw [handled_callTool_bind, cancellationResponse]
    rcases hcall : host.callTool cancelTool (.obj [("order_id", .str orderId)]) b.session
      with ⟨answer, s'⟩
    cases answer with
    | response v =>
      simp only [responseOf, Option.some.injEq, forall_eq']
      exact handled_checkCancellation_bind fun b' => handled_stamped
    | ambiguous message =>
      show Handled (readOrder host orderId >>= fun truth => pure _) _ ↔ _
      rw [handled_bind, handled_readOrder]
      simp only [hr, Option.isSome_some, forall_true_left]
      exact and_iff_left fun _ _ _ => handled_pure
    | hostError message => simp [responseOf, handled_outage]
    | exception => simp [responseOf, handled_outage]

/-! The two reads of positions and of the account take no identity. -/

theorem outageOnly_nonBlankText {message : String} {v : Json} :
    OutageOnly (nonBlankText (.outage message) v) := by
  intro e h
  unfold nonBlankText at h
  split at h
  · split at h <;> cases h
    exact ⟨_, rfl⟩
  · cases h
    exact ⟨_, rfl⟩

theorem outageOnly_positionFields {index : Nat} {raw : Json} :
    OutageOnly (positionFields index raw) := by
  unfold positionFields
  refine outageOnly_throwIf.bind fun _ => outageOnly_nonBlankText.bind fun symbol => ?_
  cases decimalOf (raw.get "qty") with
  | none => exact outageOnly_outage
  | some qty =>
    by_cases h : qty.isFinite
    · simp only [h, if_true]
      exact outageOnly_ok
    · simp only [h]
      exact outageOnly_outage

theorem handled_positionRows {index : Nat} {rows : List Json} :
    Handled (positionRows host index rows) b := by
  induction rows generalizing index b with
  | nil => exact handled_pure
  | cons raw rest ih =>
    refine handled_lift_bind.mpr ⟨outageOnly_positionFields, ?_⟩
    rintro ⟨symbol, qty⟩ -
    refine handled_bind.mpr ⟨handled_observedAt, fun t b' _ => ?_⟩
    exact handled_bind.mpr ⟨ih, fun _ _ _ => handled_pure⟩

theorem handled_readPositions : Handled (readPositions host) b := by
  unfold readPositions
  refine handled_bind.mpr ⟨handled_of_ok rfl, ?_⟩
  intro latest b₁ _
  refine handled_bind.mpr ⟨handled_orRaise, fun orderId b₂ _ => ?_⟩
  refine handled_requestForOrder_bind.mpr fun request _ => ?_
  refine (handled_call_bind host).mpr fun v _ => ?_
  refine handled_lift_bind.mpr ⟨?_, fun items _ => ?_⟩
  · intro e he
    split at he <;> cases he
    exact ⟨_, rfl⟩
  · exact handled_bind.mpr ⟨handled_positionRows host, fun _ _ _ => handled_stamped⟩

theorem outageOnly_accountFields {v : Json} : OutageOnly (accountFields v) := by
  unfold accountFields
  refine OutageOnly.bind ?_ fun payload => ?_
  · intro e he
    cases hv : mappingResponse v with
    | ok payload =>
      rw [hv] at he
      cases he
    | error e' =>
      rw [hv] at he
      exact ⟨_, (Except.error.inj he).symm⟩
  · cases decimalOf (payload.get "equity") with
    | none => exact outageOnly_outage
    | some equity =>
      cases decimalOf (payload.get "buying_power") with
      | none => exact outageOnly_outage
      | some buyingPower =>
        refine outageOnly_nonBlankText.bind fun accountId => ?_
        exact outageOnly_throwIf.bind fun _ => outageOnly_ok

theorem handled_readAccount : Handled (readAccount host) b := by
  unfold readAccount
  refine (handled_call_bind host).mpr fun v _ => ?_
  refine handled_lift_bind.mpr ⟨outageOnly_accountFields, ?_⟩
  rintro ⟨accountId, equity, buyingPower⟩ -
  exact handled_stamped

end Methods

/-- A session that acknowledges every order, and has not counted what was filled. -/
def uncountedHost : HostMcp Unit where
  callTool _ arguments s :=
    (.response (.obj [("id", .str "order-1"),
      ("client_order_id", arguments.get "client_order_id"), ("status", .str "accepted"),
      ("filled_qty", .null)]), s)
  clock s := (.utc 1200, s)

end LifecycleMcpPaperBroker

end EsscherMarket.Lifecycle
