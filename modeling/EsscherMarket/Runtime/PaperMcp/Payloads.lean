import EsscherMarket.Risk.Kernel.ProgramV2
import EsscherMarket.Runtime.Arm

/-!
# Payloads of the PAPER session

How `runtime/paper_mcp_composition.py` and `sourcedata/alpaca_option_events.py` read the JSON that
the read-only door of the MCP session answers: accounts, positions and orders, and the plan factory
that binds an account to the armed session.
-/

namespace EsscherMarket.Runtime

open Lib Risk

/-! ### Errors -/

inductive PaperMcpCompositionReason where
  | doorInvalid
  | routeNotApproved
  | sessionNotPrepared
  | nonPaperAccount
  | accountFingerprintMismatch
  | brokerTruthUnavailable
  deriving DecidableEq

def PaperMcpCompositionReason.value : PaperMcpCompositionReason → String
  | doorInvalid => "DOOR_INVALID"
  | routeNotApproved => "ROUTE_NOT_APPROVED"
  | sessionNotPrepared => "SESSION_NOT_PREPARED"
  | nonPaperAccount => "NON_PAPER_ACCOUNT"
  | accountFingerprintMismatch => "ACCOUNT_FINGERPRINT_MISMATCH"
  | brokerTruthUnavailable => "BROKER_TRUTH_UNAVAILABLE"

structure PaperMcpCompositionRejected where
  reason : PaperMcpCompositionReason
  detail : String
  deriving DecidableEq

/-- `str(error)`. -/
def PaperMcpCompositionRejected.text (e : PaperMcpCompositionRejected) : String :=
  e.reason.value ++ ": " ++ e.detail

/-- What a read of the broker raises: a rejection of the composition, a rejection of a snapshot's
own check, or a `HostMcpError` of the session. -/
inductive SourceError where
  | composition (e : PaperMcpCompositionRejected)
  | risk (e : RiskRejected)
  | hostMcp (message : String)

abbrev SourceRead (α : Type) : Type := Except SourceError α

def unavailable {α : Type} (detail : String) : SourceRead α :=
  .error (.composition ⟨.brokerTruthUnavailable, detail⟩)

/-- An answer of the read-only door: an error of the session, or a response, `none` where it has no
canonical JSON. -/
abbrev DoorAnswer : Type := Except String (Option Json)

def readonlyCanonical (tool : String) : DoorAnswer → SourceRead Json
  | .error message => .error (.hostMcp message)
  | .ok (some (.str _)) => unavailable s!"read-only {tool} response was not structured JSON"
  | .ok (some v) => .ok v
  | .ok none => unavailable s!"read-only {tool} response was not canonicalizable"

/-! ### Accounts -/

def accountPayload (v : Json) : SourceRead Json :=
  if v.isObject = false then unavailable "account payload must be an object"
  else if isText (v.field? "account_class") "PAPER" = false then
    .error (.composition ⟨.nonPaperAccount,
      "account payload does not attest the PAPER account class"⟩)
  else if isText (v.field? "status") "ACTIVE" = false ∨ (v.get "trading_blocked").truthy = true ∨
      (v.get "account_blocked").truthy = true then
    unavailable "account is not an unblocked ACTIVE PAPER account"
  else .ok v

def accountFingerprintFromPayload (v : Json) : SourceRead String := do
  let payload ← accountPayload v
  return payload.sha256

/-- The text of `payload.get("id")`. -/
def accountId (v : Json) : Option String :=
  match v.field? "id" with
  | some (.str s) => some s
  | _ => none

structure RouteDigests where
  routeSha256 : String
  modelConfigSha256 : String
  deriving DecidableEq

/-- What the plan factory takes from the validated authority. -/
structure HostAuthority where
  sessionArmSha256 : String
  releaseSha256 : String
  runtimeBuildArtifactSha256 : String
  accountFingerprintSha256 : String
  route : RouteDigests

/-- What the plan factory takes from the doors and the packages of the release. -/
structure PlanDoors where
  approvedRoute : RouteDigests
  packagedRoute : RouteDigests
  accountId : String
  capabilitySha256 : String
  hostOperationsProtocolSha256 : String
  latencyProfileSha256 : Option String
  mutationPermitted : Bool

inductive PlanError where
  | host (reason : String)
  | composition (e : PaperMcpCompositionRejected)
  deriving DecidableEq

def productionBinding (d : PlanDoors) (a : HostAuthority) (latency fingerprint : String) : Json :=
  .obj [
    ("schema", .str "esscher.paper_mcp_production_binding"),
    ("schema_version", .int 1),
    ("session_arm_sha256", .str a.sessionArmSha256),
    ("release_sha256", .str a.releaseSha256),
    ("runtime_build_artifact_sha256", .str a.runtimeBuildArtifactSha256),
    ("capability_sha256", .str d.capabilitySha256),
    ("host_operations_protocol_sha256", .str d.hostOperationsProtocolSha256),
    ("route_sha256", .str d.approvedRoute.routeSha256),
    ("model_config_sha256", .str d.approvedRoute.modelConfigSha256),
    ("latency_profile_sha256", .str latency),
    ("account_fingerprint_sha256", .str fingerprint),
    ("mutation_permitted", .bool d.mutationPermitted)]

def planAccount (answer : DoorAnswer) : SourceRead (Json × String) := do
  let raw ← readonlyCanonical "get_account_info" answer
  let payload ← accountPayload raw
  let fingerprint ← accountFingerprintFromPayload raw
  return (payload, fingerprint)

/-- `PaperMcpPlanFactory.__call__`, with the account that the door answers: the digest that binds
the plan. -/
def planFactory (d : PlanDoors) (a : HostAuthority) (answer : DoorAnswer) :
    Except PlanError String :=
  if d.approvedRoute ≠ d.packagedRoute ∨ a.route ≠ d.packagedRoute then
    .error (.host "ROUTE_NOT_APPROVED")
  else match planAccount answer with
    | .error _ => .error (.host "ACCOUNT_TRUTH_UNAVAILABLE")
    | .ok (payload, fingerprint) =>
      if fingerprint ≠ a.accountFingerprintSha256 then
        .error (.host "ACCOUNT_FINGERPRINT_MISMATCH")
      else if (accountId payload).getD "" = "" then
        .error (.composition ⟨.brokerTruthUnavailable, "account payload lacks an account identity"⟩)
      else if accountId payload ≠ some d.accountId then
        .error (.host "ACCOUNT_IDENTITY_MISMATCH")
      else match d.latencyProfileSha256 with
        | none => .error (.host "LATENCY_PROFILE_STALE")
        | some latency => .ok (productionBinding d a latency fingerprint).sha256

/-- The plans of a scheduled session: the factory is called again at every point of the timeline,
with the account as it is then. -/
def sessionPlans (d : PlanDoors) (a : HostAuthority) (answers : List DoorAnswer) :
    List (Except PlanError String) :=
  answers.map (planFactory d a)

/-- Two payloads carry the same fields with the same values, in any order. -/
def SameFields : Json → Json → Prop
  | .obj fields, .obj fields' => fields.Perm fields' ∧ (fields.map Prod.fst).Nodup
  | _, _ => False

theorem SameFields.sha256_eq {v v' : Json} (h : SameFields v v') : v.sha256 = v'.sha256 := by
  cases v with
  | obj fields =>
    cases v' with
    | obj fields' => rw [Json.sha256, Json.sha256, Json.canonicalBytes_obj_perm h.1 h.2]
    | _ => exact h.elim
  | _ => exact h.elim

theorem accountPayload_ok {v payload : Json} (h : accountPayload v = .ok payload) :
    payload = v := by
  unfold accountPayload at h
  split at h
  · cases h
  split at h
  · cases h
  split at h
  · cases h
  · exact (Except.ok.inj h).symm

theorem accountFingerprintFromPayload_eq_ok {v : Json} {fingerprint : String} :
    accountFingerprintFromPayload v = .ok fingerprint ↔
      accountPayload v = .ok v ∧ fingerprint = v.sha256 := by
  rw [accountFingerprintFromPayload, except_bind_eq_ok]
  constructor
  · rintro ⟨payload, hpayload, hret⟩
    obtain rfl := accountPayload_ok hpayload
    exact ⟨hpayload, (Except.ok.inj hret).symm⟩
  · rintro ⟨hpayload, rfl⟩
    exact ⟨v, hpayload, rfl⟩

theorem planAccount_ok {answer : DoorAnswer} {payload : Json} {fingerprint : String}
    (h : planAccount answer = .ok (payload, fingerprint)) :
    answer = .ok (some payload) ∧ accountPayload payload = .ok payload ∧
      fingerprint = payload.sha256 := by
  simp only [planAccount, except_bind_eq_ok] at h
  obtain ⟨raw, hraw, payload', hpayload, fingerprint', hfingerprint, hret⟩ := h
  obtain rfl := accountPayload_ok hpayload
  obtain ⟨-, rfl⟩ := accountFingerprintFromPayload_eq_ok.mp hfingerprint
  cases hret
  refine ⟨?_, hpayload, rfl⟩
  unfold readonlyCanonical at hraw
  split at hraw
  · cases hraw
  · cases hraw
  · cases hraw
    rfl
  · cases hraw

/-- A plan that binds has read an account whose digest is the armed fingerprint. -/
theorem planFactory_ok {d : PlanDoors} {a : HostAuthority} {answer : DoorAnswer} {binding : String}
    (h : planFactory d a answer = .ok binding) :
    ∃ payload, answer = .ok (some payload) ∧ payload.sha256 = a.accountFingerprintSha256 := by
  unfold planFactory at h
  split at h
  · cases h
  split at h
  · cases h
  · rename_i payload fingerprint haccount
    obtain ⟨hanswer, -, rfl⟩ := planAccount_ok haccount
    split at h
    · cases h
    · rename_i hsame
      exact ⟨payload, hanswer, not_not.mp hsame⟩

/-- The factory reports a mismatch only for an account whose digest is another one. -/
theorem planFactory_mismatch {d : PlanDoors} {a : HostAuthority} {answer : DoorAnswer}
    (h : planFactory d a answer = .error (.host "ACCOUNT_FINGERPRINT_MISMATCH")) :
    ∃ payload, answer = .ok (some payload) ∧ accountPayload payload = .ok payload ∧
      payload.sha256 ≠ a.accountFingerprintSha256 := by
  unfold planFactory at h
  split at h
  · simp at h
  split at h
  · simp at h
  · rename_i payload fingerprint haccount
    obtain ⟨hanswer, hpayload, rfl⟩ := planAccount_ok haccount
    split at h
    · rename_i hne
      exact ⟨payload, hanswer, hpayload, hne⟩
    · split at h
      · simp at h
      split at h
      · simp at h
      split at h
      · simp at h
      · cases h

/-- The account binding is stable while the account truth is: payloads with the same fields have the
same fingerprint, and a bound session reports no mismatch for them. -/
theorem account_binding_stable (d : PlanDoors) (a : HostAuthority) :
    (∀ v v', accountPayload v = .ok v → accountPayload v' = .ok v' → SameFields v v' →
      ∃ fingerprint, accountFingerprintFromPayload v = .ok fingerprint ∧
        accountFingerprintFromPayload v' = .ok fingerprint) ∧
    ∀ first later binding, planFactory d a (.ok (some first)) = .ok binding →
      (∀ v, .ok (some v) ∈ later → accountPayload v = .ok v → SameFields first v) →
      .error (.host "ACCOUNT_FINGERPRINT_MISMATCH") ∉ sessionPlans d a later := by
  refine ⟨?_, ?_⟩
  · intro v v' hv hv' hsame
    exact ⟨v.sha256, accountFingerprintFromPayload_eq_ok.mpr ⟨hv, rfl⟩,
      accountFingerprintFromPayload_eq_ok.mpr ⟨hv', hsame.sha256_eq⟩⟩
  · intro first later binding hbound hsame hmismatch
    obtain ⟨answer, hanswer, hplan⟩ := List.mem_map.mp hmismatch
    obtain ⟨payload, rfl, hpayload, hne⟩ := planFactory_mismatch hplan
    obtain ⟨_, hfirst, hdigest⟩ := planFactory_ok hbound
    cases hfirst
    exact hne ((hsame payload hanswer hpayload).sha256_eq.symm.trans hdigest)

namespace July

def account (equity : String) : Json :=
  .obj [("account_class", .str "PAPER"), ("equity", .str equity), ("id", .str "A1"),
    ("status", .str "ACTIVE")]

def route : RouteDigests := ⟨sha '5', sha '6'⟩

def doors : PlanDoors := ⟨route, route, "A1", sha '7', sha '8', some (sha '9'), true⟩

def authority : HostAuthority :=
  ⟨arm.armSha256, sha 'd', sha 'e', (account "100000").sha256, route⟩

/-- The same account, with its fields in another order. -/
def reordered : Json :=
  .obj [("status", .str "ACTIVE"), ("id", .str "A1"), ("equity", .str "100000"),
    ("account_class", .str "PAPER")]

theorem planAccount_account (equity : String) : planAccount (.ok (some (account equity))) =
    .ok (account equity, (account equity).sha256) := rfl

theorem route_approved : ¬ (doors.approvedRoute ≠ doors.packagedRoute ∨
    authority.route ≠ doors.packagedRoute) :=
  not_or.mpr ⟨not_not.mpr rfl, not_not.mpr rfl⟩

theorem planFactory_armed : planFactory doors authority (.ok (some (account "100000"))) =
    .ok (productionBinding doors authority (sha '9') (account "100000").sha256).sha256 := by
  have hdigest : ¬ (account "100000").sha256 ≠ authority.accountFingerprintSha256 := not_not.mpr rfl
  have hid : ¬ (accountId (account "100000")).getD "" = "" := by decide
  have hsame : ¬ accountId (account "100000") ≠ some doors.accountId := not_not.mpr rfl
  rw [planFactory, if_neg route_approved, planAccount_account]
  dsimp only
  rw [if_neg hdigest, if_neg hid, if_neg hsame]
  rfl

/-- A session in which the account is listed in another order later. -/
theorem account_binding_stable_reordered :
    .error (.host "ACCOUNT_FINGERPRINT_MISMATCH") ∉
      sessionPlans doors authority [.ok (some reordered)] := by
  refine (account_binding_stable doors authority).2 (account "100000") _ _ planFactory_armed ?_
  intro v hv _
  obtain rfl : v = reordered := by simpa using hv
  exact ⟨List.reverse_perm _ |>.symm, by decide⟩

/-- The account that the session was armed for is rejected at the second point, after its equity
changed. -/
theorem account_binding_moves :
    accountPayload (account "100000") = .ok (account "100000") ∧
    accountPayload (account "99750") = .ok (account "99750") ∧
    accountId (account "100000") = accountId (account "99750") ∧
    accountFingerprintFromPayload (account "100000") ≠
      accountFingerprintFromPayload (account "99750") ∧
    ∃ binding, sessionPlans doors authority
        [.ok (some (account "100000")), .ok (some (account "99750"))] =
      [.ok binding, .error (.host "ACCOUNT_FINGERPRINT_MISMATCH")] := by
  have hne : (account "99750").sha256 ≠ (account "100000").sha256 := by decide +kernel
  have hsecond : planFactory doors authority (.ok (some (account "99750"))) =
      .error (.host "ACCOUNT_FINGERPRINT_MISMATCH") := by
    rw [planFactory, if_neg route_approved, planAccount_account]
    exact if_pos hne
  refine ⟨rfl, rfl, rfl, ?_,
    (productionBinding doors authority (sha '9') (account "100000").sha256).sha256, ?_⟩
  · intro h
    exact hne (Except.ok.inj h).symm
  · rw [sessionPlans, List.map_cons, List.map_singleton, planFactory_armed, hsecond]

end July

/-! ### Snapshots -/

/-- `_decimal_field`. -/
def payloadDecimal (item : Json) (name : String) : SourceRead Decimal :=
  match decimalOf (item.get name) with
  | none => unavailable s!"broker payload has an invalid {name}"
  | some d =>
    if d.isFinite = false then unavailable s!"broker payload has a non-finite {name}" else .ok d

def arrayItems : Json → Option (List Json)
  | .arr items => some items
  | _ => none

/-- `str(value)`; of a container, which is not empty, only a sign. -/
def currencyText (v : Json) : String :=
  match v with
  | .null => "None"
  | v => (pyText v).getD "[]"

/-- The rejection of the first check of `AccountSnapshot.__post_init__` that fails. -/
def accountProblem (a : AccountSnapshotFields) : RiskRejected :=
  if a.equity.isFinite = false then
    ⟨.unsupportedInput, "account.equity", "must be a finite Decimal"⟩
  else if a.buyingPower.isFinite = false then
    ⟨.unsupportedInput, "account.buying_power", "must be a finite Decimal"⟩
  else if (a.cash.elim true (·.isFinite)) = false then
    ⟨.unsupportedInput, "account.cash", "must be a finite Decimal"⟩
  else if (a.cash.elim 0 (·.toRat)) < 0 then
    ⟨.unsupportedInput, "account.cash", "must be non-negative"⟩
  else if a.currency = "" then
    ⟨.unsupportedInput, "account.currency", "must be non-empty text"⟩
  else ⟨.unsupportedInput, "account.observed_at", "must be UTC"⟩

def payloadCash (payload : Json) : SourceRead (Option Decimal) :=
  match payload.get "cash" with
  | .null => .ok none
  | _ => some <$> payloadDecimal payload "cash"

/-- The account of a payload, `PaperMcpAccountTruthSource.account` with its clock read. -/
def accountSnapshot (v : Json) (observedAt : DateTime) : SourceRead AccountSnapshot := do
  let payload ← accountPayload v
  let equity ← payloadDecimal payload "equity"
  let buyingPower ← payloadDecimal payload "buying_power"
  let cash ← payloadCash payload
  let fields : AccountSnapshotFields := ⟨equity, buyingPower,
    ((payload.field? "currency").map currencyText).getD "USD", observedAt, cash⟩
  if h : fields.check = true then return ⟨fields, h⟩
  else .error (.risk (accountProblem fields))

/-- The group of `^([A-Z]{1,6})\d`. -/
def occRoot (symbol : String) : Option String :=
  let letters := symbol.toList.takeWhile Char.isUpper
  match symbol.toList.dropWhile Char.isUpper with
  | c :: _ =>
    if c.isDigit ∧ 1 ≤ letters.length ∧ letters.length ≤ 6 then some (String.ofList letters)
    else none
  | [] => none

def positionUnderlying (item : Json) (symbol : String) : SourceRead String :=
  if isText (item.field? "asset_class") "us_option" then .ok ((occRoot symbol).getD symbol)
  else if isText (item.field? "asset_class") "us_equity" then .ok symbol
  else unavailable "position record carries an unsupported asset class"

/-- The rejection of the first check of `PositionSnapshot.__post_init__` that fails. -/
def positionProblem (p : PositionSnapshotFields) : RiskRejected :=
  if (p.underlying != "" && p.underlying == strip p.underlying && isUpper p.underlying) = false then
    ⟨.unsupportedInput, "position.underlying", "must be normalized uppercase text"⟩
  else if p.quantity.isFinite = false then
    ⟨.unsupportedInput, "position.quantity", "must be a finite Decimal"⟩
  else if p.marketValue.isFinite = false then
    ⟨.unsupportedInput, "position.market_value", "must be a finite Decimal"⟩
  else ⟨.unsupportedInput, "position.observed_at", "must be UTC"⟩

/-- One position record; `none` for a quantity of zero. -/
def positionSnapshot (item : Json) (observedAt : DateTime) :
    SourceRead (Option PositionSnapshot) :=
  match item.field? "symbol" with
  | some (.str symbol) =>
    if symbol = "" then unavailable "position record lacks a symbol"
    else do
      let quantity ← payloadDecimal item "qty"
      if quantity.toRat = 0 then return none
      let underlying ← positionUnderlying item symbol
      let marketValue ← payloadDecimal item "market_value"
      let fields : PositionSnapshotFields := ⟨underlying, quantity, marketValue, observedAt⟩
      if h : fields.check = true then return some ⟨fields, h⟩
      else .error (.risk (positionProblem fields))
  | _ => unavailable "position record lacks a symbol"

def readAll {ε α β : Type} (f : α → Except ε β) : List α → Except ε (List β)
  | [] => .ok []
  | a :: rest => do
    let b ← f a
    let bs ← readAll f rest
    return b :: bs

def positionItems (v : Json) : SourceRead (List Json) :=
  match arrayItems v with
  | none => unavailable "positions payload must be a list"
  | some items => readAll (fun item =>
      if item.isObject = false then unavailable "position record must be an object"
      else .ok item) items

/-- `PaperMcpAccountTruthSource.positions`, with its clock read. -/
def positionSnapshots (v : Json) (observedAt : DateTime) : SourceRead (List PositionSnapshot) := do
  let items ← positionItems v
  let snapshots ← readAll (positionSnapshot · observedAt) items
  return (snapshots.filterMap id).insertionSort fun a b => a.underlying ≤ b.underlying

def orderSymbol (item : Json) : SourceRead String :=
  let ofLegs : SourceRead String :=
    match item.get "legs" with
    | .arr (leg :: _) =>
      match leg.field? "symbol" with
      | some (.str s) => .ok s
      | _ => unavailable "order record lacks a symbol and usable legs"
    | _ => unavailable "order record lacks a symbol and usable legs"
  match item.field? "symbol" with
  | some (.str s) => if s = "" then ofLegs else .ok s
  | _ => ofLegs

def orderFilled (item : Json) : SourceRead Decimal :=
  match item.get "filled_qty" with
  | .null => .ok (.ofNat 0)
  | v =>
    match decimalOf v with
    | some d => .ok d
    | none => unavailable "order record has an invalid filled quantity"

/-- The rejection of the first check of `OrderSnapshot.__post_init__` that fails. -/
def orderProblem (o : OrderSnapshotFields) : RiskRejected :=
  if o.orderId = "" then ⟨.unsupportedInput, "order.order_id", "must be non-empty text"⟩
  else if o.symbol = "" then ⟨.unsupportedInput, "order.symbol", "must be non-empty text"⟩
  else if o.status = "" then ⟨.unsupportedInput, "order.status", "must be non-empty text"⟩
  else if o.filledQuantity.isFinite = false then
    ⟨.unsupportedInput, "order.filled_quantity", "must be a finite Decimal"⟩
  else if o.filledQuantity.toRat < 0 then
    ⟨.unsupportedInput, "order.filled_quantity", "must be non-negative"⟩
  else ⟨.unsupportedInput, "order.observed_at", "must be UTC"⟩

def orderSnapshot (item : Json) (observedAt : DateTime) : SourceRead OrderSnapshot :=
  if item.isObject = false then unavailable "order record must be an object"
  else match item.field? "id", item.field? "status" with
  | some (.str orderId), some (.str status) => do
    let symbol ← orderSymbol item
    let filled ← orderFilled item
    let fields : OrderSnapshotFields := ⟨orderId, symbol, status, filled, observedAt⟩
    if h : fields.check = true then return ⟨fields, h⟩
    else .error (.risk (orderProblem fields))
  | _, _ => unavailable "order record lacks identity or status"

/-- `PaperMcpAccountTruthSource.orders`, with its clock read. -/
def orderSnapshots (v : Json) (observedAt : DateTime) : SourceRead (List OrderSnapshot) :=
  match arrayItems v with
  | none => unavailable "orders payload must be a list"
  | some items => do
    let snapshots ← readAll (orderSnapshot · observedAt) items
    return snapshots.insertionSort fun a b => a.orderId ≤ b.orderId

/-! ### The state of the orders -/

def openWorkingStates : List String :=
  ["new", "accepted", "pending_new", "accepted_for_bidding", "held", "calculated"]

def workingOrderStates : List String := openWorkingStates ++ ["partially_filled"]

def exposureOrderStates : List String := workingOrderStates ++ ["filled"]

def closedOrderStates : List String := ["filled", "canceled", "expired", "rejected"]

def allOrderStates : List String := workingOrderStates ++ closedOrderStates

/-- What `summarize_orders_state` raises: an `INVALID_PAGE` rejection, or the `TypeError` of a sort
that compares a missing client order id with a text. -/
inductive SummaryError where
  | invalidPage (detail : String)
  | typeError

/-- An order in an exposure state: its id, its client order id and its status. -/
structure WorkingOrder where
  orderId : String
  clientOrderId : Option String
  status : String
  deriving DecidableEq

structure OrdersStateSummary where
  totalOrderCount : Nat
  openOrderCount : Nat
  statusCounts : List (String × Nat)
  ordersStateSha256 : String
  workingOrders : List WorkingOrder

def workingOrder (item : Json) (status : String) : Except SummaryError WorkingOrder :=
  match item.field? "id" with
  | some (.str orderId) =>
    if orderId = "" then .error (.invalidPage "exposure order record lacks an order id")
    else match item.get "client_order_id" with
    | .null => .ok ⟨orderId, none, status⟩
    | .str s =>
      if s = "" then .error (.invalidPage "exposure order record has an invalid client order id")
      else .ok ⟨orderId, some s, status⟩
    | _ => .error (.invalidPage "exposure order record has an invalid client order id")
  | _ => .error (.invalidPage "exposure order record lacks an order id")

/-- One record: its status, and its identity where it counts as exposure. -/
def orderState (item : Json) : Except SummaryError (String × Option WorkingOrder) :=
  match item.field? "status" with
  | some (.str status) =>
    if status ∉ allOrderStates then
      .error (.invalidPage "order record carries an unsupported status")
    else if status ∈ exposureOrderStates then do
      let order ← workingOrder item status
      return (status, some order)
    else .ok (status, none)
  | _ => .error (.invalidPage "order record carries an unsupported status")

def pageItems (v : Json) : Except SummaryError (List Json) :=
  match arrayItems v with
  | none => .error (.invalidPage "activities page must be a JSON array")
  | some items => readAll (fun item =>
      if item.isObject = false then .error (.invalidPage "activity record must be an object")
      else .ok item) items

def statusCounts (statuses : List String) : List (String × Nat) :=
  (statuses.dedup.insertionSort (· ≤ ·)).map fun status => (status, statuses.count status)

/-- Two orders that `sorted` cannot compare. -/
def incomparable (a b : WorkingOrder) : Bool :=
  a.orderId == b.orderId && a.clientOrderId.isSome != b.clientOrderId.isSome

def workingOrderLe (a b : WorkingOrder) : Bool :=
  if a.orderId ≠ b.orderId then a.orderId ≤ b.orderId
  else if a.clientOrderId ≠ b.clientOrderId then
    a.clientOrderId.getD "" ≤ b.clientOrderId.getD ""
  else a.status ≤ b.status

/-- `summarize_orders_state` of the canonical bytes of a payload. -/
def summarizeOrdersState (v : Json) : Except SummaryError OrdersStateSummary := do
  let items ← pageItems v
  let states ← readAll orderState items
  let working := states.filterMap Prod.snd
  throwIf (working.any fun a => working.any (incomparable a)) .typeError
  return {
    totalOrderCount := items.length
    openOrderCount := working.length
    statusCounts := statusCounts (states.map Prod.fst)
    ordersStateSha256 := v.sha256
    workingOrders := working.insertionSort fun a b => workingOrderLe a b = true }

theorem readAll_mem {ε α β : Type} {f : α → Except ε β} {as : List α} {bs : List β}
    (h : readAll f as = .ok bs) :
    (∀ a ∈ as, ∃ b ∈ bs, f a = .ok b) ∧ ∀ b ∈ bs, ∃ a ∈ as, f a = .ok b := by
  induction as generalizing bs with
  | nil =>
    cases h
    simp
  | cons a rest ih =>
    simp only [readAll, except_bind_eq_ok] at h
    obtain ⟨b, hb, bs', hbs, hret⟩ := h
    cases hret
    obtain ⟨hleft, hright⟩ := ih hbs
    refine ⟨?_, ?_⟩
    · intro a' ha'
      rcases List.mem_cons.mp ha' with rfl | ha'
      · exact ⟨b, List.mem_cons_self, hb⟩
      · obtain ⟨b', hb', hf⟩ := hleft a' ha'
        exact ⟨b', List.mem_cons_of_mem b hb', hf⟩
    · intro b' hb'
      rcases List.mem_cons.mp hb' with rfl | hb'
      · exact ⟨a, List.mem_cons_self, hb⟩
      · obtain ⟨a', ha', hf⟩ := hright b' hb'
        exact ⟨a', List.mem_cons_of_mem a ha', hf⟩

/-- A check that returns each value as it is. -/
theorem readAll_eq_self {ε α : Type} {f : α → Except ε α} (hf : ∀ a b, f a = .ok b → b = a)
    {as bs : List α} (h : readAll f as = .ok bs) : bs = as := by
  induction as generalizing bs with
  | nil =>
    cases h
    rfl
  | cons a rest ih =>
    simp only [readAll, except_bind_eq_ok] at h
    obtain ⟨b, hb, bs', hbs, hret⟩ := h
    cases hret
    rw [hf a b hb, ih hbs]

/-! ### The vocabularies of order statuses -/

theorem orderSnapshot_status {item : Json} {t : DateTime} {o : OrderSnapshot}
    (h : orderSnapshot item t = .ok o) : item.field? "status" = some (.str o.status) := by
  unfold orderSnapshot at h
  split at h
  · cases h
  split at h
  · rename_i orderId status hid hstatus
    simp only [except_bind_eq_ok] at h
    obtain ⟨symbol, -, filled, -, h⟩ := h
    split at h
    · cases h
      exact hstatus
    · cases h
  · cases h

theorem orderState_status {item : Json} {state : String × Option WorkingOrder}
    (h : orderState item = .ok state) :
    state.1 ∈ allOrderStates ∧ item.field? "status" = some (.str state.1) := by
  unfold orderState at h
  split at h
  · rename_i status hstatus
    split at h
    · cases h
    · rename_i hall
      split at h
      · obtain ⟨order, -, hret⟩ := except_bind_eq_ok.mp h
        cases hret
        exact ⟨not_not.mp hall, hstatus⟩
      · cases h
        exact ⟨not_not.mp hall, hstatus⟩
  · cases h

theorem pageItems_ok {v : Json} {items : List Json} (h : pageItems v = .ok items) :
    arrayItems v = some items := by
  unfold pageItems at h
  split at h
  · cases h
  · rename_i items' hv
    have hsame : items = items' := by
      refine readAll_eq_self ?_ h
      intro item item' hitem
      split at hitem
      · cases hitem
      · exact (Except.ok.inj hitem).symm
    rw [hv, hsame]

/-- Every record of an accepted payload has one of the broker's statuses. -/
theorem summarizeOrdersState_status {v : Json} {summary : OrdersStateSummary}
    (h : summarizeOrdersState v = .ok summary) :
    ∀ item ∈ (arrayItems v).getD [], ∃ status ∈ allOrderStates,
      item.field? "status" = some (.str status) := by
  simp only [summarizeOrdersState, except_bind_eq_ok] at h
  obtain ⟨items, hitems, states, hstates, -⟩ := h
  rw [pageItems_ok hitems, Option.getD_some]
  intro item hitem
  obtain ⟨state, -, hstate⟩ := (readAll_mem hstates).1 item hitem
  exact ⟨state.1, orderState_status hstate⟩

/-- The snapshots of a payload are those of its records. -/
theorem orderSnapshots_mem {v : Json} {t : DateTime} {snapshots : List OrderSnapshot}
    (h : orderSnapshots v t = .ok snapshots) :
    (∀ item ∈ (arrayItems v).getD [], ∃ o ∈ snapshots, orderSnapshot item t = .ok o) ∧
    ∀ o ∈ snapshots, ∃ item ∈ (arrayItems v).getD [], orderSnapshot item t = .ok o := by
  unfold orderSnapshots at h
  split at h
  · cases h
  · rename_i items hv
    obtain ⟨os, hos, hret⟩ := except_bind_eq_ok.mp h
    cases hret
    rw [hv, Option.getD_some]
    simpa only [List.mem_insertionSort] using readAll_mem hos

/-- Kernel and broker agree on an order: a partial fill for both or for neither, and closed for
both. -/
structure KernelAgrees (o : OrderSnapshot) : Prop where
  partialFill : o.isPartialFill = true ↔ o.status = "partially_filled"
  terminal : v2CheckOrders [] [o] = .ok () ↔ o.status ∈ closedOrderStates

/-- An order passes without attribution if its status is one of the kernel's terminal literals. -/
theorem v2CheckOrders_singleton {o : OrderSnapshot} : v2CheckOrders [] [o] = .ok () ↔
    o.isPartialFill = false ∧ o.status ∈ terminalOrderStates := by
  simp only [v2CheckOrders, except_bind_eq_ok, throwIf_eq_ok]
  simp

/-- No status of the broker is one of the kernel's literals. -/
theorem allOrderStates_foreign : ∀ status ∈ allOrderStates,
    (status == "PARTIALLY_FILLED") = false ∧ status ∉ terminalOrderStates := by decide

/-- The broker's statuses are the working ones, the partial fill and the closed ones. -/
theorem allOrderStates_split : ∀ status ∈ allOrderStates, status ∈ openWorkingStates ↔
    status ≠ "partially_filled" ∧ status ∉ closedOrderStates := by decide

theorem kernelAgrees_iff {o : OrderSnapshot} (h : o.status ∈ allOrderStates) :
    KernelAgrees o ↔ o.status ∈ openWorkingStates := by
  obtain ⟨hpart, hterminal⟩ := allOrderStates_foreign o.status h
  have hfill : ¬ o.isPartialFill = true := by
    rw [OrderSnapshot.isPartialFill, hpart]
    exact Bool.false_ne_true
  have hcheck : ¬ v2CheckOrders [] [o] = .ok () := fun hok =>
    hterminal (v2CheckOrders_singleton.mp hok).2
  rw [allOrderStates_split o.status h]
  constructor
  · intro hagrees
    exact ⟨fun hstatus => hfill (hagrees.partialFill.mpr hstatus),
      fun hstatus => hcheck (hagrees.terminal.mpr hstatus)⟩
  · rintro ⟨hpartially, hclosed⟩
    exact ⟨⟨fun h => absurd h hfill, fun h => absurd h hpartially⟩,
      ⟨fun h => absurd h hcheck, fun h => absurd h hclosed⟩⟩

/-- For a payload that both readers accept, the kernel treats every snapshot as the broker means it
exactly if every record is in a working state without a fill. -/
theorem order_vocabularies (v : Json) (t : DateTime) (summary : OrdersStateSummary)
    (snapshots : List OrderSnapshot) (haccepted : summarizeOrdersState v = .ok summary)
    (hsnapshots : orderSnapshots v t = .ok snapshots) :
    (∀ o ∈ snapshots, KernelAgrees o) ↔
      ∀ item ∈ (arrayItems v).getD [], ∃ status ∈ openWorkingStates,
        item.field? "status" = some (.str status) := by
  have hstatus := summarizeOrdersState_status haccepted
  obtain ⟨hleft, hright⟩ := orderSnapshots_mem hsnapshots
  have hbroker : ∀ item ∈ (arrayItems v).getD [], ∀ o, orderSnapshot item t = .ok o →
      o.status ∈ allOrderStates := by
    intro item hitem o ho
    obtain ⟨status, hall, hfield⟩ := hstatus item hitem
    rw [orderSnapshot_status ho] at hfield
    cases hfield
    exact hall
  constructor
  · intro hagrees item hitem
    obtain ⟨o, ho, hsnapshot⟩ := hleft item hitem
    exact ⟨o.status, (kernelAgrees_iff (hbroker item hitem o hsnapshot)).mp (hagrees o ho),
      orderSnapshot_status hsnapshot⟩
  · intro hworking o ho
    obtain ⟨item, hitem, hsnapshot⟩ := hright o ho
    obtain ⟨status, hopen, hfield⟩ := hworking item hitem
    rw [orderSnapshot_status hsnapshot] at hfield
    cases hfield
    exact (kernelAgrees_iff (hbroker item hitem o hsnapshot)).mpr hopen

namespace July

def order (orderId status : String) : Json :=
  .obj [("id", .str orderId), ("status", .str status), ("symbol", .str "SPY")]

def snapshot (orderId status : String) (h : (⟨orderId, "SPY", status, .ofNat 0, at_ 845⟩ :
    OrderSnapshotFields).check = true) : OrderSnapshot := ⟨_, h⟩

theorem orderSnapshot_order {orderId status : String}
    (h : (⟨orderId, "SPY", status, .ofNat 0, at_ 845⟩ : OrderSnapshotFields).check = true) :
    orderSnapshot (order orderId status) (at_ 845) = .ok (snapshot orderId status h) :=
  dif_pos h

theorem order_checks : ∀ o ∈ [("O1", "accepted"), ("O1", "filled"), ("O2", "partially_filled")],
    (⟨o.1, "SPY", o.2, .ofNat 0, at_ 845⟩ : OrderSnapshotFields).check = true := by
  decide +kernel

theorem order_vocabularies_working : ∃ summary snapshots,
    summarizeOrdersState (.arr [order "O1" "accepted"]) = .ok summary ∧
    orderSnapshots (.arr [order "O1" "accepted"]) (at_ 845) = .ok snapshots ∧
    ∀ o ∈ snapshots, KernelAgrees o := by
  have hsnapshots : orderSnapshots (.arr [order "O1" "accepted"]) (at_ 845) =
      .ok [snapshot "O1" "accepted" (order_checks ("O1", "accepted") (by simp))] := by
    simp only [orderSnapshots, arrayItems, readAll, except_bind_eq_ok]
    exact ⟨_, ⟨_, orderSnapshot_order (order_checks ("O1", "accepted") (by simp)), [], rfl, rfl⟩,
      rfl⟩
  refine ⟨_, _, rfl, hsnapshots, ?_⟩
  refine (order_vocabularies _ _ _ _ rfl hsnapshots).mpr ?_
  intro item hitem
  exact ⟨"accepted", by decide, List.mem_singleton.mp hitem ▸ rfl⟩

/-- An order that the broker reports as filled needs attribution, and a partial fill is none. -/
theorem order_vocabularies_differ : ∃ summary filled partly,
    summarizeOrdersState (.arr [order "O1" "filled", order "O2" "partially_filled"]) =
      .ok summary ∧
    orderSnapshots (.arr [order "O1" "filled", order "O2" "partially_filled"]) (at_ 845) =
      .ok [filled, partly] ∧
    filled.status = "filled" ∧ v2CheckOrders [] [filled] ≠ .ok () ∧
    partly.status = "partially_filled" ∧ partly.isPartialFill = false := by
  have hordered : ("O1" : String) ≤ "O2" := by decide
  have hfilled : (⟨"O1", "SPY", "filled", .ofNat 0, at_ 845⟩ : OrderSnapshotFields).check = true :=
    order_checks ("O1", "filled") (by simp)
  have hpartly : (⟨"O2", "SPY", "partially_filled", .ofNat 0, at_ 845⟩ :
      OrderSnapshotFields).check = true :=
    order_checks ("O2", "partially_filled") (by simp)
  have hsnapshots : orderSnapshots (.arr [order "O1" "filled", order "O2" "partially_filled"])
      (at_ 845) = .ok [snapshot "O1" "filled" hfilled, snapshot "O2" "partially_filled" hpartly] := by
    simp only [orderSnapshots, arrayItems, readAll, except_bind_eq_ok]
    refine ⟨_, ⟨_, orderSnapshot_order hfilled, _, ⟨_, orderSnapshot_order hpartly, [], rfl, rfl⟩,
      rfl⟩, congrArg Except.ok ?_⟩
    simp [snapshot, hordered]
  refine ⟨_, _, _, rfl, hsnapshots, rfl, ?_, rfl, rfl⟩
  intro hok
  have hterminal : "filled" ∉ terminalOrderStates := by decide
  exact hterminal (v2CheckOrders_singleton.mp hok).2

end July

end EsscherMarket.Runtime
