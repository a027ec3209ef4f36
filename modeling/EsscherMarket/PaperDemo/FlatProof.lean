import EsscherMarket.Lib.History
import EsscherMarket.PaperDemo.Attempts

/-!
# Flatness is proved by readbacks

What the broker has answered when `resolve_to_flat` returns, for every sequence of answers.
-/

namespace EsscherMarket.PaperDemo

open Lib Execution Lifecycle Prog McpPaperBroker

/-! ### Calls -/

abbrev PaperCall : Type := (op : paperSig.Op) × paperSig.Res op

def isSubmission : PaperOp → Bool
  | .callTool tool _ => tool == openTool
  | _ => false

/-- How many orders were submitted. -/
def submissions (calls : List PaperCall) : Nat := calls.countP fun c => isSubmission c.1

/-- An order may be submitted where none was. -/
def submitsOnce (calls : List PaperCall) (op : PaperOp) : Prop :=
  isSubmission op = true → submissions calls = 0

def Shows (tool : String) (arguments : Json) (order : ReportedIdentity) (c : PaperCall) : Prop :=
  ∃ response phase, c = ⟨.callTool tool arguments, .response response⟩ ∧
    identityOf phase response = .ok order

/-- The broker answered a position readback with no position in these symbols. -/
def ShowsFlat (symbols : String × String) (c : PaperCall) : Prop :=
  ∃ response held, c = ⟨.callTool positionsTool (.obj []), .response response⟩ ∧
    openPositionSymbols response = .ok held ∧ symbols.1 ∉ held ∧ symbols.2 ∉ held

/-! ### Proofs -/

structure ShowsOpening (receipt : OpenOrderReceipt) (order : ReportedIdentity) (c : PaperCall) :
    Prop where
  shows : Shows orderByIdTool (.obj [("order_id", .str receipt.brokerOrderId)]) order c
  orderId : order.orderId = receipt.brokerOrderId
  clientOrderId : order.clientOrderId = receipt.clientOrderId

structure ShowsClosing (closeCall : OpenOrderCall) (order : ReportedIdentity) (c : PaperCall) :
    Prop where
  shows : Shows readbackTool (.obj [("client_order_id", .str closeCall.clientOrderId)]) order c
  clientOrderId : order.clientOrderId = closeCall.clientOrderId

/-- The opening order was last shown terminal and without a fill, and then no leg among the open
positions. -/
structure CanceledProof (p : DebitVerticalPermit) (receipt : OpenOrderReceipt)
    (calls : List PaperCall) : Prop where
  readbacks : ∃ before opening positions clock order, calls = before ++ [opening, positions, clock] ∧
    ShowsOpening receipt order opening ∧
    unfilledTerminalStatuses.contains (lower order.status) = true ∧
    isQuantity order.filledQty 0 = true ∧ ShowsFlat (p.longLeg.symbol, p.shortLeg.symbol) positions
  unsubmitted : submissions calls = 0

/-- The opening order was last shown filled in full, then the closing order filled in full, and then
no leg among the open positions. -/
structure ClosedProof (p : DebitVerticalPermit) (receipt : OpenOrderReceipt)
    (closeCall : OpenOrderCall) (calls : List PaperCall) : Prop where
  readbacks : ∃ before opening between closing positions clock order close,
    calls = before ++ opening :: between ++ [closing, positions, clock] ∧
    ShowsOpening receipt order opening ∧ lower order.status = "filled" ∧
    isQuantity order.filledQty p.quantity = true ∧
    (∀ c ∈ between, ∀ order, ¬ ShowsOpening receipt order c) ∧
    ShowsClosing closeCall close closing ∧ lower close.status = "filled" ∧
    isQuantity close.filledQty p.quantity = true ∧
    ShowsFlat (p.longLeg.symbol, p.shortLeg.symbol) positions

def Proven (p : DebitVerticalPermit) (receipt : OpenOrderReceipt) (c : ClosePermit)
    (calls : List PaperCall) (r : PaperLifecycleReceipt) : Prop :=
  match r.outcome with
  | .canceledFlat => CanceledProof p receipt calls
  | .closedFlat => ∃ closeCall, buildCloseOrderCall p c = .ok closeCall ∧
      ClosedProof p receipt closeCall calls

/-! ### Steps -/

section Steps

variable {calls : List PaperCall}

theorem submissions_append (calls more : List PaperCall) :
    submissions (calls ++ more) = submissions calls + submissions more := List.countP_append

theorem safe_readClock_history : Safe (history submitsOnce) calls readClock fun calls' _ =>
    ∃ c : PaperCall, calls' = calls ++ [c] ∧ c.1 = .clock := by
  have hperform : Safe (history submitsOnce) calls
      (perform (S := paperSig) .clock : PaperProg _) fun calls' answer =>
        calls' = calls ++ [⟨.clock, answer⟩] :=
    safe_history_perform fun h => (by cases h)
  exact hperform.bind fun calls' answer h => safe_pure ⟨_, h, rfl⟩

theorem safe_observedTime_history : Safe (history submitsOnce) calls observedTime fun calls' _ =>
    ∃ c : PaperCall, calls' = calls ++ [c] ∧ c.1 = .clock :=
  safe_readClock_history.bind fun _ _ h => safe_raiseIf_bind fun _ => safe_pure h

theorem safe_claim_history (identity : String) :
    Safe (history submitsOnce) calls (claim identity) fun calls' _ =>
      ∃ c : PaperCall, calls' = calls ++ [c] ∧ c.1 = .claim identity := by
  have hperform : Safe (history submitsOnce) calls
      (perform (S := paperSig) (.claim identity) : PaperProg ClaimAnswer) fun calls' answer =>
        calls' = calls ++ [⟨.claim identity, answer⟩] :=
    safe_history_perform fun h => (by cases h)
  refine hperform.bind fun calls' answer h => ?_
  cases answer with
  | won => exact safe_pure ⟨_, h, rfl⟩
  | lost => exact safe_pure ⟨_, h, rfl⟩
  | notApproved => exact safe_raise _
  | osError => exact safe_raise _

theorem safe_callTool_history {tool : String} {arguments : Json}
    (h : tool = openTool → submissions calls = 0) :
    Safe (history submitsOnce) calls (callTool tool arguments) fun calls' response =>
      calls' = calls ++ [⟨.callTool tool arguments, .response response⟩] := by
  have hallowed : submitsOnce calls (.callTool tool arguments) :=
    fun hsubmission => h (beq_iff_eq.mp hsubmission)
  have hperform : Safe (history submitsOnce) calls
      (perform (S := paperSig) (.callTool tool arguments) : PaperProg ToolAnswer)
      fun calls' answer => calls' = calls ++ [⟨.callTool tool arguments, answer⟩] :=
    safe_history_perform hallowed
  refine hperform.bind fun calls' answer h => ?_
  cases answer with
  | response v => exact safe_pure h
  | _ => exact safe_raise _

/-- A tool call whose exceptions are caught. -/
theorem safe_callTool_attempt {tool : String} {arguments : Json}
    (h : tool = openTool → submissions calls = 0) :
    Safe (history submitsOnce) calls ((callTool tool arguments).attempt : PaperProg _)
      fun calls' _ => ∃ answer, calls' = calls ++ [⟨.callTool tool arguments, answer⟩] := by
  have hallowed : submitsOnce calls (.callTool tool arguments) :=
    fun hsubmission => h (beq_iff_eq.mp hsubmission)
  have hperform : Safe (history submitsOnce) calls
      (perform (S := paperSig) (.callTool tool arguments) : PaperProg ToolAnswer)
      fun calls' answer => calls' = calls ++ [⟨.callTool tool arguments, answer⟩] :=
    safe_history_perform hallowed
  have hattempt : ((callTool tool arguments).attempt : PaperProg (Except PaperError Json)) =
      perform (S := paperSig) (.callTool tool arguments) >>= fun answer =>
        @ToolAnswer.casesOn (fun _ => PaperProg _) answer (fun v => pure (.ok v))
          (fun _ => pure (.error .host)) (fun _ => pure (.error .host)) (pure (.error .other)) := by
    refine congrArg (Prog.call (S := paperSig) _) (funext fun answer => ?_)
    cases answer <;> rfl
  rw [hattempt]
  refine hperform.bind fun calls' answer h => ?_
  cases answer <;> exact safe_pure ⟨_, h⟩

theorem submissions_eq_zero {more : List PaperCall} (h : ∀ c ∈ more, isSubmission c.1 = false) :
    submissions more = 0 := by
  refine List.countP_eq_zero.mpr fun c hc hsubmission => ?_
  rw [h c hc] at hsubmission
  cases hsubmission

theorem submissions_concat {c : PaperCall} (hcalls : submissions calls = 0)
    (h : isSubmission c.1 = false) : submissions (calls ++ [c]) = 0 := by
  rw [submissions_append, hcalls, submissions_eq_zero]
  intro c' hc
  rw [List.mem_singleton] at hc
  exact hc ▸ h

theorem isSubmission_of_shows {tool : String} {arguments : Json} {order : ReportedIdentity}
    {c : PaperCall} (h : Shows tool arguments order c) (htool : tool ≠ openTool) :
    isSubmission c.1 = false := by
  obtain ⟨response, phase, rfl, -⟩ := h
  exact beq_eq_false_iff_ne.mpr htool

theorem isSubmission_of_showsFlat {symbols : String × String} {c : PaperCall}
    (h : ShowsFlat symbols c) : isSubmission c.1 = false := by
  obtain ⟨response, held, rfl, -⟩ := h
  rfl

/-- The opening order is shown last, and nothing was submitted. -/
structure Settled (receipt : OpenOrderReceipt) (calls : List PaperCall) (order : ReportedIdentity) :
    Prop where
  readback : ∃ before opening raw, calls = before ++ [opening] ∧ ShowsOpening receipt raw opening ∧
    order = { raw with status := lower raw.status }
  unsubmitted : submissions calls = 0

/-- `_read_order`, with its readback. -/
theorem safe_readOrder_settled {receipt : OpenOrderReceipt} (h : submissions calls = 0) :
    Safe (history submitsOnce) calls (readOrder receipt.brokerOrderId receipt.clientOrderId)
      (Settled receipt) := by
  refine (safe_callTool_history fun h => absurd h (by decide)).bind ?_
  rintro calls' response rfl
  refine safe_ofExcept_bind fun raw hraw => safe_raiseIf_bind fun hids => safe_pure ?_
  rw [not_or, not_not, not_not] at hids
  have hshows : ShowsOpening receipt raw ⟨.callTool orderByIdTool
      (.obj [("order_id", .str receipt.brokerOrderId)]), .response response⟩ :=
    ⟨⟨response, _, rfl, hraw⟩, hids.1, hids.2⟩
  exact ⟨⟨calls, _, raw, rfl, hshows, rfl⟩,
    submissions_concat h (isSubmission_of_shows hshows.shows (by decide))⟩

theorem safe_cancelOrder_history (orderId : String) (claimed : Bool) (h : submissions calls = 0) :
    Safe (history submitsOnce) calls (cancelOrder orderId claimed)
      fun calls' _ => submissions calls' = 0 := by
  cases claimed with
  | false => exact safe_pure h
  | true =>
    refine (safe_callTool_attempt fun hopen => absurd hopen (by decide)).bind ?_
    rintro calls' answer ⟨toolAnswer, rfl⟩
    cases answer with
    | ok response => exact safe_pure (submissions_concat h rfl)
    | error e => exact safe_pure (submissions_concat h rfl)

theorem safe_cancelAndRead_settled {receipt : OpenOrderReceipt} (h : submissions calls = 0) :
    Safe (history submitsOnce) calls
      (cancelAndRead receipt.brokerOrderId receipt.clientOrderId) (Settled receipt) := by
  refine (safe_claim_history _).bind ?_
  rintro calls₁ claimed ⟨c, rfl, hop⟩
  have hclaimed : submissions (calls ++ [c]) = 0 := submissions_concat h (by rw [hop]; rfl)
  refine (safe_cancelOrder_history _ claimed hclaimed).bind fun calls₂ failed hcalls => ?_
  -- an order that cannot be read back after the cancel is raised
  refine safe_tryCatch (safe_readOrder_settled hcalls) fun calls₃ e => ?_
  split
  · exact safe_raise _
  · exact safe_raise _

theorem safe_settledOpen_settled {receipt : OpenOrderReceipt} (h : submissions calls = 0) :
    Safe (history submitsOnce) calls (settledOpen receipt) (Settled receipt) := by
  refine (safe_readOrder_settled h).bind fun calls' order hsettled => safe_raiseIf_bind fun _ => ?_
  split
  · exact safe_cancelAndRead_settled hsettled.unsubmitted
  · exact safe_pure hsettled

/-- `_verify_event_flat`, with its readback. -/
theorem safe_verifyEventFlat_history (symbols : String × String) :
    Safe (history submitsOnce) calls (verifyEventFlat symbols) fun calls' _ =>
      ∃ positions clock, calls' = calls ++ [positions, clock] ∧ ShowsFlat symbols positions ∧
        isSubmission clock.1 = false := by
  refine (safe_callTool_history fun h => absurd h (by decide)).bind ?_
  rintro calls' response rfl
  refine safe_ofExcept_bind fun held hheld => safe_raiseIf_bind fun hflat =>
    safe_observedTime_history.mono ?_
  rintro calls' t ⟨clock, rfl, hclock⟩
  rw [not_or] at hflat
  refine ⟨_, clock, List.append_assoc _ _ _, ⟨response, held, rfl, hheld, hflat⟩, ?_⟩
  rw [hclock]
  rfl

theorem not_showsOpening {receipt : OpenOrderReceipt} {order : ReportedIdentity} {c : PaperCall}
    (h : ∀ arguments, c.1 ≠ .callTool orderByIdTool arguments) :
    ¬ ShowsOpening receipt order c := by
  rintro ⟨⟨response, phase, rfl, -⟩, -, -⟩
  exact h _ rfl

theorem safe_acknowledged_history {call : OpenOrderCall} {phase : String}
    (answer : Except PaperError Json) : Safe (history submitsOnce) calls
      (acknowledged call phase answer) fun calls' _ => calls' = calls := by
  cases answer with
  | error e => exact safe_pure rfl
  | ok response =>
    exact safe_ofExcept_bind fun identity _ => safe_raiseIf_bind fun _ => safe_pure rfl

theorem safe_readback_history {call : OpenOrderCall} {phase : String}
    (submitted : Except PaperError String) : Safe (history submitsOnce) calls
      (readback call phase submitted) fun calls' close => ∃ closing, calls' = calls ++ [closing] ∧
        Shows readbackTool (.obj [("client_order_id", .str call.clientOrderId)]) close closing := by
  refine safe_tryCatch ?_ fun calls' e => ?_
  · refine (safe_callTool_history fun h => absurd h (by decide)).bind ?_
    rintro calls' response rfl
    exact safe_ofExcept fun close hclose => ⟨_, rfl, response, phase, rfl, hclose⟩
  · cases submitted with
    | ok orderId => exact safe_raise _
    | error e => exact safe_raise _

/-- The closing order is shown last, after calls that do not show the opening one. -/
def Closing (receipt : OpenOrderReceipt) (closeCall : OpenOrderCall)
    (calls calls' : List PaperCall) (close : ReportedIdentity) : Prop :=
  ∃ between closing, calls' = calls ++ between ++ [closing] ∧
    (∀ c ∈ between, ∀ order, ¬ ShowsOpening receipt order c) ∧ ShowsClosing closeCall close closing

theorem safe_closingOrder_history (receipt : OpenOrderReceipt) {closeCall : OpenOrderCall}
    (claimed : Bool) (h : submissions calls = 0) : Safe (history submitsOnce) calls
      (closingOrder closeCall claimed) (Closing receipt closeCall calls) := by
  cases claimed with
  | true =>
    refine (safe_callTool_attempt fun _ => h).bind ?_
    rintro calls₁ answer ⟨toolAnswer, rfl⟩
    refine (safe_acknowledged_history answer).bind ?_
    rintro calls₂ submitted rfl
    refine (safe_readback_history submitted).bind ?_
    rintro calls₃ close ⟨closing, rfl, hshows⟩
    refine safe_raiseIf_bind fun hids => safe_pure ⟨[_], closing, rfl, ?_, hshows, ?_⟩
    · intro c hc order
      rw [List.mem_singleton] at hc
      subst hc
      refine not_showsOpening fun arguments heq => ?_
      have htool : openTool = orderByIdTool := (PaperOp.callTool.inj heq).1
      exact absurd htool (by decide)
    · rw [not_or, not_not] at hids
      exact hids.1
  | false =>
    refine (safe_callTool_history fun hopen => absurd hopen (by decide)).bind ?_
    rintro calls₁ response rfl
    refine safe_ofExcept_bind fun close hclose => safe_raiseIf_bind fun hid => safe_pure ?_
    refine ⟨[], _, ?_, fun c hc => (by cases hc), ⟨response, _, rfl, hclose⟩, not_not.mp hid⟩
    rw [List.append_nil]

theorem outcome_of_make {fields : PaperLifecycleReceiptFields} {r : PaperLifecycleReceipt}
    (h : PaperLifecycleReceipt.make fields = .ok r) : r.outcome = fields.outcome := by
  rw [PaperLifecycleReceipt.make] at h
  split_ifs at h
  cases h
  rfl

variable {p : DebitVerticalPermit} {c : ClosePermit} {receipt : OpenOrderReceipt}
  {order : ReportedIdentity}

theorem safe_resolveCanceled_history (h : Settled receipt calls order)
    (hterminal : unfilledTerminalStatuses.contains order.status = true) :
    Safe (history submitsOnce) calls (resolveCanceled p c receipt order)
      (Proven p receipt c) := by
  obtain ⟨⟨before, opening, raw, rfl, hopening, rfl⟩, hunsubmitted⟩ := h
  refine safe_raiseIf_bind fun hzero => (safe_verifyEventFlat_history _).bind ?_
  rintro calls' observedAt ⟨positions, clock, rfl, hflat, hclock⟩
  refine safe_ofExcept fun r hr => ?_
  have houtcome : r.outcome = .canceledFlat := outcome_of_make hr
  have hproof : CanceledProof p receipt (before ++ [opening] ++ [positions, clock]) := by
    refine ⟨⟨before, opening, positions, clock, raw, List.append_assoc _ _ _, hopening, hterminal,
      Bool.not_eq_false _ ▸ hzero, hflat⟩, ?_⟩
    rw [submissions_append, hunsubmitted, submissions_eq_zero]
    intro call hcall
    simp only [List.mem_cons, List.not_mem_nil, or_false] at hcall
    rcases hcall with rfl | rfl
    · exact isSubmission_of_showsFlat hflat
    · exact hclock
  rw [Proven, houtcome]
  exact hproof

theorem safe_resolveFilled_history {closeCall : OpenOrderCall} (h : Settled receipt calls order)
    (hclose : buildCloseOrderCall p c = .ok closeCall) :
    Safe (history submitsOnce) calls (resolveFilled p c receipt order closeCall)
      (Proven p receipt c) := by
  obtain ⟨⟨before, opening, raw, rfl, hopening, rfl⟩, hunsubmitted⟩ := h
  refine safe_raiseIf_bind fun hfilled => safe_raiseIf_bind fun hquantity =>
    (safe_claim_history _).bind ?_
  rintro calls₁ claimed ⟨claimCall, rfl, hop⟩
  have hzero : submissions (before ++ [opening] ++ [claimCall]) = 0 :=
    submissions_concat hunsubmitted (by rw [hop]; rfl)
  refine (safe_closingOrder_history receipt claimed hzero).bind ?_
  rintro calls₂ close ⟨between, closing, rfl, hbetween, hclosing⟩
  refine safe_raiseIf_bind fun hclosed => safe_raiseIf_bind fun hcloseQuantity =>
    (safe_verifyEventFlat_history _).bind ?_
  rintro calls₃ observedAt ⟨positions, clock, rfl, hflat, -⟩
  refine safe_ofExcept fun r hr => ?_
  have houtcome : r.outcome = .closedFlat := outcome_of_make hr
  rw [Proven, houtcome]
  refine ⟨closeCall, hclose, ⟨before, opening, claimCall :: between, closing, positions, clock, raw,
    close, ?_, hopening, not_not.mp hfilled, Bool.not_eq_false _ ▸ hquantity, ?_, hclosing,
    not_not.mp hclosed, Bool.not_eq_false _ ▸ hcloseQuantity, hflat⟩⟩
  · simp only [List.append_assoc, List.cons_append, List.nil_append]
  · intro call hcall
    rcases List.mem_cons.mp hcall with rfl | hcall
    · refine fun order' => not_showsOpening fun arguments heq => ?_
      rw [hop] at heq
      cases heq
    · exact hbetween call hcall

theorem safe_activeTime_history {issuedAt expiresAt : DateTime} (h : submissions calls = 0) :
    Safe (history submitsOnce) calls (activeTime issuedAt expiresAt)
      fun calls' _ => submissions calls' = 0 := by
  refine safe_observedTime_history.bind ?_
  rintro calls' t ⟨clock, rfl, hclock⟩
  exact safe_raiseIf_bind fun _ => safe_raiseIf fun _ =>
    submissions_concat h (by rw [hclock]; rfl)

/-- Along every run an order is submitted once at most, and a receipt is returned with its
proof. -/
theorem safe_resolveToFlat_history (p : DebitVerticalPermit) (receipt : OpenOrderReceipt)
    (c : ClosePermit) : Safe (history submitsOnce) [] (resolveToFlat p receipt c)
      (Proven p receipt c) := by
  refine (safe_activeTime_history rfl).bind fun calls' _ hzero => safe_ofExcept_bind fun _ _ =>
    safe_raiseIf_bind fun _ => safe_ofExcept_bind fun closeCall hclose =>
      (safe_settledOpen_settled hzero).bind fun calls'' order hsettled =>
        safe_raiseIf_bind fun _ => ?_
  split
  · rename_i hterminal
    exact safe_resolveCanceled_history hsettled hterminal
  · exact safe_resolveFilled_history hsettled hclose

end Steps

/-- Flatness is proved, not assumed: `resolve_to_flat` submits one order at most, and returns only
with readbacks of this call that show it flat. -/
theorem resolve_to_flat_proven {σ : Type} (answer : (op : paperSig.Op) → σ → paperSig.Res op × σ) (s : σ)
    (p : DebitVerticalPermit) (receipt : OpenOrderReceipt) (c : ClosePermit) :
    submissions (trace answer (resolveToFlat p receipt c) s) ≤ 1 ∧
    ((∃ e, (run answer (resolveToFlat p receipt c) s).1 = .error e) ∨
      ∃ r, (run answer (resolveToFlat p receipt c) s).1 = .ok r ∧
        Proven p receipt c (trace answer (resolveToFlat p receipt c) s) r) := by
  have hsafe := safe_resolveToFlat_history p receipt c
  refine ⟨hsafe.countP_le_one fun calls op hallowed => hallowed, ?_⟩
  cases hrun : (run answer (resolveToFlat p receipt c) s).1 with
  | error e => exact .inl ⟨e, rfl⟩
  | ok r => exact .inr ⟨r, rfl, hsafe.of_trace hrun⟩

end EsscherMarket.PaperDemo
