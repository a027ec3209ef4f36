import EsscherMarket.PaperDemo.Attempts

/-!
# The two checks of a permit's window

`run_paper_demo` admits a permit up to and including its expiry and then claims the attempt;
`McpPaperBroker` admits it only before its expiry.
-/

namespace EsscherMarket.PaperDemo

open Lib Execution Lifecycle Prog McpPaperBroker

section Trace

variable {σ α β : Type} {answer : (op : paperSig.Op) → σ → paperSig.Res op × σ} {s : σ}
  {x : (op : paperSig.Op) × paperSig.Res op}

def Marks (answer : (op : paperSig.Op) → σ → paperSig.Res op × σ) (p : PaperProg α) (s : σ) : Prop :=
  ∃ identity r, (⟨PaperOp.claim identity, r⟩ : (op : paperSig.Op) × paperSig.Res op) ∈
    trace answer p s

def Calls (answer : (op : paperSig.Op) → σ → paperSig.Res op × σ) (tool : String) (p : PaperProg α)
    (s : σ) : Prop :=
  ∃ arguments r, (⟨PaperOp.callTool tool arguments, r⟩ :
    (op : paperSig.Op) × paperSig.Res op) ∈ trace answer p s

def ClockStands (answer : (op : paperSig.Op) → σ → paperSig.Res op × σ) (t : DateTime) : Prop :=
  ∀ s, (answer PaperOp.clock s).1.1 = t

theorem mem_trace_raiseIf_bind {c : Prop} [Decidable c] {e : PaperError} {k : Unit → PaperProg β}
    (h : x ∈ trace answer (raiseIf c e >>= k) s) : ¬ c ∧ x ∈ trace answer (k ()) s := by
  by_cases hc : c
  · rw [raiseIf, if_pos hc] at h
    cases h
  · rw [raiseIf, if_neg hc] at h
    exact ⟨hc, h⟩

theorem mem_trace_ofExcept_bind {r : Except PaperError α} {k : α → PaperProg β}
    (h : x ∈ trace answer (ofExcept r >>= k) s) : ∃ a, r = .ok a ∧ x ∈ trace answer (k a) s := by
  cases r with
  | ok a => exact ⟨a, rfl, h⟩
  | error e => cases h

/-- The window check of the broker: one reading of the clock, and the rest only inside the
window. -/
theorem trace_activeTime_bind (issuedAt expiresAt : DateTime) (k : Unit → PaperProg β) :
    trace answer (activeTime issuedAt expiresAt >>= k) s =
      ⟨PaperOp.clock, (answer PaperOp.clock s).1⟩ ::
        if (answer PaperOp.clock s).1.1.isAware = true ∧
            issuedAt.micros ≤ (answer PaperOp.clock s).1.1.micros ∧
            (answer PaperOp.clock s).1.1.micros < expiresAt.micros then
          trace answer (k ()) (answer PaperOp.clock s).2
        else [] := by
  obtain ⟨⟨t, ht⟩, s', hs⟩ : ∃ r s', answer PaperOp.clock s = (r, s') := ⟨_, _, rfl⟩
  have hread : trace answer (activeTime issuedAt expiresAt >>= k) s =
      ⟨PaperOp.clock, (answer PaperOp.clock s).1⟩ :: trace answer
        (((raiseIf (¬ (answer PaperOp.clock s).1.1.isAware) .permitNotExecutable >>= fun _ =>
          (pure (answer PaperOp.clock s).1.1 : PaperProg DateTime)) >>= fun observedAt =>
            raiseIf (observedAt.micros < issuedAt.micros) .permitNotExecutable >>= fun _ =>
              raiseIf (expiresAt.micros ≤ observedAt.micros) .permitNotExecutable) >>= k)
        (answer PaperOp.clock s).2 := rfl
  rw [hread, hs]
  congr 1
  dsimp only
  by_cases haware : t.isAware = true
  · by_cases hissued : issuedAt.micros ≤ t.micros
    · by_cases hexpires : t.micros < expiresAt.micros
      · rw [if_pos ⟨haware, hissued, hexpires⟩, raiseIf, if_neg (not_not.mpr haware)]
        show trace answer ((raiseIf (t.micros < issuedAt.micros) .permitNotExecutable >>= fun _ =>
          raiseIf (expiresAt.micros ≤ t.micros) .permitNotExecutable) >>= k) s' = _
        rw [raiseIf, raiseIf, if_neg (not_lt.mpr hissued), if_neg (not_le.mpr hexpires)]
        rfl
      · rw [if_neg fun h => hexpires h.2.2, raiseIf, if_neg (not_not.mpr haware)]
        show trace answer ((raiseIf (t.micros < issuedAt.micros) .permitNotExecutable >>= fun _ =>
          raiseIf (expiresAt.micros ≤ t.micros) .permitNotExecutable) >>= k) s' = _
        rw [raiseIf, raiseIf, if_neg (not_lt.mpr hissued), if_pos (not_lt.mp hexpires)]
        rfl
    · rw [if_neg fun h => hissued h.2.1, raiseIf, if_neg (not_not.mpr haware)]
      show trace answer ((raiseIf (t.micros < issuedAt.micros) .permitNotExecutable >>= fun _ =>
        raiseIf (expiresAt.micros ≤ t.micros) .permitNotExecutable) >>= k) s' = _
      rw [raiseIf, if_pos (not_le.mp hissued)]
      rfl
  · rw [if_neg fun h => haware h.1, raiseIf, if_pos haware]
    rfl

end Trace

/-! ### The two checks at one instant -/

section Window

variable {σ : Type} {answer : (op : paperSig.Op) → σ → paperSig.Res op × σ} {s : σ} {t : DateTime}
  {p : DebitVerticalPermit} {c : ClosePermit}

/-- What the run has checked when it claims the attempt. -/
structure Admitted (p : DebitVerticalPermit) (c : ClosePermit) (t : DateTime) : Prop where
  aware : t.isAware = true
  opening : p.issuedAt.micros ≤ t.micros ∧ t.micros ≤ p.expiresAt.micros
  closing : c.issuedAt.micros ≤ t.micros ∧ t.micros ≤ c.expiresAt.micros
  openCall : ∃ call, buildOpenOrderCall p = .ok call
  closeCall : ∃ call, buildCloseOrderCall p c = .ok call

/-- A run that claims an attempt has admitted both permits. -/
theorem admitted_of_marks {iso : IsoReader} {prepared : PreparedHostMcpSession}
    {approval : PaperDemoApproval} (hclock : ClockStands answer t)
    (h : Marks answer (runPaperDemo iso prepared p c approval) s) : Admitted p c t := by
  obtain ⟨identity, r, hmem⟩ := h
  have hread : ∀ k : DateTime → PaperProg PaperReceiptBundle, trace answer (readClock >>= k) s =
      ⟨PaperOp.clock, (answer PaperOp.clock s).1⟩ ::
        trace answer (k (answer PaperOp.clock s).1.1) (answer PaperOp.clock s).2 := fun k => rfl
  rw [runPaperDemo, hread, hclock s] at hmem
  rcases List.mem_cons.mp hmem with heq | hmem
  · cases heq
  obtain ⟨haware, hmem⟩ := mem_trace_raiseIf_bind hmem
  obtain ⟨-, -, hmem⟩ := mem_trace_ofExcept_bind hmem
  obtain ⟨hopening, hmem⟩ := mem_trace_raiseIf_bind hmem
  obtain ⟨hclosing, hmem⟩ := mem_trace_raiseIf_bind hmem
  obtain ⟨openCall, hopen, hmem⟩ := mem_trace_ofExcept_bind hmem
  obtain ⟨closeCall, hclose, -⟩ := mem_trace_ofExcept_bind hmem
  exact ⟨not_not.mp haware, not_not.mp hopening, not_not.mp hclosing, ⟨openCall, hopen⟩,
    ⟨closeCall, hclose⟩⟩

structure OpenOrderReceipt.Opens (receipt : OpenOrderReceipt) (p : DebitVerticalPermit)
    (call : OpenOrderCall) : Prop where
  permitId : receipt.permitId = p.permitId
  eventRunId : receipt.eventRunId = p.eventRunId
  clientOrderId : receipt.clientOrderId = call.clientOrderId
  requestSha256 : receipt.requestSha256 = call.requestSha256

/-- `submit_open` submits exactly before the expiry of its permit. -/
theorem submitOpen_calls_iff (hclock : ClockStands answer t) (h : Admitted p c t) :
    Calls answer openTool (submitOpen p) s ↔ t.micros < p.expiresAt.micros := by
  obtain ⟨call, hcall⟩ := h.openCall
  have htrace := @trace_activeTime_bind σ OpenOrderReceipt answer s p.issuedAt p.expiresAt
    fun _ => ofExcept (buildOpenOrderCall p) >>= fun call =>
      submitAndReadback call "submission" "readback" >>= fun identity =>
      observedTime >>= fun observedAt => pure (⟨identity.orderId, identity.clientOrderId,
        identity.status, call.requestSha256, p.permitId, p.eventRunId, observedAt⟩ :
        OpenOrderReceipt)
  rw [hclock s] at htrace
  rw [Calls, submitOpen, htrace]
  by_cases hexpires : t.micros < p.expiresAt.micros
  · rw [if_pos ⟨h.aware, h.opening.1, hexpires⟩, hcall]
    refine ⟨fun _ => hexpires, fun _ => ⟨call.arguments,
      (answer (PaperOp.callTool openTool call.arguments) (answer PaperOp.clock s).2).1,
      List.mem_cons_of_mem _ ?_⟩⟩
    exact List.mem_cons_self
  · rw [if_neg fun hwindow => hexpires hwindow.2.2]
    refine ⟨?_, fun hlt => absurd hlt hexpires⟩
    rintro ⟨arguments, r, hmem⟩
    cases List.mem_singleton.mp hmem

/-- `resolve_to_flat` reads the order exactly before the expiry of the closing permit. -/
theorem resolveToFlat_calls_iff (hclock : ClockStands answer t) (h : Admitted p c t)
    {receipt : OpenOrderReceipt} {call : OpenOrderCall} (hcall : buildOpenOrderCall p = .ok call)
    (hreceipt : receipt.Opens p call) :
    Calls answer orderByIdTool (resolveToFlat p receipt c) s ↔ t.micros < c.expiresAt.micros := by
  obtain ⟨closeCall, hclose⟩ := h.closeCall
  have htrace := @trace_activeTime_bind σ PaperLifecycleReceipt answer s c.issuedAt c.expiresAt
    fun _ => ofExcept (buildOpenOrderCall p) >>= fun openCall =>
      raiseIf (receipt.permitId ≠ p.permitId ∨ receipt.eventRunId ≠ p.eventRunId ∨
        receipt.clientOrderId ≠ openCall.clientOrderId ∨
        receipt.requestSha256 ≠ openCall.requestSha256) .permitNotExecutable >>= fun _ =>
      ofExcept (buildCloseOrderCall p c) >>= fun closeCall =>
      settledOpen receipt >>= fun order =>
      raiseIf (order.status = "partially_filled") .manualRequired >>= fun _ =>
      if unfilledTerminalStatuses.contains order.status then resolveCanceled p c receipt order
      else resolveFilled p c receipt order closeCall
  rw [hclock s] at htrace
  have hsame : ¬ (receipt.permitId ≠ p.permitId ∨ receipt.eventRunId ≠ p.eventRunId ∨
      receipt.clientOrderId ≠ call.clientOrderId ∨ receipt.requestSha256 ≠ call.requestSha256) := by
    simp [hreceipt.permitId, hreceipt.eventRunId, hreceipt.clientOrderId, hreceipt.requestSha256]
  rw [Calls, resolveToFlat, htrace]
  by_cases hexpires : t.micros < c.expiresAt.micros
  · rw [if_pos ⟨h.aware, h.closing.1, hexpires⟩, hcall, hclose]
    refine ⟨fun _ => hexpires, fun _ => ⟨.obj [("order_id", .str receipt.brokerOrderId)],
      (answer (PaperOp.callTool orderByIdTool (.obj [("order_id", .str receipt.brokerOrderId)]))
        (answer PaperOp.clock s).2).1, List.mem_cons_of_mem _ ?_⟩⟩
    show _ ∈ trace answer (raiseIf _ _ >>= _) _
    rw [raiseIf, if_neg hsame]
    exact List.mem_cons_self
  · rw [if_neg fun hwindow => hexpires hwindow.2.2]
    refine ⟨?_, fun hlt => absurd hlt hexpires⟩
    rintro ⟨arguments, r, hmem⟩
    cases List.mem_singleton.mp hmem

/-- After the run's own checks the broker goes on exactly if neither permit expires at the very
instant. -/
theorem permit_windows_agree_iff (hclock : ClockStands answer t) {iso : IsoReader}
    {prepared : PreparedHostMcpSession} {approval : PaperDemoApproval}
    (h : Marks answer (runPaperDemo iso prepared p c approval) s) :
    ((∀ s, Calls answer openTool (submitOpen p) s) ∧
      ∀ s receipt call, buildOpenOrderCall p = .ok call → receipt.Opens p call →
        Calls answer orderByIdTool (resolveToFlat p receipt c) s) ↔
      t.micros ≠ p.expiresAt.micros ∧ t.micros ≠ c.expiresAt.micros := by
  have hadmitted := admitted_of_marks hclock h
  obtain ⟨call, hcall⟩ := hadmitted.openCall
  constructor
  · rintro ⟨hopening, hclosing⟩
    let receipt : OpenOrderReceipt :=
      ⟨"", call.clientOrderId, "", call.requestSha256, p.permitId, p.eventRunId, t⟩
    have hopen := (submitOpen_calls_iff hclock hadmitted).mp (hopening s)
    have hclose := (resolveToFlat_calls_iff hclock hadmitted hcall ⟨rfl, rfl, rfl, rfl⟩).mp
      (hclosing s receipt call hcall ⟨rfl, rfl, rfl, rfl⟩)
    exact ⟨hopen.ne, hclose.ne⟩
  · rintro ⟨hopening, hclosing⟩
    refine ⟨fun s => ?_, fun s receipt call hcall hreceipt => ?_⟩
    · exact (submitOpen_calls_iff hclock hadmitted).mpr
        (lt_of_le_of_ne hadmitted.opening.2 hopening)
    · exact (resolveToFlat_calls_iff hclock hadmitted hcall hreceipt).mpr
        (lt_of_le_of_ne hadmitted.closing.2 hclosing)

/-- A run whose checks pass claims the attempt. -/
theorem marks_of_admitted (hclock : ClockStands answer t) (h : Admitted p c t)
    {prepared : PreparedHostMcpSession} {approval : PaperDemoApproval}
    (happroval : validateApproval prepared p approval t = .ok ()) (iso : IsoReader) :
    Marks answer (runPaperDemo iso prepared p c approval) s := by
  obtain ⟨openCall, hopen⟩ := h.openCall
  obtain ⟨closeCall, hclose⟩ := h.closeCall
  have hread : ∀ k : DateTime → PaperProg PaperReceiptBundle, trace answer (readClock >>= k) s =
      ⟨PaperOp.clock, (answer PaperOp.clock s).1⟩ ::
        trace answer (k (answer PaperOp.clock s).1.1) (answer PaperOp.clock s).2 := fun k => rfl
  refine ⟨openCall.clientOrderId,
    (answer (PaperOp.claim openCall.clientOrderId) (answer PaperOp.clock s).2).1, ?_⟩
  rw [runPaperDemo, hread, hclock s, happroval, hopen, hclose]
  simp only [raiseIf, h.aware, h.opening, h.closing, not_true_eq_false, if_false, and_self]
  exact List.mem_cons_of_mem _ List.mem_cons_self

end Window

/-! ### The instant of the expiry -/

/-- The session of the concrete run at another time. -/
def standingAnswer (t : { t : DateTime // t.InRange }) :
    (op : paperSig.Op) → AttemptWorld → paperSig.Res op × AttemptWorld
  | .clock, s => (t, s)
  | .claim identity, s => demoAnswer (.utc 1100) (.claim identity) s
  | .callTool tool arguments, s => demoAnswer (.utc 1100) (.callTool tool arguments) s

def lateApproval : PaperDemoApproval :=
  ⟨demoPermit.permitId, digestA, .utc 1000, .utc 3000⟩

theorem admitted_demo {t : DateTime} (haware : t.isAware = true) (h : 1000 ≤ t.micros)
    (h' : t.micros ≤ 2000) : Admitted demoPermit demoClosePermit t :=
  ⟨haware, ⟨h, h'⟩, ⟨h, h'⟩, ⟨_, buildOpenOrderCall_demo⟩, ⟨_, buildCloseOrderCall_demo⟩⟩

theorem validateApproval_late {t : DateTime} (h : 1000 ≤ t.micros) (h' : t.micros < 3000) :
    validateApproval ⟨digestA⟩ demoPermit lateApproval t = .ok () := by
  have hwindow : ¬ (t.micros < lateApproval.approvedAt.micros ∨
      lateApproval.expiresAt.micros ≤ t.micros) := not_or.mpr ⟨not_lt.mpr h, not_le.mpr h'⟩
  simp only [validateApproval, except_bind_eq_ok, throwIf_eq_ok, not_not]
  exact ⟨(), rfl, (), rfl, (), rfl, (), rfl, hwindow⟩

theorem clockStands_standingAnswer (t : { t : DateTime // t.InRange }) :
    ClockStands (standingAnswer t) t.1 := fun _ => rfl

theorem marks_demo (t : { t : DateTime // t.InRange }) (haware : t.1.isAware = true)
    (h : 1000 ≤ t.1.micros) (h' : t.1.micros ≤ 2000) (s : AttemptWorld) :
    Marks (standingAnswer t)
      (runPaperDemo IsoReader.plain ⟨digestA⟩ demoPermit demoClosePermit lateApproval) s :=
  marks_of_admitted (clockStands_standingAnswer t) (admitted_demo haware h h')
    (validateApproval_late h (by omega)) _

theorem permit_windows_agree_iff_inside :
    Marks (standingAnswer ⟨.utc 1200, by decide⟩)
      (runPaperDemo IsoReader.plain ⟨digestA⟩ demoPermit demoClosePermit lateApproval)
      ⟨fun _ => false, []⟩ ∧
    ∀ s, Calls (standingAnswer ⟨.utc 1200, by decide⟩) openTool (submitOpen demoPermit) s :=
  have hmarks := marks_demo ⟨.utc 1200, by decide⟩ rfl (by decide) (by decide) ⟨fun _ => false, []⟩
  ⟨hmarks, ((permit_windows_agree_iff (clockStands_standingAnswer ⟨.utc 1200, by decide⟩)
    hmarks).mpr ⟨by decide, by decide⟩).1⟩

/-- At the instant at which the permits expire the attempt is claimed, and nothing is submitted. -/
theorem expiry_spends_the_attempt :
    Marks (standingAnswer ⟨.utc 2000, by decide⟩)
      (runPaperDemo IsoReader.plain ⟨digestA⟩ demoPermit demoClosePermit lateApproval)
      ⟨fun _ => false, []⟩ ∧
    ∀ s, ¬ Calls (standingAnswer ⟨.utc 2000, by decide⟩) openTool (submitOpen demoPermit) s := by
  refine ⟨marks_demo ⟨.utc 2000, by decide⟩ rfl (by decide) (by decide) _, fun s hcalls => ?_⟩
  have hlt := (submitOpen_calls_iff (clockStands_standingAnswer ⟨.utc 2000, by decide⟩)
    (admitted_demo rfl (by decide) (by decide))).mp hcalls
  exact absurd hlt (by decide)

end EsscherMarket.PaperDemo
