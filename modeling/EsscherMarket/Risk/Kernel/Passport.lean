import EsscherMarket.Risk.Kernel.Interleaving
import EsscherMarket.Risk.Ledger.Passport

/-!
# The passport over whole runs

Kernel methods and ledger methods append to the passport of one ledger file.
-/

namespace EsscherMarket.Risk

open Lib Execution Autonomy Prog

/-! ### What a kernel method writes -/

/-- A method that writes is handed mappings. -/
def LedgerOp.WellTyped : LedgerOp → Prop
  | .write c => c.WellTyped
  | _ => True

/-- A kernel method whose calls are handed mappings, whatever the ledger answers. -/
abbrev WritesMappings {α : Type} (p : KernelProg α) : Prop := Uses LedgerOp.WellTyped p

section WritesMappings

variable {α β : Type}

theorem writes_perform_bind {op : LedgerOp} {k : ledgerSig.Res op → KernelProg α}
    (hop : op.WellTyped) (h : ∀ r, WritesMappings (k r)) :
    WritesMappings (perform (S := ledgerSig) op >>= k) :=
  (uses_perform hop).bind h

theorem writes_ofExcept_bind {x : Except LedgerError α} {f : α → KernelProg β}
    (h : ∀ a, WritesMappings (f a)) : WritesMappings (ofExcept x >>= f) :=
  (uses_ofExcept x).bind h

theorem writes_raiseIf_bind {c : Prop} [Decidable c] {e : LedgerError} {k : Unit → KernelProg α}
    (h : WritesMappings (k ())) : WritesMappings (raiseIf c e >>= k) :=
  (uses_raiseIf c e).bind fun _ => h

theorem writes_ledgerWrite {c : LedgerCall} (hc : c.WellTyped) : WritesMappings (ledgerWrite c) :=
  writes_perform_bind hc fun r => uses_ofExcept r

theorem writes_ledgerWrite_bind {c : LedgerCall} {k : c.Res → KernelProg α} (hc : c.WellTyped)
    (h : ∀ r, WritesMappings (k r)) : WritesMappings (ledgerWrite c >>= k) :=
  (writes_ledgerWrite hc).bind h

/-- The receipt of a control state is three texts. -/
theorem writes_applyTrigger (trigger : ControlTrigger) (now : DateTime) :
    WritesMappings (applyTrigger trigger now) := by
  refine writes_perform_bind trivial fun r => ?_
  obtain ⟨current, reason⟩ := r
  refine writes_ofExcept_bind fun updated => ?_
  refine writes_ledgerWrite_bind ?_ fun _ => uses_pure updated
  exact isMapping_obj (by simp) (by simp [Json.wellFormed])

theorem writes_failClosed (trigger : ControlTrigger) (now : DateTime) (e : LedgerError) :
    WritesMappings (failClosed trigger now e : KernelProg α) :=
  (writes_applyTrigger trigger now).bind fun _ => uses_raise e

theorem writes_failClosedIf (c : Prop) [Decidable c] (trigger : ControlTrigger) (now : DateTime)
    (e : LedgerError) : WritesMappings (failClosedIf c trigger now e) := by
  unfold failClosedIf
  split
  · exact writes_failClosed trigger now e
  · exact uses_pure ()

theorem writes_failClosedIf_bind {c : Prop} [Decidable c] {trigger : ControlTrigger}
    {now : DateTime} {e : LedgerError} {k : Unit → KernelProg α} (h : WritesMappings (k ())) :
    WritesMappings (failClosedIf c trigger now e >>= k) :=
  (writes_failClosedIf c trigger now e).bind fun _ => h

theorem writes_orFailClosed (x : TruthRead α) (now : DateTime) :
    WritesMappings (orFailClosed x now) := by
  unfold orFailClosed
  split
  · exact uses_pure _
  · exact writes_failClosed _ _ _
  · exact writes_failClosed _ _ _

theorem writes_orFailRejected (x : TruthRead α) (now : DateTime) :
    WritesMappings (orFailRejected x now) := by
  unfold orFailRejected
  split
  · exact uses_pure _
  · exact writes_failClosed _ _ _
  · exact uses_raise _

theorem writes_startupReconciliation (policy : KernelPolicy) (truth : Truth) (now : DateTime) :
    WritesMappings (startupReconciliation policy truth now) := by
  refine writes_ofExcept_bind fun current => ?_
  split
  · exact writes_applyTrigger _ _
  · exact writes_applyTrigger _ _
  · split
    · exact writes_applyTrigger _ _
    · split
      · exact writes_applyTrigger _ _
      · refine writes_perform_bind trivial fun r => ?_
        obtain ⟨state, reason⟩ := r
        dsimp only
        split
        · exact uses_pure _
        · exact writes_applyTrigger _ _

theorem writes_validateCandidateBinding (policy : KernelPolicy)
    (eventId underlying candidateId : String) (compiled : CompiledExpression) :
    WritesMappings (validateCandidateBinding policy eventId underlying candidateId compiled) := by
  refine writes_ofExcept_bind fun event => writes_ofExcept_bind fun symbol => ?_
  refine writes_ofExcept_bind fun candidate => writes_ofExcept_bind fun compiledEvent => ?_
  refine writes_raiseIf_bind <| writes_ofExcept_bind fun compiledSymbol => ?_
  refine writes_raiseIf_bind <| writes_perform_bind trivial fun notRun => ?_
  refine writes_raiseIf_bind <| writes_perform_bind trivial fun found => ?_
  split
  · exact uses_raise _
  · refine writes_raiseIf_bind <| writes_ofExcept_bind fun decision => ?_
    exact writes_raiseIf_bind <| writes_raiseIf_bind <| writes_raiseIf_bind (uses_pure _)

theorem writes_requireEntryAllowed : WritesMappings requireEntryAllowed := by
  refine writes_perform_bind trivial fun r => ?_
  obtain ⟨state, reason⟩ := r
  exact writes_raiseIf_bind (uses_pure state)

theorem writes_entryPlan (policy : KernelPolicy) (a : EntryArgs) :
    WritesMappings (entryPlan policy a) := by
  refine writes_ofExcept_bind fun current => ?_
  cases policy with
  | v2 p => exact uses_raise _
  | v1 p =>
    refine writes_raiseIf_bind <| writes_raiseIf_bind ?_
    refine writes_requireEntryAllowed.bind fun state => ?_
    refine (writes_validateCandidateBinding _ _ _ _ _).bind fun binding => ?_
    obtain ⟨event, symbol, activePolicy⟩ := binding
    refine writes_ofExcept_bind fun _ => (writes_orFailClosed _ _).bind fun truth => ?_
    obtain ⟨account, positions, orders⟩ := truth
    refine writes_failClosedIf_bind <| writes_ofExcept_bind fun exposure => ?_
    refine writes_ofExcept_bind fun _ => ?_
    have hlosses : WritesMappings (checkEntryLosses p account current) := by
      refine writes_ledgerWrite_bind trivial fun _ => writes_perform_bind trivial fun peak => ?_
      exact writes_failClosedIf_bind <| writes_failClosedIf_bind (writes_failClosedIf _ _ _ _)
    have hconcentration : WritesMappings (checkConcentration p positions symbol exposure current) :=
      writes_perform_bind trivial fun read => writes_ofExcept_bind fun held =>
        writes_failClosedIf _ _ _ _
    refine hlosses.bind fun _ => hconcentration.bind fun _ => ?_
    exact writes_ofExcept_bind fun _ => uses_pure _

theorem writes_authorizeEntry (policy : KernelPolicy) (a : EntryArgs) :
    WritesMappings (authorizeEntry policy a) := by
  refine (writes_entryPlan policy a).bind fun plan => ?_
  obtain ⟨state, r⟩ := plan
  refine writes_ledgerWrite_bind trivial fun receipt => ?_
  obtain ⟨reservationId, issuedPermitId, permitSha256⟩ := receipt
  exact writes_raiseIf_bind (uses_pure _)

theorem writes_v2PortfolioOrFail (v : V2Truth) (policySha256 : String) (now : DateTime) :
    WritesMappings (v2PortfolioOrFail v policySha256 now) := by
  have hportfolio : WritesMappings (v2Portfolio v policySha256) := by
    refine writes_perform_bind trivial fun nonV2 : Bool => writes_raiseIf_bind ?_
    refine writes_perform_bind trivial fun rows => writes_ofExcept_bind fun book => ?_
    refine writes_raiseIf_bind <| writes_perform_bind trivial fun known => ?_
    exact writes_ofExcept_bind fun _ => writes_ofExcept_bind fun portfolio => uses_pure _
  refine hportfolio.tryCatch fun e => ?_
  split
  · exact writes_failClosed _ _ _
  · exact writes_failClosed _ _ _
  · exact uses_raise _

theorem writes_previewAllocationV2 (policy : KernelPolicy) (o : DefinedRiskOpportunity)
    (compiled : CompiledExpression) (truth : Truth) (now : DateTime) :
    WritesMappings (previewAllocationV2 policy o compiled truth now) := by
  refine writes_ofExcept_bind fun current => writes_ofExcept_bind fun p => ?_
  refine writes_ofExcept_bind fun _ => writes_requireEntryAllowed.bind fun state => ?_
  refine writes_ofExcept_bind fun _ => writes_ofExcept_bind fun symbol => ?_
  refine writes_ofExcept_bind fun _ => (writes_orFailClosed _ _).bind fun v => ?_
  refine writes_failClosedIf_bind <| (writes_v2PortfolioOrFail _ _ _).bind fun portfolio => ?_
  obtain ⟨portfolio, existing⟩ := portfolio
  exact writes_ofExcept_bind fun d => uses_pure _

theorem writes_entryPlanV2 (policy : KernelPolicy) (a : EntryV2Args) :
    WritesMappings (entryPlanV2 policy a) := by
  refine writes_ofExcept_bind fun current => writes_ofExcept_bind fun p => ?_
  refine writes_ofExcept_bind fun _ => writes_requireEntryAllowed.bind fun state => ?_
  refine writes_ofExcept_bind fun _ => writes_ofExcept_bind fun event => ?_
  refine writes_ofExcept_bind fun candidate => writes_ofExcept_bind fun symbol => ?_
  refine writes_ofExcept_bind fun compiledEvent => writes_raiseIf_bind ?_
  refine writes_ofExcept_bind fun _ => ?_
  refine (writes_validateCandidateBinding _ _ _ _ _).bind fun binding => ?_
  obtain ⟨event, symbol, activePolicy⟩ := binding
  refine writes_ofExcept_bind fun _ => writes_ofExcept_bind fun terms => ?_
  obtain ⟨quantity, maxLoss⟩ := terms
  refine (writes_orFailClosed _ _).bind fun v => writes_failClosedIf_bind ?_
  refine (writes_v2PortfolioOrFail _ _ _).bind fun portfolio => ?_
  obtain ⟨portfolio, existing⟩ := portfolio
  exact writes_ofExcept_bind fun d => uses_ofExcept _

theorem writes_authorizeEntryV2 (policy : KernelPolicy) (a : EntryV2Args) :
    WritesMappings (authorizeEntryV2 policy a) := by
  refine (writes_entryPlanV2 policy a).bind fun plan => ?_
  cases plan with
  | abstain a => exact uses_pure _
  | reserve state tier r =>
    exact writes_ledgerWrite_bind trivial fun receipt => writes_raiseIf_bind (uses_pure _)

theorem writes_reconcileFill (policy : KernelPolicy) (eventId permitId : String)
    (fill : OrderSnapshot) (truth : Truth) (now : DateTime) :
    WritesMappings (reconcileFill policy eventId permitId fill truth now) := by
  refine writes_ofExcept_bind fun current => (writes_orFailRejected _ _).bind fun observed => ?_
  refine writes_failClosedIf_bind <| Uses.tryCatch (writes_ledgerWrite ?_) fun e => ?_
  · trivial
  split
  · exact writes_failClosed _ _ _
  · exact uses_raise _

theorem writes_reconcileFlat (policy : KernelPolicy) (eventId permitId : String) (truth : Truth)
    (now : DateTime) : WritesMappings (reconcileFlat policy eventId permitId truth now) := by
  refine writes_ofExcept_bind fun current => writes_perform_bind trivial fun found => ?_
  split
  · exact uses_raise _
  · refine writes_ofExcept_bind fun symbol => (writes_orFailRejected _ _).bind fun observed => ?_
    obtain ⟨positions, orders⟩ := observed
    exact writes_failClosedIf_bind <| writes_failClosedIf_bind (writes_ledgerWrite trivial)

/-- Every kernel method hands mappings to its ledger. -/
theorem writes_kernelCall (policy : KernelPolicy) (c : KernelCall) :
    WritesMappings (c.prog policy) := by
  cases c with
  | applyTrigger trigger now => exact (writes_applyTrigger trigger now).bind fun _ => uses_pure ()
  | startupReconciliation truth now =>
    exact (writes_startupReconciliation policy truth now).bind fun _ => uses_pure ()
  | freezeCandidate eventId candidateId compiled evidenceMode now =>
    refine writes_ofExcept_bind fun current => writes_ofExcept_bind fun event => ?_
    refine writes_ofExcept_bind fun candidate => writes_ofExcept_bind fun compiledEvent => ?_
    refine writes_raiseIf_bind <| writes_ofExcept_bind fun decision => ?_
    exact writes_ofExcept_bind fun mode => writes_ledgerWrite trivial
  | markNotRun eventId reason now =>
    refine writes_ofExcept_bind fun event => writes_ofExcept_bind fun why => ?_
    exact writes_ofExcept_bind fun current => writes_ledgerWrite trivial
  | authorizeEntry a => exact (writes_authorizeEntry policy a).bind fun _ => uses_pure ()
  | previewAllocationV2 o compiled truth now =>
    exact (writes_previewAllocationV2 policy o compiled truth now).bind fun _ => uses_pure ()
  | authorizeEntryV2 a => exact (writes_authorizeEntryV2 policy a).bind fun _ => uses_pure ()
  | recordSubmission eventId permitId brokerOrderId now =>
    exact writes_ofExcept_bind fun current => writes_ledgerWrite trivial
  | reconcileFill eventId permitId fill truth now =>
    exact writes_reconcileFill policy eventId permitId fill truth now
  | reconcileFlat eventId permitId truth now =>
    exact writes_reconcileFlat policy eventId permitId truth now

end WritesMappings

/-! ### One connection -/

/-- The row that `append_passport` inserts after the head it reads. -/
def nextPassportRow (eventType : String) (payload : Json) (now : DateTime) (s : Ledger) :
    Except LedgerError PassportRow := do
  let event ← identifier eventType "passport.event_type"
  let created ← timestamp now "passport.created_at"
  return passportRow s event payload created

def insertPassportRow (row : PassportRow) (s : Ledger) : Ledger :=
  s.withPassportEvents (s.passportEvents ++ [row])

/-- `append_passport`: one event outside a wider transaction; returns its hash. -/
def appendPassportEvent (eventType : String) (payload : Json) (now : DateTime) :
    LedgerTxn String := do
  let s ← Txn.select id
  let row ← Txn.lift (nextPassportRow eventType payload now s)
  Txn.write (insertPassportRow row)
  return row.eventSha256

/-- What one connection can be asked to do. -/
inductive PassportCall where
  | ledger (c : LedgerCall)
  | kernel (policy : KernelPolicy) (c : KernelCall)
  | appendPassport (eventType : String) (payload : Json) (now : DateTime)

namespace PassportCall

def exec (s : Ledger) : PassportCall → Ledger
  | ledger c => c.exec s
  | kernel policy c => (run ledgerAnswer (c.prog policy) s).2
  | appendPassport eventType payload now => Txn.after (appendPassportEvent eventType payload now) s

/-- A payload is a mapping with texts as keys. -/
def WellTyped : PassportCall → Prop
  | ledger c => c.WellTyped
  | kernel _ _ => True
  | appendPassport _ payload _ => IsMapping payload

end PassportCall

theorem nextPassportRow_eq {eventType : String} {payload : Json} {now : DateTime} {s : Ledger}
    {row : PassportRow} (h : nextPassportRow eventType payload now s = .ok row) :
    row = rowAfter s.passportEvents eventType payload now := by
  obtain ⟨event, hevent, h⟩ := except_bind_eq_ok.mp h
  obtain ⟨created, hcreated, h⟩ := except_bind_eq_ok.mp h
  cases h
  rw [(identifier_eq_ok.mp hevent).2, (timestamp_eq_ok.mp hcreated).2]
  rfl

theorem atomic_appendPassportEvent (eventType : String) (payload : Json) (now : DateTime) :
    Txn.Atomic (appendPassportEvent eventType payload now) := by
  refine Txn.atomic_select_bind fun s => Txn.atomic_lift_bind fun row => ?_
  intro s₁ e s₂ h
  cases h

theorem grows_appendPassportEvent (eventType : String) {payload : Json}
    (hpayload : IsMapping payload) (now : DateTime) :
    Grows (appendPassportEvent eventType payload now) := by
  intro rows s hash s' h hok
  have hread := Txn.select_bind_eq_ok.mp hok
  obtain ⟨row, hrow, hwrite⟩ := Txn.lift_bind_eq_ok.mp hread
  have hreturn := Txn.write_bind_eq_ok.mp hwrite
  obtain ⟨-, rfl⟩ := Txn.pure_eq_ok.mp hreturn
  rw [nextPassportRow_eq hrow]
  exact ⟨h.intents, h.passport.append eventType hpayload now⟩

variable {rows : List PassportRow} {s : Ledger}

/-- What a call appends, on one connection. -/
theorem grown_passportCall {c : PassportCall} (hc : c.WellTyped) (h : Grown rows s) :
    Grown rows (c.exec s) := by
  cases c with
  | ledger c => exact grown_exec hc h
  | kernel policy c =>
    refine (writes_kernelCall policy c).run_inv (fun op s' hop hs' => ?_) h
    cases op with
    | write call => exact grown_exec hop hs'
    | _ => exact hs'
  | appendPassport eventType payload now =>
    exact (grows_appendPassportEvent eventType hc now rows).after
      (atomic_appendPassportEvent eventType payload now) h

theorem grown_run (calls : List PassportCall) (hcalls : ∀ c ∈ calls, c.WellTyped)
    (h : Grown rows s) : Grown rows (calls.foldl PassportCall.exec s) := by
  induction calls generalizing s with
  | nil => exact h
  | cons c rest ih =>
    have hstep := grown_passportCall (hcalls c List.mem_cons_self) h
    exact ih (fun d hd => hcalls d (List.mem_cons_of_mem c hd)) hstep

namespace July

def passportNow : DateTime := .utc 1782918000000000

end July

/-! ### Several connections -/

section Shared

variable {ι : Type} [DecidableEq ι]

/-- One ledger file; a connection may be between the two statements of `append_passport`, with the
row it is about to insert. -/
structure SharedLedger (ι : Type) where
  store : Ledger
  pending : ι → Option PassportRow

/-- A statement or a transaction of one connection. -/
inductive SharedStep (ι : Type) where
  /-- a ledger method, whose transaction runs alone -/
  | call (i : ι) (c : LedgerCall)
  /-- `append_passport` reads the head -/
  | readHead (i : ι) (eventType : String) (payload : Json) (now : DateTime)
  /-- `append_passport` inserts its row -/
  | insert (i : ι)

namespace SharedLedger

def empty : SharedLedger ι := ⟨Ledger.empty, fun _ => none⟩

/-- A connection that is between two statements can do nothing but insert. -/
def exec (s : SharedLedger ι) : SharedStep ι → SharedLedger ι
  | .call i c =>
    match s.pending i with
    | none => { s with store := c.exec s.store }
    | some _ => s
  | .readHead i eventType payload now =>
    match s.pending i, nextPassportRow eventType payload now s.store with
    | none, .ok row => { s with pending := Function.update s.pending i (some row) }
    | _, _ => s
  | .insert i =>
    match s.pending i with
    | some row => ⟨insertPassportRow row s.store, Function.update s.pending i none⟩
    | none => s

def Current (s : SharedLedger ι) : SharedStep ι → Prop
  | .insert i => ∀ row ∈ s.pending i, row.prevSha256 = previousOf s.store.passportEvents
  | _ => True

def AllCurrent (s : SharedLedger ι) : List (SharedStep ι) → Prop
  | [] => True
  | step :: rest => s.Current step ∧ (s.exec step).AllCurrent rest

end SharedLedger

/-- A payload is a mapping with texts as keys. -/
def SharedStep.WellTyped : SharedStep ι → Prop
  | call _ c => c.WellTyped
  | readHead _ _ payload _ => IsMapping payload
  | insert _ => True

/-- What every state over one file has: payloads are mappings, and a row that is about to be
inserted carries its own hash. -/
structure SharedOk (s : SharedLedger ι) : Prop where
  intents : IntentsOk s.store
  payloads : ∀ row ∈ s.store.passportEvents, IsMapping row.payload
  pending : ∀ i, ∀ row ∈ s.pending i, IsMapping row.payload ∧ SelfHashed row

omit [DecidableEq ι] in
theorem SharedOk.verifies_iff {s : SharedLedger ι} (h : SharedOk s) :
    s.store.PassportVerifies ↔ Reads s.store.passportEvents :=
  passportVerifies_iff h.payloads

/-- What a step keeps, what it does to the rows, and when they read after it. -/
structure SharedSpec (s s' : SharedLedger ι) (current : Prop) : Prop where
  ok : SharedOk s'
  rows : s.store.passportEvents <+: s'.store.passportEvents
  reads : Reads s.store.passportEvents → (Reads s'.store.passportEvents ↔ current)

omit [DecidableEq ι] in
/-- A step that does nothing to the file. -/
theorem SharedOk.idle {s s' : SharedLedger ι} {current : Prop} (hs' : SharedOk s')
    (hstore : s'.store = s.store) (hcurrent : current) : SharedSpec s s' current := by
  refine ⟨hs', ?_, ?_⟩
  · rw [hstore]
  · rw [hstore]
    exact fun h => ⟨fun _ => hcurrent, fun _ => h⟩

/-- One step. -/
theorem SharedOk.step {s : SharedLedger ι} {step : SharedStep ι} (h : SharedOk s)
    (hstep : step.WellTyped) : SharedSpec s (s.exec step) (s.Current step) := by
  cases step with
  | call i c =>
    cases hpending : s.pending i with
    | some row =>
      have hsame : s.exec (.call i c) = s := by simp [SharedLedger.exec, hpending]
      rw [hsame]
      exact h.idle rfl trivial
    | none =>
      have hexec : s.exec (.call i c) = { s with store := c.exec s.store } := by
        simp [SharedLedger.exec, hpending]
      have hgrown : Grown s.store.passportEvents (c.exec s.store) :=
        grown_exec hstep ⟨h.intents, .refl⟩
      rw [hexec]
      refine ⟨⟨hgrown.intents, hgrown.passport.payloads h.payloads, h.pending⟩,
        hgrown.passport.prefix, fun hreads => ?_⟩
      exact ⟨fun _ => trivial, fun _ => hgrown.passport.reads hreads⟩
  | readHead i eventType payload now =>
    cases hpending : s.pending i with
    | some row =>
      have hsame : s.exec (.readHead i eventType payload now) = s := by
        simp [SharedLedger.exec, hpending]
      rw [hsame]
      exact h.idle rfl trivial
    | none =>
      cases hnext : nextPassportRow eventType payload now s.store with
      | error e =>
        have hsame : s.exec (.readHead i eventType payload now) = s := by
          simp [SharedLedger.exec, hpending, hnext]
        rw [hsame]
        exact h.idle rfl trivial
      | ok row =>
        have hexec : s.exec (.readHead i eventType payload now) =
            { s with pending := Function.update s.pending i (some row) } := by
          simp [SharedLedger.exec, hpending, hnext]
        have hrow := nextPassportRow_eq hnext
        rw [hexec]
        refine SharedOk.idle ⟨h.intents, h.payloads, fun j r hr => ?_⟩ rfl trivial
        by_cases hj : j = i
        · subst hj
          dsimp only at hr
          rw [Function.update_self, Option.mem_some_iff] at hr
          rw [← hr, hrow]
          exact ⟨hstep, rfl⟩
        · dsimp only at hr
          rw [Function.update_of_ne hj] at hr
          exact h.pending j r hr
  | insert i =>
    cases hpending : s.pending i with
    | none =>
      have hsame : s.exec (.insert i) = s := by simp [SharedLedger.exec, hpending]
      rw [hsame]
      refine h.idle rfl fun row hrow => ?_
      rw [hpending] at hrow
      cases hrow
    | some row =>
      have hexec : s.exec (.insert i) =
          ⟨insertPassportRow row s.store, Function.update s.pending i none⟩ := by
        simp [SharedLedger.exec, hpending]
      obtain ⟨hpayload, hhash⟩ := h.pending i row hpending
      have hcurrent : s.Current (.insert i) ↔
          row.prevSha256 = previousOf s.store.passportEvents := by
        constructor
        · exact fun hall => hall row hpending
        · intro hprev r hr
          rw [hpending, Option.mem_some_iff] at hr
          rw [← hr]
          exact hprev
      rw [hexec]
      refine ⟨⟨h.intents, ?_, ?_⟩, List.prefix_append _ _, fun hreads => ?_⟩
      · intro r hr
        rcases List.mem_append.mp hr with hr | hr
        · exact h.payloads r hr
        · rw [List.mem_singleton.mp hr]
          exact hpayload
      · intro j r hr
        by_cases hj : j = i
        · subst hj
          dsimp only at hr
          rw [Function.update_self] at hr
          cases hr
        · dsimp only at hr
          rw [Function.update_of_ne hj] at hr
          exact h.pending j r hr
      · rw [hcurrent]
        exact reads_concat hhash hreads

theorem SharedOk.run {s : SharedLedger ι} (steps : List (SharedStep ι)) (h : SharedOk s)
    (hsteps : ∀ step ∈ steps, step.WellTyped) :
    SharedOk (steps.foldl SharedLedger.exec s) ∧
      s.store.passportEvents <+: (steps.foldl SharedLedger.exec s).store.passportEvents := by
  induction steps generalizing s with
  | nil => exact ⟨h, List.prefix_refl _⟩
  | cons step rest ih =>
    have hstep := h.step (hsteps step List.mem_cons_self)
    obtain ⟨hok, hrows⟩ := ih hstep.ok fun r hr => hsteps r (List.mem_cons_of_mem step hr)
    exact ⟨hok, hstep.rows.trans hrows⟩

/-- A run: the rows read at its end exactly if every insert was current. -/
theorem sharedReads_iff {s : SharedLedger ι} (steps : List (SharedStep ι)) (h : SharedOk s)
    (hsteps : ∀ step ∈ steps, step.WellTyped) (hreads : Reads s.store.passportEvents) :
    Reads (steps.foldl SharedLedger.exec s).store.passportEvents ↔ s.AllCurrent steps := by
  induction steps generalizing s with
  | nil => exact ⟨fun _ => trivial, fun _ => hreads⟩
  | cons step rest ih =>
    have hstep := h.step (hsteps step List.mem_cons_self)
    have hrest : ∀ r ∈ rest, r.WellTyped := fun r hr => hsteps r (List.mem_cons_of_mem step hr)
    rw [List.foldl_cons, SharedLedger.AllCurrent, ← hstep.reads hreads]
    constructor
    · intro hlast
      -- rows are appended only, so a link that does not read stays where it is
      have hnow := hlast.of_prefix (hstep.ok.run rest hrest).2
      exact ⟨hnow, (ih hstep.ok hrest hnow).mp hlast⟩
    · rintro ⟨hnow, hcurrent⟩
      exact (ih hstep.ok hrest hnow).mpr hcurrent

omit [DecidableEq ι] in
theorem sharedOk_empty : SharedOk (SharedLedger.empty : SharedLedger ι) :=
  ⟨fun _ h => (List.not_mem_nil h).elim, fun _ h => (List.not_mem_nil h).elim,
    fun _ _ h => (Option.not_mem_none _ h).elim⟩

end Shared

namespace July

/-- Both connections read the empty passport before either inserts. -/
def bothRead : List (SharedStep Bool) :=
  [.readHead false "ABSTAINED" reasonPayload passportNow,
    .readHead true "ABSTAINED" reasonPayload passportNow, .insert false, .insert true]

def inTurn : List (SharedStep Bool) :=
  [.readHead false "ABSTAINED" reasonPayload passportNow, .insert false,
    .readHead true "ABSTAINED" reasonPayload passportNow, .insert true]

theorem reasonPayload_isMapping : IsMapping reasonPayload := ⟨rfl, by decide⟩

theorem bothRead_wellTyped : ∀ step ∈ bothRead, step.WellTyped := by
  simp [bothRead, SharedStep.WellTyped, reasonPayload_isMapping]

end July

end EsscherMarket.Risk
