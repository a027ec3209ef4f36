import EsscherMarket.Runtime.HostReceipts

/-!
# When a command returns its receipt

The encoder of a receipt refuses the key `CLAIMED` and the code `MUTATION_GATE_CLOSED`, and both can
be in the store.  `Clean` says that neither is, and `Answers` what the backends must not do.
-/

namespace EsscherMarket.Runtime

open Lib Prog

/-! ### Clean sessions -/

/-- The session has no claimed opportunity and no reason `MUTATION_GATE_CLOSED`. -/
structure Clean (sid : String) (s : SessionStore) : Prop where
  claimed : ∀ row ∈ s.opportunities, row.sessionId = sid → row.state ≠ .claimed
  reasons : ∀ m ∈ s.manualReasons, m.sessionId = sid → m.reasonCode ≠ .mutationGateClosed

/-- The operations that keep every session clean. -/
def Neat : CoordinatorOp → Prop
  | .store (.claim ..) => False
  | .store (.manual _ reason ..) => reason ≠ .mutationGateClosed
  | _ => True

section Clean

variable {K : Contracts} {sid : String} {s : SessionStore}

theorem Clean.setOpportunity (h : Clean sid s) {sid' oid : String}
    {f : OpportunityRow → OpportunityRow} {d : AutonomousDisposition} (hf : Disposes f d) :
    Clean sid (setOpportunity sid' oid f s) := by
  refine ⟨fun r hr hsid => ?_, h.reasons⟩
  obtain ⟨r₀, hr₀, rfl⟩ := mem_setOpportunity.mp hr
  by_cases hkey : r₀.key = (sid', oid)
  · rw [if_pos hkey, hf.state]
    simp
  · rw [if_neg hkey] at hsid ⊢
    exact h.claimed r₀ hr₀ hsid

theorem Clean.lifecycles (h : Clean sid s) (ls : List LifecycleRow) :
    Clean sid { s with lifecycles := ls } := ⟨h.claimed, h.reasons⟩

theorem Clean.disposed (h : Clean sid s) (row : OpportunityRow) {ls : List LifecycleRow}
    {f : OpportunityRow → OpportunityRow} {d : AutonomousDisposition} (hf : Disposes f d) :
    Clean sid (Runtime.setOpportunity row.sessionId row.opportunityId f
      { s with opportunities := s.opportunities ++ [row], lifecycles := ls }) := by
  refine ⟨fun r hr hsid => ?_, h.reasons⟩
  obtain ⟨r₀, hr₀, rfl⟩ := mem_setOpportunity.mp hr
  by_cases hkey : r₀.key = (row.sessionId, row.opportunityId)
  · rw [if_pos hkey, hf.state]
    simp
  · rw [if_neg hkey] at hsid ⊢
    rcases List.mem_append.mp hr₀ with hr₀ | hr₀
    · exact h.claimed r₀ hr₀ hsid
    · exact absurd (congrArg OpportunityRow.key (List.mem_singleton.mp hr₀)) hkey

theorem mem_markedReasons {reason : ReasonCode} {t : DateTime} {oid lid : Option String}
    {rows : List ManualReasonRow} {m : ManualReasonRow}
    (h : m ∈ markedReasons sid reason t oid lid rows) : m ∈ rows ∨ m.reasonCode = reason := by
  unfold markedReasons at h
  split at h
  · exact .inl h
  · rcases List.mem_append.mp h with h | h
    · exact .inl h
    · rw [List.mem_singleton.mp h]
      exact .inr rfl

theorem Clean.marked (h : Clean sid s) {sid' : String} {reason : ReasonCode} {t : DateTime}
    {oid lid : Option String} (hreason : reason ≠ .mutationGateClosed) :
    Clean sid (setSession sid' .manualReconciliationRequired
      { s with manualReasons := markedReasons sid' reason t oid lid s.manualReasons }) := by
  refine ⟨h.claimed, fun m hm hsid => ?_⟩
  rcases mem_markedReasons hm with hm | hm
  · exact h.reasons m hm hsid
  · rw [hm]
    exact hreason

theorem Clean.exec (h : Clean sid s) {op : StoreOp} (hop : Neat (.store op)) :
    Clean sid (op.exec K s) := by
  rcases (op.atomic_txn K).after_cases s with ⟨a, hok⟩ | hsame
  · show Clean sid ((op.txn K).after s)
    generalize (op.txn K).after s = s₁ at hok
    cases op with
    | ensureArm arm =>
      rcases (ensureArm_eq_ok.mp hok).2 with ⟨_, -, -, -, rfl⟩ | ⟨-, rfl⟩
      · exact h
      · exact ⟨h.claimed, h.reasons⟩
    | claim arm o t => exact hop.elim
    | terminalFlat arm o proof t =>
      obtain ⟨row, -, ⟨-, rfl⟩ | ⟨-, f, hf, rfl⟩⟩ := terminalFlatPart_ok hok
      · exact h
      · exact h.setOpportunity hf
    | disposition arm o d t =>
      obtain ⟨row, -, ⟨-, rfl⟩ | ⟨-, f, hf, rfl⟩⟩ := dispositionPart_ok hok
      · exact h
      · exact h.setOpportunity hf
    | active arm o l t =>
      obtain ⟨row, -, ⟨-, rfl⟩ | ⟨-, -, -, -, -, -, f, t', hf, rfl⟩⟩ := activePart_ok hok
      · exact h
      · exact (h.lifecycles _).setOpportunity hf
    | lifecycleTerminalFlat arm l proof t =>
      obtain ⟨row, -, -, -, ⟨-, rfl⟩ | ⟨-, o, f, t', -, -, hf, rfl⟩⟩ :=
        lifecycleTerminalFlatPart_ok hok
      · exact h
      · exact (h.lifecycles _).setOpportunity hf
    | manual arm reason t oid lid =>
      obtain ⟨-, -, -, -, rfl⟩ := manualPart_eq_ok.mp hok
      exact h.marked hop
    | finalize arm t =>
      obtain ⟨-, ⟨-, rfl⟩ | ⟨-, -, -, rfl⟩⟩ := finalizePart_eq_ok.mp hok
      · exact h
      · exact ⟨h.claimed, h.reasons⟩
  · rw [show op.exec K s = s from hsame]
    exact h

end Clean

/-! ### Summaries -/

/-- Every stored summary carries its digest, and the instant of its finalization in UTC. -/
def SummaryInv (s : SessionStore) : Prop :=
  ∀ v ∈ s.summaries, isLowerHex 64 v.summary.summarySha256 = true ∧
    isUtc v.summary.finalizedAt = true

theorem due_of_ne {op : StoreOp} (hfinalize : ∀ arm t, op ≠ .finalize arm t)
    (hflat : ∀ arm l proof t, op ≠ .lifecycleTerminalFlat arm l proof t) :
    Due op.arm (.store op) := by
  cases op with
  | finalize arm t => exact absurd rfl (hfinalize arm t)
  | lifecycleTerminalFlat arm l proof t => exact absurd rfl (hflat arm l proof t)
  | _ => rfl

theorem SummaryInv.exec {K : Contracts} {s : SessionStore} (h : SummaryInv s) (op : StoreOp) :
    SummaryInv (op.exec K s) := by
  rcases (op.atomic_txn K).after_cases s with ⟨a, hok⟩ | hsame
  · cases op with
    | finalize arm t =>
      show SummaryInv (((StoreOp.finalize arm t).txn K).after s)
      generalize ((StoreOp.finalize arm t).txn K).after s = s₁ at hok
      obtain ⟨-, ⟨-, rfl⟩ | ⟨-, -, rfl, rfl⟩⟩ := finalizePart_eq_ok.mp hok
      · exact h
      · intro v hv
        rcases List.mem_append.mp hv with hv | hv
        · exact h v hv
        · rw [List.mem_singleton.mp hv]
          exact ⟨Json.isLowerHex_sha256 _, rfl⟩
    | lifecycleTerminalFlat arm l proof t =>
      show SummaryInv (((StoreOp.lifecycleTerminalFlat arm l proof t).txn K).after s)
      generalize ((StoreOp.lifecycleTerminalFlat arm l proof t).txn K).after s = s₁ at hok
      obtain ⟨row, -, -, -, ⟨-, rfl⟩ | ⟨-, o, f, t', -, -, -, rfl⟩⟩ :=
        lifecycleTerminalFlatPart_ok hok
      · exact h
      · exact h
    | _ =>
      unfold SummaryInv
      rw [summaries_exec (due_of_ne (by simp) (by simp))]
      exact h
  · rw [show op.exec K s = s from hsame]
    exact h

theorem SummaryInv.runOps {K : Contracts} {s : SessionStore} (hs : StoreInv s) (h : SummaryInv s)
    (ops : List StoreOp) : SummaryInv (runOps K s ops) := by
  induction ops generalizing s with
  | nil => exact h
  | cons op ops ih =>
    refine ih (op.call_inv K hs) ?_
    rcases op.call_cases K hs with hcall | ⟨-, hcall⟩
    · rw [hcall]
      exact h
    · rw [hcall]
      exact (h.exec _).exec _

/-! ### Recording a claimed opportunity -/

section Record

variable {E : Type} {K : Contracts} {P : Ports E} {arm : AutonomousSessionArm}
  {o : AutonomousOpportunity} {t : DateTime} {s s' : SessionStore} {w : World E}

theorem claimPart_valid {state : AutonomousClaimState} (h : claimPart K arm o t s = .ok state s') :
    validateOpportunity K o arm = .ok () ∧ isUtc t = true := by
  simp only [claimPart, Txn.lift_bind_eq_ok, utcDatetime_eq_ok] at h
  obtain ⟨_, hvalid, _, ⟨hutc, -⟩, -⟩ := h
  exact ⟨hvalid, hutc⟩

theorem terminalFlatPart_new {proof : String} (hvalid : validateOpportunity K o arm = .ok ())
    (hproof : digest proof "terminal_flat_proof_sha256" = .ok ()) (ht : isUtc t = true)
    {row : OpportunityRow} (hrow : s.opportunity arm.sessionId o.opportunityId = some row)
    (hsha : row.opportunitySha256 = o.opportunitySha256) (hclaimed : row.state = .claimed) :
    ∃ f, Disposes f .terminalFlat ∧ terminalFlatPart K arm o proof t s =
      .ok () (setOpportunity arm.sessionId o.opportunityId f s) := by
  refine ⟨fun r => { r with
    state := .disposed .terminalFlat, terminalFlatProofSha256 := some proof,
    updatedAt := .utc t.micros }, ⟨fun _ => rfl, fun _ => rfl, fun _ => rfl, fun _ _ => rfl⟩, ?_⟩
  simp only [terminalFlatPart, Txn.lift_bind_eq_ok, Txn.immediate_eq_ok]
  refine ⟨(), hvalid, (), hproof, _, utcDatetime_eq_ok.mpr ⟨ht, rfl⟩, ?_⟩
  refine Txn.bind_eq_ok.mpr ⟨row, s, requireOpportunity_eq_ok.mpr ⟨hrow, hsha, rfl⟩, ?_⟩
  rw [if_neg (by simp [hclaimed]), Txn.raiseIf_bind_eq_ok, Txn.write_eq_ok]
  exact ⟨not_not.mpr hclaimed, rfl⟩

theorem dispositionPart_new {d : RecordableDisposition}
    (hvalid : validateOpportunity K o arm = .ok ()) (ht : isUtc t = true) {row : OpportunityRow}
    (hrow : s.opportunity arm.sessionId o.opportunityId = some row)
    (hsha : row.opportunitySha256 = o.opportunitySha256) (hclaimed : row.state = .claimed) :
    ∃ f, Disposes f d.1 ∧ dispositionPart K arm o d t s =
      .ok () (setOpportunity arm.sessionId o.opportunityId f s) := by
  have hd : d.1 ≠ .terminalFlat := by
    intro hd
    have hrec := d.2
    rw [hd] at hrec
    cases hrec
  refine ⟨fun r => { r with state := .disposed d.1, updatedAt := .utc t.micros },
    ⟨fun _ => rfl, fun _ => rfl, fun _ => rfl, fun h => absurd h hd⟩, ?_⟩
  simp only [dispositionPart, Txn.lift_bind_eq_ok, Txn.immediate_eq_ok]
  refine ⟨(), hvalid, _, utcDatetime_eq_ok.mpr ⟨ht, rfl⟩, ?_⟩
  refine Txn.bind_eq_ok.mpr ⟨row, s, requireOpportunity_eq_ok.mpr ⟨hrow, hsha, rfl⟩, ?_⟩
  rw [if_neg (by simp [hclaimed]), Txn.raiseIf_bind_eq_ok, Txn.write_eq_ok]
  exact ⟨not_not.mpr hclaimed, rfl⟩

def withClaim (arm : AutonomousSessionArm) (o : AutonomousOpportunity) (t : DateTime)
    (s : SessionStore) : SessionStore :=
  { s with opportunities := s.opportunities ++ [newOpportunity arm o (.utc t.micros)] }

structure JustClaimed (K : Contracts) (arm : AutonomousSessionArm) (o : AutonomousOpportunity)
    (t : DateTime) (s : SessionStore) : Prop where
  ready : Ready K arm s
  clean : Clean arm.sessionId s
  valid : validateOpportunity K o arm = .ok ()
  utc : isUtc t = true
  new : s.opportunity arm.sessionId o.opportunityId = none

theorem JustClaimed.row (h : JustClaimed K arm o t s) :
    (withClaim arm o t s).opportunity arm.sessionId o.opportunityId =
      some (newOpportunity arm o (.utc t.micros)) := by
  show (s.opportunities ++ _).find? _ = _
  rw [List.find?_append, show s.opportunities.find? _ = none from h.new]
  simp [newOpportunity]

theorem JustClaimed.bound (h : JustClaimed K arm o t s) : Bound K arm (withClaim arm o t s) :=
  ⟨h.ready.bound.valid, h.ready.bound.stored⟩

theorem JustClaimed.first (h : JustClaimed K arm o t s) :
    (withClaim arm o t s).lifecycleForOpportunity arm.sessionId o.opportunityId = none := by
  refine SessionStore.lifecycleForOpportunity_eq_none.mpr fun l hl hkey => ?_
  obtain ⟨r, hr, hrkey, -⟩ := h.ready.inv.attributed l hl
  exact SessionStore.opportunity_eq_none.mp h.new r hr (hrkey.trans hkey)

/-- A transaction that gives the opportunity its disposition leaves the session clean. -/
theorem JustClaimed.record (h : JustClaimed K arm o t s) (op : StoreOp) {u : op.Res}
    {ls : List LifecycleRow} {f : OpportunityRow → OpportunityRow} {d : AutonomousDisposition}
    (hf : Disposes f d) (hw : w.store = withClaim arm o t s)
    (htxn : op.txn K (withClaim arm o t s) = .ok u (setOpportunity arm.sessionId o.opportunityId f
      { withClaim arm o t s with lifecycles := ls })) :
    ∃ s', (do let () ← transact (.ensureArm arm); transact op : CoordinatorProg op.Res).run
      (S := coordinatorSig) (World.answer K P) w = (.ok u, { w with store := s' }) ∧
        Clean arm.sessionId s' := by
  have hensure : (StoreOp.ensureArm arm).txn K w.store = .ok () w.store :=
    hw ▸ h.bound.ensureArm
  have htxn' : op.txn K w.store = .ok u (setOpportunity arm.sessionId o.opportunityId f
      { withClaim arm o t s with lifecycles := ls }) := by
    rw [hw]
    exact htxn
  refine ⟨_, run_bind (run_transact hensure) (run_transact htxn'), ?_⟩
  exact h.clean.disposed (newOpportunity arm o (.utc t.micros)) hf

/-- A valid result of a claimed opportunity is recorded, an active one under a lifecycle that
the store does not hold. -/
theorem JustClaimed.recordResult (h : JustClaimed K arm o t s) {v : CandidateProcessingResult}
    (hw : w.store = withClaim arm o t s) (hvalid : validateProcessingResult v ⟨arm, o, t⟩ = .ok ())
    (hfresh : ∀ l, v.activeLifecycle = some l → s.lifecycle arm.sessionId l.lifecycleId = none) :
    ∃ s', (recordResult arm o t v).run (S := coordinatorSig) (World.answer K P) w =
      (.ok (), { w with store := s' }) ∧ Clean arm.sessionId s' := by
  simp only [validateProcessingResult, except_bind_eq_ok] at hvalid
  obtain ⟨_, -, _, -, _, -, _, hlifecycle, hshape⟩ := hvalid
  have hdispose : ∀ d : RecordableDisposition, ∃ s', (do
      let _ ← transact (.ensureArm arm)
      transact (.disposition arm o d t) : CoordinatorProg Unit).run (S := coordinatorSig)
        (World.answer K P) w = (.ok (), { w with store := s' }) ∧ Clean arm.sessionId s' := by
    intro d
    obtain ⟨f, hf, htxn⟩ := dispositionPart_new (d := d) h.valid h.utc h.row rfl rfl
    exact h.record (.disposition arm o d t) hf hw htxn
  unfold Runtime.recordResult
  unfold validateResultShape at hshape
  cases hd : v.disposition with
  | terminalFlat =>
    rw [hd] at hshape
    obtain ⟨_, -, hproof⟩ := except_bind_eq_ok.mp hshape
    obtain ⟨f, hf, htxn⟩ := terminalFlatPart_new h.valid hproof h.utc h.row rfl rfl
    exact h.record (.terminalFlat arm o _ t) hf hw htxn
  | active =>
    rw [hd] at hshape
    have hshape := throwIf_eq_ok.mp hshape
    push Not at hshape
    obtain ⟨l, hl⟩ := Option.ne_none_iff_exists'.mp hshape.2.2.1
    simp only [validateResultLifecycle, hl, except_bind_eq_ok, throwIf_eq_ok, not_or,
      not_not] at hlifecycle
    obtain ⟨_, hcheck, hsession, hopportunity, hsha⟩ := hlifecycle
    have htxn := activePart_new (s := withClaim arm o t s) h.valid h.utc hsession hopportunity hsha
      hcheck h.row rfl rfl (hfresh l hl) h.first
    have hf : Disposes (fun r : OpportunityRow => { r with
        state := .disposed .active, updatedAt := .utc t.micros }) .active :=
      ⟨fun _ => rfl, fun _ => rfl, fun _ => rfl, fun hd => (by cases hd)⟩
    dsimp only
    rw [hl]
    exact h.record (.active arm o l t) hf hw htxn
  | abstained => exact hdispose ⟨.abstained, rfl⟩
  | rejectedBeforeMutation => exact hdispose ⟨.rejectedBeforeMutation, rfl⟩
  | manualReconciliationRequired => exact hdispose ⟨.manualReconciliationRequired, rfl⟩

end Record

/-! ### What the backends must not do -/

/-- The answers that keep a session clean: valid results without `MUTATION_GATE_CLOSED`, and a last
reconciliation that is refused with another allowlisted code only. -/
def Answers {E : Type} (P : Ports E) (R : HostReconciler) : CoordinatorOp → World E → Prop
  | .process r, w =>
    ∃ v, accepted (validateProcessingResult · r) (P.process r w.env).1 = some v ∧
      (∀ l, v.activeLifecycle = some l →
        w.store.lifecycle r.arm.sessionId l.lifecycleId = none) ∧
      (v.disposition = .manualReconciliationRequired ∨ v.freeze = true →
        v.reasonCode ≠ some .mutationGateClosed)
  | .closeAndReconcile r, w =>
    ∀ v, accepted (validateCloseResult · r) (P.closeAndReconcile r w.env).1 = some v →
      v.reasonCode ≠ some .mutationGateClosed
  | .reconcile r, _ =>
    r.phase ≠ "STARTUP" → ∀ failure, R.reconcileWithTruth r = .error failure →
      ∃ reason, ReasonCode.ofText failure.reasonCode = some reason ∧ reason ≠ .mutationGateClosed
  | _, _ => True

/-- A session that is ready for a run, and clean. -/
structure Tidy {E : Type} (K : Contracts) (arm : AutonomousSessionArm) (w : World E) : Prop where
  ready : Ready K arm w.store
  clean : Clean arm.sessionId w.store

section Tidy

variable {E : Type} {K : Contracts} {P : Ports E} {R : HostReconciler}
  {arm : AutonomousSessionArm} {o : AutonomousOpportunity} {t : DateTime} {w : World E}

theorem Tidy.answer (h : Tidy K arm w) {op : CoordinatorOp} (hop : Neat op) :
    Tidy K arm (World.answer K P op w).2 := by
  cases op with
  | store op => exact ⟨h.ready.exec op, h.clean.exec hop⟩
  | _ => exact ⟨h.ready, h.clean⟩

/-- A program of neat operations keeps the session tidy. -/
theorem tidy_of_neat {ε α : Type} {p : Prog coordinatorSig ε α}
    (hp : Uses (S := coordinatorSig) Neat p) :
    Keeps (S := coordinatorSig) (World.answer K P) (Answers P R) (Tidy K arm) p :=
  hp.keeps fun _ _ hop hw => hw.answer hop

theorem neat_markManual {reason : ReasonCode} (hreason : reason ≠ .mutationGateClosed)
    (oid lid : Option String) :
    Uses (S := coordinatorSig) Neat (markManual arm reason t oid lid) :=
  (uses_transact trivial).bind fun _ => uses_transact hreason

theorem neat_fromStore (processed : List String) :
    Uses (S := coordinatorSig) Neat (fromStore arm t processed) :=
  (uses_readStore trivial).bind fun _ => (uses_readStore trivial).bind fun _ => uses_pure _

theorem getD_ne_gate {reason : Option ReasonCode} (other : ReasonCode)
    (h : reason ≠ some .mutationGateClosed) (hother : other ≠ .mutationGateClosed) :
    reason.getD other ≠ .mutationGateClosed := by
  cases reason with
  | none => exact hother
  | some reason => exact fun heq => h (congrArg some heq)

/-! Hard flat. -/

/-- What `closeLifecycle` does once its answer is accepted or not. -/
def closeAfter (arm : AutonomousSessionArm) (t : DateTime) (l : ActiveLifecycleIdentity)
    (answer : Option LifecycleCloseResult) : CoordinatorProg Unit :=
  match answer with
  | none => markManual arm .hardFlatUnresolved t (some l.opportunityId) (some l.lifecycleId)
  | some result =>
    if result.disposition = .terminalFlat then
      recordLifecycleTerminalFlat arm l (result.terminalFlatProofSha256.getD "") t
    else
      markManual arm (result.reasonCode.getD .hardFlatUnresolved) t (some l.opportunityId)
        (some l.lifecycleId)

theorem tidy_closeLifecycle (l : ActiveLifecycleIdentity) :
    Keeps (S := coordinatorSig) (World.answer K P) (Answers P R) (Tidy K arm)
      (closeLifecycle arm t l) := by
  refine Keeps.perform_bind (fun w hw => hw.answer trivial) fun w hw hanswer => ?_
  have hanswer : ∀ v, accepted (validateCloseResult · ⟨arm, l, t⟩)
      (P.closeAndReconcile ⟨arm, l, t⟩ w.env).1 = some v →
      v.reasonCode ≠ some .mutationGateClosed := hanswer
  show Keeps (S := coordinatorSig) _ _ _ (closeAfter arm t l
    (accepted (validateCloseResult · ⟨arm, l, t⟩) (P.closeAndReconcile ⟨arm, l, t⟩ w.env).1))
  cases haccepted : accepted (validateCloseResult · ⟨arm, l, t⟩)
      (P.closeAndReconcile ⟨arm, l, t⟩ w.env).1 with
  | none => exact tidy_of_neat (neat_markManual (by decide) _ _)
  | some v =>
    dsimp only [closeAfter]
    split
    · exact tidy_of_neat ((uses_transact trivial).bind fun _ => uses_transact trivial)
    · exact tidy_of_neat (neat_markManual (getD_ne_gate _ (hanswer v haccepted) (by decide)) _ _)

theorem tidy_closeLifecycles (ls : List ActiveLifecycleIdentity) :
    Keeps (S := coordinatorSig) (World.answer K P) (Answers P R) (Tidy K arm)
      (closeLifecycles arm t ls) := by
  induction ls with
  | nil => exact keeps_pure ()
  | cons l ls ih => exact (tidy_closeLifecycle l).bind fun _ => ih

theorem tidy_runHardFlat :
    Keeps (S := coordinatorSig) (World.answer K P) (Answers P R) (Tidy K arm)
      (runHardFlat arm t) := by
  have hrest : Uses (S := coordinatorSig) Neat
      (do let _ ← finalizeSession arm t; fromStore arm t []) :=
    ((uses_transact trivial).bind fun _ => uses_transact trivial).bind fun _ => neat_fromStore _
  unfold runHardFlat
  refine (tidy_of_neat (uses_readStore trivial)).bind fun summary => ?_
  split
  · exact tidy_of_neat (neat_fromStore _)
  refine (tidy_of_neat (uses_readStore trivial)).bind fun active => ?_
  refine (keeps_ofExcept active).bind fun ls => (tidy_closeLifecycles ls).bind fun _ => ?_
  refine (tidy_of_neat (uses_readStore trivial)).bind fun remaining => ?_
  split
  · exact tidy_of_neat ((neat_markManual (by decide) _ _).bind fun _ => hrest)
  · exact tidy_of_neat hrest

/-! Candidates. -/

theorem neat_afterRecord {v : CandidateProcessingResult} {processed : List String}
    (hreason : v.disposition = .manualReconciliationRequired ∨ v.freeze = true →
      v.reasonCode ≠ some .mutationGateClosed) : Uses (S := coordinatorSig) Neat
    (if v.disposition = .manualReconciliationRequired then do
        markManual arm (v.reasonCode.getD .portOutputInvalid) t (some o.opportunityId) none
        return .stop processed
      else if v.freeze then do
        markManual arm (v.reasonCode.getD .riskFreeze) t (some o.opportunityId) none
        return .stop processed
      else return .next processed : CoordinatorProg Flow) := by
  split
  · rename_i hmanual
    have hne := getD_ne_gate .portOutputInvalid (hreason (.inl hmanual)) (by decide)
    exact (neat_markManual hne _ _).bind fun _ => uses_pure _
  · split
    · rename_i hfreeze
      have hne := getD_ne_gate .riskFreeze (hreason (.inr hfreeze)) (by decide)
      exact (neat_markManual hne _ _).bind fun _ => uses_pure _
    · exact uses_pure _

/-- What `processOpportunity` does once its answer is accepted or not. -/
def processAfter (arm : AutonomousSessionArm) (t : DateTime) (processed : List String)
    (o : AutonomousOpportunity) (answer : Option CandidateProcessingResult) :
    CoordinatorProg Flow :=
  match answer with
  | none => do
    markManual arm .claimRecoveryUnknown t (some o.opportunityId) none
    return .stop processed
  | some result => do
    recordResult arm o t result
    let processed := processed ++ [o.opportunityId]
    if result.disposition = .manualReconciliationRequired then do
      markManual arm (result.reasonCode.getD .portOutputInvalid) t (some o.opportunityId) none
      return .stop processed
    else if result.freeze then do
      markManual arm (result.reasonCode.getD .riskFreeze) t (some o.opportunityId) none
      return .stop processed
    else return .next processed

/-- One candidate. Its claim is resolved by the time the next one is looked at. -/
theorem tidy_processOpportunity (processed : List String) (o : AutonomousOpportunity) :
    Keeps (S := coordinatorSig) (World.answer K P) (Answers P R) (Tidy K arm)
      (processOpportunity arm t processed o) := by
  intro w hw hcalls
  have hensure : (StoreOp.ensureArm arm).txn K w.store = .ok () w.store := hw.ready.bound.ensureArm
  have hclaim : (claimOpportunity arm o t).run (S := coordinatorSig) (World.answer K P) w =
      (((StoreOp.claim arm o t).txn K).result w.store,
        { w with store := (StoreOp.claim arm o t).exec K w.store }) :=
    run_bind (run_transact hensure) (run_transact_eq _)
  cases hresult : ((StoreOp.claim arm o t).txn K).result w.store with
  | error e =>
    have hexec : (StoreOp.claim arm o t).exec K w.store = w.store :=
      ((StoreOp.claim arm o t).atomic_txn K).after_of_error hresult
    rw [hresult, hexec] at hclaim
    refine Ends.of_run (Q := fun _ (w' : World E) => Tidy K arm w') ?_ rfl
    refine ends_bind (Q := fun r w' => r = .error e ∧ w' = w) (ends_of_run hclaim ⟨rfl, rfl⟩) ?_ ?_
    · rintro state w' ⟨hstate, -⟩
      cases hstate
    · rintro e' w' ⟨-, rfl⟩
      exact hw
  | ok state =>
    obtain ⟨s₁, hok⟩ := Txn.of_result_ok hresult
    have hexec : (StoreOp.claim arm o t).exec K w.store = s₁ := Txn.after_of_ok hok
    rw [hresult, hexec] at hclaim
    have hrest := hcalls.right hclaim
    rw [processOpportunity, run_bind hclaim rfl]
    rcases claimPart_ok hok with ⟨_, -, hne, rfl⟩ | ⟨hnone, rfl, rfl⟩
    · rw [if_pos hne]
      exact hw
    · obtain ⟨hvalid, hutc⟩ := claimPart_valid hok
      have hjust : JustClaimed K arm o t w.store := ⟨hw.ready, hw.clean, hvalid, hutc, hnone⟩
      rw [if_neg (not_not.mpr rfl)] at hrest ⊢
      obtain ⟨⟨v, haccepted, hfresh, hreason⟩, hrest⟩ := hrest.of_perform_bind
      let w₁ : World E := { w with store := withClaim arm o t w.store }
      let w₂ := w₁.called (.process ⟨arm, o, t⟩) (P.process ⟨arm, o, t⟩ w.env).2
      have hrest : Along (S := coordinatorSig) (World.answer K P) (Answers P R)
          (processAfter arm t processed o (accepted (validateProcessingResult · ⟨arm, o, t⟩)
            (P.process ⟨arm, o, t⟩ w.env).1)) w₂ := hrest
      show Tidy K arm ((processAfter arm t processed o
        (accepted (validateProcessingResult · ⟨arm, o, t⟩)
          (P.process ⟨arm, o, t⟩ w.env).1)).run (S := coordinatorSig) (World.answer K P) w₂).2
      have haccepted : accepted (validateProcessingResult · ⟨arm, o, t⟩)
          (P.process ⟨arm, o, t⟩ w.env).1 = some v := haccepted
      rw [haccepted, processAfter] at hrest ⊢
      obtain ⟨s₂, hrecord, hclean⟩ := hjust.recordResult (P := P) (w := w₂) rfl
        (accepted_eq_some.mp haccepted).2 hfresh
      have hinv := (StoreOp.claim arm o t).exec_inv K hw.ready.inv
      rw [hexec] at hinv
      have hready := Ready.run (P := P) (w := w₂) ⟨hinv, hjust.bound⟩ (recordResult arm o t v)
      rw [hrecord] at hready
      rw [run_bind hrecord rfl]
      exact tidy_of_neat (R := R) (neat_afterRecord hreason) _ ⟨hready, hclean⟩
        (hrest.right hrecord)

theorem tidy_processOpportunities (os : List AutonomousOpportunity) (processed : List String) :
    Keeps (S := coordinatorSig) (World.answer K P) (Answers P R) (Tidy K arm)
      (processOpportunities arm t os processed) := by
  induction os generalizing processed with
  | nil => exact keeps_pure _
  | cons o os ih =>
    refine (tidy_processOpportunity processed o).bind fun flow => ?_
    cases flow with
    | next processed => exact ih processed
    | stop processed => exact keeps_pure _

theorem tidy_processWindows (ws : List AutonomousWindow) (processed : List String) :
    Keeps (S := coordinatorSig) (World.answer K P) (Answers P R) (Tidy K arm)
      (processWindows K arm t ws processed) := by
  induction ws generalizing processed with
  | nil => exact keeps_pure _
  | cons window ws ih =>
    refine Keeps.perform_bind (fun w hw => hw.answer trivial) fun w hw _ => ?_
    refine (keeps_ofExcept _).bind fun collected => (keeps_ofExcept _).bind fun unique => ?_
    refine (tidy_processOpportunities _ processed).bind fun flow => ?_
    cases flow with
    | next processed => exact ih processed
    | stop processed => exact keeps_pure _

/-! A run. -/

theorem tidy_runDue :
    Keeps (S := coordinatorSig) (World.answer K P) (Answers P R) (Tidy K arm)
      (runDue K arm t) := by
  unfold runDue
  refine (tidy_of_neat (uses_readStore trivial)).bind fun active => ?_
  refine Keeps.perform_bind (fun w hw => hw.answer trivial) fun w hw _ => ?_
  split
  · exact tidy_of_neat ((neat_markManual (by decide) _ _).bind fun _ => neat_fromStore _)
  · exact (tidy_processWindows _ _).bind fun flow => tidy_of_neat (neat_fromStore _)

theorem tidy_runArmed :
    Keeps (S := coordinatorSig) (World.answer K P) (Answers P R) (Tidy K arm)
      (runArmed K arm t) := by
  unfold runArmed
  refine (tidy_of_neat (uses_readStore trivial)).bind fun claimed => ?_
  split
  · exact tidy_of_neat ((neat_markManual (by decide) _ _).bind fun _ => neat_fromStore _)
  split
  · exact tidy_runHardFlat
  refine (tidy_of_neat (uses_readStore trivial)).bind fun state => ?_
  split
  · exact tidy_of_neat (neat_fromStore _)
  · exact tidy_runDue

theorem tidy_run (c : Coordinator) :
    Keeps (S := coordinatorSig) (World.answer K P) (Answers P R) (Tidy K c.arm) (c.run K t) := by
  refine (keeps_ofExcept _).bind fun _ => (keeps_ofExcept _).bind fun t' => ?_
  have hensure : Neat (.store (.ensureArm c.arm)) := trivial
  exact (tidy_of_neat (uses_transact hensure)).bind fun _ => tidy_runArmed

end Tidy

/-! ### Identifiers of processed opportunities -/

section Ids

variable {E : Type} {K : Contracts} {P : Ports E} {arm : AutonomousSessionArm}
  {o : AutonomousOpportunity} {t : DateTime} {w w' : World E} {processed : List String}

def Identified (ids : List String) : Prop := ∀ id ∈ ids, isIdentifier id = true

theorem identified_nil : Identified [] := fun _ h => nomatch h

theorem isIdentifier_of_claim {state : AutonomousClaimState}
    (h : (claimOpportunity arm o t).run (S := coordinatorSig) (World.answer K P) w =
      (.ok state, w')) : isIdentifier o.opportunityId = true := by
  obtain ⟨_, w₁, -, h⟩ := run_bind_ok h
  obtain ⟨hresult, -⟩ := Prod.mk.inj ((run_transact_eq _).symm.trans h)
  obtain ⟨s₁, hok⟩ := Txn.of_result_ok hresult
  have hvalid := (claimPart_valid hok).1
  simp only [validateOpportunity, identifier, except_bind_eq_ok, throwIf_eq_ok] at hvalid
  obtain ⟨_, -, _, -, _, hid, -⟩ := hvalid
  simpa using hid

theorem processOpportunity_ids {flow : Flow} (hids : Identified processed)
    (h : (processOpportunity arm t processed o).run (S := coordinatorSig) (World.answer K P) w =
      (.ok flow, w')) : Identified flow.processed := by
  obtain ⟨state, w₁, hclaim, h⟩ := run_bind_ok h
  have hid := isIdentifier_of_claim hclaim
  have hmore : Identified (processed ++ [o.opportunityId]) := by
    intro id hmem
    rcases List.mem_append.mp hmem with hmem | hmem
    · exact hids id hmem
    · rw [List.mem_singleton.mp hmem]
      exact hid
  split at h
  · cases h
    exact hids
  obtain ⟨answer, w₂, -, h⟩ := run_bind_ok h
  split at h
  · obtain ⟨_, w₃, -, h⟩ := run_bind_ok h
    cases h
    exact hids
  · obtain ⟨_, w₃, -, h⟩ := run_bind_ok h
    dsimp only at h
    split at h
    · obtain ⟨_, w₄, -, h⟩ := run_bind_ok h
      cases h
      exact hmore
    · split at h
      · obtain ⟨_, w₄, -, h⟩ := run_bind_ok h
        cases h
        exact hmore
      · cases h
        exact hmore

theorem processOpportunities_ids {os : List AutonomousOpportunity} {flow : Flow}
    (hids : Identified processed)
    (h : (processOpportunities arm t os processed).run (S := coordinatorSig) (World.answer K P) w =
      (.ok flow, w')) : Identified flow.processed := by
  induction os generalizing w processed with
  | nil =>
    cases h
    exact hids
  | cons o os ih =>
    obtain ⟨one, w₁, hone, h⟩ := run_bind_ok h
    have hids₁ := processOpportunity_ids hids hone
    cases one with
    | next processed => exact ih hids₁ h
    | stop processed =>
      cases h
      exact hids₁

theorem processWindows_ids {ws : List AutonomousWindow} {flow : Flow} (hids : Identified processed)
    (h : (processWindows K arm t ws processed).run (S := coordinatorSig) (World.answer K P) w =
      (.ok flow, w')) : Identified flow.processed := by
  induction ws generalizing w processed with
  | nil =>
    cases h
    exact hids
  | cons window ws ih =>
    obtain ⟨answer, w₁, -, h⟩ := run_bind_ok h
    obtain ⟨collected, -, h⟩ := run_ofExcept_bind_ok h
    obtain ⟨unique, -, h⟩ := run_ofExcept_bind_ok h
    obtain ⟨one, w₂, hone, h⟩ := run_bind_ok h
    have hids₁ := processOpportunities_ids hids hone
    cases one with
    | next processed => exact ih hids₁ h
    | stop processed =>
      cases h
      exact hids₁

theorem fromStore_ids {result : AutonomousRunResult}
    (h : (fromStore arm t processed).run (S := coordinatorSig) (World.answer K P) w =
      (.ok result, w')) : result.processedOpportunityIds = processed := by
  cases h
  rfl

/-- A manual mark, or any other program, before an empty result. -/
theorem fromStore_ids_nil {α : Type} {p : CoordinatorProg α} {result : AutonomousRunResult}
    (h : (do let _ ← p; fromStore arm t []).run (S := coordinatorSig) (World.answer K P) w =
      (.ok result, w')) : Identified result.processedOpportunityIds := by
  obtain ⟨_, w₁, -, h⟩ := run_bind_ok h
  rw [fromStore_ids h]
  exact identified_nil

theorem runHardFlat_ids {result : AutonomousRunResult}
    (h : (runHardFlat arm t).run (S := coordinatorSig) (World.answer K P) w = (.ok result, w')) :
    Identified result.processedOpportunityIds := by
  obtain ⟨summary, w₁, -, h⟩ := run_bind_ok h
  split at h
  · rw [fromStore_ids h]
    exact identified_nil
  obtain ⟨active, w₂, -, h⟩ := run_bind_ok h
  obtain ⟨ls, -, h⟩ := run_ofExcept_bind_ok h
  obtain ⟨_, w₃, -, h⟩ := run_bind_ok h
  obtain ⟨remaining, w₄, -, h⟩ := run_bind_ok h
  split at h
  · obtain ⟨_, w₅, -, h⟩ := run_bind_ok h
    exact fromStore_ids_nil h
  · exact fromStore_ids_nil h

theorem runDue_ids {result : AutonomousRunResult}
    (h : (runDue K arm t).run (S := coordinatorSig) (World.answer K P) w = (.ok result, w')) :
    Identified result.processedOpportunityIds := by
  obtain ⟨active, w₁, -, h⟩ := run_bind_ok h
  obtain ⟨answer, w₂, -, h⟩ := run_bind_ok h
  split at h
  · exact fromStore_ids_nil h
  · obtain ⟨flow, w₃, hflow, h⟩ := run_bind_ok h
    rw [fromStore_ids h]
    exact processWindows_ids identified_nil hflow

theorem run_ids {c : Coordinator} {result : AutonomousRunResult}
    (h : (c.run K t).run (S := coordinatorSig) (World.answer K P) w = (.ok result, w')) :
    Identified result.processedOpportunityIds := by
  obtain ⟨_, -, h⟩ := run_ofExcept_bind_ok h
  obtain ⟨t', -, h⟩ := run_ofExcept_bind_ok h
  obtain ⟨_, w₁, -, h⟩ := run_bind_ok h
  obtain ⟨claimed, w₂, -, h⟩ := run_bind_ok h
  split at h
  · exact fromStore_ids_nil h
  split at h
  · exact runHardFlat_ids h
  obtain ⟨state, w₃, -, h⟩ := run_bind_ok h
  split at h
  · rw [fromStore_ids h]
    exact identified_nil
  · exact runDue_ids h

end Ids

/-! ### The points of a command -/

section Points

variable {E : Type} {K : Contracts} {P : Ports E} {R : HostReconciler} {c : Coordinator}
  {t : DateTime} {w : World E} {points : List DateTime}

/-- A point always returns, with the mark of a run that raised. -/
theorem observe_returns (h : Ready K c.arm w.store) (hutc : isUtc t = true) : ∃ new w',
    (observe K c t).run (S := coordinatorSig) (World.answer K P) w = (.ok new, w') ∧
      Identified new := by
  have hready := h.run (P := P) (c.run K t)
  cases hrun : (c.run K t).run (S := coordinatorSig) (World.answer K P) w with
  | mk r w₁ =>
    rw [hrun] at hready
    have hattempt := run_attempt_of (δ := SessionError) hrun
    cases r with
    | ok result => exact ⟨_, _, run_bind hattempt rfl, run_ids hrun⟩
    | error e =>
      have hmark : (do
          markManual c.arm .portException t none none
          return [] : CoordinatorProg (List String)).run (S := coordinatorSig)
            (World.answer K P) w₁ = (.ok [], _) :=
        run_bind (run_markManual hready.bound hutc rfl rfl) rfl
      exact ⟨[], _, run_bind hattempt hmark, identified_nil⟩

theorem observeAll_returns (h : Ready K c.arm w.store) (hutc : ∀ t ∈ points, isUtc t = true)
    {processed : List String} (hids : Identified processed) : ∃ new w',
    (observeAll K c points processed).run (S := coordinatorSig) (World.answer K P) w =
      (.ok new, w') ∧ Identified new := by
  induction points generalizing w processed with
  | nil => exact ⟨processed, w, rfl, hids⟩
  | cons t rest ih =>
    obtain ⟨new, w₁, hobserve, hnew⟩ := observe_returns (P := P) h (hutc t List.mem_cons_self)
    have hready := h.run (P := P) (observe K c t)
    rw [hobserve] at hready
    have hmore : Identified (processed ++ new) := by
      intro id hid
      rcases List.mem_append.mp hid with hid | hid
      · exact hids id hid
      · exact hnew id hid
    obtain ⟨new', w₂, hrest, hnew'⟩ :=
      ih hready (fun t' ht => hutc t' (List.mem_cons_of_mem _ ht)) hmore
    exact ⟨new', w₂, run_bind hobserve hrest, hnew'⟩

theorem observePoints_returns (h : Ready K c.arm w.store) (hutc : ∀ t ∈ points, isUtc t = true) :
    ∃ processed w', (observePoints K c points).run (S := coordinatorSig) (World.answer K P) w =
      (.ok processed, w') ∧ Identified processed := by
  unfold observePoints
  cases hsummary : w.store.finalSummary c.arm.sessionId with
  | some summary =>
    refine ⟨[], w, ?_, identified_nil⟩
    refine run_bind (show _ = (Except.ok (some summary), w) from ?_) rfl
    rw [← hsummary]
    rfl
  | none =>
    obtain ⟨processed, w', hrun, hids⟩ :=
      observeAll_returns (P := P) h hutc identified_nil
    refine ⟨processed, w', ?_, hids⟩
    refine run_bind (show _ = (Except.ok none, w) from ?_) hrun
    rw [← hsummary]
    rfl

theorem tidy_observe :
    Keeps (S := coordinatorSig) (World.answer K P) (Answers P R) (Tidy K c.arm)
      (observe K c t) := by
  refine (tidy_run c).attempt.bind fun r => ?_
  cases r with
  | ok result => exact keeps_pure _
  | error e => exact tidy_of_neat ((neat_markManual (by decide) _ _).bind fun _ => uses_pure _)

theorem tidy_observePoints :
    Keeps (S := coordinatorSig) (World.answer K P) (Answers P R) (Tidy K c.arm)
      (observePoints K c points) := by
  have hall : ∀ processed, Keeps (S := coordinatorSig) (World.answer K P) (Answers P R)
      (Tidy K c.arm) (observeAll K c points processed) := by
    induction points with
    | nil => exact fun processed => keeps_pure _
    | cons t rest ih => exact fun processed => tidy_observe.bind fun new => ih _
  refine (tidy_of_neat (uses_readStore trivial)).bind fun existing => ?_
  split
  · exact keeps_pure _
  · exact hall []

end Points

/-! ### The receipt -/

section Receipt

variable {E : Type} {K : Contracts} {P : Ports E} {R : HostReconciler} {c : Coordinator}
  {s : SessionStore} {points : List DateTime} {processed : List String}

theorem except_forM_eq_ok {α ε : Type} {f : α → Except ε Unit} {as : List α}
    (h : ∀ a ∈ as, f a = .ok ()) : as.forM f = .ok () := by
  induction as with
  | nil => rfl
  | cons a as ih =>
    exact except_bind_eq_ok.mpr ⟨(), h a List.mem_cons_self,
      ih fun b hb => h b (List.mem_cons_of_mem _ hb)⟩

theorem checkEach_eq_ok {ok : String → Bool} {path requirement : String} {texts : List String}
    (h : ∀ text ∈ texts, ok text = true) : checkEach ok path requirement texts = .ok () := by
  refine except_forM_eq_ok fun ti hti => throwIf_eq_ok.mpr ?_
  have hmem := List.mem_zipIdx hti
  rw [h ti.1 (by rw [hmem.2.2]; exact List.getElem_mem _)]
  simp

theorem mem_sortedSet {texts : List String} {text : String} :
    text ∈ sortedSet texts ↔ text ∈ texts := by
  rw [sortedSet, List.mem_insertionSort, List.mem_dedup]

theorem sortedSet_eq_self {texts : List String} (hnodup : texts.Nodup)
    (hsorted : texts.Pairwise (· ≤ ·)) : sortedSet texts = texts := by
  rw [sortedSet, List.dedup_eq_self.mpr hnodup, List.Pairwise.insertionSort_eq hsorted]

theorem sortedSet_sortedSet (texts : List String) : sortedSet (sortedSet texts) = sortedSet texts := by
  refine sortedSet_eq_self ?_ (List.pairwise_insertionSort _ _)
  exact (List.perm_insertionSort _ _).nodup_iff.mpr (List.nodup_dedup texts)

theorem canonicalBoundedIdentitySet_sortedSet {path : String} {ids : List String}
    (h : Identified ids) : canonicalBoundedIdentitySet path (sortedSet ids) = .ok () :=
  except_bind_eq_ok.mpr ⟨(), checkEach_eq_ok fun id hid => h id (mem_sortedSet.mp hid),
    throwIf_eq_ok.mpr (not_not.mpr (sortedSet_sortedSet ids).symm)⟩

theorem contains_manualReasonCodes {reason : ReasonCode} (h : reason ≠ .mutationGateClosed) :
    manualReasonCodes.contains reason.value = true := by
  cases reason with
  | mutationGateClosed => exact absurd rfl h
  | _ => decide

theorem canonicalManualReasonCodes_sortedSet {path : String} {reasons : List ReasonCode}
    (h : ∀ reason ∈ reasons, reason ≠ .mutationGateClosed) :
    canonicalManualReasonCodes path (sortedSet (reasons.map (·.value))) = .ok () := by
  refine except_bind_eq_ok.mpr ⟨(), checkEach_eq_ok fun code hcode => ?_,
    throwIf_eq_ok.mpr (not_not.mpr (sortedSet_sortedSet _).symm)⟩
  obtain ⟨reason, hreason, rfl⟩ := List.mem_map.mp (mem_sortedSet.mp hcode)
  exact contains_manualReasonCodes (h reason hreason)

/-- The active lifecycles of a session are read in order, each once. -/
theorem canonical_activeLifecycleIds (hs : StoreInv s) (path sid : String) :
    canonicalBoundedIdentitySet path (s.activeLifecycleIds sid) = .ok () := by
  have hids : Identified (s.activeLifecycleIds sid) := by
    intro id hid
    obtain ⟨row, hrow, rfl⟩ := List.mem_map.mp hid
    obtain ⟨hmatch, hcheck⟩ := hs.identities row (mem_activeRows.mp hrow).1
    simp only [SessionStore.rowMatches, Bool.and_eq_true, beq_iff_eq] at hmatch
    simp only [ActiveLifecycleIdentity.check, except_bind_eq_ok, identifier,
      throwIf_eq_ok] at hcheck
    obtain ⟨_, hid, -⟩ := hcheck
    rw [← hmatch.1.1.2]
    simpa using hid
  have hnodup : (s.activeLifecycleIds sid).Nodup := by
    have hkeys : ((s.activeRows sid).map (·.key)).Nodup := by
      refine ((List.perm_insertionSort _ _).map _).nodup_iff.mpr ?_
      exact hs.lifecycleKeys.sublist (List.filter_sublist.map _)
    refine List.Nodup.of_map (fun lid => (sid, lid)) ?_
    rw [SessionStore.activeLifecycleIds, List.map_map]
    refine (List.map_congr_left fun row hrow => ?_) ▸ hkeys
    show row.key = (sid, row.lifecycleId)
    rw [LifecycleRow.key, (mem_activeRows.mp hrow).2.1]
  have hsorted : (s.activeLifecycleIds sid).Pairwise (· ≤ ·) := by
    refine List.pairwise_map.mpr ?_
    have : Std.Total (fun a b : LifecycleRow => a.lifecycleId ≤ b.lifecycleId) :=
      ⟨fun a b => String.le_total a.lifecycleId b.lifecycleId⟩
    have : IsTrans LifecycleRow (fun a b => a.lifecycleId ≤ b.lifecycleId) :=
      ⟨fun a b c => String.le_trans⟩
    exact List.pairwise_insertionSort _ _
  rw [← sortedSet_eq_self hnodup hsorted]
  exact canonicalBoundedIdentitySet_sortedSet hids

/-- The receipt of a clean session with a manual reason. -/
theorem check_receiptFrom (hs : StoreInv s) (hsummaries : SummaryInv s)
    (hclean : Clean c.arm.sessionId s) (hpoints : points ≠ []) (hids : Identified processed)
    (hreasons : s.reasons c.arm.sessionId ≠ []) {request : ReconciliationRequest}
    {truth : Option String} (htruth : ∀ sha256, truth = some sha256 → isLowerHex 64 sha256 = true)
    (hphase : request.phase =
      if (s.finalSummary c.arm.sessionId).isSome then "FINAL" else "CHECKPOINT") :
    (receiptFrom c points processed request truth s).check = .ok () ∧
      (receiptFrom c points processed request truth s).disposition =
        .manualReconciliationRequired := by
  let receipt := receiptFrom c points processed request truth s
  have hne : receipt.manualReasons ≠ [] := by
    intro hnil
    exact hreasons (List.map_eq_nil_iff.mp (sortedSet_eq_nil hnil))
  have hdisposition : receipt.disposition = .manualReconciliationRequired := if_pos (.inl hne)
  have hflat : receipt.terminalFlatProven = false := by
    show (decide (receipt.disposition = .terminal) && _) = false
    rw [hdisposition]
    rfl
  have hcodes : ∀ reason ∈ s.reasons c.arm.sessionId, reason ≠ .mutationGateClosed := by
    intro reason hreason
    obtain ⟨m, hm, rfl⟩ := List.mem_map.mp hreason
    obtain ⟨hm, hsid⟩ := List.mem_filter.mp hm
    exact hclean.reasons m hm (of_decide_eq_true hsid)
  refine ⟨AutonomousHostReceipt.check_eq_ok ?_ ?_ ?_ ?_ ?_ ?_ ?_ ?_ ?_, hdisposition⟩
  · exact canonicalDispositionCounts_countedStates.mpr hclean.claimed
  · exact canonicalBoundedIdentitySet_sortedSet hids
  · exact canonical_activeLifecycleIds hs _ _
  · exact canonicalManualReasonCodes_sortedSet hcodes
  · exact fun hzero => hpoints (List.length_eq_zero_iff.mp hzero)
  · show optionalDigest _ ((s.finalSummary c.arm.sessionId).map (·.summarySha256)) = _
    cases hsummary : s.finalSummary c.arm.sessionId with
    | none => rfl
    | some v =>
      obtain ⟨row, hrow, rfl⟩ := Option.map_eq_some_iff.mp hsummary
      have hhex := (hsummaries row (List.mem_of_find?_eq_some hrow)).1
      exact throwIf_eq_ok.mpr (by simp [hhex])
  · show optionalDigest _ truth = _
    cases htext : truth with
    | none => rfl
    | some sha256 => exact throwIf_eq_ok.mpr (by simp [htruth sha256 htext])
  · show request.phase = _ ∧ (s.finalSummary c.arm.sessionId).map (·.summarySha256) = none ∨
      request.phase = _ ∧ (s.finalSummary c.arm.sessionId).map (·.summarySha256) ≠ none
    rw [hphase]
    cases s.finalSummary c.arm.sessionId with
    | none => exact .inl ⟨rfl, rfl⟩
    | some v => exact .inr ⟨rfl, by simp⟩
  · show receipt.checkDisposition = _
    unfold AutonomousHostReceipt.checkDisposition
    rw [hdisposition, hflat]
    simp only [hne, throwIf, reduceCtorEq, if_false, if_true, Bool.false_eq_true, false_and]
    rfl

end Receipt

/-! ### Calls of the command -/

/-- The backends of a call, of which the command itself asks the reconciliation only: the others are
asked through the ports of its coordinator. -/
def HostReconciler.backends (R : HostReconciler) : HostBackends where
  reconcileWithTruth := R.reconcileWithTruth
  collectDue _ := none
  process _ := none
  closeAndReconcile _ := none

/-- One call of the command: its authority, its timeline, and what its backends do. -/
structure HostCall (E : Type) where
  coordinator : Coordinator
  timeline : List DateTime
  ports : Ports E
  reconciler : HostReconciler

namespace HostCall

variable {E : Type}

def sessionId (call : HostCall E) : String := call.coordinator.arm.sessionId

def command (K : Contracts) (call : HostCall E) : HostProg AutonomousHostReceipt :=
  runAutonomousHostCommand K call.reconciler.backends call.coordinator call.timeline

def run (K : Contracts) (call : HostCall E) (w : World E) :
    Except HostError AutonomousHostReceipt × World E :=
  (call.command K).run (S := coordinatorSig) (World.answer K call.ports) w

/-- A store with a manual reason or a claimed opportunity gets a manual receipt. -/
def Total (K : Contracts) (call : HostCall E) (w : World E) : Prop :=
  (call.run K w).2.store.reasons call.sessionId ≠ [] ∨
    (call.run K w).2.store.claimedOpportunityIds call.sessionId ≠ [] →
  ∃ receipt, (call.run K w).1 = .ok receipt ∧
    receipt.disposition = .manualReconciliationRequired

/-- The authority is validated and its timeline and arm are accepted, the session is clean, and the
backends keep it so. -/
structure Meets (K : Contracts) (call : HostCall E) (w : World E) : Prop where
  valid : validateBeforePorts K call.coordinator = .ok ()
  timeline : ∃ points, validateTimeline call.coordinator.arm call.timeline = .ok points
  same : ∀ row, w.store.session call.sessionId = some row →
    row.armSha256 = call.coordinator.arm.armSha256 ∧ row.armBytes = call.coordinator.arm.bytes
  clean : Clean call.sessionId w.store
  answers : Along (S := coordinatorSig) (World.answer K call.ports)
    (Answers call.ports call.reconciler) (call.command K) w

def runAll (K : Contracts) (w : World E) (calls : List (HostCall E)) : World E :=
  calls.foldl (fun w first => (first.run K w).2) w

def MeetsAll (K : Contracts) : World E → List (HostCall E) → Prop
  | _, [] => True
  | w, first :: rest => first.Meets K w ∧ MeetsAll K (first.run K w).2 rest

end HostCall

section Command

variable {E : Type} {K : Contracts} {call : HostCall E} {w : World E}

theorem claimedOpportunityIds_eq_nil {s : SessionStore} {sid : String} (h : Clean sid s) :
    s.claimedOpportunityIds sid = [] := by
  rw [List.eq_nil_iff_forall_not_mem]
  intro oid hoid
  obtain ⟨row, hrow, -⟩ := List.mem_map.mp ((List.mem_insertionSort _).mp hoid)
  obtain ⟨hrow, hstate⟩ := List.mem_filter.mp hrow
  obtain ⟨hsid, hclaimed⟩ := of_decide_eq_true hstate
  exact h.claimed row hrow hsid hclaimed

theorem isUtc_of_validateTimeline {arm : AutonomousSessionArm} {timeline points : List DateTime}
    (h : validateTimeline arm timeline = .ok points) : (∀ t ∈ points, isUtc t = true) ∧
      points ≠ [] := by
  obtain ⟨rfl, -⟩ := validateTimeline_ok h
  obtain ⟨_, hne, -⟩ := except_bind_eq_ok.mp h
  refine ⟨fun t ht => ?_, fun hnil => throwIf_eq_ok.mp hne (List.map_eq_nil_iff.mp hnil)⟩
  obtain ⟨t₀, -, rfl⟩ := List.mem_map.mp ht
  rfl

theorem SummaryInv.run {ε α : Type} {P : Ports E} (h : SummaryInv w.store)
    (p : Prog coordinatorSig ε α) : SummaryInv (p.run (World.answer K P) w).2.store :=
  run_keeps (fun op _ hs => hs.exec op) h p

/-- The instant of the request that ends a command. -/
theorem isUtc_closingRequestOf {c : Coordinator} {points : List DateTime} {s : SessionStore}
    (hsummaries : SummaryInv s) (hutc : ∀ t ∈ points, isUtc t = true) (hne : points ≠ []) :
    isUtc (closingRequestOf c points s).observedAt = true := by
  show isUtc (((s.finalSummary c.arm.sessionId).map (·.finalizedAt)).getD _) = true
  cases hsummary : s.finalSummary c.arm.sessionId with
  | none =>
    refine hutc _ ?_
    rw [Option.map_none, Option.getD_none, List.getLastD_eq_getLast?,
      List.getLast?_eq_some_getLast hne]
    exact List.getLast_mem hne
  | some v =>
    obtain ⟨row, hrow, rfl⟩ := Option.map_eq_some_iff.mp hsummary
    exact (hsummaries row (List.mem_of_find?_eq_some hrow)).2

/-- The end of a command in a clean session. It returns, and the session stays clean. -/
theorem settle_returns {P : Ports E} {R : HostReconciler} {c : Coordinator}
    {points : List DateTime} {processed : List String} (htidy : Tidy K c.arm w)
    (hsummaries : SummaryInv w.store) (hutc : ∀ t ∈ points, isUtc t = true) (hne : points ≠ [])
    (hcalls : Along (S := coordinatorSig) (World.answer K P) (Answers P R)
      (settle R.backends c points processed) w) :
    ∃ truth w', (settle R.backends c points processed).run (S := coordinatorSig)
        (World.answer K P) w = (.ok (receiptFrom c points processed
          (closingRequestOf c points w.store) truth w'.store), w') ∧
      Clean c.arm.sessionId w'.store ∧
      w'.store.finalSummary c.arm.sessionId = w.store.finalSummary c.arm.sessionId ∧
      ∀ sha256, truth = some sha256 → isLowerHex 64 sha256 = true := by
  have hanswer : Answers P R .read w ∧ Answers P R .read w ∧
      Answers P R (.reconcile (closingRequestOf c points w.store)) w ∧ _ := hcalls
  obtain ⟨-, -, hanswer, -⟩ := hanswer
  cases hresult : R.reconcileWithTruth (closingRequestOf c points w.store) with
  | ok answer =>
    refine ⟨some answer.2, w.closed_out P c points,
      run_settle_complete (B := R.backends) rfl hresult, htidy.clean, rfl, ?_⟩
    intro sha256 hsha
    cases hsha
    obtain ⟨observation, truth, haccepted⟩ := R.accepted hresult
    rw [haccepted.digest]
    exact Json.isLowerHex_sha256 _
  | error failure =>
    have hphase : (closingRequestOf c points w.store).phase ≠ "STARTUP" := by
      show (if (w.store.finalSummary c.arm.sessionId).isSome then "FINAL" else "CHECKPOINT") ≠ _
      split
      · decide
      · decide
    obtain ⟨reason, hreason, hgate⟩ := hanswer hphase failure hresult
    let s' := marked c.arm reason (closingRequestOf c points w.store).observedAt none none w.store
    have hutc' := isUtc_closingRequestOf (c := c) hsummaries hutc hne
    exact ⟨none, { w.closed_out P c points with store := s' },
      run_settle_refused (B := R.backends) htidy.ready hutc' hreason rfl hresult,
      htidy.clean.marked hgate, rfl, fun _ h => nomatch h⟩

/-- One call. A call that meets its condition is total, and leaves the session clean. -/
theorem HostCall.Meets.total (h : call.Meets K w) (hs : StoreInv w.store)
    (hsummaries : SummaryInv w.store) : call.Total K w := by
  obtain ⟨points, hpoints⟩ := h.timeline
  obtain ⟨hutc, hne⟩ := isUtc_of_validateTimeline hpoints
  let c := call.coordinator
  -- after `ensure_arm`
  have hensure : (StoreOp.ensureArm c.arm).txn K w.store = .ok () (withArm c.arm w.store) :=
    ensureArm_ok (validateBeforePorts_arm h.valid) h.same
  have hexec : (StoreOp.ensureArm c.arm).exec K w.store = withArm c.arm w.store :=
    Txn.after_of_ok hensure
  let w₁ : World E := { w with store := withArm c.arm w.store }
  have harm : (transact (.ensureArm c.arm)).run (S := coordinatorSig) (World.answer K call.ports) w =
      (.ok (), w₁) := run_transact hensure
  have hinv₁ : StoreInv w₁.store := by
    have hinv := (StoreOp.ensureArm c.arm).exec_inv K hs
    rwa [hexec] at hinv
  have hclean₁ : Clean c.arm.sessionId w₁.store := by
    obtain ⟨sessions, windows, hw₁⟩ := withArm_cases c.arm w.store
    show Clean c.arm.sessionId (withArm c.arm w.store)
    rw [hw₁]
    exact ⟨h.clean.claimed, h.clean.reasons⟩
  have htidy₁ : Tidy K c.arm w₁ := ⟨⟨hinv₁, ensureArm_bound hensure⟩, hclean₁⟩
  have hsummaries₁ : SummaryInv w₁.store := by
    have hsum := hsummaries.exec (K := K) (.ensureArm c.arm)
    rwa [hexec] at hsum
  have hcalls := (h.answers.right (show _ = (Except.ok points, w) by rw [hpoints]; rfl)).right
    (run_mapError harm)
  -- after the points
  obtain ⟨processed, w₂, hobserve, hids⟩ :=
    observePoints_returns (P := call.ports) htidy₁.ready hutc
  have htidy₂ := tidy_observePoints (R := call.reconciler) w₁ htidy₁ hcalls.left.of_mapError
  have hsummaries₂ := hsummaries₁.run (K := K) (P := call.ports) (observePoints K c points)
  rw [hobserve] at htidy₂ hsummaries₂
  have hcalls₂ := hcalls.right (run_mapError hobserve)
  -- after the reconciliation
  obtain ⟨truth, w₃, hsettle, hclean₃, hsummary₃, htruth⟩ :=
    settle_returns htidy₂ hsummaries₂ hutc hne hcalls₂.left.of_mapError
  have hinv₃ := StoreInv.run (K := K) (P := call.ports) htidy₂.ready.inv
    (settle call.reconciler.backends c points processed)
  have hsummaries₃ := hsummaries₂.run (K := K) (P := call.ports)
    (settle call.reconciler.backends c points processed)
  rw [hsettle] at hinv₃ hsummaries₃
  let receipt := receiptFrom c points processed (closingRequestOf c points w₂.store) truth w₃.store
  have hrun : call.run K w = (ofExcept receipt.check >>= fun () =>
      pure receipt : HostProg AutonomousHostReceipt).run (S := coordinatorSig)
        (World.answer K call.ports) w₃ := by
    refine run_ofExcept_bind hpoints ?_
    refine run_bind (run_mapError harm) ?_
    refine run_bind (run_mapError hobserve) ?_
    exact run_bind (run_mapError hsettle) rfl
  intro hheld
  have hworld : (call.run K w).2 = w₃ := by
    rw [hrun]
    cases receipt.check with
    | ok u => rfl
    | error e => rfl
  have hreasons : w₃.store.reasons c.arm.sessionId ≠ [] := by
    rw [hworld] at hheld
    exact hheld.resolve_right (not_not.mpr (claimedOpportunityIds_eq_nil hclean₃))
  have hphase : (closingRequestOf c points w₂.store).phase =
      if (w₃.store.finalSummary c.arm.sessionId).isSome then "FINAL" else "CHECKPOINT" := by
    rw [hsummary₃]
    rfl
  obtain ⟨hcheck, hdisposition⟩ :=
    check_receiptFrom hinv₃ hsummaries₃ hclean₃ hne hids hreasons htruth hphase
  refine ⟨receipt, ?_, hdisposition⟩
  rw [hrun]
  exact congrArg Prod.fst (run_ofExcept_bind hcheck rfl)

/-- Every call that meets its condition and ends with a manual reason or a claimed opportunity
returns a manual receipt. -/
theorem host_command_total (K : Contracts) (ops : List StoreOp) (env : E)
    (calls : List (HostCall E))
    (h : HostCall.MeetsAll K ⟨runOps K .empty ops, [], env⟩ calls) (pre : List (HostCall E))
    (call : HostCall E) (post : List (HostCall E)) (hcalls : calls = pre ++ call :: post) :
    call.Total K (HostCall.runAll K ⟨runOps K .empty ops, [], env⟩ pre) := by
  have hs := runOps_inv K ops storeInv_empty
  have hsummaries : SummaryInv (runOps K .empty ops) :=
    SummaryInv.runOps storeInv_empty (fun v hv => nomatch hv) ops
  generalize hw : (⟨runOps K .empty ops, [], env⟩ : World E) = w at h ⊢
  have hs' : StoreInv w.store := hw ▸ hs
  have hsummaries' : SummaryInv w.store := hw ▸ hsummaries
  clear hw hs hsummaries
  subst hcalls
  induction pre generalizing w with
  | nil => exact h.1.total hs' hsummaries'
  | cons first rest ih =>
    exact ih _ (hs'.run (K := K) (P := first.ports) (first.command K))
      (hsummaries'.run (K := K) (P := first.ports) (first.command K)) h.2

end Command

/-! ### Two calls -/

theorem run_command_refused {E : Type} {K : Contracts} {P : Ports E} {B : HostBackends}
    {c : Coordinator} {w w₁ w₂ : World E} {timeline points : List DateTime}
    {processed : List String} {receipt : AutonomousHostReceipt} {e : HostError}
    (hpoints : validateTimeline c.arm timeline = .ok points) (hbound : Bound K c.arm w.store)
    (hobserve : (observePoints K c points).run (S := coordinatorSig) (World.answer K P) w =
      (.ok processed, w₁))
    (hsettle : (settle B c points processed).run (S := coordinatorSig) (World.answer K P) w₁ =
      (.ok receipt, w₂)) (hcheck : receipt.check = .error e) :
    (runAutonomousHostCommand K B c timeline).run (S := coordinatorSig) (World.answer K P) w =
      (.error e, w₂) := by
  have hensure : (StoreOp.ensureArm c.arm).txn K w.store = .ok () w.store := hbound.ensureArm
  refine run_ofExcept_bind hpoints ?_
  refine run_bind (run_mapError (run_transact hensure)) ?_
  refine run_bind (run_mapError hobserve) ?_
  refine run_bind (run_mapError hsettle) ?_
  rw [hcheck]
  rfl

namespace July

def raising : HostReconciler := ⟨.syntheticFake, fun _ => .raised⟩

/-- The command at one point, over backends that answer nothing. -/
def callAt (minutes : Int) : HostCall Unit :=
  ⟨coordinator, [at_ minutes], raising.backends.ports, raising⟩

/-- The calls without demands on their answers. -/
def Plain : CoordinatorOp → Prop
  | .store _ | .read => True
  | _ => False

theorem Plain.answers {op : CoordinatorOp} {w : World Unit} (h : Plain op) :
    Answers raising.backends.ports raising op w := by
  cases op with
  | store s => trivial
  | read => trivial
  | _ => exact h.elim

theorem plain_reads {α : Type} {f : SessionStore → α} :
    Uses (S := coordinatorSig) Plain (readStore f) :=
  uses_readStore trivial

theorem along_plain {ε α : Type} {p : Prog coordinatorSig ε α} {w : World Unit}
    (hp : Uses (S := coordinatorSig) Plain p) :
    Along (S := coordinatorSig) (World.answer contracts raising.backends.ports)
      (Answers raising.backends.ports raising) p w :=
  hp.along fun _ _ h => h.answers

/-- A command in a finalized session asks for one reconciliation only. -/
theorem answers_callAt {w : World Unit} (hw : w.store = finalStore) (minutes : Int) :
    Along (S := coordinatorSig) (World.answer contracts raising.backends.ports)
      (Answers raising.backends.ports raising) ((callAt minutes).command contracts) w := by
  have hensure : (StoreOp.ensureArm arm).txn contracts w.store = .ok () w.store :=
    hw ▸ ensureArm_of_sessions (s := finalStore) rfl
  have hsummary : w.store.finalSummary arm.sessionId = some summary := hw ▸ rfl
  have hplain : Plain (.store (.ensureArm arm)) := trivial
  refine along_bind (p := ofExcept _) ?_ fun points w₁ hpoints => ?_
  · exact along_plain (uses_ofExcept _)
  obtain ⟨-, rfl⟩ := Prod.mk.inj ((run_ofExcept _).symm.trans hpoints)
  refine along_bind (along_mapError (along_plain (uses_transact hplain))) fun _ w₂ harm => ?_
  obtain ⟨-, rfl⟩ := Prod.mk.inj ((run_transact hensure).symm.trans (run_mapError_ok harm))
  have hobserve := run_observePoints_over (K := contracts) (B := raising.backends)
    (c := coordinator) points hsummary
  refine along_bind (along_mapError ?_) fun processed w₃ hprocessed => ?_
  · refine along_bind (along_plain plain_reads) fun existing w₃ hread => ?_
    cases hread
    have hsome : (w.store.finalSummary arm.sessionId).isSome = true := by
      rw [hsummary]
      rfl
    show Along (S := coordinatorSig) _ _ (if (w.store.finalSummary arm.sessionId).isSome then
      pure [] else _ : CoordinatorProg (List String)) w
    rw [if_pos hsome]
    exact along_plain (uses_pure _)
  obtain ⟨-, rfl⟩ := Prod.mk.inj (hobserve.symm.trans (run_mapError_ok hprocessed))
  refine along_bind (along_mapError ?_) fun _ _ _ =>
    along_plain ((uses_ofExcept _).bind fun _ => uses_pure _)
  refine along_bind (along_plain plain_reads) fun _ w₃ _ => ?_
  refine along_bind (along_plain plain_reads) fun _ w₄ _ => ?_
  refine along_bind ⟨fun _ failure hfailure => ?_, along_plain ?_⟩ fun _ _ _ => along_plain ?_
  · cases hfailure
    exact ⟨.reconciliationFailed, by decide, by decide⟩
  · exact ((uses_transact trivial).bind fun _ => uses_transact trivial).bind fun _ => uses_pure _
  · exact plain_reads.bind fun _ => plain_reads.bind fun _ => plain_reads.bind fun _ =>
      plain_reads.bind fun _ => plain_reads.bind fun _ => uses_pure _

/-- A session that was finalized, and whose reconciliation now fails. -/
theorem host_command_total_raising :
    (callAt 1170).Total contracts ⟨runOps contracts .empty [finish], [], ()⟩ := by
  refine host_command_total contracts [finish] () [callAt 1170] ⟨?_, trivial⟩ [] _ [] rfl
  rw [runOps_finish]
  refine ⟨validate_coordinator, ⟨_, rfl⟩, ?_, ⟨?_, ?_⟩, answers_callAt rfl _⟩
  · intro row hrow
    have hsession : finalStore.session arm.sessionId =
        some { newSession arm with state := .finalized } := by
      simp [SessionStore.session, finalStore, newSession]
    cases hsession.symm.trans hrow
    exact ⟨rfl, rfl⟩
  · exact fun row hrow => (by cases hrow)
  · exact fun m hm => (by cases hm)

/-- The store of the session with a claim that nobody resolves, after two manual marks. -/
def stuckMarked : SessionStore :=
  marked arm .reconciliationFailed (at_ 850) none none
    (marked arm .claimRecoveryUnknown (at_ 850) none none stuck)

/-- A claimed opportunity takes the receipt away: the command marks the session and then
raises. -/
theorem host_command_claimed :
    ¬ (callAt 850).Total contracts ⟨runOps contracts .empty stuckOps, [], ()⟩ := by
  have hinv : StoreInv stuck := runOps_stuckOps ▸ runOps_inv contracts stuckOps storeInv_empty
  have hready : Ready contracts arm stuck :=
    ⟨hinv, ensureArm_bound (c := coordinator) (ensureArm_of_sessions (s := stuck) rfl)⟩
  have hclaimed : stuck.claimedOpportunityIds arm.sessionId ≠ [] := by decide
  let w : World Unit := ⟨stuck, [], ()⟩
  let w₁ : World Unit := { w with store := marked arm .claimRecoveryUnknown (at_ 850) none none stuck }
  have hready₁ : Ready contracts arm w₁.store := ready_marked hready
  have hrun : (coordinator.run contracts (at_ 850)).run (S := coordinatorSig)
      (World.answer contracts raising.backends.ports) w =
        (.ok (resultFrom arm (at_ 850) [] w₁.store), w₁) := by
    refine (run_armed (w := w) hready validate_coordinator rfl).trans ?_
    refine run_bind (show _ = (Except.ok (stuck.claimedOpportunityIds arm.sessionId), w) from rfl) ?_
    rw [if_pos hclaimed]
    exact run_bind (run_markManual hready.bound rfl rfl rfl) rfl
  have hobserve : (observePoints contracts coordinator [at_ 850]).run (S := coordinatorSig)
      (World.answer contracts raising.backends.ports) w = (.ok [], w₁) := by
    refine (run_observePoints (c := coordinator) (w := w) rfl).trans ?_
    exact run_bind (run_observe (w := w) hrun) rfl
  have hreason : ReasonCode.ofText BackendFailure.other.reasonCode =
      some .reconciliationFailed := rfl
  have hsettle : (settle raising.backends coordinator [at_ 850] []).run (S := coordinatorSig)
      (World.answer contracts raising.backends.ports) w₁ = _ :=
    run_settle_refused hready₁ rfl hreason rfl rfl
  have hcounts : canonicalDispositionCounts "receipt.disposition_counts"
      (stuckMarked.countedStates arm.sessionId) = .error
        (.rejected "receipt.disposition_counts contains an unsupported disposition") := by
    decide
  have hcheck : (receiptFrom coordinator [at_ 850] []
      (closingRequestOf coordinator [at_ 850] w₁.store) none stuckMarked).check =
        .error (.rejected "receipt.disposition_counts contains an unsupported disposition") := by
    unfold AutonomousHostReceipt.check
    rw [show (receiptFrom coordinator [at_ 850] [] _ none stuckMarked).countedStates =
      stuckMarked.countedStates arm.sessionId from rfl, hcounts]
    rfl
  have hpoints : validateTimeline coordinator.arm [at_ 850] = .ok [at_ 850] := rfl
  have hcall : (callAt 850).run contracts w = (.error (.rejected
      "receipt.disposition_counts contains an unsupported disposition"), _) :=
    run_command_refused hpoints hready.bound hobserve hsettle hcheck
  have hmarked : stuckMarked.reasons arm.sessionId ≠ [] := by decide
  rw [runOps_stuckOps]
  intro htotal
  have htotal : (callAt 850).Total contracts w := htotal
  unfold HostCall.Total at htotal
  rw [hcall] at htotal
  obtain ⟨receipt, hreceipt, -⟩ := htotal (.inl hmarked)
  cases hreceipt

end July

end EsscherMarket.Runtime
