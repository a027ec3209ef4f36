import EsscherMarket.Runtime.CoordinatorRuns

/-!
# Hard flat

A run at or after the hard-flat instant: every active lifecycle is closed in turn, whatever the
closer answers.  The branch is behind the check for claimed opportunities, so a claim that was never
resolved keeps it from being reached.
-/

namespace EsscherMarket.Runtime

open Lib Prog

section HardFlat

variable {E : Type} {K : Contracts} {P : Ports E} {arm : AutonomousSessionArm} {t : DateTime}
  {s : SessionStore} {w : World E}

/-! ### Transactions that return -/

structure Bound (K : Contracts) (arm : AutonomousSessionArm) (s : SessionStore) : Prop where
  valid : validateArm K arm = .ok ()
  stored : ∃ row, s.session arm.sessionId = some row ∧ row.armSha256 = arm.armSha256 ∧
    row.armBytes = arm.bytes

theorem Bound.ensureArm (h : Bound K arm s) : Runtime.ensureArm K arm s = .ok () s := by
  obtain ⟨row, hrow, hsha, hbytes⟩ := h.stored
  exact ensureArm_eq_ok.mpr ⟨h.valid, .inl ⟨row, hrow, hsha, hbytes, rfl⟩⟩

theorem Bound.session_ne_none (h : Bound K arm s) : s.session arm.sessionId ≠ none := by
  obtain ⟨row, hrow, -⟩ := h.stored
  rw [hrow]
  simp

theorem Bound.setSession (h : Bound K arm s) {sid : String} {state : SessionState}
    {reasons : List ManualReasonRow} {summaries : List SummaryRow} :
    Bound K arm (Runtime.setSession sid state
      { s with manualReasons := reasons, summaries := summaries }) := by
  obtain ⟨row, hrow, hsha, hbytes⟩ := h.stored
  refine ⟨h.valid, ?_⟩
  have hrow' : SessionStore.session { s with manualReasons := reasons, summaries := summaries }
      arm.sessionId = some row := hrow
  rw [session_setSession, hrow', Option.map_some]
  refine ⟨_, rfl, ?_⟩
  split
  · exact ⟨hsha, hbytes⟩
  · exact ⟨hsha, hbytes⟩

/-- The arm of an accepted run is bound once `ensure_arm` has returned. -/
theorem Accepts.bound {c : Coordinator} (h : Accepts K c t s) : Bound K c.arm (withArm c.arm s) := by
  refine ⟨validateBeforePorts_arm h.1, ?_⟩
  unfold withArm
  cases hrow : s.session c.arm.sessionId with
  | some row => exact ⟨row, by simpa using hrow, h.2.2 row hrow⟩
  | none =>
    refine ⟨newSession c.arm, ?_, rfl, rfl⟩
    rw [if_pos rfl, SessionStore.session, List.find?_append,
      show s.sessions.find? _ = none from hrow]
    simp [newSession]

theorem run_transact {op : StoreOp} {a : op.Res} {s' : SessionStore}
    (h : op.txn K w.store = .ok a s') :
    (transact op).run (S := coordinatorSig) (World.answer K P) w =
      (.ok a, { w with store := s' }) := by
  have hresult : (op.txn K).result w.store = .ok a := Txn.result_of_ok h
  have hexec : op.exec K w.store = s' := Txn.after_of_ok h
  unfold transact
  refine run_perform_bind ?_
  have hanswer : World.answer K P (.store op) w = (.ok a, { w with store := s' }) := by
    rw [World.answer, hresult, hexec]
  show (ofExcept (World.answer K P (.store op) w).1).run (S := coordinatorSig) (World.answer K P)
    (World.answer K P (.store op) w).2 = _
  rw [hanswer]
  rfl

def marked (arm : AutonomousSessionArm) (reason : ReasonCode) (t : DateTime)
    (oid lid : Option String) (s : SessionStore) : SessionStore :=
  setSession arm.sessionId .manualReconciliationRequired
    { s with manualReasons := markedReasons arm.sessionId reason t oid lid s.manualReasons }

theorem run_markManual (hbound : Bound K arm w.store) (ht : isUtc t = true) {reason : ReasonCode}
    {oid lid : Option String} (hoid : optionalIdentifier oid "opportunity_id" = .ok ())
    (hlid : optionalIdentifier lid "lifecycle_id" = .ok ()) :
    (markManual arm reason t oid lid).run (S := coordinatorSig) (World.answer K P) w =
      (.ok (), { w with store := marked arm reason t oid lid w.store }) := by
  have hensure : (StoreOp.ensureArm arm).txn K w.store = .ok () w.store := hbound.ensureArm
  have hmark : (StoreOp.manual arm reason t oid lid).txn K w.store =
      .ok () (marked arm reason t oid lid w.store) :=
    manualPart_eq_ok.mpr ⟨ht, hoid, hlid, hbound.session_ne_none, rfl⟩
  exact run_bind (run_transact hensure) (run_transact hmark)

def flattened (arm : AutonomousSessionArm) (l : ActiveLifecycleIdentity) (proof : String)
    (t : DateTime) (s : SessionStore) : SessionStore :=
  setOpportunity arm.sessionId l.opportunityId
    (fun r => { r with
      state := .disposed .terminalFlat
      terminalFlatProofSha256 := some proof
      updatedAt := .utc t.micros })
    { s with
      lifecycles := Table.setWhere
        (fun r => r.sessionId = arm.sessionId ∧ r.lifecycleId = l.lifecycleId)
        (fun r => { r with state := .terminalFlat, updatedAt := .utc t.micros }) s.lifecycles }

theorem lifecycleTerminalFlatPart_flattened {l : ActiveLifecycleIdentity} {proof : String}
    {row : LifecycleRow} {o : OpportunityRow} (hsession : l.sessionId = arm.sessionId)
    (hcheck : l.check = .ok ()) (hproof : digest proof "terminal_flat_proof_sha256" = .ok ())
    (ht : isUtc t = true) (hrow : s.lifecycle arm.sessionId l.lifecycleId = some row)
    (hidentity : row.identity = l) (hactive : row.state = .active)
    (ho : s.opportunity arm.sessionId l.opportunityId = some o)
    (hstate : o.state = .disposed .active) :
    lifecycleTerminalFlatPart arm l proof t s = .ok () (flattened arm l proof t s) := by
  simp only [lifecycleTerminalFlatPart, Txn.raiseIf_bind_eq_ok, Txn.lift_bind_eq_ok,
    Txn.immediate_eq_ok, Txn.select_bind_eq_ok, Txn.orRaise_bind_eq_ok, not_not, id]
  refine ⟨hsession, (), hcheck, (), hproof, _, utcDatetime_eq_ok.mpr ⟨ht, rfl⟩, row, hrow,
    hidentity, o, ho, ?_⟩
  rw [if_neg (by rw [hactive]; simp), Txn.raiseIf_bind_eq_ok, Txn.write_eq_ok]
  exact ⟨by simp [hactive, hstate], rfl⟩

/-! ### The lifecycles that are still to be closed -/

/-- The lifecycles `ls` of the arm are active. -/
structure Closing (K : Contracts) (arm : AutonomousSessionArm) (ls : List ActiveLifecycleIdentity)
    (s : SessionStore) : Prop where
  inv : StoreInv s
  bound : Bound K arm s
  ids : (ls.map (·.lifecycleId)).Nodup
  active : ∀ l ∈ ls, ∃ row ∈ s.lifecycles, row.key = (arm.sessionId, l.lifecycleId) ∧
    row.identity = l ∧ row.state = .active

variable {l : ActiveLifecycleIdentity} {ls : List ActiveLifecycleIdentity}

theorem Closing.marked (h : Closing K arm (l :: ls) s) (reason : ReasonCode) (oid lid : Option String) :
    Closing K arm ls (marked arm reason t oid lid s) where
  inv := StoreWrite.of_manual.inv h.inv
  bound := h.bound.setSession
  ids := (List.nodup_cons.mp h.ids).2
  active := fun l' hl' => h.active l' (List.mem_cons_of_mem _ hl')

/-- What the store says about a lifecycle that is to be closed. -/
theorem Closing.rows (h : Closing K arm (l :: ls) s) : ∃ row o,
    s.lifecycle arm.sessionId l.lifecycleId = some row ∧ row.identity = l ∧ row.state = .active ∧
    s.opportunity arm.sessionId l.opportunityId = some o ∧ o.state = .disposed .active ∧
    l.sessionId = arm.sessionId ∧ l.check = .ok () := by
  obtain ⟨row, hrow, hkey, hidentity, hactive⟩ := h.active l List.mem_cons_self
  obtain ⟨hmatch, hcheck⟩ := h.inv.identities row hrow
  obtain ⟨o, ho, hstate⟩ := h.inv.opportunityState hrow
  obtain ⟨hsid, hlid⟩ := Prod.mk.inj hkey
  simp only [SessionStore.rowMatches, Bool.and_eq_true, beq_iff_eq, hidentity] at hmatch
  rw [hidentity] at hcheck
  rw [hsid, ← hmatch.2] at ho
  rw [hactive] at hstate
  refine ⟨row, o, ?_, hidentity, hactive, ho, hstate, hmatch.1.1.1.trans hsid, hcheck⟩
  cases hfind : s.lifecycle arm.sessionId l.lifecycleId with
  | none => exact absurd hkey (SessionStore.lifecycle_eq_none.mp hfind row hrow)
  | some row' =>
    obtain ⟨hrow', hkey'⟩ := SessionStore.lifecycle_eq_some hfind
    rw [Table.eq_of_key h.inv.lifecycleKeys hrow' hrow (hkey'.trans hkey.symm)]

theorem Closing.flattened (h : Closing K arm (l :: ls) s) {proof : String}
    (hproof : digest proof "terminal_flat_proof_sha256" = .ok ()) (ht : isUtc t = true) :
    (StoreOp.lifecycleTerminalFlat arm l proof t).txn K s =
      .ok () (flattened arm l proof t s) ∧ Closing K arm ls (flattened arm l proof t s) := by
  obtain ⟨row, o, hrow, hidentity, hactive, ho, hstate, hsession, hcheck⟩ := h.rows
  have htxn : (StoreOp.lifecycleTerminalFlat arm l proof t).txn K s =
      .ok () (Runtime.flattened arm l proof t s) :=
    lifecycleTerminalFlatPart_flattened hsession hcheck hproof ht hrow hidentity hactive ho hstate
  obtain ⟨hnotmem, hids⟩ := List.nodup_cons.mp h.ids
  refine ⟨htxn, ?_, ⟨h.bound.valid, h.bound.stored⟩, hids, ?_⟩
  · have hinv := (StoreOp.lifecycleTerminalFlat arm l proof t).exec_inv K h.inv
    rw [show (StoreOp.lifecycleTerminalFlat arm l proof t).exec K s = _ from
      Txn.after_of_ok htxn] at hinv
    exact hinv
  · intro l' hl'
    obtain ⟨row', hrow', hkey', hrest⟩ := h.active l' (List.mem_cons_of_mem _ hl')
    refine ⟨row', Table.mem_setWhere.mpr ⟨row', hrow', ?_⟩, hkey', hrest⟩
    have hne : row'.lifecycleId ≠ l.lifecycleId := by
      rw [(Prod.mk.inj hkey').2]
      intro heq
      exact hnotmem (List.mem_map.mpr ⟨l', hl', heq⟩)
    rw [if_neg (by simp [hne])]

/-! ### Closing them -/

theorem accepted_eq_some {α : Type} {check : α → Checked Unit} {r : Option α} {v : α} :
    accepted check r = some v ↔ r = some v ∧ check v = .ok () := by
  cases r with
  | none => simp [accepted]
  | some v' =>
    rw [accepted, Option.filter_eq_some_iff]
    constructor
    · rintro ⟨hv, hok⟩
      refine ⟨hv, ?_⟩
      cases hc : check v with
      | ok u => rfl
      | error e =>
        rw [hc] at hok
        cases hok
    · rintro ⟨hv, hok⟩
      exact ⟨hv, by rw [hok]; rfl⟩

theorem digest_of_validateCloseResult {v : LifecycleCloseResult} {request : LifecycleCloseRequest}
    (h : validateCloseResult v request = .ok ()) (hflat : v.disposition = .terminalFlat) :
    digest (v.terminalFlatProofSha256.getD "") "terminal_flat_proof_sha256" = .ok () := by
  simp only [validateCloseResult, except_bind_eq_ok] at h
  obtain ⟨_, -, _, -, hshape⟩ := h
  rw [validateCloseShape, hflat] at hshape
  simp only [except_bind_eq_ok] at hshape
  obtain ⟨_, -, hdigest⟩ := hshape
  exact throwIf_eq_ok.mpr (throwIf_eq_ok.mp hdigest)

theorem optionalIdentifier_of_check (h : l.check = .ok ()) :
    optionalIdentifier (some l.opportunityId) "opportunity_id" = .ok () ∧
    optionalIdentifier (some l.lifecycleId) "lifecycle_id" = .ok () := by
  simp only [ActiveLifecycleIdentity.check, except_bind_eq_ok] at h
  obtain ⟨_, hlid, _, hoid, -⟩ := h
  exact ⟨throwIf_eq_ok.mpr (throwIf_eq_ok.mp hoid), throwIf_eq_ok.mpr (throwIf_eq_ok.mp hlid)⟩

def closedStore (arm : AutonomousSessionArm) (t : DateTime) (l : ActiveLifecycleIdentity)
    (answer : Option LifecycleCloseResult) (s : SessionStore) : SessionStore :=
  match accepted (validateCloseResult · ⟨arm, l, t⟩) answer with
  | none => marked arm .hardFlatUnresolved t (some l.opportunityId) (some l.lifecycleId) s
  | some result =>
    if result.disposition = .terminalFlat then
      flattened arm l (result.terminalFlatProofSha256.getD "") t s
    else
      marked arm (result.reasonCode.getD .hardFlatUnresolved) t (some l.opportunityId)
        (some l.lifecycleId) s

/-- The world after the call of a closer, and what was made of its answer. -/
def World.closed (P : Ports E) (arm : AutonomousSessionArm) (t : DateTime)
    (l : ActiveLifecycleIdentity) (w : World E) : World E where
  store := closedStore arm t l (P.closeAndReconcile ⟨arm, l, t⟩ w.env).1 w.store
  calls := w.calls ++ [.closeAndReconcile ⟨arm, l, t⟩]
  env := (P.closeAndReconcile ⟨arm, l, t⟩ w.env).2

/-- One close. Whatever the closer answers, the run goes on, and the other lifecycles are as
they were. -/
theorem run_closeLifecycle (h : Closing K arm (l :: ls) w.store) (ht : isUtc t = true) :
    (closeLifecycle arm t l).run (S := coordinatorSig) (World.answer K P) w =
      (.ok (), w.closed P arm t l) ∧ Closing K arm ls (w.closed P arm t l).store := by
  obtain ⟨-, -, -, -, -, -, -, -, hcheck⟩ := h.rows
  obtain ⟨hoid, hlid⟩ := optionalIdentifier_of_check hcheck
  let w₁ := w.called (.closeAndReconcile ⟨arm, l, t⟩) (P.closeAndReconcile ⟨arm, l, t⟩ w.env).2
  have hclosing : Closing K arm (l :: ls) w₁.store := h
  unfold closeLifecycle World.closed closedStore
  show run (S := coordinatorSig) (World.answer K P) (match accepted (validateCloseResult ·
    ⟨arm, l, t⟩) (P.closeAndReconcile ⟨arm, l, t⟩ w.env).1 with | none => _ | some result => _)
    w₁ = _ ∧ _
  cases hresult : accepted (validateCloseResult · ⟨arm, l, t⟩)
      (P.closeAndReconcile ⟨arm, l, t⟩ w.env).1 with
  | none => exact ⟨run_markManual hclosing.bound ht hoid hlid, hclosing.marked _ _ _⟩
  | some result =>
    obtain ⟨-, hvalid⟩ := accepted_eq_some.mp hresult
    dsimp only
    split
    · rename_i hflat
      have hensure : (StoreOp.ensureArm arm).txn K w₁.store = .ok () w₁.store :=
        hclosing.bound.ensureArm
      obtain ⟨htxn, hnext⟩ := hclosing.flattened (digest_of_validateCloseResult hvalid hflat) ht
      exact ⟨run_bind (run_transact hensure) (run_transact htxn), hnext⟩
    · exact ⟨run_markManual hclosing.bound ht hoid hlid, hclosing.marked _ _ _⟩

/-- All closes. -/
theorem ends_closeLifecycles (h : Closing K arm ls w.store) (ht : isUtc t = true) :
    Ends (S := coordinatorSig) (World.answer K P) (closeLifecycles arm t ls) w fun r w' =>
      r = .ok () ∧ Closing K arm [] w'.store ∧
        w'.calls = w.calls ++ ls.map fun l => .closeAndReconcile ⟨arm, l, t⟩ := by
  induction ls generalizing w with
  | nil => exact ends_pure ⟨rfl, h, by rw [List.map_nil, List.append_nil]⟩
  | cons l ls ih =>
    obtain ⟨hrun, hclosing⟩ := run_closeLifecycle (P := P) h ht
    refine ends_bind (Q := fun r w' => (r, w') = (.ok (), w.closed P arm t l))
      (ends_of_run hrun rfl) ?_ ?_
    · rintro _ w' heq
      cases heq
      refine (ih hclosing).mono ?_
      rintro r w'' ⟨hr, hdone, hcalls⟩
      exact ⟨hr, hdone, by rw [hcalls, World.closed, List.append_assoc]; rfl⟩
    · rintro e w' heq
      cases heq

/-! ### The lifecycles that a run finds -/

theorem mapM_eq_ok {α β : Type} {f : α → Checked β} {g : α → β} {as : List α}
    (h : ∀ a ∈ as, f a = .ok (g a)) : as.mapM f = .ok (as.map g) := by
  induction as with
  | nil => rfl
  | cons a as ih =>
    rw [List.mapM_cons, h a List.mem_cons_self, ih fun a ha => h a (List.mem_cons_of_mem _ ha)]
    rfl

theorem mem_activeRows {sid : String} {row : LifecycleRow} :
    row ∈ s.activeRows sid ↔ row ∈ s.lifecycles ∧ row.sessionId = sid ∧ row.state = .active := by
  rw [SessionStore.activeRows, List.mem_insertionSort, List.mem_filter, decide_eq_true_eq]

def activeIdentities (s : SessionStore) (sid : String) : List ActiveLifecycleIdentity :=
  (s.activeRows sid).map (·.identity)

theorem activeLifecycles_eq_ok (hs : StoreInv s) (sid : String) :
    s.activeLifecycles sid = .ok (activeIdentities s sid) := by
  refine mapM_eq_ok ?_
  intro row hrow
  obtain ⟨hmem, hsid, -⟩ := mem_activeRows.mp hrow
  rw [if_pos]
  rw [← hsid]
  exact (hs.identities row hmem).1

theorem identity_key (hs : StoreInv s) {row : LifecycleRow} (hrow : row ∈ s.lifecycles) :
    row.identity.lifecycleId = row.lifecycleId := by
  have hmatch := (hs.identities row hrow).1
  simp only [SessionStore.rowMatches, Bool.and_eq_true, beq_iff_eq] at hmatch
  exact hmatch.1.1.2

theorem closing_activeIdentities (hs : StoreInv s) (hbound : Bound K arm s) :
    Closing K arm (activeIdentities s arm.sessionId) s where
  inv := hs
  bound := hbound
  ids := by
    have hnodup : (s.activeRows arm.sessionId).Nodup := by
      rw [SessionStore.activeRows, (List.perm_insertionSort _ _).nodup_iff]
      exact (List.Nodup.of_map _ hs.lifecycleKeys).filter _
    rw [activeIdentities, List.map_map]
    refine hnodup.map_on ?_
    intro row hrow row' hrow' heq
    obtain ⟨hmem, hsid, -⟩ := mem_activeRows.mp hrow
    obtain ⟨hmem', hsid', -⟩ := mem_activeRows.mp hrow'
    have hid : row.lifecycleId = row'.lifecycleId := by
      rw [← identity_key hs hmem, ← identity_key hs hmem']
      exact heq
    exact Table.eq_of_key hs.lifecycleKeys hmem hmem' (Prod.ext (hsid.trans hsid'.symm) hid)
  active := by
    intro l hl
    obtain ⟨row, hrow, rfl⟩ := List.mem_map.mp hl
    obtain ⟨hmem, hsid, hactive⟩ := mem_activeRows.mp hrow
    exact ⟨row, hmem, Prod.ext hsid (identity_key hs hmem).symm, rfl, hactive⟩

/-! ### A run at hard flat -/

def StoreOnly : CoordinatorOp → Prop
  | .store _ | .read => True
  | _ => False

theorem ends_calls {α : Type} {p : CoordinatorProg α}
    (hp : Uses (S := coordinatorSig) StoreOnly p) :
    Ends (S := coordinatorSig) (World.answer K P) p w fun _ w' => w'.calls = w.calls := by
  refine hp.run_inv (J := fun w' : World E => w'.calls = w.calls) ?_ rfl
  intro op w' hop hw
  cases op with
  | store op => exact hw
  | read => exact hw
  | reconcile r => exact hop.elim
  | collectDue r => exact hop.elim
  | process r => exact hop.elim
  | closeAndReconcile r => exact hop.elim

theorem storeOnly_fromStore (processed : List String) :
    Uses (S := coordinatorSig) StoreOnly (fromStore arm t processed) :=
  (uses_readStore trivial).bind fun _ => (uses_readStore trivial).bind fun _ => uses_pure _

theorem storeOnly_markManual (reason : ReasonCode) (oid lid : Option String) :
    Uses (S := coordinatorSig) StoreOnly (markManual arm reason t oid lid) :=
  (uses_transact trivial).bind fun _ => uses_transact trivial

/-- Hard flat closes every active lifecycle, in the order of the store. -/
theorem ends_runHardFlat (hs : StoreInv w.store) (hbound : Bound K arm w.store)
    (ht : isUtc t = true) (hsummary : w.store.finalSummary arm.sessionId = none) :
    Ends (S := coordinatorSig) (World.answer K P) (runHardFlat arm t) w fun _ w' =>
      w'.calls = w.calls ++
        (activeIdentities w.store arm.sessionId).map fun l => .closeAndReconcile ⟨arm, l, t⟩ := by
  unfold runHardFlat
  refine ends_readStore_bind ?_
  rw [hsummary]
  refine ends_readStore_bind ?_
  refine ends_ofExcept_bind_ok (activeLifecycles_eq_ok hs _) ?_
  refine ends_bind (ends_closeLifecycles (closing_activeIdentities hs hbound) ht) ?_ ?_
  · rintro _ w' ⟨-, -, hcalls⟩
    rw [← hcalls]
    refine ends_calls ((uses_readStore trivial).bind fun remaining => ?_)
    have hrest : Uses (S := coordinatorSig) StoreOnly
        (do let _ ← finalizeSession arm t; fromStore arm t []) :=
      ((uses_transact trivial).bind fun _ => uses_transact trivial).bind fun _ =>
        storeOnly_fromStore _
    split
    · exact (storeOnly_markManual _ _ _).bind fun _ => hrest
    · exact hrest
  · rintro e w' ⟨he, -⟩
    cases he

/-- `ensure_arm` touches nothing but sessions and windows. -/
theorem withArm_cases (arm : AutonomousSessionArm) (s : SessionStore) :
    ∃ sessions windows, withArm arm s = { s with sessions := sessions, windows := windows } := by
  unfold withArm
  split
  · exact ⟨_, _, rfl⟩
  · exact ⟨s.sessions, s.windows, rfl⟩

theorem activeIdentities_withArm (sid : String) :
    activeIdentities (withArm arm s) sid = activeIdentities s sid := by
  obtain ⟨_, _, h⟩ := withArm_cases arm s
  rw [h]
  rfl

theorem claimedOpportunityIds_withArm (sid : String) :
    (withArm arm s).claimedOpportunityIds sid = s.claimedOpportunityIds sid := by
  obtain ⟨_, _, h⟩ := withArm_cases arm s
  rw [h]
  rfl

theorem finalSummary_withArm (sid : String) :
    (withArm arm s).finalSummary sid = s.finalSummary sid := by
  obtain ⟨_, _, h⟩ := withArm_cases arm s
  rw [h]
  rfl

theorem Accepts.inv {c : Coordinator} (h : Accepts K c t s) (hs : StoreInv s) :
    StoreInv (withArm c.arm s) := by
  rw [withArm_eq_exec h]
  exact (StoreOp.ensureArm c.arm).exec_inv K hs

/-- A run that finds an unresolved claim calls no port. -/
theorem runCoordinator_claimed {c : Coordinator} (haccepts : Accepts K c t w.store)
    (hclaimed : w.store.claimedOpportunityIds c.arm.sessionId ≠ []) :
    (w.runCoordinator K P c t).calls = w.calls := by
  rw [runCoordinator_of_accepts haccepts]
  unfold runArmed
  refine ends_readStore_bind (Q := fun _ w' => w'.calls = w.calls) ?_
  rw [claimedOpportunityIds_withArm, if_pos hclaimed]
  exact ends_calls ((storeOnly_markManual _ _ _).bind fun _ => storeOnly_fromStore _)

/-- A run at hard flat without an unresolved claim closes every active lifecycle. -/
theorem runCoordinator_hardFlat {c : Coordinator} (haccepts : Accepts K c t w.store)
    (hs : StoreInv w.store) (hclaimed : w.store.claimedOpportunityIds c.arm.sessionId = [])
    (hflat : isHardFlat c.arm t) (hsummary : w.store.finalSummary c.arm.sessionId = none) :
    (w.runCoordinator K P c t).calls = w.calls ++
      (activeIdentities w.store c.arm.sessionId).map fun l =>
        .closeAndReconcile ⟨c.arm, l, .utc t.micros⟩ := by
  have hflat' : isHardFlat c.arm (.utc t.micros) := hflat
  have hactive : activeIdentities (withArm c.arm w.store) c.arm.sessionId =
      activeIdentities w.store c.arm.sessionId := activeIdentities_withArm _
  rw [runCoordinator_of_accepts haccepts, ← hactive]
  unfold runArmed
  refine ends_readStore_bind (Q := fun _ w' => w'.calls = w.calls ++ _) ?_
  rw [claimedOpportunityIds_withArm, hclaimed, if_neg (by simp), if_pos hflat']
  exact ends_runHardFlat (haccepts.inv hs) haccepts.bound rfl
    ((finalSummary_withArm _).trans hsummary)

/-- At or after the hard-flat instant every active lifecycle is closed if and only if there is none,
or the run is accepted and the session has no claimed opportunity. -/
theorem hard_flat_closes (K : Contracts) (P : Ports E) (env : E) (ops : List StoreOp)
    (c : Coordinator) (t : DateTime) (hflat : c.arm.hardFlatAt.micros ≤ t.micros)
    (hsummary : (runOps K .empty ops).finalSummary c.arm.sessionId = none) :
    (∀ l ∈ (runOps K .empty ops).lifecycles, l.sessionId = c.arm.sessionId → l.state = .active →
      .closeAndReconcile ⟨c.arm, l.identity, .utc t.micros⟩ ∈
        (World.runCoordinator K P ⟨runOps K .empty ops, [], env⟩ c t).calls) ↔
    ((∀ l ∈ (runOps K .empty ops).lifecycles, l.sessionId = c.arm.sessionId →
        l.state ≠ .active) ∨
      Accepts K c t (runOps K .empty ops) ∧
      (runOps K .empty ops).claimedOpportunityIds c.arm.sessionId = []) := by
  have hs := runOps_inv K ops storeInv_empty
  generalize runOps K .empty ops = s at hsummary hs ⊢
  constructor
  · intro hclosed
    by_cases hnone : ∀ l ∈ s.lifecycles, l.sessionId = c.arm.sessionId → l.state ≠ .active
    · exact .inl hnone
    · push Not at hnone
      obtain ⟨l, hl, hsid, hactive⟩ := hnone
      have hcall := hclosed l hl hsid hactive
      by_cases haccepts : Accepts K c t s
      · refine .inr ⟨haccepts, ?_⟩
        by_contra hclaimed
        rw [runCoordinator_claimed (w := ⟨s, [], env⟩) haccepts hclaimed] at hcall
        cases hcall
      · rw [runCoordinator_of_not_accepts (w := ⟨s, [], env⟩) haccepts] at hcall
        cases hcall
  · rintro (hnone | ⟨haccepts, hclaimed⟩) l hl hsid hactive
    · exact absurd hactive (hnone l hl hsid)
    · rw [runCoordinator_hardFlat (w := ⟨s, [], env⟩) haccepts hs hclaimed (.inl hflat) hsummary]
      refine List.mem_append_right _ (List.mem_map.mpr ⟨l.identity, ?_, rfl⟩)
      exact List.mem_map.mpr ⟨l, mem_activeRows.mpr ⟨hl, hsid, hactive⟩, rfl⟩

end HardFlat

namespace July

/-! One opportunity of the session leads to exposure, and another is claimed by a process that
never comes back. -/

def life : ActiveLifecycleIdentity := .forCandidate arm (opportunity "OPP-1") "LIFE-1"

theorem check_life : life.check = .ok () :=
  ActiveLifecycleIdentity.check_forCandidate (by decide) (by decide)
    (by decide)

def armed : SessionStore := ⟨[newSession arm], newWindows arm, [], [], [], []⟩

def exposed : SessionStore :=
  { armed with
    opportunities := [{ newOpportunity arm (opportunity "OPP-1") (at_ 841) with
      state := .disposed .active, updatedAt := at_ 842 }]
    lifecycles := [newLifecycle arm (opportunity "OPP-1") life (at_ 842)] }

def stuck : SessionStore :=
  { exposed with
    opportunities := exposed.opportunities ++ [newOpportunity arm (opportunity "OPP-2") (at_ 843)] }

def openOps : List StoreOp :=
  [.claim arm (opportunity "OPP-1") (at_ 841), .active arm (opportunity "OPP-1") life (at_ 842)]

def stuckOps : List StoreOp := openOps ++ [.claim arm (opportunity "OPP-2") (at_ 843)]

theorem withArm_empty : withArm arm .empty = armed := rfl

theorem ensureArm_of_sessions {s : SessionStore} {state : SessionState}
    (h : s.sessions = [{ newSession arm with state := state }]) :
    ensureArm contracts arm s = .ok () s := by
  refine ensureArm_eq_ok.mpr ⟨validateArm_arm,
    .inl ⟨{ newSession arm with state := state }, ?_, rfl, rfl, rfl⟩⟩
  rw [SessionStore.session, h]
  simp [newSession]

theorem window_of_windows {s : SessionStore} (h : s.windows = newWindows arm) :
    s.window arm.sessionId "W10" = some ⟨arm.sessionId, "W10", (window 10).windowSha256,
      (window 10).opensAt, (window 10).closesAt, lanes⟩ := by
  rw [SessionStore.window, h, newWindows, arm, List.map_cons]
  exact List.find?_cons_of_pos (by decide)

theorem call_claim {s : SessionStore} {state : SessionState} (hs : StoreInv s)
    (hsessions : s.sessions = [{ newSession arm with state := state }])
    (hwindows : s.windows = newWindows arm) {oid : String} (hoid : isIdentifier oid = true)
    (hnone : s.opportunity arm.sessionId oid = none) (minutes : Int) :
    (StoreOp.claim arm (opportunity oid) (at_ minutes)).call contracts s =
      { s with
        opportunities := s.opportunities ++ [newOpportunity arm (opportunity oid) (at_ minutes)] } := by
  have hlane : (opportunity oid).candidateId ∈ lanes := by
    show "LANE_1" ∈ lanes
    decide
  have htxn : (StoreOp.claim arm (opportunity oid) (at_ minutes)).txn contracts s = .ok .claimed _ :=
    claimPart_new (validateOpportunity_opportunity hoid) rfl (window_of_windows hwindows) rfl hlane
      hnone
  exact StoreOp.call_of_ok hs (ensureArm_of_sessions hsessions) htxn

theorem runOps_openOps : runOps contracts .empty openOps = exposed := by
  have hfirst : (StoreOp.claim arm (opportunity "OPP-1") (at_ 841)).call contracts .empty =
      { armed with opportunities := [newOpportunity arm (opportunity "OPP-1") (at_ 841)] } := by
    have hclaim : (StoreOp.claim arm (opportunity "OPP-1") (at_ 841)).txn contracts armed =
        .ok .claimed _ :=
      claimPart_new (validateOpportunity_opportunity (by decide)) rfl
        (window_of_windows rfl) rfl (show "LANE_1" ∈ lanes by decide) rfl
    exact StoreOp.call_of_ok storeInv_empty ensureArm_empty hclaim
  have hs := (StoreOp.claim arm (opportunity "OPP-1") (at_ 841)).call_inv contracts storeInv_empty
  rw [hfirst] at hs
  have hrow : SessionStore.opportunity
      { armed with opportunities := [newOpportunity arm (opportunity "OPP-1") (at_ 841)] }
      arm.sessionId "OPP-1" = some (newOpportunity arm (opportunity "OPP-1") (at_ 841)) :=
    List.find?_cons_of_pos (by decide)
  have hactive : (StoreOp.active arm (opportunity "OPP-1") life (at_ 842)).txn contracts
      { armed with opportunities := [newOpportunity arm (opportunity "OPP-1") (at_ 841)] } =
      .ok () _ :=
    activePart_new (validateOpportunity_opportunity (by decide)) rfl rfl rfl rfl check_life
      hrow rfl rfl rfl rfl
  have hsecond : (StoreOp.active arm (opportunity "OPP-1") life (at_ 842)).call contracts
      { armed with opportunities := [newOpportunity arm (opportunity "OPP-1") (at_ 841)] } =
      exposed := by
    refine (StoreOp.call_of_ok hs (ensureArm_of_sessions rfl) hactive).trans ?_
    rw [setOpportunity, Table.setWhere, List.map_singleton, if_pos (by decide)]
    rfl
  rw [openOps, runOps_cons, hfirst, runOps_cons, hsecond, runOps_nil]

theorem runOps_stuckOps : runOps contracts .empty stuckOps = stuck := by
  have hs : StoreInv exposed := runOps_openOps ▸ runOps_inv contracts openOps storeInv_empty
  have hnone : exposed.opportunity arm.sessionId "OPP-2" = none := by decide
  have hlast : ∀ s, s = exposed →
      (StoreOp.claim arm (opportunity "OPP-2") (at_ 843)).call contracts s = stuck := by
    rintro s rfl
    exact call_claim hs rfl rfl (by decide) hnone 843
  rw [stuckOps, runOps_append, runOps_cons, runOps_nil]
  exact hlast _ runOps_openOps

theorem accepts_of_sessions {s : SessionStore} (h : s.sessions = [newSession arm]) :
    Accepts contracts coordinator (at_ 1170) s := by
  have hvalid : validateBeforePorts contracts coordinator = .ok () :=
    except_bind_eq_ok.mpr ⟨(), validateArm_arm, throwIf_eq_ok.mpr (by decide)⟩
  refine ⟨hvalid, rfl, ?_⟩
  intro row hrow
  have hmem := (SessionStore.session_eq_some hrow).1
  rw [h, List.mem_singleton] at hmem
  rw [hmem]
  exact ⟨rfl, rfl⟩

theorem life_mem_exposed : newLifecycle arm (opportunity "OPP-1") life (at_ 842) ∈
    exposed.lifecycles := List.mem_singleton_self _

/-- Without an unresolved claim the lifecycle is closed. -/
theorem hard_flat_closes_exposed :
    PortCall.closeAndReconcile ⟨arm, life, at_ 1170⟩ ∈
      (World.runCoordinator contracts silent ⟨runOps contracts .empty openOps, [], ()⟩ coordinator
        (at_ 1170)).calls := by
  have hsummary : (runOps contracts .empty openOps).finalSummary coordinator.arm.sessionId = none :=
    runOps_openOps ▸ rfl
  have hflat : coordinator.arm.hardFlatAt.micros ≤ (at_ 1170).micros := le_refl _
  refine (hard_flat_closes contracts silent () openOps coordinator (at_ 1170) hflat hsummary).mpr
    ?_ (newLifecycle arm (opportunity "OPP-1") life (at_ 842)) ?_ rfl rfl
  · rw [runOps_openOps]
    exact .inr ⟨accepts_of_sessions rfl, by decide⟩
  · rw [runOps_openOps]
    exact life_mem_exposed

/-- With one it stays open: the run at hard flat calls no port. -/
theorem hard_flat_stuck :
    newLifecycle arm (opportunity "OPP-1") life (at_ 842) ∈
      (runOps contracts .empty stuckOps).lifecycles ∧
    (runOps contracts .empty stuckOps).finalSummary arm.sessionId = none ∧
    arm.hardFlatAt.micros ≤ (at_ 1170).micros ∧
    PortCall.closeAndReconcile ⟨arm, life, at_ 1170⟩ ∉
      (World.runCoordinator contracts silent ⟨runOps contracts .empty stuckOps, [], ()⟩ coordinator
        (at_ 1170)).calls := by
  rw [runOps_stuckOps]
  refine ⟨life_mem_exposed, rfl, le_refl _, ?_⟩
  have hclaimed : stuck.claimedOpportunityIds arm.sessionId ≠ [] := by decide
  rw [runCoordinator_claimed (w := ⟨stuck, [], ()⟩) (accepts_of_sessions rfl) hclaimed]
  simp

end July

end EsscherMarket.Runtime
