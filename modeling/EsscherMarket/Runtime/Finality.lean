import EsscherMarket.Runtime.HardFlat

/-!
# Finality of a session

A stored summary is never changed.  That the session is also closed to new work is checked by
`_run_hard_flat` and by the host, but neither by the store nor by a run before hard flat:
`finality` says which actions keep a finalized session closed, and `July.claim_after_final` is a
claim on a finalized session.
-/

namespace EsscherMarket.Runtime

open Lib Prog

variable {K : Contracts} {s s' : SessionStore} {sid oid : String}

/-! ### Steps that open nothing -/

/-- A step that makes an opportunity neither claimed nor active. -/
structure ClosedStep (a b : Option OpportunityState) : Prop where
  claimed : b = some .claimed → a = some .claimed
  active : b = some (.disposed .active) → a = some (.disposed .active)

theorem ClosedStep.refl (a : Option OpportunityState) : ClosedStep a a := ⟨id, id⟩

theorem ClosedStep.trans {a b c : Option OpportunityState} (h : ClosedStep a b)
    (h' : ClosedStep b c) : ClosedStep a c :=
  ⟨fun hc => h.claimed (h'.claimed hc), fun hc => h.active (h'.active hc)⟩

theorem closedStep_setOpportunity {sid' oid' : String} {f : OpportunityRow → OpportunityRow}
    {d : AutonomousDisposition} (hf : Disposes f d) (hd : d ≠ .active)
    (hs' : s'.opportunities = s.opportunities) :
    ClosedStep (s.opportunityState sid oid)
      ((setOpportunity sid' oid' f s').opportunityState sid oid) := by
  have hlookup : s'.opportunity sid oid = s.opportunity sid oid := by
    rw [SessionStore.opportunity, hs', SessionStore.opportunity]
  rw [SessionStore.opportunityState, SessionStore.opportunityState, opportunity_setOpportunity hf,
    hlookup]
  cases s.opportunity sid oid with
  | none => exact .refl _
  | some r =>
    simp only [Option.map_some]
    split
    · rw [hf.state]
      exact ⟨fun h => (by cases h), fun h => absurd (by simpa using h) hd⟩
    · exact .refl _

/-- A change of an opportunity of another session, or of another opportunity. -/
theorem opportunityState_setOpportunity_of_ne {sid' oid' : String}
    {f : OpportunityRow → OpportunityRow} {d : AutonomousDisposition} (hf : Disposes f d)
    (hs' : s'.opportunities = s.opportunities) (hne : (sid, oid) ≠ (sid', oid')) :
    (setOpportunity sid' oid' f s').opportunityState sid oid = s.opportunityState sid oid := by
  have hlookup : s'.opportunity sid oid = s.opportunity sid oid := by
    rw [SessionStore.opportunity, hs', SessionStore.opportunity]
  rw [SessionStore.opportunityState, SessionStore.opportunityState, opportunity_setOpportunity hf,
    hlookup]
  cases hr : s.opportunity sid oid with
  | none => rfl
  | some r =>
    have hkey : r.key ≠ (sid', oid') := (SessionStore.opportunity_eq_some hr).2 ▸ hne
    rw [Option.map_some, if_neg hkey]

namespace StoreOp

/-- A transaction that neither claims nor activates opens nothing. -/
theorem closedStep_of_not_opens (K : Contracts) (s : SessionStore) {op : StoreOp}
    (hop : op.opens = false) (sid oid : String) :
    ClosedStep (s.opportunityState sid oid) ((op.exec K s).opportunityState sid oid) := by
  rcases (op.atomic_txn K).after_cases s with ⟨a, h⟩ | h
  · show ClosedStep _ (((op.txn K).after s).opportunityState sid oid)
    generalize (op.txn K).after s = s₁ at h
    cases op with
    | ensureArm arm =>
      rcases (ensureArm_eq_ok.mp h).2 with ⟨_, -, -, -, rfl⟩ | ⟨-, rfl⟩
      · exact .refl _
      · exact .refl _
    | claim arm o t => cases hop
    | active arm o l t => cases hop
    | terminalFlat arm o proof t =>
      obtain ⟨row, -, ⟨-, rfl⟩ | ⟨-, f, hf, rfl⟩⟩ := terminalFlatPart_ok h
      · exact .refl _
      · exact closedStep_setOpportunity hf (by decide) rfl
    | disposition arm o d t =>
      obtain ⟨row, -, ⟨-, rfl⟩ | ⟨-, f, hf, rfl⟩⟩ := dispositionPart_ok h
      · exact .refl _
      · refine closedStep_setOpportunity hf ?_ rfl
        intro hactive
        have hrec := d.2
        rw [hactive] at hrec
        cases hrec
    | lifecycleTerminalFlat arm l proof t =>
      obtain ⟨row, -, -, -, ⟨-, rfl⟩ | ⟨-, o, f, t', -, -, hf, rfl⟩⟩ :=
        lifecycleTerminalFlatPart_ok h
      · exact .refl _
      · exact closedStep_setOpportunity hf (by decide) rfl
    | manual arm reason t oid' lid =>
      obtain ⟨-, -, -, -, rfl⟩ := manualPart_eq_ok.mp h
      exact .refl _
    | finalize arm t =>
      obtain ⟨-, ⟨-, rfl⟩ | ⟨-, -, -, rfl⟩⟩ := finalizePart_eq_ok.mp h
      · exact .refl _
      · exact .refl _
  · rw [show op.exec K s = s from h]
    exact .refl _

/-- A claim opens the opportunity that it names, if the store does not hold it. -/
theorem closedStep_claim (K : Contracts) (s : SessionStore) {arm : AutonomousSessionArm}
    {o : AutonomousOpportunity} {t : DateTime}
    (hheld : arm.sessionId = sid → s.opportunityState sid o.opportunityId ≠ none) (oid : String) :
    ClosedStep (s.opportunityState sid oid)
      (((claim arm o t).exec K s).opportunityState sid oid) := by
  rcases ((claim arm o t).atomic_txn K).after_cases s with ⟨a, h⟩ | h
  · show ClosedStep _ (((claimPart K arm o t).after s).opportunityState sid oid)
    change claimPart K arm o t s = .ok a ((claimPart K arm o t).after s) at h
    generalize (claimPart K arm o t).after s = s₁ at h
    rcases claimPart_ok h with ⟨_, -, -, rfl⟩ | ⟨hnone, -, rfl⟩
    · exact .refl _
    · have hne : ¬ (arm.sessionId = sid ∧ o.opportunityId = oid) := by
        rintro ⟨rfl, rfl⟩
        exact hheld rfl (by rw [SessionStore.opportunityState, hnone]; rfl)
      have hsame : SessionStore.opportunity { s with
          opportunities := s.opportunities ++ [newOpportunity arm o (.utc t.micros)] } sid oid =
          s.opportunity sid oid := by
        simp [SessionStore.opportunity, newOpportunity, List.find?_append, hne]
      rw [SessionStore.opportunityState, SessionStore.opportunityState, hsame]
      exact .refl _
  · rw [show (claim arm o t).exec K s = s from h]
    exact .refl _

theorem closedStep_active (K : Contracts) (s : SessionStore) {arm : AutonomousSessionArm}
    {o : AutonomousOpportunity} {l : ActiveLifecycleIdentity} {t : DateTime}
    (hheld : arm.sessionId = sid → s.opportunityState sid o.opportunityId ≠ some .claimed)
    (oid : String) :
    ClosedStep (s.opportunityState sid oid)
      (((active arm o l t).exec K s).opportunityState sid oid) := by
  rcases ((active arm o l t).atomic_txn K).after_cases s with ⟨a, h⟩ | h
  · show ClosedStep _ (((activePart K arm o l t).after s).opportunityState sid oid)
    change activePart K arm o l t s = .ok a ((activePart K arm o l t).after s) at h
    generalize (activePart K arm o l t).after s = s₁ at h
    obtain ⟨row, hrow, ⟨-, rfl⟩ | ⟨hclaimed, -, -, -, -, -, f, t', hf, rfl⟩⟩ := activePart_ok h
    · exact .refl _
    · have hne : (sid, oid) ≠ (arm.sessionId, o.opportunityId) := by
        rintro heq
        cases heq
        exact hheld rfl (by rw [SessionStore.opportunityState, hrow, Option.map_some, hclaimed])
      have hrows : ({ s with lifecycles := s.lifecycles ++ [newLifecycle arm o l t'] } :
          SessionStore).opportunities = s.opportunities := rfl
      rw [opportunityState_setOpportunity_of_ne hf hrows hne]
      exact .refl _
  · rw [show (active arm o l t).exec K s = s from h]
    exact .refl _

/-- A transaction of another session opens nothing. -/
theorem closedStep_of_ne (K : Contracts) (s : SessionStore) {op : StoreOp}
    (hop : op.arm.sessionId ≠ sid) (oid : String) :
    ClosedStep (s.opportunityState sid oid) ((op.exec K s).opportunityState sid oid) := by
  cases op with
  | claim arm o t => exact closedStep_claim K s (fun h => absurd h hop) oid
  | active arm o l t => exact closedStep_active K s (fun h => absurd h hop) oid
  | _ => exact closedStep_of_not_opens K s rfl sid oid

end StoreOp

/-! ### Actions that keep a finalized session closed -/

/-- The run gets past its early returns while a window is open: it will ask for candidates. -/
structure AsksForCandidates (K : Contracts) (c : Coordinator) (t : DateTime) (s : SessionStore) :
    Prop where
  accepts : Accepts K c t s
  unclaimed : s.claimedOpportunityIds c.arm.sessionId = []
  early : ¬ isHardFlat c.arm t
  free : s.sessionState c.arm.sessionId ≠ some .manualReconciliationRequired
  due : dueWindows c.arm t ≠ []

/-- The action does not work on the session as if it were open. -/
def Action.Respects (K : Contracts) (sid : String) (s : SessionStore) : Action → Prop
  | .op (.claim arm o _) =>
    arm.sessionId = sid → s.opportunityState sid o.opportunityId ≠ none
  | .op (.active arm o _ _) =>
    arm.sessionId = sid → s.opportunityState sid o.opportunityId ≠ some .claimed
  | .op _ => True
  | .run c t => c.arm.sessionId = sid → ¬ AsksForCandidates K c t s

section Finality

variable {E : Type} {P : Ports E} {w : World E} {s₀ : SessionStore}
  {v : AutonomousSessionSummary}

/-- The session is as final as it was in `s₀`. -/
structure Final (sid : String) (v : AutonomousSessionSummary) (s₀ s : SessionStore) : Prop where
  inv : StoreInv s
  summary : s.finalSummary sid = some v
  states : ∀ oid, ClosedStep (s₀.opportunityState sid oid) (s.opportunityState sid oid)

theorem Final.exec (h : Final sid v s₀ s) {op : StoreOp}
    (hop : ∀ oid, ClosedStep (s.opportunityState sid oid)
      ((op.exec K s).opportunityState sid oid)) : Final sid v s₀ (op.exec K s) :=
  ⟨op.exec_inv K h.inv, (op.exec_kept K h.inv).summary sid v h.summary,
    fun oid => (h.states oid).trans (hop oid)⟩

theorem Final.run {α : Type} (h : Final sid v s₀ w.store) {arm : AutonomousSessionArm}
    {p : CoordinatorProg α} (hp : Uses (S := coordinatorSig) (Harmless sid arm) p) :
    Final sid v s₀ (p.run (S := coordinatorSig) (World.answer K P) w).2.store := by
  refine hp.run_inv (J := fun w : World E => Final sid v s₀ w.store) ?_ h
  intro op w hop hw
  cases op with
  | store op =>
    rcases hop with ⟨hquiet, -⟩ | ⟨harm, hne⟩
    · exact hw.exec fun oid => StoreOp.closedStep_of_not_opens K _ hquiet sid oid
    · have hother : op.arm.sessionId ≠ sid := by rw [show op.arm = arm from harm]; exact hne
      exact hw.exec fun oid => StoreOp.closedStep_of_ne K _ hother oid
  | read => exact hw
  | reconcile r => exact hw
  | collectDue r => exact hw
  | process r => exact hw
  | closeAndReconcile r => exact hw

/-- Between windows a run asks for nothing. -/
theorem quiet_runDue {arm : AutonomousSessionArm} {t : DateTime} (h : dueWindows arm t = []) :
    Uses (S := coordinatorSig) (Quiet arm) (runDue K arm t) := by
  unfold runDue
  rw [h]
  refine (uses_readStore trivial).bind fun active => ?_
  have hreconcile : Quiet arm (.reconcile (startupRequest arm t active)) := trivial
  refine (uses_perform (S := coordinatorSig) hreconcile).bind fun answer => ?_
  cases accepted (validateReconciliation · (startupRequest arm t active)) answer with
  | none => exact (quiet_markManual _ _ _).bind fun _ => quiet_fromStore _
  | some _ => exact quiet_fromStore _

/-- A run that does not ask for candidates. -/
theorem Final.runCoordinator (h : Final sid v s₀ w.store) {c : Coordinator} {t : DateTime}
    (hrun : c.arm.sessionId = sid → ¬ AsksForCandidates K c t w.store) :
    Final sid v s₀ (w.runCoordinator K P c t).store := by
  by_cases haccepts : Accepts K c t w.store
  · have h₁ : Final sid v s₀ (withArm c.arm w.store) := by
      rw [withArm_eq_exec haccepts]
      exact h.exec fun oid => StoreOp.closedStep_of_not_opens K _ rfl sid oid
    rw [runCoordinator_of_accepts haccepts]
    by_cases hsid : c.arm.sessionId = sid
    · have hquiet : ∀ {α : Type} {p : CoordinatorProg α},
          Uses (S := coordinatorSig) (Quiet c.arm) p →
          Ends (S := coordinatorSig) (World.answer K P) p
            { w with store := withArm c.arm w.store } fun _ w' => Final sid v s₀ w'.store :=
        fun hp => Final.run h₁ (hp.mono fun _ => .inl)
      have hends : Ends (S := coordinatorSig) (World.answer K P)
          (runArmed K c.arm (.utc t.micros)) { w with store := withArm c.arm w.store }
          fun _ w' => Final sid v s₀ w'.store := by
        unfold runArmed
        refine ends_readStore_bind ?_
        split
        · exact hquiet ((quiet_markManual _ _ _).bind fun _ => quiet_fromStore _)
        rename_i hclaimed
        split
        · exact hquiet quiet_runHardFlat
        rename_i hearly
        refine ends_readStore_bind ?_
        split
        · exact hquiet (quiet_fromStore _)
        rename_i hfree
        -- nothing is left but a run between windows
        refine hquiet (quiet_runDue ?_)
        by_contra hdue
        rw [claimedOpportunityIds_withArm, not_not] at hclaimed
        refine hrun hsid ⟨haccepts, hclaimed, hearly, fun hmanual => hfree ?_, hdue⟩
        rw [withArm_eq_exec haccepts]
        exact ((StoreOp.ensureArm c.arm).exec_kept K h.inv).manual _ hmanual
      exact hends
    · exact Final.run h₁ ((ofArm_runArmed K).mono fun _ hop => .inr ⟨hop, hsid⟩)
  · rw [runCoordinator_of_not_accepts haccepts]
    exact h

theorem Final.act (h : Final sid v s₀ w.store) {a : Action} (ha : a.Respects K sid w.store) :
    Final sid v s₀ (w.act K P a).store := by
  cases a with
  | run c t => exact h.runCoordinator ha
  | op o =>
    show Final sid v s₀ (o.call K w.store)
    rcases o.call_cases K h.inv with hsame | ⟨-, hcall⟩
    · rw [hsame]
      exact h
    · have h₁ : Final sid v s₀ ((StoreOp.ensureArm o.arm).exec K w.store) :=
        h.exec fun oid => StoreOp.closedStep_of_not_opens K _ rfl sid oid
      have hstate : ∀ oid, ((StoreOp.ensureArm o.arm).exec K w.store).opportunityState sid oid =
          w.store.opportunityState sid oid := StoreOp.opportunityState_ensureArm K o.arm w.store sid
      rw [hcall]
      refine h₁.exec fun oid => ?_
      cases o with
      | claim arm o t =>
        exact StoreOp.closedStep_claim K _ (fun hsid => (hstate _).symm ▸ ha hsid) oid
      | active arm o l t =>
        exact StoreOp.closedStep_active K _ (fun hsid => (hstate _).symm ▸ ha hsid) oid
      | _ => exact StoreOp.closedStep_of_not_opens K _ rfl sid oid

def RespectAll (K : Contracts) (P : Ports E) (sid : String) : World E → List Action → Prop
  | _, [] => True
  | w, a :: as => a.Respects K sid w.store ∧ RespectAll K P sid (w.act K P a) as

theorem Final.acts (h : Final sid v s₀ w.store) {as : List Action}
    (has : RespectAll K P sid w as) : Final sid v s₀ (w.acts K P as).store := by
  induction as generalizing w with
  | nil => exact h
  | cons a as ih => exact ih (h.act has.1) has.2

/-- A summary stays, whatever is done. -/
theorem acts_finalSummary (K : Contracts) (P : Ports E) (as : List Action) (hs : StoreInv w.store)
    (h : w.store.finalSummary sid = some v) : (w.acts K P as).store.finalSummary sid = some v := by
  induction as generalizing w with
  | nil => exact h
  | cons a as ih =>
    refine ih (w.act_inv K P a hs) ?_
    cases a with
    | op o =>
      show (o.call K w.store).finalSummary sid = some v
      rcases o.call_cases K hs with hsame | ⟨-, hcall⟩
      · rw [hsame]
        exact h
      · have hs₁ := (StoreOp.ensureArm o.arm).exec_inv K hs
        rw [hcall]
        exact (o.exec_kept K hs₁).summary _ _ (((StoreOp.ensureArm o.arm).exec_kept K hs).summary _ _ h)
    | run c t =>
      have hkeep := (uses_true (c.run K t)).run_inv (s := w)
        (J := fun w : World E => StoreInv w.store ∧ w.store.finalSummary sid = some v)
        (fun op w _ hw => ⟨World.answer_inv K P op w hw.1, ?_⟩) ⟨hs, h⟩
      · exact hkeep.2
      · cases op with
        | store op => exact (op.exec_kept K hw.1).summary _ _ hw.2
        | _ => exact hw.2

/-- Once a session has a summary, it is never changed, and what is claimed or active was so when the
session was finalized. -/
theorem finality (K : Contracts) (P : Ports E) (env : E) (before after : List Action)
    (sid : String) (v : AutonomousSessionSummary)
    (hfinal : ((World.start env).acts K P before).store.finalSummary sid = some v) :
    (((World.start env).acts K P before).acts K P after).store.finalSummary sid = some v ∧
    (RespectAll K P sid ((World.start env).acts K P before) after → ∀ oid,
      ((((World.start env).acts K P before).acts K P after).store.opportunityState sid oid =
        some .claimed →
        ((World.start env).acts K P before).store.opportunityState sid oid = some .claimed) ∧
      ((((World.start env).acts K P before).acts K P after).store.opportunityState sid oid =
        some (.disposed .active) →
        ((World.start env).acts K P before).store.opportunityState sid oid =
          some (.disposed .active))) := by
  have hinv := World.acts_inv K P before (w := World.start env) storeInv_empty
  have hstart : Final sid v ((World.start env).acts K P before).store
      ((World.start env).acts K P before).store := ⟨hinv, hfinal, fun _ => .refl _⟩
  refine ⟨acts_finalSummary K P after hinv hfinal, ?_⟩
  intro hafter oid
  have hend := (hstart.acts hafter).states oid
  exact ⟨hend.claimed, hend.active⟩

end Finality

namespace July

/-- The session is finalized after its end, without any work. -/
def finish : StoreOp := .finalize arm (at_ 1170)

def summary : AutonomousSessionSummary := buildSummary arm (at_ 1170) armed

def finalStore : SessionStore :=
  { armed with
    sessions := [{ newSession arm with state := .finalized }]
    summaries := [⟨arm.sessionId, summary⟩] }

theorem call_finish : finish.call contracts .empty = finalStore := by
  have hproven : (buildSummary arm (at_ 1170) armed).terminalFlatProven = true := by decide
  have htxn : finish.txn contracts armed = .ok summary (setSession arm.sessionId
      (if summary.terminalFlatProven then .finalized else .manualReconciliationRequired)
      { armed with summaries := armed.summaries ++ [⟨arm.sessionId, summary⟩] }) := by
    refine finalizePart_eq_ok.mpr ⟨rfl, .inr ⟨rfl, ?_, rfl, rfl⟩⟩
    simp [armed, SessionStore.session, newSession]
  refine (StoreOp.call_of_ok storeInv_empty ensureArm_empty htxn).trans ?_
  rw [setSession, Table.setWhere, show armed.sessions = [newSession arm] from rfl,
    List.map_singleton, if_pos (by decide), summary, hproven]
  rfl

/-- A run at hard flat respects the finalized session: nothing is claimed. -/
theorem finality_hardFlat :
    (((World.start ()).acts contracts silent [.op finish]).acts contracts silent
      [.run coordinator (at_ 1170)]).store.opportunityState arm.sessionId "OPP-1" ≠
        some .claimed := by
  have hfinal : ((World.start ()).acts contracts silent [.op finish]).store = finalStore :=
    call_finish
  have hsummary : ((World.start ()).acts contracts silent [.op finish]).store.finalSummary
      arm.sessionId = some summary := hfinal ▸ rfl
  have hnone : ((World.start ()).acts contracts silent [.op finish]).store.opportunityState
      arm.sessionId "OPP-1" = none := hfinal ▸ rfl
  intro hclaimed
  have hbefore := ((finality contracts silent () [.op finish] [.run coordinator (at_ 1170)]
    arm.sessionId summary hsummary).2 ⟨fun _ h => h.early (.inl (le_refl _)), trivial⟩ "OPP-1").1
    hclaimed
  rw [hnone] at hbefore
  cases hbefore

/-- A claim on a finalized session is granted, at an earlier instant and with the summary in the
store. -/
theorem claim_after_final :
    ((World.start ()).acts contracts silent [.op finish]).store.finalSummary arm.sessionId =
      some summary ∧
    (((World.start ()).acts contracts silent [.op finish]).acts contracts silent
      [.op (.claim arm (opportunity "OPP-1") (at_ 845))]).store.opportunityState arm.sessionId
        "OPP-1" = some .claimed := by
  have hs : StoreInv finalStore := call_finish ▸ finish.call_inv contracts storeInv_empty
  -- stated over an arbitrary world, so that its store is compared with `finalStore` by name only
  have hclaim : ∀ w : World Unit, w.store = finalStore →
      w.store.finalSummary arm.sessionId = some summary ∧
      (w.acts contracts silent
        [.op (.claim arm (opportunity "OPP-1") (at_ 845))]).store.opportunityState
          arm.sessionId "OPP-1" = some .claimed := by
    intro w hw
    have hstore : (w.acts contracts silent
        [.op (.claim arm (opportunity "OPP-1") (at_ 845))]).store =
          (StoreOp.claim arm (opportunity "OPP-1") (at_ 845)).call contracts w.store := rfl
    rw [hstore, hw, call_claim hs rfl rfl (by decide) rfl 845]
    exact ⟨rfl, by decide⟩
  exact hclaim _ call_finish

end July

end EsscherMarket.Runtime
