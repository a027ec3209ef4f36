import EsscherMarket.Runtime.Host

/-!
# What one point of a timeline does

A point that was run without a manual mark has left every opportunity it collected in the store
(`Handled`), so to run it again changes nothing or marks the session.  A program does the same in
worlds with the same store (`Alike.run`).
-/

namespace EsscherMarket.Runtime

open Lib Prog

/-! ### Two worlds -/

section Alike

variable {K : Contracts} {P : Ports Unit} {w w' : World Unit}

def World.closes {E : Type} (w : World E) : List LifecycleCloseRequest :=
  w.calls.filterMap fun
    | .closeAndReconcile r => some r
    | _ => none

structure Alike (w w' : World Unit) : Prop where
  store : w.store = w'.store
  closes : w.closes = w'.closes

theorem closes_called {E : Type} {w : World E} {call : PortCall} {env : E}
    (h : ∀ r, call ≠ .closeAndReconcile r) : (w.called call env).closes = w.closes := by
  rw [World.closes, World.called, List.filterMap_append]
  cases call with
  | closeAndReconcile r => exact absurd rfl (h r)
  | _ => exact List.append_nil _

theorem closes_called_close {E : Type} {w : World E} {r : LifecycleCloseRequest} {env : E} :
    (w.called (.closeAndReconcile r) env).closes = w.closes ++ [r] := by
  rw [World.closes, World.called, List.filterMap_append]
  rfl

theorem Alike.answer (h : Alike w w') (op : CoordinatorOp) :
    (World.answer K P op w).1 = (World.answer K P op w').1 ∧
      Alike (World.answer K P op w).2 (World.answer K P op w').2 := by
  cases op with
  | store op =>
    simp only [World.answer, h.store]
    exact ⟨rfl, rfl, h.closes⟩
  | read => exact ⟨h.store, h⟩
  | closeAndReconcile r =>
    refine ⟨rfl, h.store, ?_⟩
    simp only [World.answer, closes_called_close, h.closes]
  | _ =>
    refine ⟨rfl, h.store, ?_⟩
    simp only [World.answer]
    rw [closes_called (by simp), closes_called (by simp)]
    exact h.closes

/-- A program does the same in alike worlds. -/
theorem Alike.run {ε α : Type} (h : Alike w w') (p : Prog coordinatorSig ε α) :
    (p.run (World.answer K P) w).1 = (p.run (World.answer K P) w').1 ∧
      Alike (p.run (World.answer K P) w).2 (p.run (World.answer K P) w').2 := by
  induction p generalizing w w' with
  | done a => exact ⟨rfl, h⟩
  | raise e => exact ⟨rfl, h⟩
  | call op k ih =>
    obtain ⟨hres, hnext⟩ := h.answer (K := K) (P := P) op
    have hrun := ih (World.answer K P op w).1 hnext
    simp only [Prog.run]
    rw [← hres]
    exact hrun

theorem Alike.run_ok {ε α : Type} (h : Alike w w') {p : Prog coordinatorSig ε α} {a a' : α}
    {v v' : World Unit} (hp : p.run (World.answer K P) w = (.ok a, v))
    (hp' : p.run (World.answer K P) w' = (.ok a', v')) : a = a' ∧ Alike v v' := by
  have hrun := h.run (K := K) (P := P) p
  rw [hp, hp'] at hrun
  exact ⟨Except.ok.inj hrun.1, hrun.2⟩

end Alike

/-! ### What every program keeps -/

section Keeps

variable {E ε α : Type} {K : Contracts} {P : Ports E} {w : World E} {arm : AutonomousSessionArm}
  {s s' : SessionStore}

theorem StoreWrite.bound (h : StoreWrite s s') (hb : Bound K arm s) : Bound K arm s' := by
  obtain ⟨row, hrow, hrest⟩ := hb.stored
  cases h with
  | arm new ws hnew hstate => exact ⟨hb.valid, row, find?_append_of_some hrow, hrest⟩
  | manual sid rows hkeep hreason => exact hb.setSession
  | finalize arm' at_ hnone => exact hb.setSession
  | _ => exact ⟨hb.valid, row, hrow, hrest⟩

/-- What a store needs for a run: its invariant, and the arm. -/
structure Ready (K : Contracts) (arm : AutonomousSessionArm) (s : SessionStore) : Prop where
  inv : StoreInv s
  bound : Bound K arm s

theorem Ready.exec (h : Ready K arm s) (op : StoreOp) : Ready K arm (op.exec K s) := by
  refine ⟨op.exec_inv K h.inv, ?_⟩
  rcases op.step K h.inv with heq | hwrite
  · rw [heq]
    exact h.bound
  · exact hwrite.bound h.bound

theorem run_keeps {J : SessionStore → Prop} (hkeep : ∀ (op : StoreOp) s, J s → J (op.exec K s))
    (h : J w.store) (p : Prog coordinatorSig ε α) : J (p.run (World.answer K P) w).2.store := by
  refine (uses_true p).run_inv (J := fun w : World E => J w.store) ?_ h
  intro op w _ hw
  cases op with
  | store op => exact hkeep op _ hw
  | _ => exact hw

theorem Ready.run (h : Ready K arm w.store) (p : Prog coordinatorSig ε α) :
    Ready K arm (p.run (World.answer K P) w).2.store :=
  run_keeps (fun op _ hs => hs.exec op) h p

theorem run_settled {op : StoreOp} (hs : StoreInv w.store) (h : Settled op w.store)
    (p : Prog coordinatorSig ε α) : Settled op (p.run (World.answer K P) w).2.store := by
  refine (run_keeps (J := fun s => StoreInv s ∧ Settled op s) ?_ ⟨hs, h⟩ p).2
  rintro op' s ⟨hs, h⟩
  exact ⟨op'.exec_inv K hs, (op'.exec_kept K hs).settled h⟩

def Manual (arm : AutonomousSessionArm) (s : SessionStore) : Prop :=
  s.sessionState arm.sessionId = some .manualReconciliationRequired

theorem Manual.run (hs : StoreInv w.store) (h : Manual arm w.store)
    (p : Prog coordinatorSig ε α) : Manual arm (p.run (World.answer K P) w).2.store := by
  refine (run_keeps (J := fun s => StoreInv s ∧ Manual arm s) ?_ ⟨hs, h⟩ p).2
  rintro op s ⟨hs, h⟩
  exact ⟨op.exec_inv K hs, (op.exec_kept K hs).manual _ h⟩

end Keeps

/-! ### Programs that open and close nothing -/

section Still

variable {E ε α : Type} {K : Contracts} {P : Ports E} {w : World E} {arm : AutonomousSessionArm}
  {t : DateTime} {s s' s'' : SessionStore}

structure SameExposure (s s' : SessionStore) : Prop where
  opportunities : s'.opportunities = s.opportunities
  lifecycles : s'.lifecycles = s.lifecycles

theorem SameExposure.refl (s : SessionStore) : SameExposure s s := ⟨rfl, rfl⟩

theorem SameExposure.trans (h : SameExposure s s') (h' : SameExposure s' s'') :
    SameExposure s s'' :=
  ⟨h'.opportunities.trans h.opportunities, h'.lifecycles.trans h.lifecycles⟩

/-- The operations that neither touch an opportunity or a lifecycle nor ask for a close. -/
def Still : CoordinatorOp → Prop
  | .store (.ensureArm _) | .store (.manual ..) | .store (.finalize ..) => True
  | .read | .reconcile _ => True
  | _ => False

theorem sameExposure_exec {op : StoreOp} (h : Still (.store op)) (s : SessionStore) :
    SameExposure s (op.exec K s) := by
  rcases (op.atomic_txn K).after_cases s with ⟨a, hok⟩ | hsame
  · show SameExposure s ((op.txn K).after s)
    generalize (op.txn K).after s = s₁ at hok
    cases op with
    | ensureArm arm =>
      rcases (ensureArm_eq_ok.mp hok).2 with ⟨_, -, -, -, rfl⟩ | ⟨-, rfl⟩
      · exact .refl _
      · exact ⟨rfl, rfl⟩
    | manual arm reason t oid lid =>
      obtain ⟨-, -, -, -, rfl⟩ := manualPart_eq_ok.mp hok
      exact ⟨rfl, rfl⟩
    | finalize arm t =>
      obtain ⟨-, ⟨-, rfl⟩ | ⟨-, -, -, rfl⟩⟩ := finalizePart_eq_ok.mp hok
      · exact .refl _
      · exact ⟨rfl, rfl⟩
    | _ => exact h.elim
  · rw [show op.exec K s = s from hsame]
    exact .refl s

/-- A still program leaves the exposure and asks for no close. -/
theorem run_still {p : Prog coordinatorSig ε α} (hp : Uses (S := coordinatorSig) Still p) :
    SameExposure w.store (p.run (World.answer K P) w).2.store ∧
      (p.run (World.answer K P) w).2.closes = w.closes := by
  refine hp.run_inv (J := fun w' : World E => SameExposure w.store w'.store ∧
    w'.closes = w.closes) ?_ ⟨.refl _, rfl⟩
  rintro op w' hop ⟨hexposure, hcloses⟩
  cases op with
  | store op => exact ⟨hexposure.trans (sameExposure_exec hop _), hcloses⟩
  | read => exact ⟨hexposure, hcloses⟩
  | reconcile r => exact ⟨hexposure, (closes_called (by simp)).trans hcloses⟩
  | collectDue r => exact hop.elim
  | process r => exact hop.elim
  | closeAndReconcile r => exact hop.elim

theorem still_markManual (arm : AutonomousSessionArm) (t : DateTime) (reason : ReasonCode) (oid lid : Option String) :
    Uses (S := coordinatorSig) Still (markManual arm reason t oid lid) :=
  (uses_transact trivial).bind fun _ => uses_transact trivial

theorem still_fromStore (processed : List String) :
    Uses (S := coordinatorSig) Still (fromStore arm t processed) :=
  (uses_readStore trivial).bind fun _ => (uses_readStore trivial).bind fun _ => uses_pure _

theorem run_transact_eq (op : StoreOp) :
    (transact op).run (S := coordinatorSig) (World.answer K P) w =
      ((op.txn K).result w.store, { w with store := op.exec K w.store }) := by
  unfold transact
  refine run_perform_bind ?_
  exact run_ofExcept _

/-- A manual mark: it returned and the session needs manual reconciliation, or nothing was
written. -/
theorem ends_markManual (h : Ready K arm w.store) (reason : ReasonCode) (oid lid : Option String) :
    Ends (S := coordinatorSig) (World.answer K P) (markManual arm reason t oid lid) w fun r w' =>
      r = .ok () ∧ Manual arm w'.store ∨ (∃ e, r = .error e) ∧ w'.store = w.store := by
  have hensure : (StoreOp.ensureArm arm).txn K w.store = .ok () w.store := h.bound.ensureArm
  refine ends_of_run (run_bind (run_transact hensure) (run_transact_eq _)) ?_
  rcases ((StoreOp.manual arm reason t oid lid).atomic_txn K).after_cases w.store with
    ⟨a, hok⟩ | hsame
  · exact .inl ⟨Txn.result_of_ok hok, (StoreOp.settled_of_ok h.inv hok).1⟩
  · cases hresult : ((StoreOp.manual arm reason t oid lid).txn K).result w.store with
    | ok u =>
      obtain ⟨s₁, hok⟩ := Txn.of_result_ok hresult
      have hexec : (StoreOp.manual arm reason t oid lid).exec K w.store = s₁ := Txn.after_of_ok hok
      refine .inl ⟨rfl, ?_⟩
      rw [hexec]
      exact (StoreOp.settled_of_ok h.inv hok).1
    | error e => exact .inr ⟨⟨e, rfl⟩, hsame⟩

end Still

/-! ### Programs that finalize and close nothing -/

section Open

variable {K : Contracts} {P : Ports Unit} {w : World Unit} {arm : AutonomousSessionArm}

/-- A transaction that finalizes nothing leaves the summaries. -/
theorem summaries_exec {op : StoreOp} (h : Due arm (.store op)) (s : SessionStore) :
    (op.exec K s).summaries = s.summaries := by
  rcases (op.atomic_txn K).after_cases s with ⟨a, hok⟩ | hsame
  · show ((op.txn K).after s).summaries = s.summaries
    generalize (op.txn K).after s = s₁ at hok
    cases op with
    | ensureArm arm =>
      rcases (ensureArm_eq_ok.mp hok).2 with ⟨_, -, -, -, rfl⟩ | ⟨-, rfl⟩
      · rfl
      · rfl
    | claim arm o t =>
      rcases claimPart_ok hok with ⟨_, -, -, rfl⟩ | ⟨-, -, rfl⟩
      · rfl
      · rfl
    | terminalFlat arm o proof t =>
      obtain ⟨row, -, ⟨-, rfl⟩ | ⟨-, f, -, rfl⟩⟩ := terminalFlatPart_ok hok
      · rfl
      · rfl
    | disposition arm o d t =>
      obtain ⟨row, -, ⟨-, rfl⟩ | ⟨-, f, -, rfl⟩⟩ := dispositionPart_ok hok
      · rfl
      · rfl
    | active arm o l t =>
      obtain ⟨row, -, ⟨-, rfl⟩ | ⟨-, -, -, -, -, -, f, t', -, rfl⟩⟩ := activePart_ok hok
      · rfl
      · rfl
    | manual arm reason t oid lid =>
      obtain ⟨-, -, -, -, rfl⟩ := manualPart_eq_ok.mp hok
      rfl
    | lifecycleTerminalFlat arm l proof t => exact h.elim
    | finalize arm t => exact h.elim
  · rw [show op.exec K s = s from hsame]

/-- Nothing was closed or finalized. -/
structure Open (w w' : World Unit) : Prop where
  summaries : w'.store.summaries = w.store.summaries
  closes : w'.closes = w.closes

theorem Open.refl (w : World Unit) : Open w w := ⟨rfl, rfl⟩

theorem Open.trans {w w' w'' : World Unit} (h : Open w w') (h' : Open w' w'') : Open w w'' :=
  ⟨h'.summaries.trans h.summaries, h'.closes.trans h.closes⟩

theorem run_due {ε α : Type} {p : Prog coordinatorSig ε α}
    (hp : Uses (S := coordinatorSig) (Due arm) p) :
    Open w (p.run (World.answer K P) w).2 := by
  refine hp.run_inv (J := fun w' => Open w w') ?_ (.refl w)
  intro op w' hop hw
  refine hw.trans ?_
  cases op with
  | store op => exact ⟨summaries_exec hop _, rfl⟩
  | read => exact .refl _
  | closeAndReconcile r => exact hop.elim
  | _ => exact ⟨rfl, closes_called (by simp)⟩

end Open

/-! ### A point that is run again -/

section Handled

variable {K : Contracts} {B : HostBackends} {w : World Unit} {arm : AutonomousSessionArm}
  {t : DateTime} {o : AutonomousOpportunity} {s s' : SessionStore}

/-- Every opportunity that the collector finds in the window at this instant is in the store. -/
def HandledWindow (K : Contracts) (B : HostBackends) (arm : AutonomousSessionArm) (t : DateTime)
    (s : SessionStore) (window : AutonomousWindow) : Prop :=
  ∀ collected unique, B.collectDue ⟨arm, window, t⟩ = some collected →
    uniqueOpportunities K arm window collected [] = .ok unique →
    ∀ o ∈ unique, Settled (.claim arm o t) s

def Handled (K : Contracts) (B : HostBackends) (arm : AutonomousSessionArm) (t : DateTime)
    (s : SessionStore) : Prop :=
  ∀ window ∈ dueWindows arm t, HandledWindow K B arm t s window

/-- A claim of an opportunity that the store holds changes nothing and is not granted. -/
theorem run_claim_settled (h : Ready K arm w.store) (ho : Settled (.claim arm o t) w.store) :
    ∃ r, (claimOpportunity arm o t).run (S := coordinatorSig) (World.answer K B.ports) w = (r, w) ∧
      r ≠ .ok .claimed := by
  have hensure : (StoreOp.ensureArm arm).txn K w.store = .ok () w.store := h.bound.ensureArm
  have hexec : (StoreOp.claim arm o t).exec K w.store = w.store := StoreOp.exec_of_settled h.inv ho
  have hrun := run_transact_eq (K := K) (P := B.ports) (w := w) (.claim arm o t)
  rw [hexec] at hrun
  refine ⟨_, run_bind (run_transact hensure) hrun, ?_⟩
  intro hclaimed
  obtain ⟨s₁, hok⟩ := Txn.of_result_ok hclaimed
  rcases claimPart_ok hok with ⟨_, -, hne, -⟩ | ⟨hnone, -, -⟩
  · exact hne rfl
  · refine ho ?_
    rw [SessionStore.opportunityState, hnone, Option.map_none]

theorem ends_processOpportunities_handled (h : Ready K arm w.store)
    {os : List AutonomousOpportunity} (hos : ∀ o ∈ os, Settled (.claim arm o t) w.store)
    (processed : List String) :
    Ends (S := coordinatorSig) (World.answer K B.ports) (processOpportunities arm t os processed) w
      fun _ w' => w' = w := by
  induction os generalizing processed with
  | nil => exact ends_pure rfl
  | cons o os ih =>
    obtain ⟨r, hrun, hr⟩ := run_claim_settled (B := B) h (hos o List.mem_cons_self)
    have hone : Ends (S := coordinatorSig) (World.answer K B.ports)
        (processOpportunity arm t processed o) w fun r w' =>
          w' = w ∧ ∀ flow, r = .ok flow → flow = .next processed := by
      refine ends_bind (Q := fun r' w' => r' = r ∧ w' = w) (ends_of_run hrun ⟨rfl, rfl⟩) ?_ ?_
      · rintro claim w' ⟨hclaim, rfl⟩
        rw [if_pos (by rintro rfl; exact hr hclaim.symm)]
        exact ends_pure ⟨rfl, fun flow hflow => (Except.ok.inj hflow).symm⟩
      · rintro e w' ⟨-, rfl⟩
        exact ⟨rfl, fun flow hflow => nomatch hflow⟩
    refine ends_bind hone ?_ ?_
    · rintro flow w' ⟨rfl, hflow⟩
      rw [hflow flow rfl]
      exact ih (fun o ho => hos o (List.mem_cons_of_mem _ ho)) processed
    · rintro e w' ⟨rfl, -⟩
      rfl

theorem ends_processWindows_handled (h : Ready K arm w.store) {ws : List AutonomousWindow}
    (hws : ∀ window ∈ ws, HandledWindow K B arm t w.store window) (processed : List String) :
    Ends (S := coordinatorSig) (World.answer K B.ports) (processWindows K arm t ws processed) w
      fun _ w' => w'.store = w.store ∧ w'.closes = w.closes := by
  induction ws generalizing w processed with
  | nil => exact ends_pure ⟨rfl, rfl⟩
  | cons window ws ih =>
    let w₁ := w.called (.collectDue ⟨arm, window, t⟩) ()
    have hcloses : w₁.closes = w.closes := closes_called (by simp)
    refine ends_perform_bind (ends_ofExcept_bind ?_ fun e _ => ⟨rfl, hcloses⟩)
    intro collected hcollected
    refine ends_ofExcept_bind ?_ fun e _ => ⟨rfl, hcloses⟩
    intro unique hunique
    have hcollect : B.collectDue ⟨arm, window, t⟩ = some collected := by
      cases hanswer : B.collectDue ⟨arm, window, t⟩ with
      | none =>
        have hnone : (World.answer K B.ports (.collectDue ⟨arm, window, t⟩) w).1 = none := hanswer
        rw [hnone] at hcollected
        cases hcollected
      | some v =>
        have hsome : (World.answer K B.ports (.collectDue ⟨arm, window, t⟩) w).1 = some v := hanswer
        rw [hsome] at hcollected
        exact congrArg some (Except.ok.inj hcollected)
    have hos : ∀ o ∈ unique.insertionSort fun a b => a.opportunityId ≤ b.opportunityId,
        Settled (.claim arm o t) w₁.store := by
      intro o ho
      exact hws window List.mem_cons_self collected unique hcollect hunique o
        ((List.mem_insertionSort _).mp ho)
    have hready : Ready K arm w₁.store := h
    refine ends_bind (ends_processOpportunities_handled (B := B) hready hos processed) ?_ ?_
    · rintro flow w' rfl
      cases flow with
      | next processed =>
        refine (ih (w := w₁) h (fun v hv => hws v (List.mem_cons_of_mem _ hv)) processed).mono ?_
        rintro r w'' ⟨hstore, hcloses'⟩
        exact ⟨hstore, hcloses'.trans hcloses⟩
      | stop processed => exact ends_pure ⟨rfl, hcloses⟩
    · rintro e w' rfl
      exact ⟨rfl, hcloses⟩

/-- What a point that is run again can do: nothing, or a manual mark. -/
structure Replayed (arm : AutonomousSessionArm) (w w' : World Unit) : Prop where
  exposure : SameExposure w.store w'.store
  open_ : Open w w'
  same : w'.store = w.store ∨ Manual arm w'.store

theorem Replayed.of_same {w w' : World Unit} (hstore : w'.store = w.store)
    (hcloses : w'.closes = w.closes) : Replayed arm w w' :=
  ⟨by rw [hstore]; exact .refl _, ⟨by rw [hstore], hcloses⟩, .inl hstore⟩

theorem Replayed.refl (arm : AutonomousSessionArm) (w : World Unit) : Replayed arm w w :=
  .of_same rfl rfl

theorem Replayed.trans {w w' w'' : World Unit} (h : Replayed arm w w')
    (h' : Replayed arm w' w'') : Replayed arm w w'' := by
  refine ⟨h.exposure.trans h'.exposure, h.open_.trans h'.open_, ?_⟩
  rcases h'.same with hsame | hmanual
  · rw [hsame]
    exact h.same
  · exact .inr hmanual

theorem replayed_markManual {α : Type} (h : Ready K arm w.store) {reason : ReasonCode}
    {oid lid : Option String} {f : Unit → CoordinatorProg α}
    (hf : ∀ w : World Unit, ∃ a, (f ()).run (S := coordinatorSig) (World.answer K B.ports) w =
      (.ok a, w)) :
    Ends (S := coordinatorSig) (World.answer K B.ports)
      (markManual arm reason t oid lid >>= f) w fun _ w' => Replayed arm w w' := by
  have hstill := run_still (K := K) (P := B.ports) (w := w)
    (still_markManual arm t reason oid lid)
  have hdue := run_due (K := K) (P := B.ports) (w := w)
    (due_markManual arm t reason oid lid)
  have hmark := ends_markManual (P := B.ports) (t := t) h reason oid lid
  refine ends_bind (Q := fun r w' => Replayed arm w w') ?_ ?_ fun _ _ hw => hw
  · refine ⟨hstill.1, hdue, ?_⟩
    rcases hmark with ⟨-, hmanual⟩ | ⟨-, hsame⟩
    · exact .inr hmanual
    · exact .inl hsame
  · intro _ w' hw
    obtain ⟨a, hrun⟩ := hf w'
    exact ends_of_run hrun hw

theorem run_fromStore (arm : AutonomousSessionArm) (t : DateTime) (processed : List String) (w : World Unit) : ∃ r,
    (fromStore arm t processed).run (S := coordinatorSig) (World.answer K B.ports) w = (.ok r, w) :=
  ⟨_, rfl⟩

/-- A point that was handled, run again. -/
theorem ends_run_handled {c : Coordinator} (h : Ready K c.arm w.store)
    (hflat : ¬ isHardFlat c.arm t) (hhandled : Handled K B c.arm (.utc t.micros) w.store) :
    Ends (S := coordinatorSig) (World.answer K B.ports) (c.run K t) w fun _ w' =>
      Replayed c.arm w w' := by
  have hfrom : ∀ {t : DateTime} {processed : List String} {w' : World Unit},
      Replayed c.arm w w' → Ends (S := coordinatorSig) (World.answer K B.ports)
        (fromStore c.arm t processed) w' fun _ w' => Replayed c.arm w w' := by
    intro t processed w' hw
    obtain ⟨r, hrun⟩ := run_fromStore (K := K) (B := B) c.arm t processed w'
    exact ends_of_run hrun hw
  unfold Coordinator.run
  refine ends_ofExcept_bind ?_ fun _ _ => .refl _ _
  intro _ _
  refine ends_ofExcept_bind ?_ fun _ _ => .refl _ _
  intro t' ht
  obtain ⟨-, rfl⟩ := utcDatetime_eq_ok.mp ht
  have hensure : (StoreOp.ensureArm c.arm).txn K w.store = .ok () w.store := h.bound.ensureArm
  refine ends_bind (Q := fun r w' => (r, w') = (.ok (), w))
    (ends_of_run (run_transact hensure) rfl) ?_ fun _ _ heq => (by cases heq)
  rintro _ _ heq
  cases heq
  unfold runArmed
  refine ends_readStore_bind ?_
  split
  · exact replayed_markManual h (run_fromStore _ _ [])
  rw [if_neg (show ¬ isHardFlat c.arm (.utc t.micros) from hflat)]
  refine ends_readStore_bind ?_
  split
  · exact hfrom (.refl _ _)
  unfold runDue
  refine ends_readStore_bind (ends_perform_bind ?_)
  let request := startupRequest c.arm (.utc t.micros) (w.store.activeLifecycleIds c.arm.sessionId)
  let w₁ := w.called (.reconcile request) ()
  have hw₁ : Replayed c.arm w w₁ := .of_same rfl (closes_called (by simp))
  show Ends (S := coordinatorSig) (World.answer K B.ports) _ w₁ _
  cases accepted (validateReconciliation · request)
      (World.answer K B.ports (.reconcile request) w).1 with
  | none =>
    refine (replayed_markManual (w := w₁) h (run_fromStore _ _ [])).mono ?_
    exact fun _ _ hw => hw₁.trans hw
  | some _ =>
    refine ends_bind (ends_processWindows_handled (w := w₁) h hhandled []) ?_ ?_
    · rintro flow w' ⟨hstore, hcloses⟩
      exact hfrom (hw₁.trans (.of_same hstore hcloses))
    · rintro e w' ⟨hstore, hcloses⟩
      exact hw₁.trans (.of_same hstore hcloses)

theorem ends_observe_handled {c : Coordinator} (h : Ready K c.arm w.store)
    (hflat : ¬ isHardFlat c.arm t) (hhandled : Handled K B c.arm (.utc t.micros) w.store) :
    Ends (S := coordinatorSig) (World.answer K B.ports) (observe K c t) w fun _ w' =>
      Replayed c.arm w w' := by
  have hrun := ends_run_handled h hflat hhandled
  have hready := h.run (P := B.ports) (c.run K t)
  refine ends_bind (Q := fun r w' => Replayed c.arm w w' ∧ Ready K c.arm w'.store ∧
    ∃ r', r = .ok r') (ends_of_run (run_attempt _) ⟨hrun, hready, _, rfl⟩) ?_ ?_
  · rintro r w' ⟨hw, hready', -⟩
    cases r with
    | ok result => exact ends_pure hw
    | error e =>
      refine (replayed_markManual hready' fun w => ⟨_, rfl⟩).mono ?_
      exact fun _ _ hw' => hw.trans hw'
  · rintro e w' ⟨-, -, _, hr⟩
    cases hr

end Handled

/-! ### A point that is run for the first time -/

section Fresh

variable {K : Contracts} {B : HostBackends} {w : World Unit} {arm : AutonomousSessionArm}
  {t : DateTime} {s : SessionStore}

/-- What holds where the processing of candidates ends: it went on, and `S` holds, or it stopped
with a manual mark. -/
def FlowEnds (arm : AutonomousSessionArm) (S : SessionStore → Prop) (r : Except SessionError Flow)
    (s : SessionStore) : Prop :=
  (∀ processed, r = .ok (.next processed) → S s) ∧
    ∀ processed, r = .ok (.stop processed) → Manual arm s

theorem ends_markManual_stop (h : Ready K arm w.store) {reason : ReasonCode}
    {oid lid : Option String} {processed : List String} {S : SessionStore → Prop} :
    Ends (S := coordinatorSig) (World.answer K B.ports)
      (do markManual arm reason t oid lid; return Flow.stop processed) w fun r w' =>
        FlowEnds arm S r w'.store := by
  refine ends_bind (ends_markManual h reason oid lid) ?_ ?_
  · rintro _ w' (⟨-, hmanual⟩ | ⟨⟨e, he⟩, -⟩)
    · exact ends_pure ⟨fun _ hr => (nomatch hr), fun _ _ => hmanual⟩
    · cases he
  · exact fun e w' _ => ⟨fun _ hr => (nomatch hr), fun _ hr => nomatch hr⟩

/-- One candidate. Unless the run stops with a manual mark, its opportunity is in the store. -/
theorem ends_processOpportunity_fresh (h : Ready K arm w.store) (o : AutonomousOpportunity)
    (processed : List String) :
    Ends (S := coordinatorSig) (World.answer K B.ports) (processOpportunity arm t processed o) w
      fun r w' => FlowEnds arm (Settled (.claim arm o t)) r w'.store := by
  have hensure : (StoreOp.ensureArm arm).txn K w.store = .ok () w.store := h.bound.ensureArm
  refine ends_bind (Q := fun r w' => Ready K arm w'.store ∧
    ((∃ claim, r = .ok claim) → Settled (.claim arm o t) w'.store))
    (ends_of_run (run_bind (run_transact hensure) (run_transact_eq _)) ⟨h.exec _, ?_⟩) ?_ ?_
  · rintro ⟨claim, hclaim⟩
    obtain ⟨s₁, hok⟩ := Txn.of_result_ok hclaim
    have hexec : (StoreOp.claim arm o t).exec K w.store = s₁ := Txn.after_of_ok hok
    show Settled _ ((StoreOp.claim arm o t).exec K w.store)
    rw [hexec]
    exact StoreOp.settled_of_ok h.inv hok
  · rintro claim w' ⟨hready, hsettled⟩
    have hsettled := hsettled ⟨claim, rfl⟩
    -- what is in the store stays there, so only the early returns are left to look at
    have hkeep : ∀ {p : CoordinatorProg Flow}, Ends (S := coordinatorSig) (World.answer K B.ports) p w'
        (fun r w'' => FlowEnds arm (fun _ => True) r w''.store) →
        Ends (S := coordinatorSig) (World.answer K B.ports) p w'
          fun r w'' => FlowEnds arm (Settled (.claim arm o t)) r w''.store :=
      fun {p} hp => ⟨fun _ _ => run_settled hready.inv hsettled p, hp.2⟩
    apply hkeep
    split
    · exact ends_pure ⟨fun _ _ => trivial, fun _ hr => (by cases hr)⟩
    refine ends_perform_bind ?_
    let w₁ := w'.called (.process ⟨arm, o, t⟩) ()
    have hready₁ : Ready K arm w₁.store := hready
    show Ends (S := coordinatorSig) (World.answer K B.ports) _ w₁ _
    cases accepted (validateProcessingResult · ⟨arm, o, t⟩)
        (World.answer K B.ports (.process ⟨arm, o, t⟩) w').1 with
    | none => exact ends_markManual_stop hready₁
    | some result =>
      refine ends_bind (Q := fun _ (w'' : World Unit) => Ready K arm w''.store)
        (hready₁.run (recordResult arm o t result)) ?_ ?_
      · intro _ w'' hready₂
        dsimp only
        split
        · exact ends_markManual_stop hready₂
        · split
          · exact ends_markManual_stop hready₂
          · exact ends_pure ⟨fun _ _ => trivial, fun _ hr => (by cases hr)⟩
      · exact fun e w'' _ => ⟨fun _ hr => (by cases hr), fun _ hr => (by cases hr)⟩
  · exact fun e w' _ => ⟨fun _ hr => (by cases hr), fun _ hr => (by cases hr)⟩

theorem ends_processOpportunities_fresh (h : Ready K arm w.store) (os : List AutonomousOpportunity)
    (processed : List String) :
    Ends (S := coordinatorSig) (World.answer K B.ports) (processOpportunities arm t os processed) w
      fun r w' => FlowEnds arm (fun s => ∀ o ∈ os, Settled (.claim arm o t) s) r w'.store := by
  induction os generalizing w processed with
  | nil => exact ends_pure ⟨fun _ _ _ ho => (nomatch ho), fun _ hr => nomatch hr⟩
  | cons o os ih =>
    refine ends_bind (Q := fun r (w' : World Unit) => Ready K arm w'.store ∧
      FlowEnds arm (Settled (.claim arm o t)) r w'.store)
      ⟨h.run _, ends_processOpportunity_fresh h o processed⟩ ?_ ?_
    · rintro flow w' ⟨hready, hnext, hstop⟩
      cases flow with
      | next processed =>
        have hsettled := hnext processed rfl
        obtain ⟨hrest, hmanual⟩ := ih hready processed
        refine ⟨fun p hp o' ho' => ?_, hmanual⟩
        rcases List.mem_cons.mp ho' with rfl | ho'
        · exact run_settled hready.inv hsettled _
        · exact hrest p hp o' ho'
      | stop processed =>
        exact ends_pure ⟨fun _ hr => (nomatch hr), fun _ _ => hstop processed rfl⟩
    · exact fun e w' _ => ⟨fun _ hr => (nomatch hr), fun _ hr => nomatch hr⟩

theorem ends_processWindows_fresh (h : Ready K arm w.store) (ws : List AutonomousWindow)
    (processed : List String) :
    Ends (S := coordinatorSig) (World.answer K B.ports) (processWindows K arm t ws processed) w
      fun r w' => FlowEnds arm (fun s => ∀ window ∈ ws, HandledWindow K B arm t s window) r
        w'.store := by
  have herror : ∀ (e : SessionError) (S : SessionStore → Prop) (s : SessionStore),
      FlowEnds arm S (.error e) s :=
    fun e S s => ⟨fun _ hr => (nomatch hr), fun _ hr => nomatch hr⟩
  induction ws generalizing w processed with
  | nil => exact ends_pure ⟨fun _ _ _ hv => (nomatch hv), fun _ hr => nomatch hr⟩
  | cons window ws ih =>
    refine ends_perform_bind (ends_ofExcept_bind ?_ fun e _ => herror e _ _)
    intro collected hcollected
    refine ends_ofExcept_bind ?_ fun e _ => herror e _ _
    intro unique hunique
    let w₁ := w.called (.collectDue ⟨arm, window, t⟩) ()
    have hready₁ : Ready K arm w₁.store := h
    let ordered := unique.insertionSort fun a b => a.opportunityId ≤ b.opportunityId
    refine ends_bind (Q := fun r (w' : World Unit) => Ready K arm w'.store ∧ FlowEnds arm
      (fun s => ∀ o ∈ ordered, Settled (.claim arm o t) s) r w'.store)
      ⟨hready₁.run _, ends_processOpportunities_fresh hready₁ ordered processed⟩ ?_
      fun e w' _ => herror e _ _
    rintro flow w' ⟨hready, hnext, hstop⟩
    cases flow with
    | next processed =>
      have hsettled := hnext processed rfl
      obtain ⟨hrest, hmanual⟩ := ih hready processed
      refine ⟨fun p hp v hv => ?_, hmanual⟩
      rcases List.mem_cons.mp hv with rfl | hv
      · -- the collector answers the request as it did here
        intro collected' unique' hcollected' hunique' o ho
        have hsame : collected' = collected := by
          have hanswer : (World.answer K B.ports (.collectDue ⟨arm, v, t⟩) w).1 = some collected' :=
            hcollected'
          rw [hanswer] at hcollected
          exact Except.ok.inj hcollected
        rw [hsame, hunique] at hunique'
        cases hunique'
        exact run_settled hready.inv (hsettled o ((List.mem_insertionSort _).mpr ho)) _
      · exact hrest p hp v hv
    | stop processed =>
      exact ends_pure ⟨fun _ hr => (nomatch hr), fun _ _ => hstop processed rfl⟩

/-- Before hard flat nothing is closed or finalized, and a run without a manual mark leaves what it
collected in the store. -/
theorem ends_run_fresh {c : Coordinator} (h : Ready K c.arm w.store)
    (hflat : ¬ isHardFlat c.arm t) :
    Ends (S := coordinatorSig) (World.answer K B.ports) (c.run K t) w fun r w' =>
      Open w w' ∧ ((∃ a, r = .ok a) →
        Manual c.arm w'.store ∨ Handled K B c.arm (.utc t.micros) w'.store) := by
  have herror : ∀ e : SessionError, (∃ a : AutonomousRunResult, Except.error e = .ok a) →
      ∀ s, Manual c.arm s ∨ Handled K B c.arm (.utc t.micros) s :=
    fun e ha => (by obtain ⟨a, ha⟩ := ha; cases ha)
  have hfrom : ∀ {processed : List String} {w' : World Unit}, Open w w' →
      Manual c.arm w'.store ∨ Handled K B c.arm (.utc t.micros) w'.store →
      Ends (S := coordinatorSig) (World.answer K B.ports)
        (fromStore c.arm (.utc t.micros) processed) w' fun r w' => Open w w' ∧ ((∃ a, r = .ok a) →
          Manual c.arm w'.store ∨ Handled K B c.arm (.utc t.micros) w'.store) := by
    intro processed w' hopen hw
    obtain ⟨r, hrun⟩ := run_fromStore (K := K) (B := B) c.arm (.utc t.micros) processed w'
    exact ends_of_run hrun ⟨hopen, fun _ => hw⟩
  have hmark : ∀ {reason : ReasonCode} {w' : World Unit}, Open w w' → Ready K c.arm w'.store →
      Ends (S := coordinatorSig) (World.answer K B.ports)
        (do markManual c.arm reason (.utc t.micros) none none
            fromStore c.arm (.utc t.micros) []) w' fun r w' => Open w w' ∧ ((∃ a, r = .ok a) →
          Manual c.arm w'.store ∨ Handled K B c.arm (.utc t.micros) w'.store) := by
    intro reason w' hopen hready
    have hdue := run_due (K := K) (P := B.ports) (w := w')
      (due_markManual c.arm (.utc t.micros) reason none none)
    refine ends_bind (Q := fun r (w'' : World Unit) => Open w w'' ∧
      (r = .ok () ∧ Manual c.arm w''.store ∨ (∃ e, r = .error e) ∧ w''.store = w'.store))
      ⟨hopen.trans hdue, ends_markManual hready reason none none⟩ ?_ ?_
    · rintro _ w'' ⟨hopen', (⟨-, hmanual⟩ | ⟨⟨e, he⟩, -⟩)⟩
      · exact hfrom hopen' (.inl hmanual)
      · cases he
    · rintro e w'' ⟨hopen', -⟩
      exact ⟨hopen', fun ha => herror e ha _⟩
  unfold Coordinator.run
  refine ends_ofExcept_bind ?_ fun e _ => ⟨.refl w, fun ha => herror e ha _⟩
  intro _ _
  refine ends_ofExcept_bind ?_ fun e _ => ⟨.refl w, fun ha => herror e ha _⟩
  intro t' ht
  obtain ⟨-, rfl⟩ := utcDatetime_eq_ok.mp ht
  have hensure : (StoreOp.ensureArm c.arm).txn K w.store = .ok () w.store := h.bound.ensureArm
  refine ends_bind (Q := fun r w' => (r, w') = (.ok (), w))
    (ends_of_run (run_transact hensure) rfl) ?_ fun _ _ heq => (by cases heq)
  rintro _ _ heq
  cases heq
  unfold runArmed
  refine ends_readStore_bind ?_
  split
  · exact hmark (.refl w) h
  rw [if_neg (show ¬ isHardFlat c.arm (.utc t.micros) from hflat)]
  refine ends_readStore_bind ?_
  split
  · rename_i hmanual
    exact hfrom (.refl w) (.inl hmanual)
  unfold runDue
  refine ends_readStore_bind (ends_perform_bind ?_)
  let request := startupRequest c.arm (.utc t.micros) (w.store.activeLifecycleIds c.arm.sessionId)
  let w₁ := w.called (.reconcile request) ()
  have hready₁ : Ready K c.arm w₁.store := h
  have hopen₁ : Open w w₁ := ⟨rfl, closes_called (by simp)⟩
  show Ends (S := coordinatorSig) (World.answer K B.ports) _ w₁ _
  cases accepted (validateReconciliation · request)
      (World.answer K B.ports (.reconcile request) w).1 with
  | none => exact hmark hopen₁ hready₁
  | some _ =>
    have hdue := run_due (K := K) (P := B.ports) (w := w₁)
      (due_processWindows c.arm (.utc t.micros) K (dueWindows c.arm (.utc t.micros)) [])
    refine ends_bind (Q := fun r (w' : World Unit) => Open w w' ∧ FlowEnds c.arm
      (fun s => Handled K B c.arm (.utc t.micros) s) r w'.store)
      ⟨hopen₁.trans hdue, ends_processWindows_fresh hready₁ _ []⟩ ?_
      fun e w' hw => ⟨hw.1, fun ha => herror e ha _⟩
    rintro flow w' ⟨hopen, hnext, hstop⟩
    cases flow with
    | next processed => exact hfrom hopen (.inr (hnext processed rfl))
    | stop processed => exact hfrom hopen (.inl (hstop processed rfl))

theorem observe_fresh {c : Coordinator} {processed : List String} {w' : World Unit}
    (h : Ready K c.arm w.store) (hflat : ¬ isHardFlat c.arm t)
    (hrun : (observe K c t).run (S := coordinatorSig) (World.answer K B.ports) w =
      (.ok processed, w')) :
    Open w w' ∧ (Manual c.arm w'.store ∨ Handled K B c.arm (.utc t.micros) w'.store) := by
  have hends := ends_run_fresh (B := B) h hflat
  have hready := h.run (P := B.ports) (c.run K t)
  obtain ⟨r, w₁, hattempt, hrest⟩ := run_bind_ok hrun
  have hrun₁ : (c.run K t).run (S := coordinatorSig) (World.answer K B.ports) w = (r, w₁) := by
    obtain ⟨hr, hw⟩ := Prod.mk.inj ((run_attempt (c.run K t)).symm.trans hattempt)
    exact Prod.ext (Except.ok.inj hr) hw
  have hends := hends.of_run hrun₁
  have hready := Ends.of_run (Q := fun _ (w' : World Unit) => Ready K c.arm w'.store) hready hrun₁
  cases r with
  | ok result =>
    cases hrest
    exact ⟨hends.1, hends.2 ⟨result, rfl⟩⟩
  | error e =>
    obtain ⟨_, w₂, hmark, hpure⟩ := run_bind_ok hrest
    cases hpure
    have hdue := run_due (K := K) (P := B.ports) (w := w₁)
      (due_markManual c.arm t .portException none none)
    have hmanual := (ends_markManual hready .portException none none).of_run hmark
    refine ⟨hends.1.trans (Ends.of_run (Q := fun _ w' => Open w₁ w') hdue hmark), .inl ?_⟩
    rcases hmanual with ⟨-, hmanual⟩ | ⟨⟨e, he⟩, -⟩
    · exact hmanual
    · cases he

end Fresh

/-! ### The point of hard flat -/

section Flat

variable {K : Contracts} {B : HostBackends} {w w' : World Unit} {arm : AutonomousSessionArm}
  {t : DateTime} {l : ActiveLifecycleIdentity} {ls : List ActiveLifecycleIdentity}

structure SameTrades (w w' : World Unit) : Prop where
  exposure : SameExposure w.store w'.store
  closes : w'.closes = w.closes

theorem SameTrades.refl (w : World Unit) : SameTrades w w := ⟨.refl _, rfl⟩

theorem SameTrades.trans {w w' w'' : World Unit} (h : SameTrades w w') (h' : SameTrades w' w'') :
    SameTrades w w'' :=
  ⟨h.exposure.trans h'.exposure, h'.closes.trans h.closes⟩

theorem SameTrades.symm (h : SameTrades w w') : SameTrades w' w :=
  ⟨⟨h.exposure.opportunities.symm, h.exposure.lifecycles.symm⟩, h.closes.symm⟩

theorem sameTrades_of_still {ε α : Type} {p : Prog coordinatorSig ε α}
    (hp : Uses (S := coordinatorSig) Still p) :
    SameTrades w (p.run (World.answer K B.ports) w).2 :=
  ⟨(run_still hp).1, (run_still hp).2⟩

theorem closes_closed : (w.closed B.ports arm t l).closes = w.closes ++ [⟨arm, l, t⟩] := by
  rw [World.closes, World.closed, List.filterMap_append]
  rfl

/-- A close depends on the exposure alone. -/
theorem SameTrades.closed (h : SameTrades w w') :
    SameTrades (w.closed B.ports arm t l) (w'.closed B.ports arm t l) := by
  refine ⟨?_, by rw [closes_closed, closes_closed, h.closes]⟩
  show SameExposure (closedStore arm t l (B.closeAndReconcile ⟨arm, l, t⟩) w.store)
    (closedStore arm t l (B.closeAndReconcile ⟨arm, l, t⟩) w'.store)
  unfold closedStore
  split
  · exact ⟨h.exposure.opportunities, h.exposure.lifecycles⟩
  split
  · refine ⟨?_, ?_⟩
    · show Table.setWhere _ _ w'.store.opportunities = Table.setWhere _ _ w.store.opportunities
      rw [h.exposure.opportunities]
    · show Table.setWhere _ _ w'.store.lifecycles = Table.setWhere _ _ w.store.lifecycles
      rw [h.exposure.lifecycles]
  · exact ⟨h.exposure.opportunities, h.exposure.lifecycles⟩

def closedAll (B : HostBackends) (arm : AutonomousSessionArm) (t : DateTime)
    (ls : List ActiveLifecycleIdentity) (w : World Unit) : World Unit :=
  ls.foldl (fun w l => w.closed B.ports arm t l) w

theorem SameTrades.closedAll (h : SameTrades w w') :
    SameTrades (closedAll B arm t ls w) (closedAll B arm t ls w') := by
  induction ls generalizing w w' with
  | nil => exact h
  | cons l ls ih => exact ih h.closed

theorem run_closeLifecycles (h : Closing K arm ls w.store) (ht : isUtc t = true) :
    (closeLifecycles arm t ls).run (S := coordinatorSig) (World.answer K B.ports) w =
      (.ok (), closedAll B arm t ls w) := by
  induction ls generalizing w with
  | nil => rfl
  | cons l ls ih =>
    obtain ⟨hrun, hclosing⟩ := run_closeLifecycle (P := B.ports) h ht
    exact run_bind hrun (ih hclosing)

theorem ends_runHardFlat_closedAll (h : Ready K arm w.store) (ht : isUtc t = true)
    (hsummary : w.store.finalSummary arm.sessionId = none) :
    Ends (S := coordinatorSig) (World.answer K B.ports) (runHardFlat arm t) w fun _ w' =>
      SameTrades (closedAll B arm t (activeIdentities w.store arm.sessionId) w) w' := by
  unfold runHardFlat
  refine ends_readStore_bind ?_
  rw [hsummary]
  refine ends_readStore_bind ?_
  refine ends_ofExcept_bind_ok (activeLifecycles_eq_ok h.inv _) ?_
  have hclosing := closing_activeIdentities h.inv h.bound
  refine ends_bind (Q := fun r w' => (r, w') = (.ok (), closedAll B arm t
    (activeIdentities w.store arm.sessionId) w)) (ends_of_run (run_closeLifecycles hclosing ht) rfl)
    ?_ fun _ _ heq => nomatch heq
  rintro _ _ heq
  cases heq
  refine sameTrades_of_still ((uses_readStore trivial).bind fun remaining => ?_)
  have hrest : Uses (S := coordinatorSig) Still
      (do let _ ← finalizeSession arm t; fromStore arm t []) :=
    ((uses_transact trivial).bind fun _ => uses_transact trivial).bind fun _ => still_fromStore _
  split
  · exact (still_markManual _ _ _ _ _).bind fun _ => hrest
  · exact hrest

/-- The world after a point at hard flat, but for the session's own state. -/
def flatWorld (K : Contracts) (B : HostBackends) (c : Coordinator) (t : DateTime)
    (w : World Unit) : World Unit :=
  if validateBeforePorts K c = .ok () ∧ isUtc t = true ∧
      w.store.claimedOpportunityIds c.arm.sessionId = [] then
    closedAll B c.arm (.utc t.micros) (activeIdentities w.store c.arm.sessionId) w
  else w

theorem SameTrades.flatWorld (h : SameTrades w w') (c : Coordinator) :
    SameTrades (flatWorld K B c t w) (flatWorld K B c t w') := by
  have hclaimed : w'.store.claimedOpportunityIds c.arm.sessionId =
      w.store.claimedOpportunityIds c.arm.sessionId := by
    rw [SessionStore.claimedOpportunityIds, SessionStore.claimedOpportunityIds,
      h.exposure.opportunities]
  have hactive : activeIdentities w'.store c.arm.sessionId =
      activeIdentities w.store c.arm.sessionId := by
    rw [activeIdentities, activeIdentities, SessionStore.activeRows, SessionStore.activeRows,
      h.exposure.lifecycles]
  unfold Runtime.flatWorld
  rw [hclaimed, hactive]
  split
  · exact h.closedAll
  · exact h

/-- A point at hard flat. What it closes depends on the exposure alone. -/
theorem ends_run_flat {c : Coordinator} (h : Ready K c.arm w.store) (hflat : isHardFlat c.arm t)
    (hsummary : w.store.finalSummary c.arm.sessionId = none) :
    Ends (S := coordinatorSig) (World.answer K B.ports) (c.run K t) w fun _ w' =>
      SameTrades (flatWorld K B c t w) w' := by
  unfold Coordinator.run
  refine ends_ofExcept_bind ?_ ?_
  swap
  · intro e he
    rw [flatWorld, if_neg (by rw [he]; simp)]
    exact .refl w
  intro _ hvalid
  refine ends_ofExcept_bind ?_ ?_
  swap
  · intro e he
    have hutc : ¬ isUtc t = true := by
      intro hutc
      rw [utcDatetime_eq_ok.mpr ⟨hutc, rfl⟩] at he
      cases he
    rw [flatWorld, if_neg (by simp [hutc])]
    exact .refl w
  intro t' ht
  obtain ⟨hutc, rfl⟩ := utcDatetime_eq_ok.mp ht
  have hensure : (StoreOp.ensureArm c.arm).txn K w.store = .ok () w.store := h.bound.ensureArm
  refine ends_bind (Q := fun r w' => (r, w') = (.ok (), w))
    (ends_of_run (run_transact hensure) rfl) ?_ fun _ _ heq => nomatch heq
  rintro _ _ heq
  cases heq
  unfold runArmed
  refine ends_readStore_bind ?_
  split
  · rename_i hclaimed
    rw [flatWorld, if_neg (by simp [hclaimed])]
    exact sameTrades_of_still ((still_markManual _ _ _ _ _).bind fun _ => still_fromStore _)
  rename_i hclaimed
  rw [if_pos (show isHardFlat c.arm (.utc t.micros) from hflat)]
  rw [flatWorld, if_pos ⟨hvalid, hutc, not_not.mp hclaimed⟩]
  exact ends_runHardFlat_closedAll h rfl hsummary

theorem ends_observe_flat {c : Coordinator} (h : Ready K c.arm w.store)
    (hflat : isHardFlat c.arm t) (hsummary : w.store.finalSummary c.arm.sessionId = none) :
    Ends (S := coordinatorSig) (World.answer K B.ports) (observe K c t) w fun _ w' =>
      SameTrades (flatWorld K B c t w) w' := by
  refine ends_bind (Q := fun _ w' => SameTrades (flatWorld K B c t w) w')
    (ends_of_run (run_attempt _) (ends_run_flat h hflat hsummary)) ?_ fun _ _ hw => hw
  intro r w' hw
  cases r with
  | ok result => exact ends_pure hw
  | error e =>
    exact hw.trans (sameTrades_of_still ((still_markManual _ _ _ _ _).bind fun _ => uses_pure _))

end Flat

end EsscherMarket.Runtime
