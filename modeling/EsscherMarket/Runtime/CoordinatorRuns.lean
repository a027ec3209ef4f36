import EsscherMarket.Runtime.Coordinator
import EsscherMarket.Runtime.StoreInvariant

/-!
# Runs of coordinators

Alone, the ports are functions over a state of their own (`Ports`), and a `World` is the store, that
state and the calls they have received.  Interleaved, any number of runs share one store, the ports
answer as they like, and each run may stop anywhere (`Pool.Reach`).
-/

namespace EsscherMarket.Runtime

open Lib Prog

/-! ### Alone -/

inductive PortCall where
  | reconcile (request : ReconciliationRequest)
  | collectDue (request : DueWindowRequest)
  | process (request : CandidateProcessingRequest)
  | closeAndReconcile (request : LifecycleCloseRequest)
  deriving DecidableEq

/-- The ports, over a state `E` of their own. -/
structure Ports (E : Type) where
  reconcile : ReconciliationRequest → E → Option ReconciliationReceipt × E
  collectDue : DueWindowRequest → E → Option (List AutonomousOpportunity) × E
  process : CandidateProcessingRequest → E → Option CandidateProcessingResult × E
  closeAndReconcile : LifecycleCloseRequest → E → Option LifecycleCloseResult × E

structure World (E : Type) where
  store : SessionStore
  calls : List PortCall
  env : E

namespace World

variable {E : Type}

def called (w : World E) (call : PortCall) (env : E) : World E :=
  { w with calls := w.calls ++ [call], env := env }

def answer (K : Contracts) (P : Ports E) : (op : CoordinatorOp) → World E → op.Res × World E
  | .store op, w => ((op.txn K).result w.store, { w with store := op.exec K w.store })
  | .read, w => (w.store, w)
  | .reconcile r, w => ((P.reconcile r w.env).1, w.called (.reconcile r) (P.reconcile r w.env).2)
  | .collectDue r, w =>
    ((P.collectDue r w.env).1, w.called (.collectDue r) (P.collectDue r w.env).2)
  | .process r, w => ((P.process r w.env).1, w.called (.process r) (P.process r w.env).2)
  | .closeAndReconcile r, w =>
    ((P.closeAndReconcile r w.env).1,
      w.called (.closeAndReconcile r) (P.closeAndReconcile r w.env).2)

def runCoordinator (K : Contracts) (P : Ports E) (w : World E) (c : Coordinator) (t : DateTime) :
    World E :=
  ((c.run K t).run (S := coordinatorSig) (answer K P) w).2

end World

/-- An operation of the store, or a run of a coordinator. -/
inductive Action where
  | op (op : StoreOp)
  | run (c : Coordinator) (observedAt : DateTime)

def World.act {E : Type} (K : Contracts) (P : Ports E) (w : World E) : Action → World E
  | .op op => { w with store := op.call K w.store }
  | .run c t => w.runCoordinator K P c t

def World.acts {E : Type} (K : Contracts) (P : Ports E) (w : World E) (as : List Action) : World E :=
  as.foldl (World.act K P) w

/-! ### What a run accepts -/

/-- The run passes the checks before its first port call: a valid arm of its release and account, a
UTC instant, and no other arm in the store. -/
def Accepts (K : Contracts) (c : Coordinator) (t : DateTime) (s : SessionStore) : Prop :=
  validateBeforePorts K c = .ok () ∧ isUtc t = true ∧ ∀ row, s.session c.arm.sessionId = some row →
    row.armSha256 = c.arm.armSha256 ∧ row.armBytes = c.arm.bytes

def withArm (arm : AutonomousSessionArm) (s : SessionStore) : SessionStore :=
  if s.session arm.sessionId = none then
    { s with sessions := s.sessions ++ [newSession arm], windows := s.windows ++ newWindows arm }
  else s

theorem validateBeforePorts_arm {K : Contracts} {c : Coordinator}
    (h : validateBeforePorts K c = .ok ()) : validateArm K c.arm = .ok () := by
  obtain ⟨_, harm, -⟩ := except_bind_eq_ok.mp h
  exact harm

/-- `ensure_arm` of an arm that the store does not contradict. -/
theorem ensureArm_ok {K : Contracts} {arm : AutonomousSessionArm} {s : SessionStore}
    (hvalid : validateArm K arm = .ok ()) (hsame : ∀ row, s.session arm.sessionId = some row →
      row.armSha256 = arm.armSha256 ∧ row.armBytes = arm.bytes) :
    ensureArm K arm s = .ok () (withArm arm s) := by
  refine ensureArm_eq_ok.mpr ⟨hvalid, ?_⟩
  unfold withArm
  cases hrow : s.session arm.sessionId with
  | none => exact .inr ⟨rfl, rfl⟩
  | some row => exact .inl ⟨row, rfl, (hsame row hrow).1, (hsame row hrow).2, by simp⟩

/-- The arm of an `ensure_arm` that returned is the one in the store. -/
theorem ensureArm_same {K : Contracts} {arm : AutonomousSessionArm} {s : SessionStore} {u : Unit}
    (h : (ensureArm K arm).result s = .ok u) : ∀ row, s.session arm.sessionId = some row →
      row.armSha256 = arm.armSha256 ∧ row.armBytes = arm.bytes := by
  intro row hrow
  obtain ⟨s', hok⟩ := Txn.of_result_ok h
  rcases (ensureArm_eq_ok.mp hok).2 with ⟨row', hrow', hsha, hbytes, -⟩ | ⟨hnone, -⟩
  · rw [hrow] at hrow'
    cases hrow'
    exact ⟨hsha, hbytes⟩
  · rw [hrow] at hnone
    cases hnone

section Alone

variable {E : Type} {K : Contracts} {P : Ports E} {c : Coordinator} {t : DateTime} {w : World E}

theorem runCoordinator_of_accepts (h : Accepts K c t w.store) : w.runCoordinator K P c t =
    ((runArmed K c.arm (.utc t.micros)).run (S := coordinatorSig) (World.answer K P)
      { w with store := withArm c.arm w.store }).2 := by
  obtain ⟨hvalid, hutc, hsame⟩ := h
  have hensure := ensureArm_ok (validateBeforePorts_arm hvalid) hsame
  have hresult : ((StoreOp.ensureArm c.arm).txn K).result w.store = .ok () :=
    Txn.result_of_ok hensure
  have hexec : (StoreOp.ensureArm c.arm).exec K w.store = withArm c.arm w.store :=
    Txn.after_of_ok hensure
  unfold World.runCoordinator Coordinator.run transact
  congr 1
  refine run_ofExcept_bind hvalid ?_
  refine run_ofExcept_bind (utcDatetime_eq_ok.mpr ⟨hutc, rfl⟩) ?_
  rw [Prog.bind_assoc]
  refine run_perform_bind ?_
  refine run_ofExcept_bind (a := ()) hresult ?_
  simp only [World.answer, hexec]

theorem runCoordinator_of_not_accepts (h : ¬ Accepts K c t w.store) :
    w.runCoordinator K P c t = w := by
  have hends : Ends (S := coordinatorSig) (World.answer K P) (c.run K t) w fun _ w' => w' = w := by
    unfold Coordinator.run transact
    refine ends_ofExcept_bind ?_ fun _ _ => rfl
    intro _ hvalid
    refine ends_ofExcept_bind ?_ fun _ _ => rfl
    intro t' ht
    rw [Prog.bind_assoc]
    refine ends_perform_bind (ends_ofExcept_bind ?_ ?_)
    · intro _ hok
      exact absurd ⟨hvalid, (utcDatetime_eq_ok.mp ht).1, ensureArm_same hok⟩ h
    · intro e herr
      have hexec : (StoreOp.ensureArm c.arm).exec K w.store = w.store :=
        ((StoreOp.ensureArm c.arm).atomic_txn K).after_of_error herr
      simp only [World.answer, hexec]
  exact hends

theorem ends_readStore_bind {α β : Type} {f : SessionStore → α} {k : α → CoordinatorProg β}
    {Q : Except SessionError β → World E → Prop}
    (h : Ends (S := coordinatorSig) (World.answer K P) (k (f w.store)) w Q) :
    Ends (S := coordinatorSig) (World.answer K P) (readStore f >>= k) w Q := h

end Alone

/-! ### The operations of a run -/

/-- The transactions that claim an opportunity or make it active. -/
def StoreOp.opens : StoreOp → Bool
  | claim .. | active .. => true
  | _ => false

def Quiet (arm : AutonomousSessionArm) : CoordinatorOp → Prop
  | .store op => op.opens = false ∧ op.arm = arm
  | .collectDue _ | .process _ => False
  | .closeAndReconcile r => r.arm = arm
  | .read | .reconcile _ => True

def OfArm (arm : AutonomousSessionArm) : CoordinatorOp → Prop
  | .store op => op.arm = arm
  | .collectDue r => r.arm = arm
  | .process r => r.arm = arm
  | .closeAndReconcile r => r.arm = arm
  | .read | .reconcile _ => True

theorem Quiet.ofArm {arm : AutonomousSessionArm} {op : CoordinatorOp} (h : Quiet arm op) :
    OfArm arm op := by
  cases op with
  | store op => exact h.2
  | closeAndReconcile r => exact h
  | collectDue r => exact h.elim
  | process r => exact h.elim
  | read => trivial
  | reconcile r => trivial

/-- The operations of a coordinator that collects and processes candidates of this arm: nothing is
closed or finalized. -/
def Due (arm : AutonomousSessionArm) : CoordinatorOp → Prop
  | .store (.finalize ..) | .store (.lifecycleTerminalFlat ..) => False
  | .store op => op.arm = arm
  | .collectDue r => r.arm = arm
  | .process r => r.arm = arm
  | .closeAndReconcile _ => False
  | .read | .reconcile _ => True

theorem Due.ofArm {arm : AutonomousSessionArm} {op : CoordinatorOp} (h : Due arm op) :
    OfArm arm op := by
  cases op with
  | store op =>
    cases op with
    | finalize arm t => exact h.elim
    | lifecycleTerminalFlat arm l proof t => exact h.elim
    | _ => exact h
  | closeAndReconcile r => exact h.elim
  | _ => exact h

section Uses

variable {arm : AutonomousSessionArm} {t : DateTime} {A : CoordinatorOp → Prop}

theorem uses_transact {op : StoreOp} (h : A (.store op)) :
    Uses (S := coordinatorSig) A (transact op) :=
  (uses_perform (S := coordinatorSig) h).bind uses_ofExcept

theorem uses_readStore {α : Type} {f : SessionStore → α} (h : A .read) :
    Uses (S := coordinatorSig) A (readStore f) :=
  (uses_perform (S := coordinatorSig) h).bind fun _ => uses_pure _

theorem quiet_fromStore (processed : List String) :
    Uses (S := coordinatorSig) (Quiet arm) (fromStore arm t processed) :=
  (uses_readStore trivial).bind fun _ => (uses_readStore trivial).bind fun _ => uses_pure _

theorem quiet_markManual (reason : ReasonCode) (oid lid : Option String) :
    Uses (S := coordinatorSig) (Quiet arm) (markManual arm reason t oid lid) :=
  (uses_transact ⟨rfl, rfl⟩).bind fun _ => uses_transact ⟨rfl, rfl⟩

theorem quiet_closeLifecycle (l : ActiveLifecycleIdentity) :
    Uses (S := coordinatorSig) (Quiet arm) (closeLifecycle arm t l) := by
  have hclose : Quiet arm (.closeAndReconcile ⟨arm, l, t⟩) := rfl
  unfold closeLifecycle
  refine (uses_perform (S := coordinatorSig) hclose).bind ?_
  intro answer
  cases accepted (validateCloseResult · ⟨arm, l, t⟩) answer with
  | none => exact quiet_markManual _ _ _
  | some result =>
    show Uses (S := coordinatorSig) (Quiet arm) (if result.disposition = .terminalFlat then _ else _)
    split
    · exact (uses_transact ⟨rfl, rfl⟩).bind fun _ => uses_transact ⟨rfl, rfl⟩
    · exact quiet_markManual _ _ _

theorem quiet_closeLifecycles (ls : List ActiveLifecycleIdentity) :
    Uses (S := coordinatorSig) (Quiet arm) (closeLifecycles arm t ls) := by
  induction ls with
  | nil => exact uses_pure ()
  | cons l rest ih => exact (quiet_closeLifecycle l).bind fun _ => ih

theorem quiet_finalizeSession :
    Uses (S := coordinatorSig) (Quiet arm) (finalizeSession arm t) :=
  (uses_transact ⟨rfl, rfl⟩).bind fun _ => uses_transact ⟨rfl, rfl⟩

theorem quiet_runHardFlat : Uses (S := coordinatorSig) (Quiet arm) (runHardFlat arm t) := by
  unfold runHardFlat
  refine (uses_readStore trivial).bind ?_
  intro summary
  split
  · exact quiet_fromStore _
  refine (uses_readStore trivial).bind fun active => (uses_ofExcept _).bind fun ls =>
    (quiet_closeLifecycles ls).bind fun _ => (uses_readStore trivial).bind ?_
  intro remaining
  have hrest : Uses (S := coordinatorSig) (Quiet arm)
      (do let _ ← finalizeSession arm t; fromStore arm t []) :=
    quiet_finalizeSession.bind fun _ => quiet_fromStore _
  split
  · exact (quiet_markManual _ _ _).bind fun _ => hrest
  · exact hrest

/-- An operation that runs `ensure_arm` and one more transaction for the arm. -/
theorem due_transact₂ {op : StoreOp} (h : Due arm (.store op)) :
    Uses (S := coordinatorSig) (Due arm)
      (do let () ← transact (.ensureArm arm); transact op) := by
  have harm : Due arm (.store (.ensureArm arm)) := rfl
  exact (uses_transact harm).bind fun _ => uses_transact h

theorem due_recordResult (o : AutonomousOpportunity) (result : CandidateProcessingResult) :
    Uses (S := coordinatorSig) (Due arm) (recordResult arm o t result) := by
  have hdispose : ∀ d, Uses (S := coordinatorSig) (Due arm) (recordDisposition arm o d t) :=
    fun d => (uses_ofExcept _).bind fun d => due_transact₂ rfl
  unfold recordResult
  split
  · exact due_transact₂ rfl
  · split
    · exact uses_raise _
    · exact due_transact₂ rfl
  · exact hdispose _

theorem due_markManual (arm : AutonomousSessionArm) (t : DateTime) (reason : ReasonCode) (oid lid : Option String) :
    Uses (S := coordinatorSig) (Due arm) (markManual arm reason t oid lid) :=
  due_transact₂ rfl

theorem due_processOpportunity (processed : List String) (o : AutonomousOpportunity) :
    Uses (S := coordinatorSig) (Due arm) (processOpportunity arm t processed o) := by
  have hprocess : Due arm (.process ⟨arm, o, t⟩) := rfl
  have hstop : ∀ reason oid, Uses (S := coordinatorSig) (Due arm)
      (do markManual arm reason t oid none; return Flow.stop processed) :=
    fun reason oid => (due_markManual _ _ reason oid none).bind fun _ => uses_pure _
  have hclaim : Uses (S := coordinatorSig) (Due arm) (claimOpportunity arm o t) :=
    due_transact₂ rfl
  unfold processOpportunity
  refine hclaim.bind fun claim => ?_
  split
  · exact uses_pure _
  refine (uses_perform (S := coordinatorSig) hprocess).bind fun answer => ?_
  cases accepted (validateProcessingResult · ⟨arm, o, t⟩) answer with
  | none => exact hstop _ _
  | some result =>
    refine (due_recordResult o result).bind fun _ => ?_
    dsimp only
    split
    · exact (due_markManual _ _ _ _ _).bind fun _ => uses_pure _
    · split
      · exact (due_markManual _ _ _ _ _).bind fun _ => uses_pure _
      · exact uses_pure _

theorem due_processOpportunities (os : List AutonomousOpportunity) (processed : List String) :
    Uses (S := coordinatorSig) (Due arm) (processOpportunities arm t os processed) := by
  induction os generalizing processed with
  | nil => exact uses_pure _
  | cons o rest ih =>
    refine (due_processOpportunity processed o).bind fun flow => ?_
    cases flow with
    | next processed => exact ih processed
    | stop processed => exact uses_pure _

theorem due_processWindows (arm : AutonomousSessionArm) (t : DateTime) (K : Contracts) (ws : List AutonomousWindow)
    (processed : List String) :
    Uses (S := coordinatorSig) (Due arm) (processWindows K arm t ws processed) := by
  induction ws generalizing processed with
  | nil => exact uses_pure _
  | cons w rest ih =>
    have hcollect : Due arm (.collectDue ⟨arm, w, t⟩) := rfl
    refine (uses_perform (S := coordinatorSig) hcollect).bind fun answer =>
      (uses_ofExcept _).bind fun collected => (uses_ofExcept _).bind fun unique =>
      (due_processOpportunities _ processed).bind fun flow => ?_
    cases flow with
    | next processed => exact ih processed
    | stop processed => exact uses_pure _

/-- The part of a run before hard flat. -/
theorem due_runDue (K : Contracts) : Uses (S := coordinatorSig) (Due arm) (runDue K arm t) := by
  have hfrom : ∀ processed, Uses (S := coordinatorSig) (Due arm) (fromStore arm t processed) :=
    fun processed => (uses_readStore trivial).bind fun _ => (uses_readStore trivial).bind fun _ =>
      uses_pure _
  unfold runDue
  refine (uses_readStore trivial).bind fun active => ?_
  have hreconcile : Due arm (.reconcile (startupRequest arm t active)) := trivial
  refine (uses_perform (S := coordinatorSig) hreconcile).bind fun answer => ?_
  cases accepted (validateReconciliation · (startupRequest arm t active)) answer with
  | none => exact (due_markManual _ _ _ _ _).bind fun _ => hfrom _
  | some _ => exact (due_processWindows _ _ K _ _).bind fun flow => hfrom _

theorem ofArm_runArmed (K : Contracts) :
    Uses (S := coordinatorSig) (OfArm arm) (runArmed K arm t) := by
  have hfrom : ∀ processed, Uses (S := coordinatorSig) (OfArm arm) (fromStore arm t processed) :=
    fun processed => (quiet_fromStore processed).mono fun _ h => h.ofArm
  unfold runArmed
  refine (uses_readStore trivial).bind fun claimed => ?_
  split
  · exact ((quiet_markManual _ _ _).mono fun _ h => h.ofArm).bind fun _ => hfrom _
  split
  · exact quiet_runHardFlat.mono fun _ h => h.ofArm
  refine (uses_readStore trivial).bind fun state => ?_
  split
  · exact hfrom _
  exact (due_runDue K).mono fun _ h => h.ofArm

end Uses

/-! ### Sequences of actions -/

section Actions

variable {E : Type} {K : Contracts} {P : Ports E} {w w₀ : World E} {sid : String}

def World.start (env : E) : World E := ⟨.empty, [], env⟩

/-- Every operation keeps the invariant of the store. -/
theorem World.answer_inv (K : Contracts) (P : Ports E) (op : CoordinatorOp) (w : World E)
    (h : StoreInv w.store) : StoreInv (World.answer K P op w).2.store := by
  cases op with
  | store op => exact op.exec_inv K h
  | read => exact h
  | reconcile r => exact h
  | collectDue r => exact h
  | process r => exact h
  | closeAndReconcile r => exact h

theorem World.act_inv (K : Contracts) (P : Ports E) (a : Action) (h : StoreInv w.store) :
    StoreInv (w.act K P a).store := by
  cases a with
  | op o => exact o.call_inv K h
  | run c t =>
    exact (uses_true (c.run K t)).run_inv (J := fun w => StoreInv w.store)
      (fun op w _ h => World.answer_inv K P op w h) h

theorem World.acts_inv (K : Contracts) (P : Ports E) (as : List Action) (h : StoreInv w.store) :
    StoreInv (w.acts K P as).store := by
  induction as generalizing w with
  | nil => exact h
  | cons a as ih => exact ih (w.act_inv K P a h)

/-- A call of the collector or of the candidate processor for the session. -/
def PortCall.opensFor (sid : String) : PortCall → Prop
  | collectDue r => r.arm.sessionId = sid
  | process r => r.arm.sessionId = sid
  | reconcile _ | closeAndReconcile _ => False

/-- Since `w₀` the session has needed manual reconciliation, and nobody has asked for new
candidates of it. -/
structure Held (sid : String) (w₀ w : World E) : Prop where
  inv : StoreInv w.store
  manual : w.store.sessionState sid = some .manualReconciliationRequired
  calls : ∃ new, w.calls = w₀.calls ++ new ∧ ∀ call ∈ new, ¬ call.opensFor sid

theorem Held.called (h : Held sid w₀ w) (call : PortCall) (hcall : ¬ call.opensFor sid) (env : E) :
    Held sid w₀ (w.called call env) := by
  obtain ⟨new, hnew, hquiet⟩ := h.calls
  refine ⟨h.inv, h.manual, new ++ [call], ?_, ?_⟩
  · rw [World.called, hnew, List.append_assoc]
  · intro call' hmem
    rcases List.mem_append.mp hmem with hmem | hmem
    · exact hquiet call' hmem
    · rw [List.mem_singleton.mp hmem]
      exact hcall

theorem Held.exec (h : Held sid w₀ w) (K : Contracts) (op : StoreOp) :
    Held sid w₀ { w with store := op.exec K w.store } :=
  ⟨op.exec_inv K h.inv, (op.exec_kept K h.inv).manual sid h.manual, h.calls⟩

/-- The quiet operations, and those of another session. -/
def Harmless (sid : String) (arm : AutonomousSessionArm) (op : CoordinatorOp) : Prop :=
  Quiet arm op ∨ OfArm arm op ∧ arm.sessionId ≠ sid

theorem Held.answer (h : Held sid w₀ w) {arm : AutonomousSessionArm} {op : CoordinatorOp}
    (hop : Harmless sid arm op) : Held sid w₀ (World.answer K P op w).2 := by
  cases op with
  | store op => exact h.exec K op
  | read => exact h
  | reconcile r => exact h.called (.reconcile r) not_false _
  | closeAndReconcile r => exact h.called (.closeAndReconcile r) not_false _
  | collectDue r =>
    rcases hop with hquiet | ⟨harm, hne⟩
    · exact hquiet.elim
    · have hother : r.arm.sessionId ≠ sid := by rw [show r.arm = arm from harm]; exact hne
      exact h.called (.collectDue r) hother _
  | process r =>
    rcases hop with hquiet | ⟨harm, hne⟩
    · exact hquiet.elim
    · have hother : r.arm.sessionId ≠ sid := by rw [show r.arm = arm from harm]; exact hne
      exact h.called (.process r) hother _

theorem Held.run {α : Type} (h : Held sid w₀ w) {arm : AutonomousSessionArm}
    {p : CoordinatorProg α} (hp : Uses (S := coordinatorSig) (Harmless sid arm) p) :
    Held sid w₀ (p.run (S := coordinatorSig) (World.answer K P) w).2 :=
  hp.run_inv (fun _ _ hop hw => hw.answer hop) h

theorem withArm_eq_exec {K : Contracts} {c : Coordinator} {t : DateTime} {s : SessionStore}
    (h : Accepts K c t s) : withArm c.arm s = (StoreOp.ensureArm c.arm).exec K s :=
  (Txn.after_of_ok (ensureArm_ok (validateBeforePorts_arm h.1) h.2.2)).symm

/-- One run on a held session. -/
theorem Held.runCoordinator (h : Held sid w₀ w) (K : Contracts) (P : Ports E) (c : Coordinator)
    (t : DateTime) : Held sid w₀ (w.runCoordinator K P c t) := by
  by_cases haccepts : Accepts K c t w.store
  · have h₁ := h.exec K (.ensureArm c.arm)
    rw [← withArm_eq_exec haccepts] at h₁
    rw [runCoordinator_of_accepts haccepts]
    generalize { w with store := withArm c.arm w.store : World E } = w₁ at h₁
    by_cases hsid : c.arm.sessionId = sid
    · have hquiet : ∀ {α : Type} {p : CoordinatorProg α},
          Uses (S := coordinatorSig) (Quiet c.arm) p →
          Ends (S := coordinatorSig) (World.answer K P) p w₁ fun _ w' => Held sid w₀ w' :=
        fun hp => h₁.run (hp.mono fun _ => .inl)
      have hends : Ends (S := coordinatorSig) (World.answer K P)
          (runArmed K c.arm (.utc t.micros)) w₁ fun _ w' => Held sid w₀ w' := by
        unfold runArmed
        refine ends_readStore_bind ?_
        split
        · exact hquiet ((quiet_markManual _ _ _).bind fun _ => quiet_fromStore _)
        split
        · exact hquiet quiet_runHardFlat
        -- the session is held, so the run returns here
        refine ends_readStore_bind ?_
        rw [hsid, if_pos h₁.manual]
        exact hquiet (quiet_fromStore _)
      exact hends
    · exact h₁.run ((ofArm_runArmed K).mono fun _ hop => .inr ⟨hop, hsid⟩)
  · rw [runCoordinator_of_not_accepts haccepts]
    exact h

theorem Held.act (h : Held sid w₀ w) (K : Contracts) (P : Ports E) (a : Action) :
    Held sid w₀ (w.act K P a) := by
  cases a with
  | run c t => exact h.runCoordinator K P c t
  | op o =>
    refine ⟨o.call_inv K h.inv, ?_, h.calls⟩
    show (o.call K w.store).sessionState sid = _
    rcases o.call_cases K h.inv with hsame | ⟨-, hcall⟩
    · rw [hsame]
      exact h.manual
    · rw [hcall]
      exact ((h.exec K (.ensureArm o.arm)).exec K o).manual

theorem Held.acts (h : Held sid w₀ w) (K : Contracts) (P : Ports E) (as : List Action) :
    Held sid w₀ (w.acts K P as) := by
  induction as generalizing w with
  | nil => exact h
  | cons a as ih => exact ih (h.act K P a)

/-- Manual reconciliation is absorbing: nothing changes it, and no run calls the collector or the
candidate processor for the session any more. -/
theorem manual_absorbing (K : Contracts) (P : Ports E) (env : E) (before after : List Action)
    (sid : String) (h : ((World.start env).acts K P before).store.sessionState sid =
      some .manualReconciliationRequired) :
    (((World.start env).acts K P before).acts K P after).store.sessionState sid =
      some .manualReconciliationRequired ∧
    ∃ new, (((World.start env).acts K P before).acts K P after).calls =
      ((World.start env).acts K P before).calls ++ new ∧ ∀ call ∈ new, ¬ call.opensFor sid := by
  have hinv := World.acts_inv K P before (w := World.start env) storeInv_empty
  have hheld : Held sid ((World.start env).acts K P before)
      ((World.start env).acts K P before) := ⟨hinv, h, [], by simp, by simp⟩
  have hafter := hheld.acts K P after
  exact ⟨hafter.manual, hafter.calls⟩

end Actions

namespace July

def coordinator : Coordinator where
  arm := arm
  releaseCodeSha256 := sha 'a'
  accountFingerprintSha256 := sha 'b'
  release_digest := by decide
  account_digest := by decide

def silent : Ports Unit where
  reconcile _ _ := (none, ())
  collectDue _ _ := (none, ())
  process _ _ := (none, ())
  closeAndReconcile _ _ := (none, ())

theorem ensureArm_empty : ensureArm contracts arm .empty = .ok () (withArm arm .empty) :=
  ensureArm_ok validateArm_arm fun _ h => nomatch h

def freeze : StoreOp := .manual arm .riskFreeze (at_ 840) none none

theorem sessionState_freeze :
    (freeze.call contracts .empty).sessionState arm.sessionId =
      some .manualReconciliationRequired := by
  have hsession : (withArm arm .empty).session arm.sessionId = some (newSession arm) := by
    simp [withArm, SessionStore.session, SessionStore.empty, newSession]
  have htxn : freeze.txn contracts (withArm arm .empty) = .ok () _ :=
    manualPart_eq_ok.mpr ⟨rfl, rfl, rfl, by rw [hsession]; simp, rfl⟩
  rw [StoreOp.call_of_ok storeInv_empty ensureArm_empty htxn, sessionState_setSession, if_pos rfl]
  exact congrArg (Option.map fun _ => SessionState.manualReconciliationRequired)
    (congrArg (Option.map SessionRow.state) hsession)

/-- A frozen session stays frozen through a run in its first window and one at hard flat. -/
theorem manual_absorbing_freeze :
    (((World.start ()).acts contracts silent [.op freeze]).acts contracts silent
      [.run coordinator (at_ 845), .run coordinator (at_ 1170)]).store.sessionState
        arm.sessionId = some .manualReconciliationRequired :=
  (manual_absorbing contracts silent () [.op freeze] _ arm.sessionId sessionState_freeze).1

end July

end EsscherMarket.Runtime
