import EsscherMarket.Runtime.HostPoints

/-!
# Scheduled and one-shot sessions

The scheduler runs the command again over every prefix of its timeline, where a single command runs
each point once.  As long as no receipt is manual the two go through the same stores (`Synced`).
-/

namespace EsscherMarket.Runtime

open Lib Prog

variable {K : Contracts} {B : HostBackends} {c : Coordinator} {w w' : World Unit}

/-! ### Timelines -/

def toUtc (t : DateTime) : DateTime := .utc t.micros

theorem utcPoints_ok {path requirement : String} {timeline points : List DateTime}
    (h : utcPoints path requirement timeline = .ok points) : points = timeline.map toUtc := by
  obtain ⟨_, -, h⟩ := except_bind_eq_ok.mp h
  exact (Except.ok.inj h).symm

/-- What a timeline that was accepted looks like. -/
theorem validateTimeline_ok {arm : AutonomousSessionArm} {timeline points : List DateTime}
    (h : validateTimeline arm timeline = .ok points) :
    points = timeline.map toUtc ∧ (points.map (·.micros)).Pairwise (· < ·) ∧
      (points.getLastD arm.startsAt).micros ≤ arm.hardFlatAt.micros := by
  simp only [validateTimeline, except_bind_eq_ok, throwIf_eq_ok, not_or, not_not, not_lt] at h
  obtain ⟨_, -, points', hpoints, _, hsorted, _, hbounds, h⟩ := h
  cases h
  exact ⟨utcPoints_ok hpoints, hsorted, hbounds.2⟩

theorem sessionPoints_ok {timeline points : List DateTime}
    (h : sessionPoints timeline = .ok points) : points = timeline.map toUtc ∧ points ≠ [] := by
  obtain ⟨_, -, h⟩ := except_bind_eq_ok.mp h
  simp only [except_bind_eq_ok, throwIf_eq_ok] at h
  obtain ⟨_, hne, _, -, h⟩ := h
  cases h
  exact ⟨rfl, hne⟩

theorem validateArm_clocks {arm : AutonomousSessionArm} (h : validateArm K arm = .ok ()) :
    arm.hardFlatAt.micros ≤ arm.endsAt.micros := by
  simp only [validateArm, except_bind_eq_ok, throwIf_eq_ok, utcDatetime_eq_ok, not_or,
    not_lt] at h
  obtain ⟨_, -, _, -, _, -, _, -, _, -, _, -, _, -, _, -, _, -, _, -, startsAt, ⟨-, rfl⟩, endsAt,
    ⟨-, rfl⟩, hardFlatAt, ⟨-, rfl⟩, _, ⟨-, hclocks⟩, -⟩ := h
  exact hclocks

/-- Only the last point of a timeline can be at hard flat. -/
theorem not_isHardFlat_of_mem {arm : AutonomousSessionArm} (hvalid : validateArm K arm = .ok ())
    {pre post : List DateTime} {t : DateTime} (hpost : post ≠ [])
    (hsorted : ((pre ++ t :: post).map (·.micros)).Pairwise (· < ·))
    (hlast : ((pre ++ t :: post).getLastD arm.startsAt).micros ≤ arm.hardFlatAt.micros) :
    ¬ isHardFlat arm t := by
  have hlt : t.micros < arm.hardFlatAt.micros := by
    rw [List.map_append, List.map_cons, List.pairwise_append, List.pairwise_cons] at hsorted
    have hmem : post.getLast hpost ∈ post := List.getLast_mem hpost
    have hless := hsorted.2.1.1 _ (List.mem_map.mpr ⟨_, hmem, rfl⟩)
    have heq : (pre ++ t :: post).getLastD arm.startsAt = post.getLast hpost := by
      rw [List.getLastD_eq_getLast?, List.getLast?_append, List.getLast?_cons,
        List.getLast?_eq_some_getLast hpost]
      rfl
    rw [heq] at hlast
    omega
  have hends := validateArm_clocks hvalid
  rintro (hflat | hflat)
  · omega
  · omega

/-! ### The end of a command -/

def receiptFrom (c : Coordinator) (points : List DateTime) (processed : List String)
    (request : ReconciliationRequest) (truth : Option String) (s : SessionStore) :
    AutonomousHostReceipt :=
  .create c points processed request truth (s.finalSummary c.arm.sessionId)
    (s.activeLifecycleIds c.arm.sessionId) (s.reasons c.arm.sessionId)
    (s.sessionState c.arm.sessionId) (s.countedStates c.arm.sessionId)
    (s.dispositionCounts c.arm.sessionId)

theorem run_hostReceipt {E : Type} {P : Ports E} (points : List DateTime) (processed : List String)
    (request : ReconciliationRequest) (truth : Option String) (w : World E) :
    (hostReceipt c points processed request truth).run (S := coordinatorSig) (World.answer K P) w =
        (.ok (receiptFrom c points processed request truth w.store), w) := rfl

theorem hostDisposition_manual {reasons active : List String} {phase : String}
    {state : Option SessionState} {summary : Option AutonomousSessionSummary}
    {truth : Option String} (h : state = some .manualReconciliationRequired) :
    hostDisposition reasons state summary active phase truth = .manualReconciliationRequired := by
  rw [hostDisposition, if_pos (.inr h)]

theorem hostDisposition_terminal {reasons active : List String} {phase : String}
    {state : Option SessionState} {summary : Option AutonomousSessionSummary}
    {truth : Option String}
    (h : hostDisposition reasons state summary active phase truth = .terminal) :
    summary ≠ none := by
  rintro rfl
  simp only [hostDisposition, Option.map_none, Option.getD_none, Bool.false_eq_true, false_and,
    if_false] at h
  split at h
  · cases h
  · cases h

theorem markManualCode_of {arm : AutonomousSessionArm} {code : String} {reason : ReasonCode}
    {t : DateTime} (h : ReasonCode.ofText code = some reason) :
    markManualCode arm code t = markManual arm reason t none none := by
  rw [markManualCode, h]

theorem markManualCode_unlisted {arm : AutonomousSessionArm} {code : String} {t : DateTime}
    (h : ReasonCode.ofText code = none) : markManualCode arm code t = (do
      let () ← transact (.ensureArm arm)
      raise (.armRejected "reason_code must be an allowlisted reason code")) := by
  rw [markManualCode, h]

theorem still_markManualCode (arm : AutonomousSessionArm) (code : String) (t : DateTime) :
    Uses (S := coordinatorSig) Still (markManualCode arm code t) := by
  cases h : ReasonCode.ofText code with
  | some reason =>
    rw [markManualCode_of h]
    exact still_markManual _ _ _ _ _
  | none =>
    rw [markManualCode_unlisted h]
    exact (uses_transact trivial).bind fun _ => uses_raise _

theorem still_settle (points : List DateTime) (processed : List String) :
    Uses (S := coordinatorSig) Still (settle B c points processed) := by
  have hreceipt : ∀ request truth, Uses (S := coordinatorSig) Still
      (hostReceipt c points processed request truth) :=
    fun request truth => (uses_readStore trivial).bind fun _ => (uses_readStore trivial).bind
      fun _ => (uses_readStore trivial).bind fun _ => (uses_readStore trivial).bind fun _ =>
      (uses_readStore trivial).bind fun _ => uses_pure _
  refine (uses_readStore trivial).bind fun summary => (uses_readStore trivial).bind fun active => ?_
  refine Uses.bind ?_ fun truth => hreceipt _ truth
  let request := closingRequest c points summary active
  have hreconcile : Still (.reconcile request) := trivial
  refine (uses_perform (S := coordinatorSig) hreconcile).bind fun _ => ?_
  cases B.reconcileWithTruth request with
  | ok answer => exact uses_pure _
  | error failure => exact (still_markManualCode _ _ _).bind fun _ => uses_pure _

theorem run_markManualCode_ok {arm : AutonomousSessionArm} {code : String} {t : DateTime}
    {E : Type} {P : Ports E} {w w' : World E}
    (h : (markManualCode arm code t).run (S := coordinatorSig) (World.answer K P) w = (.ok (), w')) :
    ∃ reason, ReasonCode.ofText code = some reason := by
  cases hcode : ReasonCode.ofText code with
  | some reason => exact ⟨reason, rfl⟩
  | none =>
    rw [markManualCode_unlisted hcode] at h
    obtain ⟨_, _, -, h⟩ := run_bind_ok h
    cases h

/-- The end of a command. A receipt that is not manual was made from a store that the command
left as it was. -/
theorem settle_ok (h : Ready K c.arm w.store) {points : List DateTime} {processed : List String}
    {receipt : AutonomousHostReceipt}
    (hrun : (settle B c points processed).run (S := coordinatorSig) (World.answer K B.ports) w =
      (.ok receipt, w')) :
    receipt.requestedTimelineCount = points.length ∧
    (receipt.disposition ≠ .manualReconciliationRequired →
      w'.store = w.store ∧ ¬ Manual c.arm w'.store) ∧
    (receipt.disposition = .terminal → w.store.finalSummary c.arm.sessionId ≠ none ∨
      Manual c.arm w'.store) := by
  let request := closingRequest c points (w.store.finalSummary c.arm.sessionId)
    (w.store.activeLifecycleIds c.arm.sessionId)
  let w₁ := w.called (.reconcile request) ()
  have hrun₁ : (truthAfter B c request >>= fun truth =>
          hostReceipt c points processed request truth).run (S := coordinatorSig)
      (World.answer K B.ports) w₁ = (.ok receipt, w') := by
    unfold settle reconcileWithTruth at hrun
    exact hrun
  cases hanswer : B.reconcileWithTruth request with
  | ok answer =>
    rw [truthAfter, hanswer] at hrun₁
    obtain ⟨hr, rfl⟩ := Prod.mk.inj ((run_hostReceipt points processed request (some answer.2)
      w₁).symm.trans hrun₁)
    cases hr
    refine ⟨rfl, fun hne => ⟨rfl, fun hmanual => hne ?_⟩, fun hterminal => .inl ?_⟩
    · exact hostDisposition_manual hmanual
    · exact hostDisposition_terminal hterminal
  | error failure =>
    rw [truthAfter, hanswer] at hrun₁
    obtain ⟨truth, w₂, hmark, hrest⟩ := run_bind_ok hrun₁
    obtain ⟨_, w₃, hmark, hpure⟩ := run_bind_ok hmark
    cases hpure
    obtain ⟨reason, hreason⟩ := run_markManualCode_ok hmark
    rw [markManualCode_of hreason] at hmark
    have hready₁ : Ready K c.arm w₁.store := h
    have hmanual : Manual c.arm w₂.store := by
      rcases (ends_markManual hready₁ _ none none).of_run hmark with ⟨-, hmanual⟩ | ⟨⟨e, he⟩, -⟩
      · exact hmanual
      · cases he
    obtain ⟨hr, rfl⟩ := Prod.mk.inj ((run_hostReceipt points processed request none
      w₂).symm.trans hrest)
    cases hr
    refine ⟨rfl, fun hne => absurd ?_ hne, fun _ => .inr hmanual⟩
    exact hostDisposition_manual hmanual

/-! ### A command -/

/-- What a command that returned has gone through. -/
theorem command_ok {E : Type} {P : Ports E} {w w' : World E} {timeline : List DateTime}
    {receipt : AutonomousHostReceipt}
    (h : (runAutonomousHostCommand K B c timeline).run (S := coordinatorSig)
      (World.answer K P) w = (.ok receipt, w')) :
    ∃ points processed w₁ w₂, validateTimeline c.arm timeline = .ok points ∧
      (StoreOp.ensureArm c.arm).txn K w.store = .ok () w₁.store ∧ w₁.closes = w.closes ∧
      (observePoints K c points).run (S := coordinatorSig) (World.answer K P) w₁ =
        (.ok processed, w₂) ∧
      (settle B c points processed).run (S := coordinatorSig) (World.answer K P) w₂ =
        (.ok receipt, w') ∧ receipt.check = .ok () := by
  obtain ⟨points, hpoints, h⟩ := run_ofExcept_bind_ok h
  obtain ⟨_, w₁, hensure, h⟩ := run_bind_ok h
  obtain ⟨processed, w₂, hobserve, h⟩ := run_bind_ok h
  obtain ⟨receipt', w₃, hsettle, h⟩ := run_bind_ok h
  obtain ⟨_, hcheck, h⟩ := run_ofExcept_bind_ok h
  cases h
  have hensure := (run_transact_eq _).symm.trans (run_mapError_ok hensure)
  obtain ⟨hresult, rfl⟩ := Prod.mk.inj hensure
  obtain ⟨s₁, hok⟩ := Txn.of_result_ok hresult
  refine ⟨points, processed, { w with store := (StoreOp.ensureArm c.arm).exec K w.store }, w₂,
    hpoints, ?_, rfl, run_mapError_ok hobserve, run_mapError_ok hsettle, hcheck⟩
  show (StoreOp.ensureArm c.arm).txn K w.store = .ok () ((StoreOp.ensureArm c.arm).exec K w.store)
  rw [show (StoreOp.ensureArm c.arm).exec K w.store = s₁ from Txn.after_of_ok hok]
  exact hok

theorem ensureArm_bound {s s' : SessionStore} (h : (StoreOp.ensureArm c.arm).txn K s = .ok () s') :
    Bound K c.arm s' := by
  obtain ⟨hvalid, hcases⟩ := ensureArm_eq_ok.mp h
  refine ⟨hvalid, ?_⟩
  rcases hcases with ⟨row, hrow, hsha, hbytes, rfl⟩ | ⟨hnone, rfl⟩
  · exact ⟨row, hrow, hsha, hbytes⟩
  · refine ⟨newSession c.arm, ?_, rfl, rfl⟩
    rw [SessionStore.session, List.find?_append, show s.sessions.find? _ = none from hnone]
    simp [newSession]

theorem run_observePoints {points : List DateTime}
    (h : w.store.finalSummary c.arm.sessionId = none) :
    (observePoints K c points).run (S := coordinatorSig) (World.answer K B.ports) w =
      (observeAll K c points []).run (S := coordinatorSig) (World.answer K B.ports) w := by
  show (if (w.store.finalSummary c.arm.sessionId).isSome then pure []
    else observeAll K c points [] : CoordinatorProg (List String)).run (S := coordinatorSig)
      (World.answer K B.ports) w = _
  rw [h]
  rfl

theorem run_observePoints_over (points : List DateTime) {summary : AutonomousSessionSummary}
    (h : w.store.finalSummary c.arm.sessionId = some summary) :
    (observePoints K c points).run (S := coordinatorSig) (World.answer K B.ports) w =
      (.ok [], w) := by
  show (if (w.store.finalSummary c.arm.sessionId).isSome then pure []
    else observeAll K c points [] : CoordinatorProg (List String)).run (S := coordinatorSig)
      (World.answer K B.ports) w = _
  rw [h]
  rfl

theorem observeAll_append {pre post : List DateTime} {processed processed' : List String}
    (h : (observeAll K c (pre ++ post) processed).run (S := coordinatorSig)
      (World.answer K B.ports) w = (.ok processed', w')) :
    ∃ processed₁ w₁, (observeAll K c pre processed).run (S := coordinatorSig)
        (World.answer K B.ports) w = (.ok processed₁, w₁) ∧
      (observeAll K c post processed₁).run (S := coordinatorSig) (World.answer K B.ports) w₁ =
        (.ok processed', w') := by
  induction pre generalizing w processed with
  | nil => exact ⟨processed, w, rfl, h⟩
  | cons t pre ih =>
    obtain ⟨new, w₁, hfirst, hrest⟩ := run_bind_ok h
    obtain ⟨processed₁, w₂, hpre, hpost⟩ := ih hrest
    exact ⟨processed₁, w₂, run_bind hfirst hpre, hpost⟩

theorem observeAll_singleton {t : DateTime} {processed processed' : List String}
    (h : (observeAll K c [t] processed).run (S := coordinatorSig) (World.answer K B.ports) w =
      (.ok processed', w')) : ∃ new, (observe K c t).run (S := coordinatorSig)
        (World.answer K B.ports) w = (.ok new, w') := by
  obtain ⟨new, w₁, hfirst, hrest⟩ := run_bind_ok h
  cases hrest
  exact ⟨new, hfirst⟩

/-- The points have been run, before hard flat. -/
def AllHandled (K : Contracts) (B : HostBackends) (c : Coordinator) (ts : List DateTime)
    (s : SessionStore) : Prop :=
  ∀ t ∈ ts, ¬ isHardFlat c.arm t ∧ Handled K B c.arm (.utc t.micros) s

theorem AllHandled.run {ε α : Type} {ts : List DateTime} (hs : StoreInv w.store)
    (h : AllHandled K B c ts w.store) (p : Prog coordinatorSig ε α) :
    AllHandled K B c ts (p.run (World.answer K B.ports) w).2.store := by
  intro t ht
  refine ⟨(h t ht).1, ?_⟩
  intro window hwindow collected unique hcollected hunique o ho
  exact run_settled hs ((h t ht).2 window hwindow collected unique hcollected hunique o ho) p

/-- Points that were handled, run again. -/
theorem observeAll_handled {ts : List DateTime} {processed processed' : List String}
    (h : Ready K c.arm w.store) (hts : AllHandled K B c ts w.store)
    (hrun : (observeAll K c ts processed).run (S := coordinatorSig) (World.answer K B.ports) w =
      (.ok processed', w')) : Replayed c.arm w w' := by
  induction ts generalizing w processed with
  | nil =>
    cases hrun
    exact .refl _ _
  | cons t ts ih =>
    obtain ⟨new, w₁, hfirst, hrest⟩ := run_bind_ok hrun
    obtain ⟨hflat, hhandled⟩ := hts t List.mem_cons_self
    have hready := Ends.of_run (Q := fun _ (w' : World Unit) => Ready K c.arm w'.store)
      (h.run (observe K c t)) hfirst
    have hts' : AllHandled K B c ts w₁.store :=
      Ends.of_run (Q := fun _ (w' : World Unit) => AllHandled K B c ts w'.store)
        (AllHandled.run h.inv (fun t ht => hts t (List.mem_cons_of_mem _ ht)) (observe K c t)) hfirst
    exact ((ends_observe_handled h hflat hhandled).of_run hfirst).trans (ih hready hts' hrest)

/-! ### The schedule beside one command -/

section Synced

variable {u u' v v' : World Unit} {driven : List DateTime} {point : DateTime}
  {receipt : AutonomousHostReceipt}

/-- The schedule driven over these points to `u`, and one command run to `v`, leave the same stores.
-/
structure Synced (K : Contracts) (B : HostBackends) (c : Coordinator) (driven : List DateTime)
    (u v : World Unit) : Prop where
  store : (StoreOp.ensureArm c.arm).exec K u.store = v.store
  closes : u.closes = v.closes
  ready : Ready K c.arm v.store
  summary : v.store.finalSummary c.arm.sessionId = none
  handled : AllHandled K B c driven v.store

/-- The command over one more point, as far as its reconciliation: the points that were driven are
run again, and then the new one. -/
theorem Synced.command (h : Synced K B c driven u v) (hutc : (driven ++ [point]).map toUtc =
      driven ++ [point])
    (hrun : (runAutonomousHostCommand K B c (driven ++ [point])).run (S := coordinatorSig)
      (World.answer K B.ports) u = (.ok receipt, u')) :
    ∃ new processed w₁ w₂ w₃, Alike w₁ v ∧ Replayed c.arm w₁ w₂ ∧ Ready K c.arm w₂.store ∧
      (observe K c point).run (S := coordinatorSig) (World.answer K B.ports) w₂ = (.ok new, w₃) ∧
      (settle B c (driven ++ [point]) processed).run (S := coordinatorSig)
        (World.answer K B.ports) w₃ = (.ok receipt, u') := by
  obtain ⟨points, processed, w₁, w₃, hpoints, hensure, hcloses, hobserve, hsettle, -⟩ :=
    command_ok hrun
  obtain ⟨rfl, -, -⟩ := validateTimeline_ok hpoints
  rw [hutc] at hobserve hsettle
  have hstore : w₁.store = v.store := by
    rw [← h.store, show (StoreOp.ensureArm c.arm).exec K u.store = w₁.store from
      Txn.after_of_ok hensure]
  have hready : Ready K c.arm w₁.store := by
    rw [hstore]
    exact h.ready
  have hhandled : AllHandled K B c driven w₁.store := by
    rw [hstore]
    exact h.handled
  have hall : (observeAll K c (driven ++ [point]) []).run (S := coordinatorSig)
      (World.answer K B.ports) w₁ = (.ok processed, w₃) := by
    have hnone : w₁.store.finalSummary c.arm.sessionId = none := by
      rw [hstore]
      exact h.summary
    exact (run_observePoints hnone).symm.trans hobserve
  obtain ⟨_, w₂, hold, hlast⟩ := observeAll_append hall
  obtain ⟨new, hnew⟩ := observeAll_singleton hlast
  refine ⟨new, processed, w₁, w₂, w₃, ⟨hstore, hcloses.trans h.closes⟩,
    observeAll_handled hready hhandled hold, ?_, hnew, hsettle⟩
  exact Ends.of_run (Q := fun _ (w' : World Unit) => Ready K c.arm w'.store)
    (hready.run (observeAll K c driven [])) hold

/-- A command whose receipt is not manual has run the new point in the world of the other. -/
theorem Synced.alike {new new' processed : List String} {w₁ w₂ w₃ : World Unit}
    {points : List DateTime} (halike : Alike w₁ v) (hreplayed : Replayed c.arm w₁ w₂)
    (hready : Ready K c.arm w₂.store)
    (hobserve : (observe K c point).run (S := coordinatorSig) (World.answer K B.ports) w₂ =
      (.ok new, w₃))
    (hsettle : (settle B c points processed).run (S := coordinatorSig)
      (World.answer K B.ports) w₃ = (.ok receipt, u'))
    (hother : (observe K c point).run (S := coordinatorSig) (World.answer K B.ports) v =
      (.ok new', v'))
    (hreceipt : receipt.disposition ≠ .manualReconciliationRequired) :
    Alike w₃ v' ∧ u'.store = w₃.store ∧ ¬ Manual c.arm u'.store := by
  have hready₃ := Ends.of_run (Q := fun _ (w' : World Unit) => Ready K c.arm w'.store)
    (hready.run (observe K c point)) hobserve
  obtain ⟨-, hsame, -⟩ := settle_ok hready₃ hsettle
  obtain ⟨hstore, hmanual⟩ := hsame hreceipt
  have hnot : ¬ Manual c.arm w₂.store := by
    intro hw₂
    refine hmanual ?_
    rw [hstore]
    exact Ends.of_run (Q := fun _ (w' : World Unit) => Manual c.arm w'.store)
      (hw₂.run hready.inv (observe K c point)) hobserve
  have halike₂ : Alike w₂ v := by
    rcases hreplayed.same with hsame | hw₂
    · exact ⟨hsame.trans halike.store, hreplayed.open_.closes.trans halike.closes⟩
    · exact absurd hw₂ hnot
  exact ⟨(halike₂.run_ok hobserve hother).2, hstore, hmanual⟩

theorem closes_settle {points : List DateTime} {processed : List String} {w w' : World Unit}
    (h : (settle B c points processed).run (S := coordinatorSig) (World.answer K B.ports) w =
      (.ok receipt, w')) : SameTrades w w' :=
  Ends.of_run (Q := fun _ w' => SameTrades w w') (sameTrades_of_still (still_settle _ _)) h

/-- One more point, before hard flat. -/
theorem Synced.step {new' : List String} (h : Synced K B c driven u v)
    (hutc : (driven ++ [point]).map toUtc = driven ++ [point]) (hflat : ¬ isHardFlat c.arm point)
    (hrun : (runAutonomousHostCommand K B c (driven ++ [point])).run (S := coordinatorSig)
      (World.answer K B.ports) u = (.ok receipt, u'))
    (hother : (observe K c point).run (S := coordinatorSig) (World.answer K B.ports) v =
      (.ok new', v'))
    (hreceipt : receipt.disposition ≠ .manualReconciliationRequired) :
    Synced K B c (driven ++ [point]) u' v' ∧ receipt.disposition ≠ .terminal := by
  obtain ⟨new, processed, w₁, w₂, w₃, halike, hreplayed, hready, hobserve, hsettle⟩ :=
    h.command hutc hrun
  obtain ⟨halike₃, hstore, hmanual⟩ :=
    Synced.alike halike hreplayed hready hobserve hsettle hother hreceipt
  obtain ⟨hopen, hhandled⟩ := observe_fresh h.ready hflat hother
  have hready' := Ends.of_run (Q := fun _ (w' : World Unit) => Ready K c.arm w'.store)
    (h.ready.run (observe K c point)) hother
  have hu' : u'.store = v'.store := hstore.trans halike₃.store
  have hsummary : v'.store.finalSummary c.arm.sessionId = none := by
    rw [SessionStore.finalSummary, hopen.summaries]
    exact h.summary
  refine ⟨⟨?_, ?_, hready', hsummary, ?_⟩, ?_⟩
  · rw [hu']
    exact StoreOp.exec_of_settled hready'.inv hready'.bound.session_ne_none
  · exact (closes_settle hsettle).closes.trans halike₃.closes
  · intro t ht
    rcases List.mem_append.mp ht with ht | ht
    · exact Ends.of_run (Q := fun _ (w' : World Unit) => AllHandled K B c driven w'.store)
        (h.handled.run h.ready.inv (observe K c point)) hother t ht
    · rw [List.mem_singleton.mp ht]
      refine ⟨hflat, hhandled.resolve_left ?_⟩
      rw [← hu']
      exact hmanual
  · intro hterminal
    have hready₃ : Ready K c.arm w₃.store := by
      rw [halike₃.store]
      exact hready'
    obtain ⟨-, -, hend⟩ := settle_ok hready₃ hsettle
    rcases hend hterminal with hsome | hw
    · rw [halike₃.store] at hsome
      exact hsome hsummary
    · exact hmanual hw

/-- The last point, which is at hard flat if its receipt is manual. -/
theorem Synced.last {new' : List String} (h : Synced K B c driven u v)
    (hutc : (driven ++ [point]).map toUtc = driven ++ [point])
    (hrun : (runAutonomousHostCommand K B c (driven ++ [point])).run (S := coordinatorSig)
      (World.answer K B.ports) u = (.ok receipt, u'))
    (hother : (observe K c point).run (S := coordinatorSig) (World.answer K B.ports) v =
      (.ok new', v'))
    (hreceipt : receipt.disposition = .manualReconciliationRequired → isHardFlat c.arm point) :
    SameTrades u' v' := by
  obtain ⟨new, processed, w₁, w₂, w₃, halike, hreplayed, hready, hobserve, hsettle⟩ :=
    h.command hutc hrun
  have hu' := closes_settle hsettle
  by_cases hmanual : receipt.disposition = .manualReconciliationRequired
  · have hflat := hreceipt hmanual
    have hsummary : w₂.store.finalSummary c.arm.sessionId = none := by
      rw [SessionStore.finalSummary, hreplayed.open_.summaries, halike.store]
      exact h.summary
    have hw₂ : SameTrades w₂ v := by
      refine SameTrades.symm ⟨?_, hreplayed.open_.closes.trans halike.closes⟩
      rw [← halike.store]
      exact hreplayed.exposure
    have hw₃ := (ends_observe_flat (B := B) hready hflat hsummary).of_run hobserve
    have hv' := (ends_observe_flat (B := B) h.ready hflat h.summary).of_run hother
    exact hu'.symm.trans (hw₃.symm.trans ((hw₂.flatWorld c).trans hv'))
  · obtain ⟨halike₃, -, -⟩ :=
      Synced.alike halike hreplayed hready hobserve hsettle hother hmanual
    refine hu'.symm.trans ⟨?_, halike₃.closes.symm⟩
    rw [halike₃.store]
    exact .refl _

theorem command_count {timeline : List DateTime} (hs : StoreInv w.store)
    (h : (runAutonomousHostCommand K B c timeline).run (S := coordinatorSig)
      (World.answer K B.ports) w = (.ok receipt, w')) :
    receipt.requestedTimelineCount = timeline.length := by
  obtain ⟨points, processed, w₁, w₂, hpoints, hensure, -, hobserve, hsettle, -⟩ := command_ok h
  obtain ⟨rfl, -, -⟩ := validateTimeline_ok hpoints
  have hinv : StoreInv w₁.store := by
    rw [← show (StoreOp.ensureArm c.arm).exec K w.store = w₁.store from Txn.after_of_ok hensure]
    exact (StoreOp.ensureArm c.arm).exec_inv K hs
  have hready : Ready K c.arm w₁.store := ⟨hinv, ensureArm_bound hensure⟩
  have hready₂ := Ends.of_run (Q := fun _ (w' : World Unit) => Ready K c.arm w'.store)
    (hready.run (observePoints K c (timeline.map toUtc))) hobserve
  rw [(settle_ok hready₂ hsettle).1, List.length_map]

/-- The whole schedule. -/
theorem Synced.drive {rest : List DateTime} {last : Option AutonomousHostReceipt}
    {processed processed' : List String} (hs : StoreInv u.store) (h : Synced K B c driven u v)
    (hrest : rest ≠ []) (hutc : ∀ t ∈ driven ++ rest, toUtc t = t)
    (hflat : ∀ pre t post, rest = pre ++ t :: post → post ≠ [] → ¬ isHardFlat c.arm t)
    (hrun : (drive K B c driven last rest).run (S := coordinatorSig) (World.answer K B.ports) u =
      (.ok receipt, u'))
    (hother : (observeAll K c rest processed).run (S := coordinatorSig) (World.answer K B.ports) v =
      (.ok processed', v'))
    (hreceipt : receipt.disposition = .manualReconciliationRequired →
      receipt.requestedTimelineCount = (driven ++ rest).length ∧
      ∃ t, rest.getLast? = some t ∧ isHardFlat c.arm t) : SameTrades u' v' := by
  induction rest generalizing driven last processed u v with
  | nil => exact absurd rfl hrest
  | cons point rest ih =>
    obtain ⟨receipt₁, u₁, hcommand, hrun⟩ := run_bind_ok hrun
    obtain ⟨new', v₁, hfirst, hother⟩ := run_bind_ok hother
    have hutc₁ : (driven ++ [point]).map toUtc = driven ++ [point] := by
      refine (List.map_congr_left ?_).trans (List.map_id _)
      intro t ht
      refine hutc t ?_
      rw [List.append_cons]
      exact List.mem_append_left _ ht
    cases rest with
    | nil =>
      cases hother
      have heq : receipt₁ = receipt ∧ u₁ = u' := by
        split at hrun
        · cases hrun
          exact ⟨rfl, rfl⟩
        · cases hrun
          exact ⟨rfl, rfl⟩
      obtain ⟨rfl, rfl⟩ := heq
      refine h.last hutc₁ hcommand hfirst ?_
      intro hmanual
      obtain ⟨-, t, ht, hflat⟩ := hreceipt hmanual
      cases ht
      exact hflat
    | cons next rest =>
      have hpoint : ¬ isHardFlat c.arm point := hflat [] point (next :: rest) rfl (by simp)
      have hnotManual : receipt₁.disposition ≠ .manualReconciliationRequired := by
        intro hmanual
        rw [if_pos (.inl hmanual)] at hrun
        cases hrun
        have hcount := (hreceipt hmanual).1
        rw [command_count hs hcommand] at hcount
        simp at hcount
      obtain ⟨hsynced, hnotTerminal⟩ := h.step hutc₁ hpoint hcommand hfirst hnotManual
      rw [if_neg (by rintro (hstop | hstop); exacts [hnotManual hstop, hnotTerminal hstop])] at hrun
      have hs₁ : StoreInv u₁.store := Ends.of_run (Q := fun _ (w' : World Unit) => StoreInv w'.store)
        (run_keeps (fun op _ hs => op.exec_inv K hs) hs
          (runAutonomousHostCommand K B c (driven ++ [point]))) hcommand
      rw [List.append_cons] at hutc hreceipt
      refine ih hs₁ hsynced (by simp) hutc ?_ hrun hother ?_
      · intro pre t post hpost
        exact hflat (point :: pre) t post (by rw [hpost, List.cons_append])
      · intro hmanual
        obtain ⟨hcount, t, ht, hflat⟩ := hreceipt hmanual
        exact ⟨hcount, t, by rwa [List.getLast?_cons_cons] at ht, hflat⟩

end Synced

/-! ### A session that is over -/

section Over

variable {t : DateTime} {receipt : AutonomousHostReceipt}

/-- A command on a session with a final summary runs no point. -/
theorem command_over {timeline : List DateTime} (hs : StoreInv w.store)
    (hover : Settled (.finalize c.arm t) w.store)
    (h : (runAutonomousHostCommand K B c timeline).run (S := coordinatorSig)
      (World.answer K B.ports) w = (.ok receipt, w')) :
    SameTrades w w' ∧ StoreInv w'.store ∧ Settled (.finalize c.arm t) w'.store := by
  have hkept : StoreInv w'.store ∧ Settled (.finalize c.arm t) w'.store :=
    Ends.of_run (Q := fun _ (w' : World Unit) => StoreInv w'.store ∧
      Settled (.finalize c.arm t) w'.store)
      ⟨run_keeps (fun op _ hs => op.exec_inv K hs) hs _, run_settled hs hover _⟩ h
  refine ⟨?_, hkept⟩
  obtain ⟨points, processed, w₁, w₂, -, hensure, hcloses, hobserve, hsettle, -⟩ := command_ok h
  have hstore : (StoreOp.ensureArm c.arm).exec K w.store = w₁.store := Txn.after_of_ok hensure
  obtain ⟨summary, hsummary⟩ := hover
  have hsummary₁ : w₁.store.finalSummary c.arm.sessionId = some summary := by
    rw [← hstore]
    exact ((StoreOp.ensureArm c.arm).exec_kept K hs).summary _ _ hsummary
  have hw₂ : w₁ = w₂ :=
    (Prod.mk.inj ((run_observePoints_over _ hsummary₁).symm.trans hobserve)).2
  have hw₁ : SameTrades w w₁ := by
    refine ⟨?_, hcloses⟩
    rw [← hstore]
    have hstill : Still (.store (.ensureArm c.arm)) := trivial
    exact sameExposure_exec hstill w.store
  subst hw₂
  exact hw₁.trans (closes_settle hsettle)

/-- Neither does a schedule. -/
theorem drive_over {driven rest : List DateTime} {last : Option AutonomousHostReceipt}
    (hs : StoreInv w.store) (hover : Settled (.finalize c.arm t) w.store)
    (h : (drive K B c driven last rest).run (S := coordinatorSig) (World.answer K B.ports) w =
      (.ok receipt, w')) : SameTrades w w' := by
  induction rest generalizing driven last w with
  | nil =>
    have hend : (ofExcept (last.elim (.error (.session .assertion)) .ok) :
        HostProg AutonomousHostReceipt).run (S := coordinatorSig) (World.answer K B.ports) w =
          (.ok receipt, w') := h
    obtain ⟨-, rfl⟩ := Prod.mk.inj ((run_ofExcept _).symm.trans hend)
    exact .refl _
  | cons point rest ih =>
    obtain ⟨receipt₁, w₁, hcommand, h⟩ := run_bind_ok h
    obtain ⟨hw₁, hs₁, hover₁⟩ := command_over hs hover hcommand
    split at h
    · cases h
      exact hw₁
    · exact hw₁.trans (ih hs₁ hover₁ h)

end Over

/-! ### The schedule and the command -/

theorem SameTrades.activeLifecycleIds (h : SameTrades w w') (sid : String) :
    w'.store.activeLifecycleIds sid = w.store.activeLifecycleIds sid := by
  rw [SessionStore.activeLifecycleIds, SessionStore.activeLifecycleIds, SessionStore.activeRows,
    SessionStore.activeRows, h.exposure.lifecycles]

/-- Scheduled and one-shot sessions agree on exposure, unless the schedule turns manual before hard
flat: the same lifecycles were to be closed, and the same are left active. -/
theorem schedule_agrees (K : Contracts) (B : HostBackends) (c : Coordinator) (ops : List StoreOp)
    (timeline : List DateTime) {scheduled oneShot : AutonomousHostReceipt} {w₁ w₂ : World Unit}
    (hscheduled : (runPaperSession K B c timeline).run (S := coordinatorSig)
      (World.answer K B.ports) ⟨runOps K .empty ops, [], ()⟩ = (.ok scheduled, w₁))
    (honeShot : (runAutonomousHostCommand K B c timeline).run (S := coordinatorSig)
      (World.answer K B.ports) ⟨runOps K .empty ops, [], ()⟩ = (.ok oneShot, w₂))
    (hmanual : scheduled.disposition = .manualReconciliationRequired →
      scheduled.requestedTimelineCount = timeline.length ∧
      ∃ t, timeline.getLast? = some t ∧ isHardFlat c.arm t) :
    (∀ l, l ∈ w₁.closes.map (·.lifecycle) ↔ l ∈ w₂.closes.map (·.lifecycle)) ∧
    ∀ sid, w₁.store.activeLifecycleIds sid = w₂.store.activeLifecycleIds sid := by
  have hs := runOps_inv K ops storeInv_empty
  generalize runOps K .empty ops = s at hs hscheduled honeShot
  obtain ⟨points, hpoints, hdrive⟩ := run_ofExcept_bind_ok hscheduled
  obtain ⟨rfl, hne⟩ := sessionPoints_ok hpoints
  have htrades : SameTrades w₁ w₂ := by
    cases hsummary : s.finalSummary c.arm.sessionId with
    | some summary =>
      have hover : Settled (.finalize c.arm c.arm.startsAt) s := ⟨summary, hsummary⟩
      have hw₁ := drive_over (t := c.arm.startsAt) hs hover hdrive
      exact hw₁.symm.trans (command_over (t := c.arm.startsAt) hs hover honeShot).1
    | none =>
      obtain ⟨points, processed, v, v', hvalid, hensure, hcloses, hobserve, hsettle, -⟩ :=
        command_ok honeShot
      obtain ⟨rfl, hsorted, hlast⟩ := validateTimeline_ok hvalid
      have hstore : (StoreOp.ensureArm c.arm).exec K s = v.store := Txn.after_of_ok hensure
      have hnone : v.store.finalSummary c.arm.sessionId = none := by
        have hdue : Due c.arm (.store (.ensureArm c.arm)) := rfl
        have hsummaries := summaries_exec (K := K) hdue s
        rw [← hstore, SessionStore.finalSummary, hsummaries]
        exact hsummary
      have hready : Ready K c.arm v.store := by
        refine ⟨?_, ensureArm_bound hensure⟩
        rw [← hstore]
        exact (StoreOp.ensureArm c.arm).exec_inv K hs
      have hall : (observeAll K c (timeline.map toUtc) []).run (S := coordinatorSig)
          (World.answer K B.ports) v = (.ok processed, v') :=
        (run_observePoints hnone).symm.trans hobserve
      have hsynced : Synced K B c [] ⟨s, [], ()⟩ v :=
        ⟨hstore, hcloses.symm, hready, hnone, fun _ ht => (by cases ht)⟩
      have hw₁ : SameTrades w₁ v' := by
        refine Synced.drive hs hsynced hne ?_ ?_ hdrive hall ?_
        · intro t ht
          obtain ⟨t', -, rfl⟩ := List.mem_map.mp ht
          rfl
        · intro pre t post heq hpost
          rw [heq] at hsorted hlast
          exact not_isHardFlat_of_mem hready.bound.valid hpost hsorted hlast
        · intro hreceipt
          obtain ⟨hcount, t, ht, hflat⟩ := hmanual hreceipt
          refine ⟨hcount.trans (List.length_map _).symm, toUtc t, ?_, hflat⟩
          rw [List.getLast?_map, ht, Option.map_some]
      exact hw₁.trans (closes_settle hsettle)
  refine ⟨?_, fun sid => (htrades.activeLifecycleIds sid).symm⟩
  intro l
  rw [htrades.closes]

/-! ### Runs that return -/

section Returns

variable {arm : AutonomousSessionArm} {t : DateTime} {points timeline : List DateTime}
  {processed : List String} {receipt : AutonomousHostReceipt} {w₁ w₂ : World Unit}

theorem run_command (hpoints : validateTimeline c.arm timeline = .ok points)
    (hbound : Bound K c.arm w.store)
    (hobserve : (observePoints K c points).run (S := coordinatorSig) (World.answer K B.ports) w =
      (.ok processed, w₁))
    (hsettle : (settle B c points processed).run (S := coordinatorSig) (World.answer K B.ports) w₁ =
      (.ok receipt, w₂)) (hcheck : receipt.check = .ok ()) :
    (runAutonomousHostCommand K B c timeline).run (S := coordinatorSig) (World.answer K B.ports) w =
      (.ok receipt, w₂) := by
  have hensure : (StoreOp.ensureArm c.arm).txn K w.store = .ok () w.store := hbound.ensureArm
  refine run_ofExcept_bind hpoints ?_
  refine run_bind (run_mapError (run_transact hensure)) ?_
  refine run_bind (run_mapError hobserve) ?_
  refine run_bind (run_mapError hsettle) ?_
  exact run_ofExcept_bind hcheck rfl

theorem run_observe {result : AutonomousRunResult}
    (h : (c.run K t).run (S := coordinatorSig) (World.answer K B.ports) w = (.ok result, w₁)) :
    (observe K c t).run (S := coordinatorSig) (World.answer K B.ports) w =
      (.ok result.processedOpportunityIds, w₁) :=
  run_bind (run_attempt_of h) rfl

/-- The part of a run after `ensure_arm`. -/
theorem run_armed (h : Ready K c.arm w.store) (hvalid : validateBeforePorts K c = .ok ())
    (hutc : isUtc t = true) :
    (c.run K t).run (S := coordinatorSig) (World.answer K B.ports) w =
      (runArmed K c.arm (.utc t.micros)).run (S := coordinatorSig) (World.answer K B.ports) w := by
  have hensure : (StoreOp.ensureArm c.arm).txn K w.store = .ok () w.store := h.bound.ensureArm
  refine run_ofExcept_bind hvalid ?_
  refine run_ofExcept_bind (utcDatetime_eq_ok.mpr ⟨hutc, rfl⟩) ?_
  exact run_bind (run_transact hensure) rfl

theorem run_due_part (h : Ready K c.arm w.store) (hvalid : validateBeforePorts K c = .ok ())
    (hutc : isUtc t = true) (hclaimed : w.store.claimedOpportunityIds c.arm.sessionId = [])
    (hflat : ¬ isHardFlat c.arm t)
    (hstate : w.store.sessionState c.arm.sessionId ≠ some .manualReconciliationRequired) :
    (c.run K t).run (S := coordinatorSig) (World.answer K B.ports) w =
      (runDue K c.arm (.utc t.micros)).run (S := coordinatorSig) (World.answer K B.ports) w := by
  rw [run_armed h hvalid hutc]
  show (if w.store.claimedOpportunityIds c.arm.sessionId ≠ [] then _
    else if isHardFlat c.arm (.utc t.micros) then _ else _ : CoordinatorProg _).run
      (S := coordinatorSig) (World.answer K B.ports) w = _
  rw [if_neg (not_not.mpr hclaimed), if_neg (show ¬ isHardFlat c.arm (.utc t.micros) from hflat)]
  show (if w.store.sessionState c.arm.sessionId = some .manualReconciliationRequired then _
    else _ : CoordinatorProg _).run (S := coordinatorSig) (World.answer K B.ports) w = _
  rw [if_neg hstate]

def resultFrom (arm : AutonomousSessionArm) (t : DateTime) (processed : List String)
    (s : SessionStore) : AutonomousRunResult :=
  ⟨arm.sessionId, arm.armSha256, t, processed, s.dispositionCounts arm.sessionId,
    s.reasons arm.sessionId⟩

/-- What `runDue` does once the answer at startup is accepted or not. -/
def dueAfter (K : Contracts) (arm : AutonomousSessionArm) (t : DateTime)
    (answer : Option ReconciliationReceipt) : CoordinatorProg AutonomousRunResult :=
  match answer with
  | none => do
    markManual arm .reconciliationIdentityMismatch t none none
    fromStore arm t []
  | some _ => do
    let flow ← processWindows K arm t (dueWindows arm t) []
    fromStore arm t flow.processed

def World.reconciled (arm : AutonomousSessionArm) (t : DateTime) (w : World Unit) : World Unit :=
  w.called (.reconcile (startupRequest arm t (w.store.activeLifecycleIds arm.sessionId))) ()

theorem run_runDue_refused (h : Ready K arm w.store) (hutc : isUtc t = true)
    (hrefused : accepted (validateReconciliation · (startupRequest arm t
      (w.store.activeLifecycleIds arm.sessionId)))
      (B.ports.reconcile (startupRequest arm t (w.store.activeLifecycleIds arm.sessionId)) ()).1 =
        none) :
    (runDue K arm t).run (S := coordinatorSig) (World.answer K B.ports) w =
      (.ok (resultFrom arm t [] (marked arm .reconciliationIdentityMismatch t none none w.store)),
        { w.reconciled arm t with
          store := marked arm .reconciliationIdentityMismatch t none none w.store }) := by
  have hready : Ready K arm (w.reconciled arm t).store := h
  show (dueAfter K arm t (accepted (validateReconciliation ·
      (startupRequest arm t (w.store.activeLifecycleIds arm.sessionId))) (B.ports.reconcile
        (startupRequest arm t (w.store.activeLifecycleIds arm.sessionId)) ()).1)).run
      (S := coordinatorSig) (World.answer K B.ports) (w.reconciled arm t) = _
  rw [hrefused]
  exact run_bind (run_markManual hready.bound hutc rfl rfl) rfl

theorem run_runDue_idle {answer : ReconciliationReceipt}
    (haccepted : accepted (validateReconciliation · (startupRequest arm t
      (w.store.activeLifecycleIds arm.sessionId)))
      (B.ports.reconcile (startupRequest arm t (w.store.activeLifecycleIds arm.sessionId)) ()).1 =
        some answer) (hwindows : dueWindows arm t = []) :
    (runDue K arm t).run (S := coordinatorSig) (World.answer K B.ports) w =
      (.ok (resultFrom arm t [] w.store), w.reconciled arm t) := by
  show (dueAfter K arm t (accepted (validateReconciliation ·
      (startupRequest arm t (w.store.activeLifecycleIds arm.sessionId))) (B.ports.reconcile
        (startupRequest arm t (w.store.activeLifecycleIds arm.sessionId)) ()).1)).run
      (S := coordinatorSig) (World.answer K B.ports) (w.reconciled arm t) = _
  rw [haccepted, dueAfter, hwindows]
  rfl

def finalized (arm : AutonomousSessionArm) (t : DateTime) (s : SessionStore) : SessionStore :=
  setSession arm.sessionId
    (if (buildSummary arm (.utc t.micros) s).terminalFlatProven then .finalized
      else .manualReconciliationRequired)
    { s with summaries := s.summaries ++ [⟨arm.sessionId, buildSummary arm (.utc t.micros) s⟩] }

theorem run_runHardFlat_unresolved (h : Ready K arm w.store) (hutc : isUtc t = true)
    (hsummary : w.store.finalSummary arm.sessionId = none)
    (hw₁ : closedAll B arm t (activeIdentities w.store arm.sessionId) w = w₁)
    (hready₁ : Ready K arm w₁.store) (hsummary₁ : w₁.store.finalSummary arm.sessionId = none)
    (hleft : w₁.store.activeLifecycleIds arm.sessionId ≠ []) :
    (runHardFlat arm t).run (S := coordinatorSig) (World.answer K B.ports) w =
      (.ok (resultFrom arm t []
        (finalized arm t (marked arm .hardFlatUnresolved t none none w₁.store))),
        { w₁ with
          store := finalized arm t (marked arm .hardFlatUnresolved t none none w₁.store) }) := by
  have hbound₂ : Bound K arm (marked arm .hardFlatUnresolved t none none w₁.store) :=
    hready₁.bound.setSession
  have hensure₂ : (StoreOp.ensureArm arm).txn K
      (marked arm .hardFlatUnresolved t none none w₁.store) = .ok () _ := hbound₂.ensureArm
  have hfinalize : (StoreOp.finalize arm t).txn K
      (marked arm .hardFlatUnresolved t none none w₁.store) = .ok _
        (finalized arm t (marked arm .hardFlatUnresolved t none none w₁.store)) :=
    finalizePart_eq_ok.mpr ⟨hutc, .inr ⟨hsummary₁, hbound₂.session_ne_none, rfl, rfl⟩⟩
  show (if (w.store.finalSummary arm.sessionId).isSome then _ else _ : CoordinatorProg _).run
    (S := coordinatorSig) (World.answer K B.ports) w = _
  rw [hsummary]
  refine run_ofExcept_bind (activeLifecycles_eq_ok h.inv _) ?_
  have hclosing := closing_activeIdentities h.inv h.bound
  have hclosed : (closeLifecycles arm t (activeIdentities w.store arm.sessionId)).run
      (S := coordinatorSig) (World.answer K B.ports) w = (.ok (), w₁) := by
    rw [← hw₁]
    exact run_closeLifecycles hclosing hutc
  refine run_bind hclosed ?_
  show (if w₁.store.activeLifecycleIds arm.sessionId ≠ [] then _ else _ : CoordinatorProg _).run
    (S := coordinatorSig) (World.answer K B.ports) w₁ = _
  rw [if_pos hleft]
  refine run_bind (run_markManual hready₁.bound hutc rfl rfl) ?_
  exact run_bind (run_bind (run_transact (w := { w₁ with store := _ }) hensure₂)
    (run_transact (w := { w₁ with store := _ }) hfinalize)) rfl

/-- The end of a command whose reconciliation is refused. -/
theorem run_settle_refused {E : Type} {P : Ports E} {w : World E} (h : Ready K c.arm w.store)
    {request : ReconciliationRequest} {failure : BackendFailure} {reason : ReasonCode}
    (hutc : isUtc request.observedAt = true)
    (hreason : ReasonCode.ofText failure.reasonCode = some reason)
    (hrequest : closingRequest c points (w.store.finalSummary c.arm.sessionId)
      (w.store.activeLifecycleIds c.arm.sessionId) = request)
    (hanswer : B.reconcileWithTruth request = .error failure) :
    (settle B c points processed).run (S := coordinatorSig) (World.answer K P) w =
      (.ok (receiptFrom c points processed request none
        (marked c.arm reason request.observedAt none none w.store)),
        { w.called (.reconcile request) (P.reconcile request w.env).2 with
          store := marked c.arm reason request.observedAt none none w.store }) := by
  subst hrequest
  let request := closingRequest c points (w.store.finalSummary c.arm.sessionId)
    (w.store.activeLifecycleIds c.arm.sessionId)
  have hready : Ready K c.arm (w.called (.reconcile request) (P.reconcile request w.env).2).store := h
  show (truthAfter B c request >>= fun truth =>
          hostReceipt c points processed request truth).run (S := coordinatorSig)
      (World.answer K P) (w.called (.reconcile request) (P.reconcile request w.env).2) = _
  rw [truthAfter, show B.reconcileWithTruth request = .error failure from hanswer]
  dsimp only
  rw [markManualCode_of hreason]
  refine run_bind (run_bind (run_markManual hready.bound hutc rfl rfl) rfl) ?_
  exact run_hostReceipt points processed request none _

/-- The end of a command whose reconciliation is complete. -/
theorem run_settle_complete {E : Type} {P : Ports E} {w : World E} {request : ReconciliationRequest}
    {answer : ReconciliationReceipt × String}
    (hrequest : closingRequest c points (w.store.finalSummary c.arm.sessionId)
      (w.store.activeLifecycleIds c.arm.sessionId) = request)
    (hanswer : B.reconcileWithTruth request = .ok answer) :
    (settle B c points processed).run (S := coordinatorSig) (World.answer K P) w =
      (.ok (receiptFrom c points processed request (some answer.2) w.store),
        w.called (.reconcile request) (P.reconcile request w.env).2) := by
  subst hrequest
  let request := closingRequest c points (w.store.finalSummary c.arm.sessionId)
    (w.store.activeLifecycleIds c.arm.sessionId)
  show (truthAfter B c request >>= fun truth =>
          hostReceipt c points processed request truth).run (S := coordinatorSig)
      (World.answer K P) (w.called (.reconcile request) (P.reconcile request w.env).2) = _
  rw [truthAfter, show B.reconcileWithTruth request = .ok answer from hanswer]
  exact run_hostReceipt points processed request (some answer.2) _

theorem AutonomousHostReceipt.check_eq_ok {v : AutonomousHostReceipt}
    (hstates : canonicalDispositionCounts "receipt.disposition_counts" v.countedStates = .ok ())
    (hprocessed : canonicalBoundedIdentitySet "receipt.processed_opportunity_ids"
      v.processedOpportunityIds = .ok ())
    (hactive : canonicalBoundedIdentitySet "receipt.active_lifecycle_ids"
      v.activeLifecycleIds = .ok ())
    (hreasons : canonicalManualReasonCodes "receipt.manual_reasons" v.manualReasons = .ok ())
    (hcount : v.requestedTimelineCount ≠ 0)
    (hsummary : optionalDigest "receipt.final_summary_sha256" v.finalSummarySha256 = .ok ())
    (htruth : optionalDigest "receipt.reconciliation_broker_truth_sha256"
      v.reconciliationBrokerTruthSha256 = .ok ())
    (hphase : v.reconciliationPhase = "CHECKPOINT" ∧ v.finalSummarySha256 = none ∨
      v.reconciliationPhase = "FINAL" ∧ v.finalSummarySha256 ≠ none)
    (hdisposition : v.checkDisposition = .ok ()) : v.check = .ok () := by
  have hcheckpoint : ¬ (v.reconciliationPhase = "CHECKPOINT" ∧ v.finalSummarySha256 ≠ none) := by
    rcases hphase with ⟨-, hnone⟩ | ⟨hfinal, -⟩
    · simp [hnone]
    · simp [hfinal]
  have hfinal : ¬ (v.reconciliationPhase = "FINAL" ∧ v.finalSummarySha256 = none) := by
    rcases hphase with ⟨hcheckpoint, -⟩ | ⟨-, hsome⟩
    · simp [hcheckpoint]
    · simp [hsome]
  simp only [AutonomousHostReceipt.check, except_bind_eq_ok, throwIf_eq_ok]
  exact ⟨(), hstates, (), hprocessed, (), hactive, (), hreasons, (), hcount, (), hsummary, (), htruth, (),
    hcheckpoint, (), hfinal, hdisposition⟩

end Returns

namespace July

/-- Backends whose reconciliation fails, with a closer that answers nothing. -/
def blind : HostBackends where
  reconcileWithTruth _ := .error .other
  collectDue _ := none
  process _ := none
  closeAndReconcile _ := none

def complete (r : ReconciliationRequest) : ReconciliationReceipt :=
  let receipt : SanitizedIdentityReceipt :=
    ⟨"RECON-JULY", r.sessionId, r.armSha256, r.observedAt, "RECONCILIATION_COMPLETE", none, ""⟩
  ⟨r.sessionId, r.armSha256, r.accountFingerprintSha256, r.executionProtocolSha256, r.observedAt,
    .complete, r.activeLifecycleIds, { receipt with receiptSha256 := receipt.payload.sha256 }⟩

/-- Backends that reconcile, with a closer that answers nothing. -/
def sighted : HostBackends where
  reconcileWithTruth r := .ok (complete r, sha 'd')
  collectDue _ := none
  process _ := none
  closeAndReconcile _ := none

/-- Before the first window, and at hard flat. -/
def points : List DateTime := [at_ 820, at_ 1170]

theorem validate_coordinator : validateBeforePorts contracts coordinator = .ok () :=
  except_bind_eq_ok.mpr ⟨(), validateArm_arm, throwIf_eq_ok.mpr (by decide)⟩

theorem inv_exposed : StoreInv exposed :=
  runOps_openOps ▸ runOps_inv contracts openOps storeInv_empty

theorem ready_exposed : Ready contracts arm exposed :=
  ⟨inv_exposed, ensureArm_bound (c := coordinator) (ensureArm_of_sessions (s := exposed) rfl)⟩

theorem ready_marked {s : SessionStore} (h : Ready contracts arm s) {reason : ReasonCode}
    {t : DateTime} {oid lid : Option String} : Ready contracts arm (marked arm reason t oid lid s) :=
  ⟨StoreWrite.of_manual.inv h.inv, h.bound.setSession⟩

/-- The store after a point at hard flat, which leaves the lifecycle active. -/
def unresolved (s : SessionStore) : SessionStore :=
  finalized arm (at_ 1170) (marked arm .hardFlatUnresolved (at_ 1170) none none
    (marked arm .hardFlatUnresolved (at_ 1170) (some "OPP-1") (some "LIFE-1") s))

theorem activeIdentities_exposed : activeIdentities exposed arm.sessionId = [life] := by rfl

def closing (s : SessionStore) (calls : List PortCall) : World Unit where
  store := marked arm .hardFlatUnresolved (at_ 1170) (some "OPP-1") (some "LIFE-1") s
  calls := calls ++ [.closeAndReconcile ⟨arm, life, at_ 1170⟩]
  env := ()

theorem observe_flat {B : HostBackends} (hclose : ∀ r, B.closeAndReconcile r = none)
    {s : SessionStore} {calls : List PortCall} (hready : Ready contracts arm s)
    (hexposure : SameExposure exposed s) (hsummaries : s.summaries = []) :
    (observe contracts coordinator (at_ 1170)).run (S := coordinatorSig)
      (World.answer contracts B.ports) ⟨s, calls, ()⟩ =
      (.ok [], { closing s calls with store := unresolved s }) := by
  have hclaimed : s.claimedOpportunityIds arm.sessionId = [] := by
    rw [SessionStore.claimedOpportunityIds, hexposure.opportunities]
    decide
  have hsummary : s.finalSummary arm.sessionId = none := by
    rw [SessionStore.finalSummary, hsummaries]
    rfl
  have hactive : activeIdentities s arm.sessionId = [life] := by
    rw [← activeIdentities_exposed, activeIdentities, SessionStore.activeRows,
      hexposure.lifecycles]
    rfl
  have hclosed : closedAll B arm (at_ 1170) (activeIdentities s arm.sessionId) ⟨s, calls, ()⟩ =
      closing s calls := by
    rw [hactive]
    simp only [closedAll, List.foldl, World.closed, HostBackends.ports, hclose]
    rfl
  have hleft : (closing s calls).store.activeLifecycleIds arm.sessionId ≠ [] := by
    have hids : (closing s calls).store.activeLifecycleIds arm.sessionId =
        exposed.activeLifecycleIds arm.sessionId := by
      show s.activeLifecycleIds arm.sessionId = _
      rw [SessionStore.activeLifecycleIds, SessionStore.activeRows, hexposure.lifecycles]
      rfl
    rw [hids]
    decide
  have hflat : isHardFlat arm (at_ 1170) := .inl (le_refl _)
  have hready₁ : Ready contracts arm (closing s calls).store := ready_marked hready
  have hsummary₁ : (closing s calls).store.finalSummary arm.sessionId = none := hsummary
  have hrun := run_runHardFlat_unresolved (w := ⟨s, calls, ()⟩) hready rfl hsummary hclosed hready₁
    hsummary₁ hleft
  have harmed : (coordinator.run contracts (at_ 1170)).run (S := coordinatorSig)
      (World.answer contracts B.ports) ⟨s, calls, ()⟩ = (runHardFlat arm (at_ 1170)).run
        (S := coordinatorSig) (World.answer contracts B.ports) ⟨s, calls, ()⟩ := by
    refine (run_armed hready validate_coordinator rfl).trans ?_
    show (if s.claimedOpportunityIds arm.sessionId ≠ [] then _
      else if isHardFlat arm (at_ 1170) then _ else _ : CoordinatorProg _).run
        (S := coordinatorSig) (World.answer contracts B.ports) ⟨s, calls, ()⟩ = _
    rw [if_neg (not_not.mpr hclaimed), if_pos hflat]
    rfl
  exact run_observe (harmed.trans hrun)

theorem claimed_exposed : exposed.claimedOpportunityIds arm.sessionId = [] := by decide

theorem not_flat : ¬ isHardFlat arm (at_ 820) := by decide

theorem state_exposed : exposed.sessionState arm.sessionId ≠ some .manualReconciliationRequired := by
  have hstate : exposed.sessionState arm.sessionId = some .armed := by decide
  rw [hstate]
  simp

/-- The first point, with a reconciliation that fails. -/
theorem observe_blind : (observe contracts coordinator (at_ 820)).run (S := coordinatorSig)
    (World.answer contracts blind.ports) ⟨exposed, [], ()⟩ =
      (.ok [], { World.reconciled arm (at_ 820) ⟨exposed, [], ()⟩ with
        store := marked arm .reconciliationIdentityMismatch (at_ 820) none none exposed }) := by
  have hdue := run_due_part (B := blind) (w := ⟨exposed, [], ()⟩) (t := at_ 820) ready_exposed
    validate_coordinator rfl claimed_exposed not_flat state_exposed
  exact run_observe (hdue.trans
    (run_runDue_refused (w := ⟨exposed, [], ()⟩) ready_exposed rfl rfl))

theorem accepted_complete {t : DateTime} (hutc : isUtc t = true) :
    accepted (validateReconciliation · (startupRequest arm t ["LIFE-1"]))
      (some (complete (startupRequest arm t ["LIFE-1"]))) =
      some (complete (startupRequest arm t ["LIFE-1"])) := by
  refine accepted_eq_some.mpr ⟨rfl, ?_⟩
  have hsha : ¬ isLowerHex 64 arm.armSha256 = false := by
    rw [AutonomousSessionArm.armSha256, Json.isLowerHex_sha256]
    simp
  have hsame : sameInstant t t = true := by simp [sameInstant]
  have hid : ¬ isIdentifier "RECON-JULY" = false := by decide
  have hstatus : ¬ isIdentifier "RECONCILIATION_COMPLETE" = false := by decide
  have hsession : ¬ isIdentifier arm.sessionId = false := by decide
  have hlife : identifier "LIFE-1" "reconciliation.active_lifecycle_ids" = .ok () :=
    throwIf_eq_ok.mpr (by decide)
  have hsorted : ["LIFE-1"] = sortedSet ["LIFE-1"] := by decide
  have hcheck : (complete (startupRequest arm t ["LIFE-1"])).receipt.check = .ok () := by
    simp only [SanitizedIdentityReceipt.check, except_bind_eq_ok]
    exact ⟨_, utcDatetime_eq_ok.mpr ⟨hutc, rfl⟩, (), throwIf_eq_ok.mpr hid, (),
      throwIf_eq_ok.mpr hstatus, (), throwIf_eq_ok.mpr hsession, throwIf_eq_ok.mpr hsha⟩
  simp only [validateReconciliation, SanitizedIdentityReceipt.validate, except_bind_eq_ok]
  refine ⟨(), throwIf_eq_ok.mpr ?_, (), ?_, (), throwIf_eq_ok.mpr (not_not.mpr hsorted), (),
    throwIf_eq_ok.mpr (by simp [complete]), (), hcheck, (), throwIf_eq_ok.mpr ?_,
    throwIf_eq_ok.mpr ?_⟩
  · simp [complete, startupRequest, hsame]
  · show (do identifier "LIFE-1" "reconciliation.active_lifecycle_ids"; pure ()) = _
    rw [hlife]
    rfl
  · simp [complete, SanitizedIdentityReceipt.payload]
  · simp [complete, startupRequest]

/-- The first point, with a reconciliation that is complete. -/
theorem observe_sighted (calls : List PortCall) :
    (observe contracts coordinator (at_ 820)).run (S := coordinatorSig)
      (World.answer contracts sighted.ports) ⟨exposed, calls, ()⟩ =
        (.ok [], World.reconciled arm (at_ 820) ⟨exposed, calls, ()⟩) := by
  have hdue := run_due_part (B := sighted) (w := ⟨exposed, calls, ()⟩) (t := at_ 820) ready_exposed
    validate_coordinator rfl claimed_exposed not_flat state_exposed
  have hactive : exposed.activeLifecycleIds arm.sessionId = ["LIFE-1"] := by decide
  have haccepted := accepted_complete (t := at_ 820) rfl
  rw [← hactive] at haccepted
  exact run_observe (hdue.trans (run_runDue_idle (B := sighted) (w := ⟨exposed, calls, ()⟩) haccepted
    (by decide)))

/-! The receipts of the commands. -/

theorem active_listed : canonicalBoundedIdentitySet "receipt.active_lifecycle_ids" ["LIFE-1"] =
    .ok () := by rfl

theorem states_listed {s : SessionStore} (h : s.opportunities = exposed.opportunities) :
    canonicalDispositionCounts "receipt.disposition_counts" (s.countedStates arm.sessionId) =
      .ok () := by
  rw [SessionStore.countedStates, h]
  exact throwIf_eq_ok.mpr (by decide)

theorem check_manual {s : SessionStore} {ts : List DateTime} {request : ReconciliationRequest}
    {truth : Option String} (hts : ts ≠ []) (hstates : s.opportunities = exposed.opportunities)
    (hactive : s.activeLifecycleIds arm.sessionId = ["LIFE-1"])
    (hne : sortedSet ((s.reasons arm.sessionId).map (·.value)) ≠ [])
    (hreasons : canonicalManualReasonCodes "receipt.manual_reasons"
      (sortedSet ((s.reasons arm.sessionId).map (·.value))) = .ok ())
    (htruth : optionalDigest "receipt.reconciliation_broker_truth_sha256" truth = .ok ())
    (hphase : request.phase = "CHECKPOINT" ∧ s.finalSummary arm.sessionId = none ∨
      request.phase = "FINAL" ∧ ∃ v, s.finalSummary arm.sessionId = some v ∧
        isLowerHex 64 v.summarySha256 = true) :
    (receiptFrom coordinator ts [] request truth s).check = .ok () ∧
      (receiptFrom coordinator ts [] request truth s).disposition =
        .manualReconciliationRequired := by
  have hdisposition : (receiptFrom coordinator ts [] request truth s).disposition =
      .manualReconciliationRequired := if_pos (.inl hne)
  have hactive' : (receiptFrom coordinator ts [] request truth s).activeLifecycleIds =
      ["LIFE-1"] := hactive
  refine ⟨AutonomousHostReceipt.check_eq_ok (states_listed hstates) rfl ?_ hreasons ?_ ?_ htruth ?_ ?_, hdisposition⟩
  · rw [hactive']
    exact active_listed
  · exact fun hzero => hts (List.length_eq_zero_iff.mp hzero)
  · show optionalDigest _ ((s.finalSummary arm.sessionId).map (·.summarySha256)) = _
    rcases hphase with ⟨-, hnone⟩ | ⟨-, v, hsome, hhex⟩
    · rw [hnone]
      rfl
    · rw [hsome]
      exact throwIf_eq_ok.mpr (by simp [hhex])
  · rcases hphase with ⟨hphase, hnone⟩ | ⟨hphase, v, hsome, -⟩
    · refine .inl ⟨hphase, ?_⟩
      show (s.finalSummary arm.sessionId).map _ = none
      rw [hnone]
      rfl
    · refine .inr ⟨hphase, ?_⟩
      show (s.finalSummary arm.sessionId).map _ ≠ none
      rw [hsome]
      simp
  · have hflat : (receiptFrom coordinator ts [] request truth s).terminalFlatProven = false := by
      show (decide ((receiptFrom coordinator ts [] request truth s).disposition = .terminal) &&
        _) = false
      rw [hdisposition]
      rfl
    have hne' : (receiptFrom coordinator ts [] request truth s).manualReasons ≠ [] := hne
    unfold AutonomousHostReceipt.checkDisposition
    rw [hdisposition, hflat]
    simp only [hne', throwIf, reduceCtorEq, if_false, if_true, Bool.false_eq_true, false_and]
    rfl

def refused : SessionStore := marked arm .reconciliationIdentityMismatch (at_ 820) none none exposed

theorem ready_refused : Ready contracts arm refused := ready_marked ready_exposed

theorem reasons_refused : (marked arm .reconciliationFailed (at_ 820) none none refused).reasons
    arm.sessionId = [.reconciliationIdentityMismatch, .reconciliationFailed] := by decide

/-- The world after the first point, with a reconciliation that fails. -/
def refusedWorld : World Unit :=
  { World.reconciled arm (at_ 820) ⟨exposed, [], ()⟩ with store := refused }

theorem observeAll_blind (rest : List DateTime) :
    (observeAll contracts coordinator (at_ 820 :: rest) []).run (S := coordinatorSig)
      (World.answer contracts blind.ports) ⟨exposed, [], ()⟩ =
    (observeAll contracts coordinator rest []).run (S := coordinatorSig)
      (World.answer contracts blind.ports) refusedWorld :=
  run_bind observe_blind rfl

/-- The command over the first point, with a reconciliation that fails. -/
theorem command_blind_first : ∃ receipt w, (runAutonomousHostCommand contracts blind coordinator
    [at_ 820]).run (S := coordinatorSig) (World.answer contracts blind.ports) ⟨exposed, [], ()⟩ =
      (.ok receipt, w) ∧ receipt.disposition = .manualReconciliationRequired ∧ w.closes = [] := by
  let request := closingRequest coordinator [at_ 820] none ["LIFE-1"]
  let s := marked arm .reconciliationFailed (at_ 820) none none refused
  have hactive : refused.activeLifecycleIds arm.sessionId = ["LIFE-1"] := by decide
  have hrequest : closingRequest coordinator [at_ 820]
      (refusedWorld.store.finalSummary arm.sessionId)
      (refusedWorld.store.activeLifecycleIds arm.sessionId) = request :=
    congrArg (closingRequest coordinator [at_ 820] none) hactive
  have hsettle : (settle blind coordinator [at_ 820] []).run (S := coordinatorSig)
      (World.answer contracts blind.ports) refusedWorld = _ :=
    run_settle_refused ready_refused rfl rfl hrequest rfl
  have hcheck : (receiptFrom coordinator [at_ 820] [] request none s).check = .ok () ∧
      (receiptFrom coordinator [at_ 820] [] request none s).disposition =
        .manualReconciliationRequired :=
    check_manual (by simp) rfl hactive (by rw [reasons_refused]; decide)
      (by rw [reasons_refused]; rfl) rfl (.inl ⟨rfl, rfl⟩)
  have hall := (run_observePoints (c := coordinator) (w := ⟨exposed, [], ()⟩) rfl).trans
    (observeAll_blind [])
  exact ⟨_, _, run_command rfl ready_exposed.bound hall hsettle hcheck.1, hcheck.2, rfl⟩

theorem finalSummary_unresolved {s : SessionStore} (h : s.summaries = []) :
    (unresolved s).finalSummary arm.sessionId = some (buildSummary arm (at_ 1170)
      (marked arm .hardFlatUnresolved (at_ 1170) none none
        (marked arm .hardFlatUnresolved (at_ 1170) (some "OPP-1") (some "LIFE-1") s))) := by
  show ((s.summaries ++ [_]).find? _).map _ = _
  rw [h]
  rfl

theorem ready_unresolved {s : SessionStore} (h : Ready contracts arm s) (hsummaries : s.summaries = []) :
    Ready contracts arm (unresolved s) := by
  have hready : Ready contracts arm (marked arm .hardFlatUnresolved (at_ 1170) none none
      (marked arm .hardFlatUnresolved (at_ 1170) (some "OPP-1") (some "LIFE-1") s)) :=
    ready_marked (ready_marked h)
  have hwrite := StoreWrite.finalize (s := marked arm .hardFlatUnresolved (at_ 1170) none none
      (marked arm .hardFlatUnresolved (at_ 1170) (some "OPP-1") (some "LIFE-1") s)) arm (at_ 1170)
    (by
      show ∀ v ∈ s.summaries, _
      rw [hsummaries]
      simp)
  exact ⟨hwrite.inv hready.inv, hwrite.bound hready.bound⟩

/-- The command over both points, with a reconciliation that fails: it goes on to hard flat. -/
theorem command_blind : ∃ receipt w, (runAutonomousHostCommand contracts blind coordinator
    points).run (S := coordinatorSig) (World.answer contracts blind.ports) ⟨exposed, [], ()⟩ =
      (.ok receipt, w) ∧ w.closes = [⟨arm, life, at_ 1170⟩] := by
  let w₁ : World Unit := { closing refused refusedWorld.calls with store := unresolved refused }
  have hobserve : (observe contracts coordinator (at_ 1170)).run (S := coordinatorSig)
      (World.answer contracts blind.ports) refusedWorld = (.ok [], w₁) :=
    observe_flat (fun _ => rfl) ready_refused ⟨rfl, rfl⟩ rfl
  have hall : (observePoints contracts coordinator points).run (S := coordinatorSig)
      (World.answer contracts blind.ports) ⟨exposed, [], ()⟩ = (.ok [], w₁) := by
    refine (run_observePoints (c := coordinator) (w := ⟨exposed, [], ()⟩) rfl).trans ?_
    refine (observeAll_blind [at_ 1170]).trans ?_
    exact run_bind hobserve rfl
  have hsummary := finalSummary_unresolved (s := refused) rfl
  have hactive : (unresolved refused).activeLifecycleIds arm.sessionId = ["LIFE-1"] := by
    decide
  have hreasons : (marked arm .reconciliationFailed (at_ 1170) none none (unresolved refused)).reasons
      arm.sessionId = [.reconciliationIdentityMismatch, .hardFlatUnresolved, .hardFlatUnresolved,
        .reconciliationFailed] := by decide
  let summary := buildSummary arm (at_ 1170) (marked arm .hardFlatUnresolved (at_ 1170) none none
    (marked arm .hardFlatUnresolved (at_ 1170) (some "OPP-1") (some "LIFE-1") refused))
  let request := closingRequest coordinator points (some summary) ["LIFE-1"]
  have hrequest : closingRequest coordinator points (w₁.store.finalSummary arm.sessionId)
      (w₁.store.activeLifecycleIds arm.sessionId) = request := by
    rw [show w₁.store.finalSummary arm.sessionId = some summary from hsummary,
      show w₁.store.activeLifecycleIds arm.sessionId = ["LIFE-1"] from hactive]
  have hsettle : (settle blind coordinator points []).run (S := coordinatorSig)
      (World.answer contracts blind.ports) w₁ = _ :=
    run_settle_refused (ready_unresolved ready_refused rfl) rfl rfl hrequest rfl
  let s := marked arm .reconciliationFailed (at_ 1170) none none (unresolved refused)
  have hcheck : (receiptFrom coordinator points [] request none s).check = .ok () ∧
      (receiptFrom coordinator points [] request none s).disposition =
        .manualReconciliationRequired :=
    check_manual (by simp [points]) rfl hactive (by rw [hreasons]; decide)
      (by rw [hreasons]; rfl) rfl (.inr ⟨rfl, summary, hsummary, Json.isLowerHex_sha256 _⟩)
  exact ⟨_, _, run_command rfl ready_exposed.bound hall hsettle hcheck.1, rfl⟩

/-- With a reconciliation that fails, the schedule stops at its first point, and a single command
goes on to hard flat. -/
theorem schedule_stops : ∃ scheduled oneShot w₁ w₂,
    (runPaperSession contracts blind coordinator points).run (S := coordinatorSig)
      (World.answer contracts blind.ports) ⟨runOps contracts .empty openOps, [], ()⟩ =
        (.ok scheduled, w₁) ∧
    (runAutonomousHostCommand contracts blind coordinator points).run (S := coordinatorSig)
      (World.answer contracts blind.ports) ⟨runOps contracts .empty openOps, [], ()⟩ =
        (.ok oneShot, w₂) ∧
    life ∉ w₁.closes.map (·.lifecycle) ∧ life ∈ w₂.closes.map (·.lifecycle) := by
  obtain ⟨receipt₁, w₁, hrun₁, hmanual, hcloses₁⟩ := command_blind_first
  obtain ⟨receipt₂, w₂, hrun₂, hcloses₂⟩ := command_blind
  rw [runOps_openOps]
  refine ⟨receipt₁, receipt₂, w₁, w₂, ?_, hrun₂, ?_, ?_⟩
  · refine run_ofExcept_bind (show sessionPoints points = .ok points from rfl) ?_
    refine run_bind hrun₁ ?_
    rw [if_pos (.inl hmanual)]
    rfl
  · rw [hcloses₁]
    simp
  · rw [hcloses₂]
    simp

theorem truth_listed : optionalDigest "receipt.reconciliation_broker_truth_sha256" (some (sha 'd')) =
    .ok () := throwIf_eq_ok.mpr (by decide)

/-- The command over the first point, with a reconciliation that is complete. -/
theorem command_sighted_first : ∃ receipt w, (runAutonomousHostCommand contracts sighted
    coordinator [at_ 820]).run (S := coordinatorSig) (World.answer contracts sighted.ports)
      ⟨exposed, [], ()⟩ = (.ok receipt, w) ∧ w.store = exposed ∧ ¬ receipt.stops := by
  let w₁ : World Unit := World.reconciled arm (at_ 820) ⟨exposed, [], ()⟩
  let request := closingRequest coordinator [at_ 820] none ["LIFE-1"]
  have hactive : exposed.activeLifecycleIds arm.sessionId = ["LIFE-1"] := by decide
  have hall : (observePoints contracts coordinator [at_ 820]).run (S := coordinatorSig)
      (World.answer contracts sighted.ports) ⟨exposed, [], ()⟩ = (.ok [], w₁) := by
    refine (run_observePoints (c := coordinator) (w := ⟨exposed, [], ()⟩) rfl).trans ?_
    exact run_bind (observe_sighted []) rfl
  have hrequest : closingRequest coordinator [at_ 820] (w₁.store.finalSummary arm.sessionId)
      (w₁.store.activeLifecycleIds arm.sessionId) = request :=
    congrArg (closingRequest coordinator [at_ 820] none) hactive
  have hsettle : (settle sighted coordinator [at_ 820] []).run (S := coordinatorSig)
      (World.answer contracts sighted.ports) w₁ = _ := run_settle_complete hrequest rfl
  have hdisposition : (receiptFrom coordinator [at_ 820] [] request (some (sha 'd'))
      exposed).disposition = .incomplete := by decide
  have hcheck : (receiptFrom coordinator [at_ 820] [] request (some (sha 'd')) exposed).check =
      .ok () := by
    refine AutonomousHostReceipt.check_eq_ok (states_listed rfl) rfl ?_ rfl (by simp [receiptFrom,
      AutonomousHostReceipt.create]) rfl truth_listed (.inl ⟨rfl, rfl⟩) ?_
    · rw [show (receiptFrom coordinator [at_ 820] [] request (some (sha 'd'))
        exposed).activeLifecycleIds = ["LIFE-1"] from hactive]
      exact active_listed
    · unfold AutonomousHostReceipt.checkDisposition
      rw [hdisposition]
      rfl
  refine ⟨_, _, run_command rfl ready_exposed.bound hall hsettle hcheck, rfl, ?_⟩
  rintro (hstop | hstop)
  · cases hdisposition.symm.trans hstop
  · cases hdisposition.symm.trans hstop

/-- The command over both points, with a reconciliation that is complete. -/
theorem command_sighted (calls : List PortCall) : ∃ receipt w, (runAutonomousHostCommand contracts
    sighted coordinator points).run (S := coordinatorSig) (World.answer contracts sighted.ports)
      ⟨exposed, calls, ()⟩ = (.ok receipt, w) ∧
      receipt.disposition = .manualReconciliationRequired ∧ receipt.requestedTimelineCount = 2 := by
  let w₁ : World Unit := World.reconciled arm (at_ 820) ⟨exposed, calls, ()⟩
  let w₂ : World Unit := { closing exposed w₁.calls with store := unresolved exposed }
  have hobserve : (observe contracts coordinator (at_ 1170)).run (S := coordinatorSig)
      (World.answer contracts sighted.ports) w₁ = (.ok [], w₂) :=
    observe_flat (fun _ => rfl) ready_exposed ⟨rfl, rfl⟩ rfl
  have hall : (observePoints contracts coordinator points).run (S := coordinatorSig)
      (World.answer contracts sighted.ports) ⟨exposed, calls, ()⟩ = (.ok [], w₂) := by
    refine (run_observePoints (c := coordinator) (w := ⟨exposed, calls, ()⟩) rfl).trans ?_
    exact run_bind (observe_sighted calls) (run_bind hobserve rfl)
  have hsummary := finalSummary_unresolved (s := exposed) rfl
  have hactive : (unresolved exposed).activeLifecycleIds arm.sessionId = ["LIFE-1"] := by
    decide
  have hreasons : (unresolved exposed).reasons arm.sessionId =
      [.hardFlatUnresolved, .hardFlatUnresolved] := by decide
  let summary := buildSummary arm (at_ 1170) (marked arm .hardFlatUnresolved (at_ 1170) none none
    (marked arm .hardFlatUnresolved (at_ 1170) (some "OPP-1") (some "LIFE-1") exposed))
  let request := closingRequest coordinator points (some summary) ["LIFE-1"]
  have hrequest : closingRequest coordinator points (w₂.store.finalSummary arm.sessionId)
      (w₂.store.activeLifecycleIds arm.sessionId) = request := by
    rw [show w₂.store.finalSummary arm.sessionId = some summary from hsummary,
      show w₂.store.activeLifecycleIds arm.sessionId = ["LIFE-1"] from hactive]
  have hsettle : (settle sighted coordinator points []).run (S := coordinatorSig)
      (World.answer contracts sighted.ports) w₂ = _ := run_settle_complete hrequest rfl
  have hcheck : (receiptFrom coordinator points [] request (some (sha 'd'))
      (unresolved exposed)).check = .ok () ∧
      (receiptFrom coordinator points [] request (some (sha 'd')) (unresolved exposed)).disposition =
        .manualReconciliationRequired :=
    check_manual (by simp [points]) rfl hactive (by rw [hreasons]; decide)
      (by rw [hreasons]; rfl) truth_listed
      (.inr ⟨rfl, summary, hsummary, Json.isLowerHex_sha256 _⟩)
  exact ⟨_, _, run_command rfl ready_exposed.bound hall hsettle hcheck.1, hcheck.2, rfl⟩

/-- With a complete reconciliation the schedule agrees with a single command at hard flat, though
the close is not answered. -/
theorem schedule_agrees_sighted : ∃ scheduled oneShot w₁ w₂,
    (runPaperSession contracts sighted coordinator points).run (S := coordinatorSig)
      (World.answer contracts sighted.ports) ⟨runOps contracts .empty openOps, [], ()⟩ =
        (.ok scheduled, w₁) ∧
    (runAutonomousHostCommand contracts sighted coordinator points).run (S := coordinatorSig)
      (World.answer contracts sighted.ports) ⟨runOps contracts .empty openOps, [], ()⟩ =
        (.ok oneShot, w₂) ∧
    (∀ l, l ∈ w₁.closes.map (·.lifecycle) ↔ l ∈ w₂.closes.map (·.lifecycle)) ∧
    ∀ sid, w₁.store.activeLifecycleIds sid = w₂.store.activeLifecycleIds sid := by
  obtain ⟨receipt₁, ⟨s₁, calls, _⟩, hrun₁, hstore, hgoes⟩ := command_sighted_first
  cases hstore
  obtain ⟨scheduled, w₁, hrun₂, hmanual, hcount⟩ := command_sighted calls
  obtain ⟨oneShot, w₂, hrun₃, -, -⟩ := command_sighted []
  have hscheduled : (runPaperSession contracts sighted coordinator points).run (S := coordinatorSig)
      (World.answer contracts sighted.ports) ⟨runOps contracts .empty openOps, [], ()⟩ =
        (.ok scheduled, w₁) := by
    rw [runOps_openOps]
    refine run_ofExcept_bind (show sessionPoints points = .ok points from rfl) ?_
    refine run_bind hrun₁ ?_
    rw [if_neg hgoes]
    refine run_bind hrun₂ ?_
    rw [if_pos (.inl hmanual)]
    rfl
  have honeShot : (runAutonomousHostCommand contracts sighted coordinator points).run
      (S := coordinatorSig) (World.answer contracts sighted.ports)
        ⟨runOps contracts .empty openOps, [], ()⟩ = (.ok oneShot, w₂) := by
    rw [runOps_openOps]
    exact hrun₃
  refine ⟨scheduled, oneShot, w₁, w₂, hscheduled, honeShot, ?_⟩
  exact schedule_agrees contracts sighted coordinator openOps points hscheduled honeShot
    fun _ => ⟨hcount, at_ 1170, rfl, .inl (le_refl _)⟩

end July

end EsscherMarket.Runtime
