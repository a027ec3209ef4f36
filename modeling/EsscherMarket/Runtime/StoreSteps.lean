import EsscherMarket.Runtime.SessionStore

/-!
# What a transaction of the session store can do

`StoreOp` collects the transactions, and `StoreWrite` says everything that one of them can write.
A transaction that raises, and one that replays, leaves the store as it was
(`StoreOp.step`).  `StoreInv` is the invariant of the tables, kept by every write.
-/

namespace EsscherMarket.Runtime

open Lib Txn

/-! ### Keys -/

def OpportunityRow.key (r : OpportunityRow) : String × String := (r.sessionId, r.opportunityId)

def LifecycleRow.key (r : LifecycleRow) : String × String := (r.sessionId, r.lifecycleId)

def LifecycleRow.opportunityKey (r : LifecycleRow) : String × String :=
  (r.sessionId, r.opportunityId)

namespace SessionStore

variable {s : SessionStore} {sid oid lid : String}

theorem session_eq_some {row : SessionRow} (h : s.session sid = some row) :
    row ∈ s.sessions ∧ row.sessionId = sid :=
  ⟨List.mem_of_find?_eq_some h, by simpa using List.find?_some h⟩

theorem session_eq_none : s.session sid = none ↔ ∀ r ∈ s.sessions, r.sessionId ≠ sid := by
  simp [session]

theorem opportunity_eq_some {row : OpportunityRow} (h : s.opportunity sid oid = some row) :
    row ∈ s.opportunities ∧ row.key = (sid, oid) :=
  ⟨List.mem_of_find?_eq_some h, by simpa [OpportunityRow.key] using List.find?_some h⟩

theorem opportunity_eq_none :
    s.opportunity sid oid = none ↔ ∀ r ∈ s.opportunities, r.key ≠ (sid, oid) := by
  simp [opportunity, OpportunityRow.key]

theorem lifecycle_eq_some {row : LifecycleRow} (h : s.lifecycle sid lid = some row) :
    row ∈ s.lifecycles ∧ row.key = (sid, lid) :=
  ⟨List.mem_of_find?_eq_some h, by simpa [LifecycleRow.key] using List.find?_some h⟩

theorem lifecycle_eq_none :
    s.lifecycle sid lid = none ↔ ∀ r ∈ s.lifecycles, r.key ≠ (sid, lid) := by
  simp [lifecycle, LifecycleRow.key]

theorem lifecycleForOpportunity_eq_none : s.lifecycleForOpportunity sid oid = none ↔
    ∀ r ∈ s.lifecycles, r.opportunityKey ≠ (sid, oid) := by
  simp [lifecycleForOpportunity, LifecycleRow.opportunityKey]

theorem finalSummary_eq_none :
    s.finalSummary sid = none ↔ ∀ v ∈ s.summaries, v.sessionId ≠ sid := by
  simp [finalSummary]

end SessionStore

/-! ### The transactions -/

inductive StoreOp where
  | ensureArm (arm : AutonomousSessionArm)
  | claim (arm : AutonomousSessionArm) (o : AutonomousOpportunity) (observedAt : DateTime)
  | terminalFlat (arm : AutonomousSessionArm) (o : AutonomousOpportunity) (proof : String)
      (observedAt : DateTime)
  | disposition (arm : AutonomousSessionArm) (o : AutonomousOpportunity)
      (d : RecordableDisposition) (observedAt : DateTime)
  | active (arm : AutonomousSessionArm) (o : AutonomousOpportunity) (l : ActiveLifecycleIdentity)
      (observedAt : DateTime)
  | lifecycleTerminalFlat (arm : AutonomousSessionArm) (l : ActiveLifecycleIdentity)
      (proof : String) (observedAt : DateTime)
  | manual (arm : AutonomousSessionArm) (reason : ReasonCode) (observedAt : DateTime)
      (opportunityId lifecycleId : Option String)
  | finalize (arm : AutonomousSessionArm) (finalizedAt : DateTime)

namespace StoreOp

def Res : StoreOp → Type
  | claim .. => AutonomousClaimState
  | finalize .. => AutonomousSessionSummary
  | _ => Unit

def txn (K : Contracts) : (op : StoreOp) → StoreTxn op.Res
  | ensureArm arm => Runtime.ensureArm K arm
  | claim arm o t => claimPart K arm o t
  | terminalFlat arm o proof t => terminalFlatPart K arm o proof t
  | disposition arm o d t => dispositionPart K arm o d t
  | active arm o l t => activePart K arm o l t
  | lifecycleTerminalFlat arm l proof t => lifecycleTerminalFlatPart arm l proof t
  | manual arm reason t oid lid => manualPart arm reason t oid lid
  | finalize arm t => finalizePart arm t

/-- The store after a transaction, whether it returned or raised. -/
def exec (K : Contracts) (s : SessionStore) (op : StoreOp) : SessionStore := (op.txn K).after s

theorem atomic_txn (K : Contracts) (op : StoreOp) : Atomic (op.txn K) := by
  cases op with
  | ensureArm arm => exact atomic_lift_bind fun _ => atomic_immediate _
  | claim arm o t => exact atomic_lift_bind fun _ => atomic_lift_bind fun _ => atomic_immediate _
  | terminalFlat arm o proof t =>
    exact atomic_lift_bind fun _ => atomic_lift_bind fun _ => atomic_lift_bind fun _ =>
      atomic_immediate _
  | disposition arm o d t =>
    exact atomic_lift_bind fun _ => atomic_lift_bind fun _ => atomic_immediate _
  | active arm o l t =>
    exact atomic_lift_bind fun _ => atomic_raiseIf_bind (atomic_lift_bind fun _ =>
      atomic_lift_bind fun _ => atomic_immediate _)
  | lifecycleTerminalFlat arm l proof t =>
    exact atomic_raiseIf_bind (atomic_lift_bind fun _ => atomic_lift_bind fun _ =>
      atomic_lift_bind fun _ => atomic_immediate _)
  | manual arm reason t oid lid =>
    exact atomic_lift_bind fun _ => atomic_lift_bind fun _ => atomic_lift_bind fun _ =>
      atomic_immediate _
  | finalize arm t => exact atomic_lift_bind fun _ => atomic_immediate _

end StoreOp

/-! ### Writes -/

def LifecycleState.disposition : LifecycleState → AutonomousDisposition
  | active => .active
  | terminalFlat => .terminalFlat

/-- A change of opportunity rows that keeps their identity and gives them the disposition `d`, with
a proof if that is terminal-flat. -/
structure Disposes (f : OpportunityRow → OpportunityRow) (d : AutonomousDisposition) : Prop where
  key : ∀ r, (f r).key = r.key
  sha256 : ∀ r, (f r).opportunitySha256 = r.opportunitySha256
  state : ∀ r, (f r).state = .disposed d
  proof : d = .terminalFlat → ∀ r, (f r).terminalFlatProofSha256.isSome

/-- Everything that a transaction can write. -/
inductive StoreWrite (s : SessionStore) : SessionStore → Prop where
  | arm (row : SessionRow) (ws : List WindowRow)
      (hnew : ∀ r ∈ s.sessions, r.sessionId ≠ row.sessionId) (hstate : row.state = .armed) :
      StoreWrite s { s with sessions := s.sessions ++ [row], windows := s.windows ++ ws }
  | claim (row : OpportunityRow) (hnew : ∀ r ∈ s.opportunities, r.key ≠ row.key)
      (hstate : row.state = .claimed) :
      StoreWrite s { s with opportunities := s.opportunities ++ [row] }
  | dispose (row : OpportunityRow) (hrow : row ∈ s.opportunities) (hclaimed : row.state = .claimed)
      (f : OpportunityRow → OpportunityRow) (d : AutonomousDisposition) (hd : d ≠ .active)
      (hf : Disposes f d) : StoreWrite s (setOpportunity row.sessionId row.opportunityId f s)
  | activate (row : OpportunityRow) (hrow : row ∈ s.opportunities) (hclaimed : row.state = .claimed)
      (f : OpportunityRow → OpportunityRow) (hf : Disposes f .active) (l : LifecycleRow)
      (hl : l.opportunityKey = row.key) (hactive : l.state = .active)
      (hidentity : SessionStore.rowMatches l.sessionId l = true ∧ l.identity.check = .ok ())
      (hnew : ∀ r ∈ s.lifecycles, r.key ≠ l.key)
      (hfirst : ∀ r ∈ s.lifecycles, r.opportunityKey ≠ l.opportunityKey) :
      StoreWrite s (setOpportunity row.sessionId row.opportunityId f
        { s with lifecycles := s.lifecycles ++ [l] })
  | flatten (l : LifecycleRow) (hl : l ∈ s.lifecycles) (hactive : l.state = .active)
      (row : OpportunityRow) (hrow : row ∈ s.opportunities) (hkey : row.key = l.opportunityKey)
      (hstate : row.state = .disposed .active) (f : OpportunityRow → OpportunityRow)
      (hf : Disposes f .terminalFlat) (at_ : DateTime) :
      StoreWrite s (setOpportunity row.sessionId row.opportunityId f { s with
        lifecycles := Table.setWhere
          (fun r => r.sessionId = l.sessionId ∧ r.lifecycleId = l.lifecycleId)
          (fun r => { r with state := .terminalFlat, updatedAt := at_ }) s.lifecycles })
  | manual (sid : String) (rows : List ManualReasonRow) (hkeep : ∀ r ∈ s.manualReasons, r ∈ rows)
      (hreason : ∃ r ∈ rows, r.sessionId = sid) :
      StoreWrite s (setSession sid .manualReconciliationRequired { s with manualReasons := rows })
  | finalize (arm : AutonomousSessionArm) (at_ : DateTime)
      (hnone : ∀ v ∈ s.summaries, v.sessionId ≠ arm.sessionId) :
      StoreWrite s (setSession arm.sessionId
        (if (buildSummary arm at_ s).terminalFlatProven then .finalized
          else .manualReconciliationRequired)
        { s with summaries := s.summaries ++ [⟨arm.sessionId, buildSummary arm at_ s⟩] })

/-! ### The invariant -/

structure StoreInv (s : SessionStore) : Prop where
  sessionIds : (s.sessions.map (·.sessionId)).Nodup
  opportunityKeys : (s.opportunities.map (·.key)).Nodup
  lifecycleKeys : (s.lifecycles.map (·.key)).Nodup
  /-- An opportunity has at most one lifecycle. -/
  lifecycleOpportunities : (s.lifecycles.map (·.opportunityKey)).Nodup
  identities : ∀ l ∈ s.lifecycles,
    SessionStore.rowMatches l.sessionId l = true ∧ l.identity.check = .ok ()
  /-- The opportunity of a lifecycle follows the state of the lifecycle. -/
  attributed : ∀ l ∈ s.lifecycles, ∃ r ∈ s.opportunities, r.key = l.opportunityKey ∧
    r.state = .disposed l.state.disposition
  activeOwned : ∀ r ∈ s.opportunities, r.state = .disposed .active →
    ∃ l ∈ s.lifecycles, l.opportunityKey = r.key
  proofs : ∀ r ∈ s.opportunities, r.state = .disposed .terminalFlat →
    r.terminalFlatProofSha256.isSome
  /-- A session that needs manual reconciliation says why, or was finalized so. -/
  manual : ∀ r ∈ s.sessions, r.state = .manualReconciliationRequired →
    (∃ m ∈ s.manualReasons, m.sessionId = r.sessionId) ∨ ∃ v ∈ s.summaries, v.sessionId = r.sessionId

theorem storeInv_empty : StoreInv .empty := by
  constructor <;> simp [SessionStore.empty]

theorem StoreInv.active_of_opportunity {s : SessionStore} (hs : StoreInv s) {l : LifecycleRow}
    (hl : l ∈ s.lifecycles) {r : OpportunityRow} (hr : r ∈ s.opportunities)
    (hkey : r.key = l.opportunityKey) : r.state = .disposed l.state.disposition := by
  obtain ⟨r', hr', hkey', hstate⟩ := hs.attributed l hl
  rw [Table.eq_of_key hs.opportunityKeys hr hr' (hkey.trans hkey'.symm)]
  exact hstate

/-! ### When a transaction returns -/

section Returns

variable {K : Contracts} {arm : AutonomousSessionArm} {o : AutonomousOpportunity}
  {l : ActiveLifecycleIdentity} {t : DateTime} {s s' : SessionStore} {u : Unit}

theorem ensureArm_eq_ok : ensureArm K arm s = .ok u s' ↔ validateArm K arm = .ok () ∧
    ((∃ row, s.session arm.sessionId = some row ∧ row.armSha256 = arm.armSha256 ∧
        row.armBytes = arm.bytes ∧ s' = s) ∨
      s.session arm.sessionId = none ∧ s' = { s with
        sessions := s.sessions ++ [newSession arm], windows := s.windows ++ newWindows arm }) := by
  simp only [ensureArm, lift_bind_eq_ok, immediate_eq_ok, select_bind_eq_ok, id]
  cases h : s.session arm.sessionId with
  | none =>
    simp only [write_eq_ok, reduceCtorEq, false_and, exists_false, false_or, true_and]
    constructor
    · rintro ⟨_, hv, rfl⟩
      exact ⟨hv, rfl⟩
    · rintro ⟨hv, rfl⟩
      exact ⟨(), hv, rfl⟩
  | some row =>
    simp only [raiseIf_eq_ok, not_or, not_not, Option.some.injEq, reduceCtorEq, false_and, or_false]
    constructor
    · rintro ⟨_, hv, ⟨hsha, hbytes⟩, rfl⟩
      exact ⟨hv, row, rfl, hsha, hbytes, rfl⟩
    · rintro ⟨hv, _, rfl, hsha, hbytes, rfl⟩
      exact ⟨(), hv, ⟨hsha, hbytes⟩, rfl⟩

theorem claimPart_ok {c : AutonomousClaimState} (h : claimPart K arm o t s = .ok c s') :
    (∃ row, s.opportunity arm.sessionId o.opportunityId = some row ∧ c ≠ .claimed ∧ s' = s) ∨
    s.opportunity arm.sessionId o.opportunityId = none ∧ c = .claimed ∧ s' = { s with
      opportunities := s.opportunities ++ [newOpportunity arm o (.utc t.micros)] } := by
  simp only [claimPart, lift_bind_eq_ok, immediate_eq_ok, select_bind_eq_ok, orRaise_bind_eq_ok,
    raiseIf_bind_eq_ok, utcDatetime_eq_ok, id] at h
  obtain ⟨_, -, _, ⟨-, rfl⟩, w, -, -, h⟩ := h
  cases hrow : s.opportunity arm.sessionId o.opportunityId with
  | none =>
    rw [hrow] at h
    simp only [write_bind_eq_ok, pure_eq_ok] at h
    exact .inr ⟨rfl, h.1.symm, h.2.symm⟩
  | some row =>
    rw [hrow] at h
    simp only [raiseIf_bind_eq_ok, pure_eq_ok] at h
    refine .inl ⟨row, rfl, ?_, h.2.2.symm⟩
    rw [← h.2.1]
    split <;> decide

/-- A claim of an opportunity that the store does not hold. -/
theorem claimPart_new (hvalid : validateOpportunity K o arm = .ok ()) (ht : isUtc t = true)
    {row : WindowRow} (hrow : s.window arm.sessionId o.windowId = some row)
    (hsha : row.windowSha256 = o.windowSha256) (hlane : o.candidateId ∈ row.candidateIds)
    (hnone : s.opportunity arm.sessionId o.opportunityId = none) :
    claimPart K arm o t s = .ok .claimed { s with
      opportunities := s.opportunities ++ [newOpportunity arm o (.utc t.micros)] } := by
  simp only [claimPart, lift_bind_eq_ok, immediate_eq_ok, select_bind_eq_ok, orRaise_bind_eq_ok,
    raiseIf_bind_eq_ok, id]
  refine ⟨(), hvalid, _, utcDatetime_eq_ok.mpr ⟨ht, rfl⟩, row, hrow, by simp [hsha, hlane], ?_⟩
  rw [hnone]
  rfl

theorem requireOpportunity_eq_ok {message : String} {row : OpportunityRow} :
    requireOpportunity arm o message s = .ok row s' ↔
      s.opportunity arm.sessionId o.opportunityId = some row ∧
      row.opportunitySha256 = o.opportunitySha256 ∧ s = s' := by
  simp only [requireOpportunity, select_bind_eq_ok, orRaise_bind_eq_ok, raiseIf_bind_eq_ok,
    pure_eq_ok, not_not, id]
  constructor
  · rintro ⟨_, hrow, hsha, rfl, rfl⟩
    exact ⟨hrow, hsha, rfl⟩
  · rintro ⟨hrow, hsha, rfl⟩
    exact ⟨row, hrow, hsha, rfl, rfl⟩

theorem terminalFlatPart_ok {proof : String} (h : terminalFlatPart K arm o proof t s = .ok u s') :
    ∃ row, s.opportunity arm.sessionId o.opportunityId = some row ∧
      (row.state ≠ .claimed ∧ s' = s ∨ row.state = .claimed ∧ ∃ f, Disposes f .terminalFlat ∧
        s' = setOpportunity arm.sessionId o.opportunityId f s) := by
  simp only [terminalFlatPart, lift_bind_eq_ok, immediate_eq_ok] at h
  obtain ⟨_, -, _, -, t', -, h⟩ := h
  obtain ⟨row, s₁, hrequire, h⟩ := bind_eq_ok.mp h
  obtain ⟨hrow, -, rfl⟩ := requireOpportunity_eq_ok.mp hrequire
  refine ⟨row, hrow, ?_⟩
  split at h
  · rename_i hstate
    rw [raiseIf_eq_ok] at h
    exact .inl ⟨by rw [hstate]; simp, h.2.symm⟩
  · rw [raiseIf_bind_eq_ok, write_eq_ok, not_not] at h
    refine .inr ⟨h.1, _, ?_, h.2.symm⟩
    exact ⟨fun _ => rfl, fun _ => rfl, fun _ => rfl, fun _ _ => rfl⟩

theorem dispositionPart_ok {d : RecordableDisposition}
    (h : dispositionPart K arm o d t s = .ok u s') :
    ∃ row, s.opportunity arm.sessionId o.opportunityId = some row ∧
      (row.state ≠ .claimed ∧ s' = s ∨ row.state = .claimed ∧ ∃ f, Disposes f d.1 ∧
        s' = setOpportunity arm.sessionId o.opportunityId f s) := by
  simp only [dispositionPart, lift_bind_eq_ok, immediate_eq_ok] at h
  obtain ⟨_, -, t', -, h⟩ := h
  obtain ⟨row, s₁, hrequire, h⟩ := bind_eq_ok.mp h
  obtain ⟨hrow, -, rfl⟩ := requireOpportunity_eq_ok.mp hrequire
  refine ⟨row, hrow, ?_⟩
  split at h
  · rename_i hstate
    rw [pure_eq_ok] at h
    exact .inl ⟨by rw [hstate]; simp, h.2.symm⟩
  · rw [raiseIf_bind_eq_ok, write_eq_ok, not_not] at h
    have hnot : d.1 ≠ .terminalFlat := by
      rintro hd
      have hrec := d.2
      rw [hd] at hrec
      cases hrec
    refine .inr ⟨h.1, _, ?_, h.2.symm⟩
    exact ⟨fun _ => rfl, fun _ => rfl, fun _ => rfl, fun hd => absurd hd hnot⟩

/-- What `record_active_lifecycle` has found, and what it wrote. -/
theorem activePart_ok (h : activePart K arm o l t s = .ok u s') :
    ∃ row, s.opportunity arm.sessionId o.opportunityId = some row ∧
      (row.state ≠ .claimed ∧ s' = s ∨ row.state = .claimed ∧
        s.lifecycle arm.sessionId l.lifecycleId = none ∧
        s.lifecycleForOpportunity arm.sessionId o.opportunityId = none ∧
        l.sessionId = arm.sessionId ∧ l.opportunityId = o.opportunityId ∧ l.check = .ok () ∧
        ∃ f t', Disposes f .active ∧ s' = setOpportunity arm.sessionId o.opportunityId f
          { s with lifecycles := s.lifecycles ++ [newLifecycle arm o l t'] }) := by
  simp only [activePart, lift_bind_eq_ok, raiseIf_bind_eq_ok, immediate_eq_ok, not_or, not_not] at h
  obtain ⟨_, -, ⟨hsession, hopportunity, -⟩, _, hcheck, t', -, h⟩ := h
  obtain ⟨row, s₁, hrequire, h⟩ := bind_eq_ok.mp h
  obtain ⟨hrow, -, rfl⟩ := requireOpportunity_eq_ok.mp hrequire
  refine ⟨row, hrow, ?_⟩
  simp only [select_bind_eq_ok, id] at h
  cases hl : s.lifecycle arm.sessionId l.lifecycleId with
  | some existing =>
    rw [hl] at h
    simp only [raiseIf_eq_ok, not_not] at h
    exact .inl ⟨by rw [h.1.2.2]; simp, h.2.symm⟩
  | none =>
    rw [hl] at h
    simp only [raiseIf_bind_eq_ok, write_eq_ok, not_not, Option.isSome_iff_ne_none] at h
    obtain ⟨hclaimed, hfirst, hs⟩ := h
    refine .inr ⟨hclaimed, rfl, by simpa using hfirst, hsession, hopportunity, hcheck, _, t', ?_,
      hs.symm⟩
    exact ⟨fun _ => rfl, fun _ => rfl, fun _ => rfl, fun hd => (by cases hd)⟩

/-- The first lifecycle of a claimed opportunity. -/
theorem activePart_new (hvalid : validateOpportunity K o arm = .ok ()) (ht : isUtc t = true)
    (hsession : l.sessionId = arm.sessionId) (hopportunity : l.opportunityId = o.opportunityId)
    (hsha : l.opportunitySha256 = o.opportunitySha256) (hcheck : l.check = .ok ())
    {row : OpportunityRow} (hrow : s.opportunity arm.sessionId o.opportunityId = some row)
    (hrowSha : row.opportunitySha256 = o.opportunitySha256) (hclaimed : row.state = .claimed)
    (hnone : s.lifecycle arm.sessionId l.lifecycleId = none)
    (hfirst : s.lifecycleForOpportunity arm.sessionId o.opportunityId = none) :
    activePart K arm o l t s = .ok () (setOpportunity arm.sessionId o.opportunityId
      (fun r => { r with state := .disposed .active, updatedAt := .utc t.micros })
      { s with lifecycles := s.lifecycles ++ [newLifecycle arm o l (.utc t.micros)] }) := by
  simp only [activePart, lift_bind_eq_ok, raiseIf_bind_eq_ok, immediate_eq_ok, not_or, not_not]
  refine ⟨(), hvalid, ⟨hsession, hopportunity, hsha⟩, (), hcheck, _,
    utcDatetime_eq_ok.mpr ⟨ht, rfl⟩, ?_⟩
  refine bind_eq_ok.mpr ⟨row, s, requireOpportunity_eq_ok.mpr ⟨hrow, hrowSha, rfl⟩, ?_⟩
  simp only [select_bind_eq_ok, id]
  rw [hnone]
  simp only [raiseIf_bind_eq_ok, write_eq_ok, not_not, hfirst, Option.isSome_none]
  exact ⟨hclaimed, by simp, trivial⟩

/-- What `record_lifecycle_terminal_flat` has found, and what it wrote. -/
theorem lifecycleTerminalFlatPart_ok {proof : String}
    (h : lifecycleTerminalFlatPart arm l proof t s = .ok u s') :
    ∃ row, s.lifecycle arm.sessionId l.lifecycleId = some row ∧ row.identity = l ∧
      l.sessionId = arm.sessionId ∧
      (row.state = .terminalFlat ∧ s' = s ∨ row.state = .active ∧
        ∃ o f t', s.opportunity arm.sessionId l.opportunityId = some o ∧
          o.state = .disposed .active ∧ Disposes f .terminalFlat ∧
          s' = setOpportunity arm.sessionId l.opportunityId f { s with
            lifecycles := Table.setWhere
              (fun r => r.sessionId = arm.sessionId ∧ r.lifecycleId = l.lifecycleId)
              (fun r => { r with state := .terminalFlat, updatedAt := t' }) s.lifecycles }) := by
  simp only [lifecycleTerminalFlatPart, raiseIf_bind_eq_ok, lift_bind_eq_ok, immediate_eq_ok,
    select_bind_eq_ok, orRaise_bind_eq_ok, not_not, id] at h
  obtain ⟨hsession, _, -, _, -, t', -, row, hrow, hidentity, o, ho, h⟩ := h
  refine ⟨row, hrow, hidentity, hsession, ?_⟩
  split at h
  · rename_i hstate
    rw [raiseIf_eq_ok] at h
    exact .inl ⟨hstate, h.2.symm⟩
  · rw [raiseIf_bind_eq_ok, write_eq_ok, not_or, not_not, not_not] at h
    refine .inr ⟨h.1.1, o, _, t', ho, h.1.2, ?_, h.2.symm⟩
    exact ⟨fun _ => rfl, fun _ => rfl, fun _ => rfl, fun _ _ => rfl⟩

def markedReasons (sid : String) (reason : ReasonCode) (t : DateTime) (oid lid : Option String)
    (rows : List ManualReasonRow) : List ManualReasonRow :=
  if rows.any fun r => r.sessionId = sid ∧ r.reasonCode = reason ∧ r.opportunityId = oid ∧
      r.lifecycleId = lid then rows
  else rows ++ [⟨sid, reason, oid, lid, .utc t.micros⟩]

theorem manualPart_eq_ok {reason : ReasonCode} {oid lid : Option String} :
    manualPart arm reason t oid lid s = .ok u s' ↔
      isUtc t ∧ optionalIdentifier oid "opportunity_id" = .ok () ∧
      optionalIdentifier lid "lifecycle_id" = .ok () ∧ s.session arm.sessionId ≠ none ∧
      s' = setSession arm.sessionId .manualReconciliationRequired { s with
        manualReasons := markedReasons arm.sessionId reason t oid lid s.manualReasons } := by
  have hbody : ∀ t' : DateTime, t' = .utc t.micros → ((do
      write (setSession arm.sessionId .manualReconciliationRequired)
      if s.manualReasons.any fun r => r.sessionId = arm.sessionId ∧ r.reasonCode = reason ∧
          r.opportunityId = oid ∧ r.lifecycleId = lid then
        return ()
      else
        write fun s => { s with
          manualReasons := s.manualReasons ++ [⟨arm.sessionId, reason, oid, lid, t'⟩] } :
      StoreTxn Unit) s = .ok u s' ↔
      s' = setSession arm.sessionId .manualReconciliationRequired { s with
        manualReasons := markedReasons arm.sessionId reason t oid lid s.manualReasons }) := by
    rintro t' rfl
    rw [write_bind_eq_ok, markedReasons]
    split
    · rw [pure_eq_ok]
      exact ⟨fun h => h.2.symm, fun h => ⟨rfl, h.symm⟩⟩
    · rw [write_eq_ok]
      exact eq_comm
  simp only [manualPart, lift_bind_eq_ok, immediate_eq_ok, select_bind_eq_ok, raiseIf_bind_eq_ok,
    utcDatetime_eq_ok, id]
  constructor
  · rintro ⟨t', ⟨hutc, ht⟩, _, hoid, _, hlid, hsession, h⟩
    exact ⟨hutc, hoid, hlid, hsession, (hbody t' ht.symm).mp h⟩
  · rintro ⟨hutc, hoid, hlid, hsession, h⟩
    exact ⟨_, ⟨hutc, rfl⟩, (), hoid, (), hlid, hsession, (hbody _ rfl).mpr h⟩

theorem finalizePart_eq_ok {summary : AutonomousSessionSummary} :
    finalizePart arm t s = .ok summary s' ↔ isUtc t ∧
      (s.finalSummary arm.sessionId = some summary ∧ s' = s ∨
        s.finalSummary arm.sessionId = none ∧ s.session arm.sessionId ≠ none ∧
        summary = buildSummary arm (.utc t.micros) s ∧
        s' = setSession arm.sessionId
          (if summary.terminalFlatProven then .finalized else .manualReconciliationRequired)
          { s with summaries := s.summaries ++ [⟨arm.sessionId, summary⟩] }) := by
  simp only [finalizePart, lift_bind_eq_ok, immediate_eq_ok, select_bind_eq_ok, utcDatetime_eq_ok,
    id]
  cases hsummary : s.finalSummary arm.sessionId with
  | some v =>
    simp only [pure_eq_ok, Option.some.injEq, reduceCtorEq, false_and, or_false]
    constructor
    · rintro ⟨_, ⟨hutc, -⟩, rfl, rfl⟩
      exact ⟨hutc, rfl, rfl⟩
    · rintro ⟨hutc, rfl, rfl⟩
      exact ⟨_, ⟨hutc, rfl⟩, rfl, rfl⟩
  | none =>
    simp only [raiseIf_bind_eq_ok, write_bind_eq_ok, pure_eq_ok, reduceCtorEq, false_and, false_or,
      true_and]
    constructor
    · rintro ⟨_, ⟨hutc, rfl⟩, hsession, rfl, rfl⟩
      exact ⟨hutc, hsession, rfl, rfl⟩
    · rintro ⟨hutc, hsession, rfl, rfl⟩
      exact ⟨_, ⟨hutc, rfl⟩, hsession, rfl, rfl⟩

end Returns

/-! ### One step -/

theorem StoreWrite.of_claimed {s : SessionStore} {sid oid : String} {row : OpportunityRow}
    {f : OpportunityRow → OpportunityRow} {d : AutonomousDisposition}
    (hrow : s.opportunity sid oid = some row) (hclaimed : row.state = .claimed) (hd : d ≠ .active)
    (hf : Disposes f d) : StoreWrite s (setOpportunity sid oid f s) := by
  obtain ⟨hmem, hkey⟩ := SessionStore.opportunity_eq_some hrow
  obtain ⟨rfl, rfl⟩ := Prod.mk.inj hkey
  exact .dispose row hmem hclaimed f d hd hf

theorem StoreWrite.of_manual {s : SessionStore} {sid : String} {reason : ReasonCode} {t : DateTime}
    {oid lid : Option String} : StoreWrite s (setSession sid .manualReconciliationRequired { s with
      manualReasons := markedReasons sid reason t oid lid s.manualReasons }) := by
  refine .manual sid _ ?_ ?_
  · intro r hr
    unfold markedReasons
    split
    · exact hr
    · exact List.mem_append_left _ hr
  · unfold markedReasons
    split
    · rename_i hany
      obtain ⟨r, hr, h⟩ := List.any_eq_true.mp hany
      simp only [decide_eq_true_eq] at h
      exact ⟨r, hr, h.1⟩
    · exact ⟨_, List.mem_append_right _ (List.mem_singleton_self _), rfl⟩

namespace StoreOp

variable {K : Contracts} {s s' : SessionStore}

/-- A transaction that returned has written as `StoreWrite` says, or nothing. -/
theorem txn_ok (hs : StoreInv s) (op : StoreOp) {a : op.Res} (h : op.txn K s = .ok a s') :
    s' = s ∨ StoreWrite s s' := by
  cases op with
  | ensureArm arm =>
    rcases (ensureArm_eq_ok.mp h).2 with ⟨_, -, -, -, rfl⟩ | ⟨hnone, rfl⟩
    · exact .inl rfl
    · exact .inr (.arm _ _ (SessionStore.session_eq_none.mp hnone) rfl)
  | claim arm o t =>
    rcases claimPart_ok h with ⟨_, -, -, rfl⟩ | ⟨hnone, -, rfl⟩
    · exact .inl rfl
    · exact .inr (.claim _ (SessionStore.opportunity_eq_none.mp hnone) rfl)
  | terminalFlat arm o proof t =>
    obtain ⟨row, hrow, ⟨-, rfl⟩ | ⟨hclaimed, f, hf, rfl⟩⟩ := terminalFlatPart_ok h
    · exact .inl rfl
    · exact .inr (.of_claimed hrow hclaimed (by decide) hf)
  | disposition arm o d t =>
    obtain ⟨row, hrow, ⟨-, rfl⟩ | ⟨hclaimed, f, hf, rfl⟩⟩ := dispositionPart_ok h
    · exact .inl rfl
    · have hd : d.1 ≠ .active := by
        intro hactive
        have hrec := d.2
        rw [hactive] at hrec
        cases hrec
      exact .inr (.of_claimed hrow hclaimed hd hf)
  | active arm o l t =>
    obtain ⟨row, hrow, ⟨-, rfl⟩ | ⟨hclaimed, hnew, hfirst, hsession, hopportunity, hcheck, f, t',
      hf, rfl⟩⟩ := activePart_ok h
    · exact .inl rfl
    · obtain ⟨hmem, hkey⟩ := SessionStore.opportunity_eq_some hrow
      have hmatch : SessionStore.rowMatches arm.sessionId (newLifecycle arm o l t') = true := by
        simp [SessionStore.rowMatches, newLifecycle, hsession, hopportunity]
      have hwrite := StoreWrite.activate row hmem hclaimed f hf (newLifecycle arm o l t') hkey.symm
        rfl ⟨hmatch, hcheck⟩ (SessionStore.lifecycle_eq_none.mp hnew)
        (SessionStore.lifecycleForOpportunity_eq_none.mp hfirst)
      obtain ⟨hsid, hoid⟩ := Prod.mk.inj hkey
      rw [hsid, hoid] at hwrite
      exact .inr hwrite
  | lifecycleTerminalFlat arm l proof t =>
    obtain ⟨row, hrow, hidentity, hsession, ⟨-, rfl⟩ | ⟨hactive, o, f, t', ho, hstate, hf, rfl⟩⟩ :=
      lifecycleTerminalFlatPart_ok h
    · exact .inl rfl
    · obtain ⟨hl, hlkey⟩ := SessionStore.lifecycle_eq_some hrow
      obtain ⟨ho, hokey⟩ := SessionStore.opportunity_eq_some ho
      obtain ⟨hsid, hlid⟩ := Prod.mk.inj hlkey
      obtain ⟨hosid, hoid⟩ := Prod.mk.inj hokey
      have hmatch := (hs.identities row hl).1
      simp only [SessionStore.rowMatches, Bool.and_eq_true, beq_iff_eq] at hmatch
      have hlink : o.key = row.opportunityKey := by
        rw [hokey, LifecycleRow.opportunityKey, hsid, ← hmatch.2, hidentity]
      have hwrite := StoreWrite.flatten row hl hactive o ho hlink hstate f hf t'
      rw [hosid, hoid, hsid, hlid] at hwrite
      exact .inr hwrite
  | manual arm reason t oid lid =>
    obtain ⟨-, -, -, -, rfl⟩ := manualPart_eq_ok.mp h
    exact .inr .of_manual
  | finalize arm t =>
    obtain ⟨-, ⟨-, rfl⟩ | ⟨hnone, -, rfl, rfl⟩⟩ := finalizePart_eq_ok.mp h
    · exact .inl rfl
    · exact .inr (.finalize arm _ (SessionStore.finalSummary_eq_none.mp hnone))

/-- One step. A transaction that raised has written nothing. -/
theorem step (K : Contracts) (hs : StoreInv s) (op : StoreOp) :
    op.exec K s = s ∨ StoreWrite s (op.exec K s) := by
  rcases (op.atomic_txn K).after_cases s with ⟨a, h⟩ | h
  · exact op.txn_ok hs h
  · exact .inl h

end StoreOp

end EsscherMarket.Runtime
