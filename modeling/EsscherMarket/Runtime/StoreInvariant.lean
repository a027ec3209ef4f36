import EsscherMarket.Runtime.StoreSteps

/-!
# The session store over whole runs

The invariant of the tables is kept by every write.  Beside it stand the facts about two states of
one run: how the state of an opportunity can change (`OpportunityStep`), and that an operation which
returned once changes nothing when it is repeated (`Settled`).
-/

namespace EsscherMarket.Runtime

open Lib Txn

variable {K : Contracts} {s s' : SessionStore}

/-! ### One changed opportunity -/

section SetOpportunity

variable {row r : OpportunityRow} {f : OpportunityRow → OpportunityRow} {d : AutonomousDisposition}

theorem mem_setOpportunity {sid oid : String} :
    r ∈ (setOpportunity sid oid f s).opportunities ↔
      ∃ r₀ ∈ s.opportunities, r = if r₀.key = (sid, oid) then f r₀ else r₀ := by
  simp only [setOpportunity, Table.mem_setWhere, decide_eq_true_eq, OpportunityRow.key,
    Prod.mk.injEq]

theorem setOpportunity_cases (hf : Disposes f d)
    (hr : r ∈ (setOpportunity row.sessionId row.opportunityId f s).opportunities) :
    r ∈ s.opportunities ∧ r.key ≠ row.key ∨ r.key = row.key ∧ r.state = .disposed d ∧
      (d = .terminalFlat → r.terminalFlatProofSha256.isSome) := by
  obtain ⟨r₀, hr₀, hr⟩ := mem_setOpportunity.mp hr
  by_cases hkey : r₀.key = row.key
  · rw [hr.trans (if_pos hkey)]
    exact .inr ⟨(hf.key r₀).trans hkey, hf.state r₀, fun hd => hf.proof hd r₀⟩
  · rw [hr.trans (if_neg hkey)]
    exact .inl ⟨hr₀, hkey⟩

theorem mem_setOpportunity_of_ne (hr : r ∈ s.opportunities) (hne : r.key ≠ row.key) :
    r ∈ (setOpportunity row.sessionId row.opportunityId f s).opportunities :=
  mem_setOpportunity.mpr ⟨r, hr, (if_neg hne).symm⟩

theorem exists_setOpportunity (hf : Disposes f d) (hrow : row ∈ s.opportunities) :
    ∃ r ∈ (setOpportunity row.sessionId row.opportunityId f s).opportunities,
      r.key = row.key ∧ r.state = .disposed d :=
  ⟨f row, mem_setOpportunity.mpr ⟨row, hrow, (if_pos rfl).symm⟩, hf.key row, hf.state row⟩

theorem keys_setOpportunity {sid oid : String} (hf : Disposes f d) :
    (setOpportunity sid oid f s).opportunities.map (·.key) = s.opportunities.map (·.key) :=
  Table.map_setWhere hf.key

end SetOpportunity

theorem mem_setSession {sid : String} {state : SessionState} {r : SessionRow}
    (hr : r ∈ (setSession sid state s).sessions) :
    ∃ r₀ ∈ s.sessions, r.sessionId = r₀.sessionId ∧
      (r₀.sessionId = sid ∧ r.state = state ∨ r₀.sessionId ≠ sid ∧ r = r₀) := by
  obtain ⟨r₀, hr₀, rfl⟩ := Table.mem_setWhere.mp hr
  refine ⟨r₀, hr₀, ?_⟩
  by_cases hsid : r₀.sessionId = sid
  · simp [hsid]
  · simp [hsid]

theorem sessionIds_setSession {sid : String} {state : SessionState} :
    (setSession sid state s).sessions.map (·.sessionId) = s.sessions.map (·.sessionId) :=
  Table.map_setWhere fun _ => rfl

/-! ### The invariant is kept -/

theorem StoreInv.attributed_ne (hs : StoreInv s) {row : OpportunityRow}
    (hrow : row ∈ s.opportunities) (hclaimed : row.state = .claimed) {l : LifecycleRow}
    (hl : l ∈ s.lifecycles) : ∃ r ∈ s.opportunities, r.key ≠ row.key ∧ r.key = l.opportunityKey ∧
      r.state = .disposed l.state.disposition := by
  obtain ⟨r, hr, hkey, hstate⟩ := hs.attributed l hl
  refine ⟨r, hr, ?_, hkey, hstate⟩
  intro heq
  rw [Table.eq_of_key hs.opportunityKeys hr hrow heq, hclaimed] at hstate
  cases hstate

theorem StoreInv.arm (hs : StoreInv s) {row : SessionRow} {ws : List WindowRow}
    (hnew : ∀ r ∈ s.sessions, r.sessionId ≠ row.sessionId) (hstate : row.state = .armed) :
    StoreInv { s with sessions := s.sessions ++ [row], windows := s.windows ++ ws } := by
  refine { hs with sessionIds := Table.nodup_map_concat hs.sessionIds hnew, manual := ?_ }
  intro r hr hmanual
  rcases List.mem_append.mp hr with hr | hr
  · exact hs.manual r hr hmanual
  · rw [List.mem_singleton.mp hr, hstate] at hmanual
    cases hmanual

theorem StoreInv.claim (hs : StoreInv s) {row : OpportunityRow}
    (hnew : ∀ r ∈ s.opportunities, r.key ≠ row.key) (hstate : row.state = .claimed) :
    StoreInv { s with opportunities := s.opportunities ++ [row] } := by
  have hold : ∀ r ∈ s.opportunities ++ [row], ∀ d, r.state = .disposed d →
      r ∈ s.opportunities := by
    intro r hr d hd
    rcases List.mem_append.mp hr with hr | hr
    · exact hr
    · rw [List.mem_singleton.mp hr, hstate] at hd
      cases hd
  refine { hs with
    opportunityKeys := Table.nodup_map_concat hs.opportunityKeys hnew
    attributed := ?_
    activeOwned := fun r hr hactive => hs.activeOwned r (hold r hr _ hactive) hactive
    proofs := fun r hr hflat => hs.proofs r (hold r hr _ hflat) hflat }
  intro l hl
  obtain ⟨r, hr, h⟩ := hs.attributed l hl
  exact ⟨r, List.mem_append_left _ hr, h⟩

theorem StoreInv.dispose (hs : StoreInv s) {row : OpportunityRow} (hrow : row ∈ s.opportunities)
    (hclaimed : row.state = .claimed) {f : OpportunityRow → OpportunityRow}
    {d : AutonomousDisposition} (hd : d ≠ .active) (hf : Disposes f d) :
    StoreInv (setOpportunity row.sessionId row.opportunityId f s) := by
  refine { hs with
    opportunityKeys := by rw [keys_setOpportunity hf]; exact hs.opportunityKeys
    attributed := ?_
    activeOwned := ?_
    proofs := ?_ }
  · intro l hl
    obtain ⟨r, hr, hne, h⟩ := hs.attributed_ne hrow hclaimed hl
    exact ⟨r, mem_setOpportunity_of_ne hr hne, h⟩
  · intro r hr hactive
    rcases setOpportunity_cases hf hr with ⟨hr, -⟩ | ⟨-, hstate, -⟩
    · exact hs.activeOwned r hr hactive
    · rw [hstate] at hactive
      cases hactive
      exact absurd rfl hd
  · intro r hr hflat
    rcases setOpportunity_cases hf hr with ⟨hr, -⟩ | ⟨-, hstate, hproof⟩
    · exact hs.proofs r hr hflat
    · rw [hstate] at hflat
      cases hflat
      exact hproof rfl

theorem StoreInv.activate (hs : StoreInv s) {row : OpportunityRow} (hrow : row ∈ s.opportunities)
    (hclaimed : row.state = .claimed) {f : OpportunityRow → OpportunityRow}
    (hf : Disposes f .active) {l : LifecycleRow} (hl : l.opportunityKey = row.key)
    (hactive : l.state = .active)
    (hidentity : SessionStore.rowMatches l.sessionId l = true ∧ l.identity.check = .ok ())
    (hnew : ∀ r ∈ s.lifecycles, r.key ≠ l.key)
    (hfirst : ∀ r ∈ s.lifecycles, r.opportunityKey ≠ l.opportunityKey) :
    StoreInv (setOpportunity row.sessionId row.opportunityId f
      { s with lifecycles := s.lifecycles ++ [l] }) := by
  refine { hs with
    opportunityKeys := by rw [keys_setOpportunity hf]; exact hs.opportunityKeys
    lifecycleKeys := Table.nodup_map_concat hs.lifecycleKeys hnew
    lifecycleOpportunities := Table.nodup_map_concat hs.lifecycleOpportunities hfirst
    identities := ?_
    attributed := ?_
    activeOwned := ?_
    proofs := ?_ }
  · intro l' hl'
    rcases List.mem_append.mp hl' with hl' | hl'
    · exact hs.identities l' hl'
    · rw [List.mem_singleton.mp hl']
      exact hidentity
  · intro l' hl'
    rcases List.mem_append.mp hl' with hl' | hl'
    · obtain ⟨r, hr, hne, h⟩ := hs.attributed_ne hrow hclaimed hl'
      exact ⟨r, mem_setOpportunity_of_ne hr hne, h⟩
    · obtain ⟨r, hr, hkey, hstate⟩ :=
        exists_setOpportunity (s := { s with lifecycles := s.lifecycles ++ [l] }) hf hrow
      rw [List.mem_singleton.mp hl', hactive]
      exact ⟨r, hr, hkey.trans hl.symm, hstate⟩
  · intro r hr hstate
    rcases setOpportunity_cases hf hr with ⟨hr, -⟩ | ⟨hkey, -, -⟩
    · obtain ⟨l', hl', h⟩ := hs.activeOwned r hr hstate
      exact ⟨l', List.mem_append_left _ hl', h⟩
    · exact ⟨l, List.mem_append_right _ (List.mem_singleton_self l), hl.trans hkey.symm⟩
  · intro r hr hflat
    rcases setOpportunity_cases hf hr with ⟨hr, -⟩ | ⟨-, hstate, -⟩
    · exact hs.proofs r hr hflat
    · rw [hstate] at hflat
      cases hflat

def flattenLifecycle (l : LifecycleRow) (at_ : DateTime) (rows : List LifecycleRow) :
    List LifecycleRow :=
  Table.setWhere (fun r => r.sessionId = l.sessionId ∧ r.lifecycleId = l.lifecycleId)
    (fun r => { r with state := .terminalFlat, updatedAt := at_ }) rows

theorem map_flattenLifecycle {κ : Type} {key : LifecycleRow → κ} {l : LifecycleRow} {at_ : DateTime}
    {rows : List LifecycleRow}
    (h : ∀ r : LifecycleRow, key { r with state := .terminalFlat, updatedAt := at_ } = key r) :
    (flattenLifecycle l at_ rows).map key = rows.map key :=
  Table.map_setWhere h

theorem flattenLifecycle_cases (hs : StoreInv s) {l r : LifecycleRow} {at_ : DateTime}
    (hl : l ∈ s.lifecycles) (hr : r ∈ flattenLifecycle l at_ s.lifecycles) :
    r = { l with state := .terminalFlat, updatedAt := at_ } ∨
      r ∈ s.lifecycles ∧ r.opportunityKey ≠ l.opportunityKey := by
  obtain ⟨r₀, hr₀, rfl⟩ := Table.mem_setWhere.mp hr
  by_cases hkey : r₀.key = l.key
  · have heq : r₀ = l := Table.eq_of_key hs.lifecycleKeys hr₀ hl hkey
    subst heq
    simp
  · have hcond : ¬ (r₀.sessionId = l.sessionId ∧ r₀.lifecycleId = l.lifecycleId) := by
      simpa [LifecycleRow.key] using hkey
    rw [if_neg (by simpa using hcond)]
    refine .inr ⟨hr₀, ?_⟩
    intro hopp
    rw [Table.eq_of_key hs.lifecycleOpportunities hr₀ hl hopp] at hkey
    exact hkey rfl

theorem StoreInv.flatten (hs : StoreInv s) {l : LifecycleRow} (hl : l ∈ s.lifecycles)
    {row : OpportunityRow} (hrow : row ∈ s.opportunities) (hkey : row.key = l.opportunityKey)
    {f : OpportunityRow → OpportunityRow} (hf : Disposes f .terminalFlat) (at_ : DateTime) :
    StoreInv (setOpportunity row.sessionId row.opportunityId f
      { s with lifecycles := flattenLifecycle l at_ s.lifecycles }) := by
  refine { hs with
    opportunityKeys := by rw [keys_setOpportunity hf]; exact hs.opportunityKeys
    lifecycleKeys := ?_
    lifecycleOpportunities := ?_
    identities := ?_
    attributed := ?_
    activeOwned := ?_
    proofs := ?_ }
  · show ((flattenLifecycle l at_ s.lifecycles).map (·.key)).Nodup
    rw [map_flattenLifecycle fun _ => rfl]
    exact hs.lifecycleKeys
  · show ((flattenLifecycle l at_ s.lifecycles).map (·.opportunityKey)).Nodup
    rw [map_flattenLifecycle fun _ => rfl]
    exact hs.lifecycleOpportunities
  · intro l' hl'
    rcases flattenLifecycle_cases hs hl hl' with rfl | ⟨hl', -⟩
    · exact hs.identities l hl
    · exact hs.identities l' hl'
  · intro l' hl'
    rcases flattenLifecycle_cases hs hl hl' with rfl | ⟨hl', hne⟩
    · obtain ⟨r, hr, hrkey, hstate⟩ := exists_setOpportunity
        (s := { s with lifecycles := flattenLifecycle l at_ s.lifecycles }) hf hrow
      exact ⟨r, hr, hrkey.trans hkey, hstate⟩
    · obtain ⟨r, hr, hrkey, hstate⟩ := hs.attributed l' hl'
      have hstay : r.key ≠ row.key := by rw [hrkey, hkey]; exact hne
      exact ⟨r, mem_setOpportunity_of_ne hr hstay, hrkey, hstate⟩
  · intro r hr hactive
    rcases setOpportunity_cases hf hr with ⟨hr, -⟩ | ⟨-, hstate, -⟩
    · obtain ⟨l', hl', hl'key⟩ := hs.activeOwned r hr hactive
      refine ⟨_, Table.mem_setWhere.mpr ⟨l', hl', rfl⟩, ?_⟩
      rw [← hl'key]
      split <;> rfl
    · rw [hstate] at hactive
      cases hactive
  · intro r hr hflat
    rcases setOpportunity_cases hf hr with ⟨hr, -⟩ | ⟨-, -, hproof⟩
    · exact hs.proofs r hr hflat
    · exact hproof rfl

theorem StoreInv.setSession (hs : StoreInv s) {sid : String} {state : SessionState}
    {reasons : List ManualReasonRow} {summaries : List SummaryRow}
    (hreasons : ∀ m ∈ s.manualReasons, m ∈ reasons) (hsummaries : ∀ v ∈ s.summaries, v ∈ summaries)
    (hwhy : (∃ m ∈ reasons, m.sessionId = sid) ∨ ∃ v ∈ summaries, v.sessionId = sid) :
    StoreInv (Runtime.setSession sid state
      { s with manualReasons := reasons, summaries := summaries }) := by
  refine { hs with
    sessionIds := by rw [sessionIds_setSession]; exact hs.sessionIds
    manual := ?_ }
  intro r hr hmanual
  obtain ⟨r₀, hr₀, hid, ⟨hsid, -⟩ | ⟨-, rfl⟩⟩ := mem_setSession hr
  · rw [hid, hsid]
    exact hwhy
  · rcases hs.manual r hr₀ hmanual with ⟨m, hm, h⟩ | ⟨v, hv, h⟩
    · exact .inl ⟨m, hreasons m hm, h⟩
    · exact .inr ⟨v, hsummaries v hv, h⟩

/-- Every write keeps the invariant. -/
theorem StoreWrite.inv (h : StoreWrite s s') (hs : StoreInv s) : StoreInv s' := by
  cases h with
  | arm row ws hnew hstate => exact hs.arm hnew hstate
  | claim row hnew hstate => exact hs.claim hnew hstate
  | dispose row hrow hclaimed f d hd hf => exact hs.dispose hrow hclaimed hd hf
  | activate row hrow hclaimed f hf l hl hactive hidentity hnew hfirst =>
    exact hs.activate hrow hclaimed hf hl hactive hidentity hnew hfirst
  | flatten l hl hactive row hrow hkey hstate f hf at_ => exact hs.flatten hl hrow hkey hf at_
  | manual sid rows hkeep hreason => exact hs.setSession hkeep (fun _ hv => hv) (.inl hreason)
  | finalize arm at_ hnone =>
    exact hs.setSession (fun _ hm => hm) (fun _ hv => List.mem_append_left _ hv)
      (.inr ⟨_, List.mem_append_right _ (List.mem_singleton_self _), rfl⟩)

/-! ### What a write leaves in place -/

/-- How one write can change the state of an opportunity. -/
inductive OpportunityStep : Option OpportunityState → Option OpportunityState → Prop where
  | stay (a : Option OpportunityState) : OpportunityStep a a
  | claim : OpportunityStep none (some .claimed)
  | dispose (d : AutonomousDisposition) : OpportunityStep (some .claimed) (some (.disposed d))
  | flatten : OpportunityStep (some (.disposed .active)) (some (.disposed .terminalFlat))

/-- What holds between the stores before and after a write. -/
structure Kept (s s' : SessionStore) : Prop where
  opportunity : ∀ sid oid, OpportunityStep (s.opportunityState sid oid) (s'.opportunityState sid oid)
  session : ∀ sid, s.session sid ≠ none → s'.session sid ≠ none
  manual : ∀ sid, s.sessionState sid = some .manualReconciliationRequired →
    s'.sessionState sid = some .manualReconciliationRequired
  reasons : ∀ m ∈ s.manualReasons, m ∈ s'.manualReasons
  summary : ∀ sid v, s.finalSummary sid = some v → s'.finalSummary sid = some v
  flat : ∀ sid lid row, s.lifecycle sid lid = some row → row.state = .terminalFlat →
    ∃ row', s'.lifecycle sid lid = some row' ∧ row'.state = .terminalFlat

theorem Kept.refl (s : SessionStore) : Kept s s where
  opportunity _ _ := .stay _
  session _ h := h
  manual _ h := h
  reasons _ h := h
  summary _ _ h := h
  flat _ _ row hrow hstate := ⟨row, hrow, hstate⟩

theorem opportunity_setOpportunity {sid oid sid' oid' : String}
    {f : OpportunityRow → OpportunityRow} {d : AutonomousDisposition} (hf : Disposes f d) :
    (setOpportunity sid oid f s).opportunity sid' oid' =
      (s.opportunity sid' oid').map fun r => if r.key = (sid, oid) then f r else r := by
  have hsame : ∀ r, decide ((f r).sessionId = sid' ∧ (f r).opportunityId = oid') =
      decide (r.sessionId = sid' ∧ r.opportunityId = oid') := by
    intro r
    obtain ⟨hsid, hoid⟩ := Prod.mk.inj (hf.key r)
    simp only [hsid, hoid]
  show (Table.setWhere _ f s.opportunities).find? _ = _
  rw [Table.find?_setWhere _ hsame]
  simp [SessionStore.opportunity, OpportunityRow.key]

theorem opportunityStep_setOpportunity (hs : StoreInv s) {row : OpportunityRow}
    (hrow : row ∈ s.opportunities) {f : OpportunityRow → OpportunityRow}
    {d : AutonomousDisposition} (hf : Disposes f d)
    (hstep : OpportunityStep (some row.state) (some (.disposed d)))
    (hs' : s'.opportunities = s.opportunities) (sid oid : String) :
    OpportunityStep (s.opportunityState sid oid)
      ((setOpportunity row.sessionId row.opportunityId f s').opportunityState sid oid) := by
  have hlookup : s'.opportunity sid oid = s.opportunity sid oid := by
    rw [SessionStore.opportunity, hs', SessionStore.opportunity]
  rw [SessionStore.opportunityState, SessionStore.opportunityState, opportunity_setOpportunity hf,
    hlookup]
  cases hr : s.opportunity sid oid with
  | none => exact .stay _
  | some r =>
    obtain ⟨hmem, hkey⟩ := SessionStore.opportunity_eq_some hr
    by_cases heq : r.key = (row.sessionId, row.opportunityId)
    · have hsame : r = row := Table.eq_of_key hs.opportunityKeys hmem hrow heq
      subst hsame
      simpa [heq, hf.state] using hstep
    · simpa [heq] using OpportunityStep.stay _

theorem session_setSession {sid sid' : String} {state : SessionState} :
    (setSession sid state s).session sid' =
      (s.session sid').map fun r => if r.sessionId = sid then { r with state := state } else r := by
  show (Table.setWhere _ _ s.sessions).find? _ = _
  rw [Table.find?_setWhere]
  · simp [SessionStore.session]
  · exact fun _ => rfl

theorem sessionState_setSession {sid sid' : String} {state : SessionState} :
    (setSession sid state s).sessionState sid' =
      if sid' = sid then (s.sessionState sid').map fun _ => state else s.sessionState sid' := by
  rw [SessionStore.sessionState, SessionStore.sessionState, session_setSession]
  cases hr : s.session sid' with
  | none => simp
  | some r =>
    have hid := (SessionStore.session_eq_some hr).2
    by_cases heq : sid' = sid
    · simp [hid, heq]
    · simp [hid, heq]

/-- A row that is found is found behind any rows that were appended. -/
theorem find?_append_of_some {ρ : Type} {p : ρ → Bool} {rows new : List ρ} {r : ρ}
    (h : rows.find? p = some r) : (rows ++ new).find? p = some r := by
  rw [List.find?_append, h]
  rfl

theorem terminalFlatProven_eq_false {arm : AutonomousSessionArm} {t : DateTime}
    {m : ManualReasonRow} (hm : m ∈ s.manualReasons) (hsid : m.sessionId = arm.sessionId) :
    (buildSummary arm t s).terminalFlatProven = false := by
  have hreason : m.reasonCode.value ∈
      sortedSet ((s.reasons arm.sessionId).map (·.value)) := by
    rw [sortedSet, List.mem_insertionSort, List.mem_dedup]
    refine List.mem_map.mpr ⟨m.reasonCode, List.mem_map.mpr ⟨m, ?_, rfl⟩, rfl⟩
    exact List.mem_filter.mpr ⟨hm, by simpa using hsid⟩
  have hne : (sortedSet ((s.reasons arm.sessionId).map (·.value))).isEmpty = false := by
    rw [List.isEmpty_eq_false_iff]
    exact List.ne_nil_of_mem hreason
  simp [buildSummary, hne]

theorem Kept.arm {row : SessionRow} {ws : List WindowRow} :
    Kept s { s with sessions := s.sessions ++ [row], windows := s.windows ++ ws } := by
  have hold : ∀ sid r, s.session sid = some r → SessionStore.session
      { s with sessions := s.sessions ++ [row], windows := s.windows ++ ws } sid = some r :=
    fun _ _ => find?_append_of_some
  refine { Kept.refl s with session := ?_, manual := ?_ }
  · intro sid h
    obtain ⟨r, hr⟩ := Option.ne_none_iff_exists'.mp h
    rw [hold sid r hr]
    simp
  · intro sid h
    obtain ⟨r, hr, hstate⟩ := Option.map_eq_some_iff.mp h
    rw [SessionStore.sessionState, hold sid r hr, Option.map_some, hstate]

theorem Kept.claim {row : OpportunityRow} (hstate : row.state = .claimed) :
    Kept s { s with opportunities := s.opportunities ++ [row] } := by
  refine { Kept.refl s with opportunity := ?_ }
  intro sid oid
  simp only [SessionStore.opportunityState, SessionStore.opportunity, List.find?_append]
  cases hr : s.opportunities.find? fun r => r.sessionId = sid ∧ r.opportunityId = oid with
  | some r => exact .stay _
  | none =>
    by_cases hkey : row.sessionId = sid ∧ row.opportunityId = oid
    · simpa [hkey, hstate] using OpportunityStep.claim
    · simpa [hkey] using OpportunityStep.stay none

theorem Kept.activate (hs : StoreInv s) {row : OpportunityRow} (hrow : row ∈ s.opportunities)
    (hclaimed : row.state = .claimed) {f : OpportunityRow → OpportunityRow}
    (hf : Disposes f .active) {l : LifecycleRow} :
    Kept s (setOpportunity row.sessionId row.opportunityId f
      { s with lifecycles := s.lifecycles ++ [l] }) := by
  refine { Kept.refl s with opportunity := ?_, flat := ?_ }
  · exact opportunityStep_setOpportunity hs hrow hf (by rw [hclaimed]; exact .dispose _) rfl
  · intro sid lid r hr hstate
    exact ⟨r, find?_append_of_some hr, hstate⟩

theorem Kept.flatten (hs : StoreInv s) {l : LifecycleRow} {row : OpportunityRow}
    (hrow : row ∈ s.opportunities) (hstate : row.state = .disposed .active)
    {f : OpportunityRow → OpportunityRow} (hf : Disposes f .terminalFlat) {at_ : DateTime} :
    Kept s (setOpportunity row.sessionId row.opportunityId f
      { s with lifecycles := flattenLifecycle l at_ s.lifecycles }) := by
  refine { Kept.refl s with opportunity := ?_, flat := ?_ }
  · exact opportunityStep_setOpportunity hs hrow hf (by rw [hstate]; exact .flatten) rfl
  · intro sid lid r hr hflat
    have hfind : (flattenLifecycle l at_ s.lifecycles).find?
        (fun r => r.sessionId = sid ∧ r.lifecycleId = lid) =
          (s.lifecycle sid lid).map fun r => if r.sessionId = l.sessionId ∧
            r.lifecycleId = l.lifecycleId then { r with state := .terminalFlat, updatedAt := at_ }
            else r := by
      rw [flattenLifecycle, Table.find?_setWhere]
      · simp [SessionStore.lifecycle]
      · exact fun _ => rfl
    rw [hr, Option.map_some] at hfind
    refine ⟨_, hfind, ?_⟩
    split
    · rfl
    · exact hflat

theorem Kept.dispose (hs : StoreInv s) {row : OpportunityRow} (hrow : row ∈ s.opportunities)
    (hclaimed : row.state = .claimed) {f : OpportunityRow → OpportunityRow}
    {d : AutonomousDisposition} (hf : Disposes f d) :
    Kept s (setOpportunity row.sessionId row.opportunityId f s) :=
  { Kept.refl s with
    opportunity := opportunityStep_setOpportunity hs hrow hf (by rw [hclaimed]; exact .dispose _) rfl }

theorem Kept.setSession {sid : String} {state : SessionState} {reasons : List ManualReasonRow}
    {summaries : List SummaryRow} (hreasons : ∀ m ∈ s.manualReasons, m ∈ reasons)
    (hsummaries : ∀ sid v, s.finalSummary sid = some v →
      (summaries.find? fun r => r.sessionId = sid).map (·.summary) = some v)
    (hmanual : s.sessionState sid = some .manualReconciliationRequired →
      state = .manualReconciliationRequired) :
    Kept s (Runtime.setSession sid state
      { s with manualReasons := reasons, summaries := summaries }) := by
  refine { Kept.refl s with session := ?_, manual := ?_, reasons := hreasons, summary := hsummaries }
  · intro sid' h
    rw [session_setSession, ne_eq, Option.map_eq_none_iff]
    exact h
  · intro sid' h
    have hsame : SessionStore.sessionState
        { s with manualReasons := reasons, summaries := summaries } sid' =
          some .manualReconciliationRequired := h
    rw [sessionState_setSession, hsame]
    by_cases heq : sid' = sid
    · subst heq
      rw [if_pos rfl, hmanual h]
      rfl
    · rw [if_neg heq]

/-- Every write keeps what `Kept` says. -/
theorem StoreWrite.kept (h : StoreWrite s s') (hs : StoreInv s) : Kept s s' := by
  cases h with
  | arm row ws hnew hstate => exact .arm
  | claim row hnew hstate => exact .claim hstate
  | dispose row hrow hclaimed f d hd hf => exact .dispose hs hrow hclaimed hf
  | activate row hrow hclaimed f hf l hl hactive hidentity hnew hfirst =>
    exact .activate hs hrow hclaimed hf
  | flatten l hl hactive row hrow hkey hstate f hf at_ => exact .flatten hs hrow hstate hf
  | manual sid rows hkeep hreason => exact .setSession hkeep (fun _ _ h => h) fun _ => rfl
  | finalize arm at_ hnone =>
    refine .setSession (fun _ h => h) ?_ ?_
    · intro sid v hv
      obtain ⟨r, hr, rfl⟩ := Option.map_eq_some_iff.mp hv
      rw [find?_append_of_some hr, Option.map_some]
    · intro hmanual
      obtain ⟨r, hr, hstate⟩ := Option.map_eq_some_iff.mp hmanual
      obtain ⟨hmem, hid⟩ := SessionStore.session_eq_some hr
      rcases hs.manual r hmem hstate with ⟨m, hm, hsid⟩ | ⟨v, hv, hsid⟩
      · rw [terminalFlatProven_eq_false hm (hsid.trans hid)]
        rfl
      · exact absurd (hsid.trans hid) (hnone v hv)

/-! ### Repeated transactions -/

/-- The transaction has nothing left to do. -/
def Settled : StoreOp → SessionStore → Prop
  | .ensureArm arm, s => s.session arm.sessionId ≠ none
  | .claim arm o _, s => s.opportunityState arm.sessionId o.opportunityId ≠ none
  | .terminalFlat arm o _ _, s | .disposition arm o _ _, s | .active arm o _ _, s =>
    ∃ d, s.opportunityState arm.sessionId o.opportunityId = some (.disposed d)
  | .lifecycleTerminalFlat arm l _ _, s =>
    ∃ row, s.lifecycle arm.sessionId l.lifecycleId = some row ∧ row.state = .terminalFlat
  | .manual arm reason _ oid lid, s =>
    s.sessionState arm.sessionId = some .manualReconciliationRequired ∧
    ∃ m ∈ s.manualReasons, m.sessionId = arm.sessionId ∧ m.reasonCode = reason ∧
      m.opportunityId = oid ∧ m.lifecycleId = lid
  | .finalize arm _, s => ∃ v, s.finalSummary arm.sessionId = some v

theorem OpportunityStep.ne_none {a b : Option OpportunityState} (h : OpportunityStep a b)
    (ha : a ≠ none) : b ≠ none := by
  cases h with
  | stay => exact ha
  | claim => exact absurd rfl ha
  | dispose d => simp
  | flatten => simp

theorem OpportunityStep.disposed {a b : Option OpportunityState} (h : OpportunityStep a b)
    (ha : ∃ d, a = some (.disposed d)) : ∃ d, b = some (.disposed d) := by
  obtain ⟨d, rfl⟩ := ha
  cases h with
  | stay => exact ⟨d, rfl⟩
  | flatten => exact ⟨_, rfl⟩

theorem Kept.settled (h : Kept s s') {op : StoreOp} (hop : Settled op s) : Settled op s' := by
  cases op with
  | ensureArm arm => exact h.session _ hop
  | claim arm o t => exact (h.opportunity _ _).ne_none hop
  | terminalFlat arm o proof t => exact (h.opportunity _ _).disposed hop
  | disposition arm o d t => exact (h.opportunity _ _).disposed hop
  | active arm o l t => exact (h.opportunity _ _).disposed hop
  | lifecycleTerminalFlat arm l proof t =>
    obtain ⟨row, hrow, hstate⟩ := hop
    exact h.flat _ _ row hrow hstate
  | manual arm reason t oid lid =>
    obtain ⟨hmanual, m, hm, hrest⟩ := hop
    exact ⟨h.manual _ hmanual, m, h.reasons m hm, hrest⟩
  | finalize arm t =>
    obtain ⟨v, hv⟩ := hop
    exact ⟨v, h.summary _ v hv⟩

/-- The state of an opportunity whose row was found, after its row was changed. -/
theorem opportunityState_setOpportunity {sid oid : String} {row : OpportunityRow}
    {f : OpportunityRow → OpportunityRow} {d : AutonomousDisposition}
    (hrow : s.opportunity sid oid = some row) (hf : Disposes f d) :
    (setOpportunity sid oid f s).opportunityState sid oid = some (.disposed d) := by
  rw [SessionStore.opportunityState, opportunity_setOpportunity hf, hrow, Option.map_some,
    Option.map_some, if_pos (SessionStore.opportunity_eq_some hrow).2, hf.state]

theorem opportunityState_disposed {sid oid : String} {row : OpportunityRow}
    (hrow : s.opportunity sid oid = some row) (hstate : row.state ≠ .claimed) :
    ∃ d, s.opportunityState sid oid = some (.disposed d) := by
  rw [SessionStore.opportunityState, hrow, Option.map_some]
  cases h : row.state with
  | claimed => exact absurd h hstate
  | disposed d => exact ⟨d, rfl⟩

theorem exists_markedReasons (sid : String) (reason : ReasonCode) (t : DateTime)
    (oid lid : Option String) (rows : List ManualReasonRow) :
    ∃ m ∈ markedReasons sid reason t oid lid rows, m.sessionId = sid ∧ m.reasonCode = reason ∧
      m.opportunityId = oid ∧ m.lifecycleId = lid := by
  unfold markedReasons
  split
  · rename_i hany
    obtain ⟨m, hm, h⟩ := List.any_eq_true.mp hany
    exact ⟨m, hm, by simpa using h⟩
  · exact ⟨_, List.mem_append_right _ (List.mem_singleton_self _), rfl, rfl, rfl, rfl⟩

theorem ne_claimed_of_disposed {sid oid : String} {row : OpportunityRow}
    (h : ∃ d, s.opportunityState sid oid = some (.disposed d))
    (hrow : s.opportunity sid oid = some row) : row.state ≠ .claimed := by
  obtain ⟨d, hd⟩ := h
  rw [SessionStore.opportunityState, hrow, Option.map_some] at hd
  rw [Option.some.inj hd]
  simp

theorem markedReasons_eq_self {sid : String} {reason : ReasonCode} {t : DateTime}
    {oid lid : Option String} {rows : List ManualReasonRow}
    (h : ∃ m ∈ rows, m.sessionId = sid ∧ m.reasonCode = reason ∧ m.opportunityId = oid ∧
      m.lifecycleId = lid) : markedReasons sid reason t oid lid rows = rows := by
  obtain ⟨m, hm, hrest⟩ := h
  rw [markedReasons, if_pos]
  exact List.any_eq_true.mpr ⟨m, hm, by simpa using hrest⟩

/-- To give a session the state it has changes nothing. -/
theorem setSession_eq_self (hs : StoreInv s) {sid : String} {state : SessionState}
    (h : s.sessionState sid = some state) : setSession sid state s = s := by
  obtain ⟨r, hr, rfl⟩ := Option.map_eq_some_iff.mp h
  obtain ⟨hmem, rfl⟩ := SessionStore.session_eq_some hr
  have hrows : Table.setWhere (fun r' => decide (r'.sessionId = r.sessionId))
      (fun r' => { r' with state := r.state }) s.sessions = s.sessions := by
    rw [Table.setWhere]
    conv_rhs => rw [← List.map_id s.sessions]
    apply List.map_congr_left
    intro r' hr'
    split
    · rename_i hid
      rw [Table.eq_of_key hs.sessionIds hr' hmem (by simpa using hid)]
      rfl
    · rfl
  rw [setSession, hrows]

namespace StoreOp

/-- A transaction that returned is settled. -/
theorem settled_of_ok (hs : StoreInv s) {op : StoreOp} {a : op.Res}
    (h : op.txn K s = .ok a s') : Settled op s' := by
  cases op with
  | ensureArm arm =>
    rcases (ensureArm_eq_ok.mp h).2 with ⟨row, hrow, -, -, rfl⟩ | ⟨hnone, rfl⟩
    · simp [Settled, hrow]
    · simp [Settled, SessionStore.session, newSession]
  | claim arm o t =>
    rcases claimPart_ok h with ⟨row, hrow, -, rfl⟩ | ⟨hnone, -, rfl⟩
    · simp [Settled, SessionStore.opportunityState, hrow]
    · simp [Settled, SessionStore.opportunityState, SessionStore.opportunity, newOpportunity]
  | terminalFlat arm o proof t =>
    obtain ⟨row, hrow, ⟨hstate, rfl⟩ | ⟨-, f, hf, rfl⟩⟩ := terminalFlatPart_ok h
    · exact opportunityState_disposed hrow hstate
    · exact ⟨_, opportunityState_setOpportunity hrow hf⟩
  | disposition arm o d t =>
    obtain ⟨row, hrow, ⟨hstate, rfl⟩ | ⟨-, f, hf, rfl⟩⟩ := dispositionPart_ok h
    · exact opportunityState_disposed hrow hstate
    · exact ⟨_, opportunityState_setOpportunity hrow hf⟩
  | active arm o l t =>
    obtain ⟨row, hrow, ⟨hstate, rfl⟩ | ⟨-, -, -, -, -, -, f, t', hf, rfl⟩⟩ := activePart_ok h
    · exact opportunityState_disposed hrow hstate
    · have hrow' : SessionStore.opportunity
          { s with lifecycles := s.lifecycles ++ [newLifecycle arm o l t'] }
          arm.sessionId o.opportunityId = some row := hrow
      exact ⟨_, opportunityState_setOpportunity hrow' hf⟩
  | lifecycleTerminalFlat arm l proof t =>
    obtain ⟨row, hrow, -, -, ⟨hstate, rfl⟩ | ⟨-, o, f, t', -, -, -, rfl⟩⟩ :=
      lifecycleTerminalFlatPart_ok h
    · exact ⟨row, hrow, hstate⟩
    · obtain ⟨hsid, hlid⟩ := Prod.mk.inj (SessionStore.lifecycle_eq_some hrow).2
      refine ⟨{ row with state := .terminalFlat, updatedAt := t' }, ?_, rfl⟩
      show (Table.setWhere _ _ s.lifecycles).find? _ = _
      rw [Table.find?_setWhere]
      · rw [show s.lifecycles.find? _ = some row from hrow, Option.map_some, if_pos]
        simp [hsid, hlid]
      · exact fun _ => rfl
  | manual arm reason t oid lid =>
    obtain ⟨-, -, -, hsession, rfl⟩ := manualPart_eq_ok.mp h
    refine ⟨?_, exists_markedReasons _ _ t _ _ s.manualReasons⟩
    obtain ⟨r, hr⟩ := Option.ne_none_iff_exists'.mp hsession
    have hstate : SessionStore.sessionState { s with
        manualReasons := markedReasons arm.sessionId reason t oid lid s.manualReasons }
        arm.sessionId = some r.state := congrArg (Option.map SessionRow.state) hr
    rw [sessionState_setSession, if_pos rfl, hstate, Option.map_some]
  | finalize arm t =>
    obtain ⟨-, ⟨hsummary, rfl⟩ | ⟨hnone, -, rfl, rfl⟩⟩ := finalizePart_eq_ok.mp h
    · exact ⟨_, hsummary⟩
    · simp [Settled, SessionStore.finalSummary, setSession]

/-- A settled transaction writes nothing. -/
theorem exec_of_settled (hs : StoreInv s) {op : StoreOp} (hop : Settled op s) :
    op.exec K s = s := by
  rcases (op.atomic_txn K).after_cases s with ⟨a, h⟩ | h
  · show (op.txn K).after s = s
    generalize (op.txn K).after s = s' at h
    cases op with
    | ensureArm arm =>
      rcases (ensureArm_eq_ok.mp h).2 with ⟨_, -, -, -, rfl⟩ | ⟨hnone, -⟩
      · rfl
      · exact absurd hnone hop
    | claim arm o t =>
      rcases claimPart_ok h with ⟨_, -, -, rfl⟩ | ⟨hnone, -, -⟩
      · rfl
      · exact absurd (by rw [SessionStore.opportunityState, hnone]; rfl) hop
    | terminalFlat arm o proof t =>
      obtain ⟨row, hrow, ⟨-, rfl⟩ | ⟨hclaimed, -⟩⟩ := terminalFlatPart_ok h
      · rfl
      · exact absurd hclaimed (ne_claimed_of_disposed hop hrow)
    | disposition arm o d t =>
      obtain ⟨row, hrow, ⟨-, rfl⟩ | ⟨hclaimed, -⟩⟩ := dispositionPart_ok h
      · rfl
      · exact absurd hclaimed (ne_claimed_of_disposed hop hrow)
    | active arm o l t =>
      obtain ⟨row, hrow, ⟨-, rfl⟩ | ⟨hclaimed, -⟩⟩ := activePart_ok h
      · rfl
      · exact absurd hclaimed (ne_claimed_of_disposed hop hrow)
    | lifecycleTerminalFlat arm l proof t =>
      obtain ⟨row, hrow, -, -, ⟨-, rfl⟩ | ⟨hactive, -⟩⟩ := lifecycleTerminalFlatPart_ok h
      · rfl
      · obtain ⟨row', hrow', hflat⟩ := hop
        rw [hrow] at hrow'
        cases hrow'
        rw [hactive] at hflat
        cases hflat
    | manual arm reason t oid lid =>
      obtain ⟨-, -, -, -, rfl⟩ := manualPart_eq_ok.mp h
      rw [markedReasons_eq_self hop.2]
      exact setSession_eq_self hs hop.1
    | finalize arm t =>
      obtain ⟨-, ⟨-, rfl⟩ | ⟨hnone, -, -, -⟩⟩ := finalizePart_eq_ok.mp h
      · rfl
      · obtain ⟨v, hv⟩ := hop
        rw [hnone] at hv
        cases hv
  · exact h

/-- A transaction keeps the invariant, whether it returned or raised. -/
theorem exec_inv (K : Contracts) (op : StoreOp) (hs : StoreInv s) : StoreInv (op.exec K s) := by
  rcases op.step K hs with h | h
  · rw [h]
    exact hs
  · exact h.inv hs

theorem exec_kept (K : Contracts) (op : StoreOp) (hs : StoreInv s) : Kept s (op.exec K s) := by
  rcases op.step K hs with h | h
  · rw [h]
    exact .refl s
  · exact h.kept hs

/-- A transaction that raised writes nothing when it is repeated, and one that returned neither. -/
theorem exec_exec (K : Contracts) (op : StoreOp) (hs : StoreInv s) :
    op.exec K (op.exec K s) = op.exec K s := by
  rcases (op.atomic_txn K).after_cases s with ⟨a, h⟩ | h
  · exact exec_of_settled (op.exec_inv K hs) (settled_of_ok hs h)
  · rw [show op.exec K s = s from h]
    exact h

/-! ### Operations -/

def arm : StoreOp → AutonomousSessionArm
  | ensureArm arm | claim arm .. | terminalFlat arm .. | disposition arm .. | active arm ..
  | lifecycleTerminalFlat arm .. | manual arm .. | finalize arm .. => arm

/-- `ensure_arm`, and unless that raises the transaction. -/
def afterEnsure (K : Contracts) (s : SessionStore) (op : StoreOp) : SessionStore :=
  match Runtime.ensureArm K op.arm s with
  | .ok _ s₁ => op.exec K s₁
  | .error _ s₁ => s₁

/-- The store after an operation, whether it returned or raised. -/
def call (K : Contracts) (s : SessionStore) : StoreOp → SessionStore
  | ensureArm arm => (ensureArm arm).exec K s
  | op => op.afterEnsure K s

def Returns (K : Contracts) (s : SessionStore) (op : StoreOp) : Prop :=
  ∃ s₁ a s₂, Runtime.ensureArm K op.arm s = .ok () s₁ ∧ op.txn K s₁ = .ok a s₂

theorem call_eq_afterEnsure (K : Contracts) (hs : StoreInv s) (op : StoreOp) :
    op.call K s = op.afterEnsure K s := by
  cases op with
  | ensureArm arm =>
    unfold afterEnsure
    cases h : Runtime.ensureArm K (ensureArm arm).arm s with
    | ok u s₁ =>
      have hfirst : (ensureArm arm).exec K s = s₁ := after_of_ok h
      show (ensureArm arm).exec K s = (ensureArm arm).exec K s₁
      rw [← hfirst]
      exact (exec_exec K _ hs).symm
    | error e s₁ =>
      show (Runtime.ensureArm K arm).after s = s₁
      rw [after, show Runtime.ensureArm K arm s = .error e s₁ from h]
  | _ => rfl

/-- An operation whose two transactions return. -/
theorem call_of_ok (hs : StoreInv s) {op : StoreOp} {s₁ s₂ : SessionStore} {a : op.Res}
    (harm : Runtime.ensureArm K op.arm s = .ok () s₁) (hop : op.txn K s₁ = .ok a s₂) :
    op.call K s = s₂ := by
  rw [call_eq_afterEnsure K hs, afterEnsure, harm]
  exact after_of_ok hop

/-- An operation does nothing, or runs its transaction on a store that holds its arm. -/
theorem call_cases (K : Contracts) (hs : StoreInv s) (op : StoreOp) :
    op.call K s = s ∨ Settled (.ensureArm op.arm) ((ensureArm op.arm).exec K s) ∧
      op.call K s = op.exec K ((ensureArm op.arm).exec K s) := by
  rw [call_eq_afterEnsure K hs]
  unfold afterEnsure
  cases h : Runtime.ensureArm K op.arm s with
  | ok u s₁ =>
    have hexec : (ensureArm op.arm).exec K s = s₁ := after_of_ok h
    have hok : (ensureArm op.arm).txn K s = .ok u s₁ := h
    rw [hexec]
    exact .inr ⟨settled_of_ok hs hok, rfl⟩
  | error e s₁ => exact .inl ((ensureArm op.arm).atomic_txn K s e s₁ h)

theorem call_inv (K : Contracts) (op : StoreOp) (hs : StoreInv s) : StoreInv (op.call K s) := by
  rcases op.call_cases K hs with h | ⟨-, h⟩
  · rw [h]
    exact hs
  · rw [h]
    exact op.exec_inv K (exec_inv K _ hs)

/-- `ensure_arm` touches no opportunity. -/
theorem opportunityState_ensureArm (K : Contracts) (arm : AutonomousSessionArm) (s : SessionStore)
    (sid oid : String) :
    ((ensureArm arm).exec K s).opportunityState sid oid = s.opportunityState sid oid := by
  rcases ((ensureArm arm).atomic_txn K).after_cases s with ⟨a, h⟩ | h
  · show ((Runtime.ensureArm K arm).after s).opportunityState sid oid = _
    change _ = EStateM.Result.ok a ((Runtime.ensureArm K arm).after s) at h
    generalize (Runtime.ensureArm K arm).after s = s₁ at h
    rcases (ensureArm_eq_ok.mp h).2 with ⟨_, -, -, -, rfl⟩ | ⟨-, rfl⟩
    · rfl
    · rfl
  · rw [show (ensureArm arm).exec K s = s from h]

theorem call_opportunityStep (K : Contracts) (op : StoreOp) (hs : StoreInv s) (sid oid : String) :
    OpportunityStep (s.opportunityState sid oid) ((op.call K s).opportunityState sid oid) := by
  rcases op.call_cases K hs with h | ⟨-, h⟩
  · rw [h]
    exact .stay _
  · rw [h, ← opportunityState_ensureArm K op.arm s sid oid]
    exact (op.exec_kept K (exec_inv K _ hs)).opportunity sid oid

theorem call_settled (K : Contracts) (op : StoreOp) (hs : StoreInv s) {op' : StoreOp}
    (h' : Settled op' s) : Settled op' (op.call K s) := by
  rcases op.call_cases K hs with h | ⟨-, h⟩
  · rw [h]
    exact h'
  · rw [h]
    have hs₁ := exec_inv K (ensureArm op.arm) hs
    exact (op.exec_kept K hs₁).settled ((exec_kept K _ hs).settled h')

/-- An operation that has nothing left to do changes nothing. -/
theorem call_eq_self (hs : StoreInv s) {op : StoreOp} (harm : Settled (.ensureArm op.arm) s)
    (hop : op.exec K s = s) : op.call K s = s := by
  rcases op.call_cases K hs with h | ⟨-, h⟩
  · exact h
  · rw [h, exec_of_settled hs harm, hop]

/-- The repeated operation changes nothing. -/
theorem call_call (K : Contracts) (op : StoreOp) (hs : StoreInv s) :
    op.call K (op.call K s) = op.call K s := by
  rcases op.call_cases K hs with h | ⟨harm, h⟩
  · rw [h]
    exact h
  · have hs₁ := exec_inv K (ensureArm op.arm) hs
    rw [h]
    exact call_eq_self (op.exec_inv K hs₁) ((op.exec_kept K hs₁).settled harm) (exec_exec K op hs₁)

theorem Returns.settled {op : StoreOp} (hs : StoreInv s) (h : op.Returns K s) :
    Settled (.ensureArm op.arm) (op.call K s) ∧ Settled op (op.call K s) := by
  obtain ⟨s₁, a, s₂, harm, hop⟩ := h
  have hs₁ : StoreInv s₁ := by
    rw [← show (ensureArm op.arm).exec K s = s₁ from after_of_ok harm]
    exact exec_inv K _ hs
  have hcall : op.call K s = s₂ := call_of_ok hs harm hop
  have hs₂ : op.exec K s₁ = s₂ := after_of_ok hop
  have hok : (ensureArm op.arm).txn K s = .ok () s₁ := harm
  rw [hcall]
  refine ⟨?_, settled_of_ok hs₁ hop⟩
  rw [← hs₂]
  exact (op.exec_kept K hs₁).settled (settled_of_ok hs hok)

end StoreOp

/-! ### Runs -/

def runOps (K : Contracts) (s : SessionStore) (ops : List StoreOp) : SessionStore :=
  ops.foldl (StoreOp.call K) s

/-- The stores that a sequence of operations goes through. -/
def trail (K : Contracts) (s : SessionStore) : List StoreOp → List SessionStore
  | [] => [s]
  | op :: ops => s :: trail K (op.call K s) ops

theorem runOps_nil (K : Contracts) (s : SessionStore) : runOps K s [] = s := rfl

theorem runOps_cons (K : Contracts) (s : SessionStore) (op : StoreOp) (ops : List StoreOp) :
    runOps K s (op :: ops) = runOps K (op.call K s) ops := rfl

theorem runOps_inv (K : Contracts) (ops : List StoreOp) (hs : StoreInv s) :
    StoreInv (runOps K s ops) := by
  induction ops generalizing s with
  | nil => exact hs
  | cons op ops ih => exact ih (op.call_inv K hs)

theorem runOps_settled (K : Contracts) (ops : List StoreOp) (hs : StoreInv s) {op : StoreOp}
    (h : Settled op s) : Settled op (runOps K s ops) := by
  induction ops generalizing s with
  | nil => exact h
  | cons op' ops ih => exact ih (op'.call_inv K hs) (op'.call_settled K hs h)

theorem runOps_append (K : Contracts) (s : SessionStore) (pre post : List StoreOp) :
    runOps K s (pre ++ post) = runOps K (runOps K s pre) post :=
  List.foldl_append

theorem trail_isChain (K : Contracts) (ops : List StoreOp) (hs : StoreInv s) (sid oid : String) :
    ((trail K s ops).map (·.opportunityState sid oid)).IsChain OpportunityStep := by
  induction ops generalizing s with
  | nil => simp [trail]
  | cons op ops ih =>
    have hrest := ih (op.call_inv K hs)
    have hstep := op.call_opportunityStep K hs sid oid
    cases ops with
    | nil => simpa [trail] using hstep
    | cons op' ops =>
      simp only [trail, List.map_cons, List.isChain_cons_cons] at hrest ⊢
      exact ⟨hstep, hrest⟩

theorem StoreInv.opportunityState (hs : StoreInv s) {l : LifecycleRow} (hl : l ∈ s.lifecycles) :
    ∃ r, s.opportunity l.sessionId l.opportunityId = some r ∧
      r.state = .disposed l.state.disposition := by
  obtain ⟨r, hr, hkey, -⟩ := hs.attributed l hl
  cases hrow : s.opportunity l.sessionId l.opportunityId with
  | none => exact absurd hkey (SessionStore.opportunity_eq_none.mp hrow r hr)
  | some r' =>
    obtain ⟨hr', hkey'⟩ := SessionStore.opportunity_eq_some hrow
    exact ⟨r', rfl, hs.active_of_opportunity hl hr' hkey'⟩

theorem LifecycleState.disposition_eq_active {state : LifecycleState} :
    state.disposition = .active ↔ state = .active := by
  cases state <;> simp [LifecycleState.disposition]

/-- Every run of the store, failing operations included: histories are paths of `OpportunityStep`s,
lifecycles go with opportunities, what is terminal-flat carries a proof, and a repeated operation
changes nothing. -/
theorem session_store_runs (K : Contracts) (ops : List StoreOp) :
    (∀ sid oid, ((trail K .empty ops).map (·.opportunityState sid oid)).IsChain OpportunityStep) ∧
    ((runOps K .empty ops).lifecycles.map (·.opportunityKey)).Nodup ∧
    (∀ l ∈ (runOps K .empty ops).lifecycles, l.state = .active ↔
      (runOps K .empty ops).opportunityState l.sessionId l.opportunityId =
        some (.disposed .active)) ∧
    (∀ r ∈ (runOps K .empty ops).opportunities, r.state = .disposed .active →
      ∃ l ∈ (runOps K .empty ops).lifecycles, l.opportunityKey = r.key) ∧
    (∀ r ∈ (runOps K .empty ops).opportunities, r.state = .disposed .terminalFlat →
      r.terminalFlatProofSha256.isSome) ∧
    (∀ l ∈ (runOps K .empty ops).lifecycles, l.state = .terminalFlat →
      ∃ r, (runOps K .empty ops).opportunity l.sessionId l.opportunityId = some r ∧
        r.terminalFlatProofSha256.isSome) ∧
    (∀ op : StoreOp, op.call K (op.call K (runOps K .empty ops)) =
      op.call K (runOps K .empty ops)) ∧
    ∀ pre op post, ops = pre ++ op :: post → op.Returns K (runOps K .empty pre) →
      op.call K (runOps K .empty ops) = runOps K .empty ops := by
  have hs := runOps_inv K ops storeInv_empty
  refine ⟨trail_isChain K ops storeInv_empty, hs.lifecycleOpportunities, ?_, hs.activeOwned,
    hs.proofs, ?_, fun op => op.call_call K hs, ?_⟩
  · intro l hl
    obtain ⟨r, hr, hstate⟩ := hs.opportunityState hl
    rw [SessionStore.opportunityState, hr, Option.map_some, hstate, Option.some.injEq,
      OpportunityState.disposed.injEq, LifecycleState.disposition_eq_active]
  · intro l hl hflat
    obtain ⟨r, hr, hstate⟩ := hs.opportunityState hl
    rw [hflat] at hstate
    exact ⟨r, hr, hs.proofs r (SessionStore.opportunity_eq_some hr).1 hstate⟩
  · rintro pre op post rfl hreturns
    have hpre := runOps_inv K pre storeInv_empty
    obtain ⟨harm, hop⟩ := hreturns.settled hpre
    have hcall := op.call_inv K hpre
    rw [runOps_append] at hs ⊢
    have harm' := runOps_settled K post hcall harm
    have hop' := runOps_settled K post hcall hop
    exact StoreOp.call_eq_self hs harm' (StoreOp.exec_of_settled hs hop')

end EsscherMarket.Runtime
