import EsscherMarket.Risk.Kernel.Alone

/-!
# The V1 limits under every interleaving

Kernel calls under one V1 policy, interleaved on one ledger.
-/

namespace EsscherMarket.Risk

open Lib Execution Prog

/-! ### Open exposure -/

/-- The exact amount of a reservation, zero where its text is malformed. -/
def amountValue (r : ReservationRow) : ℚ := (r.amount.value.map Decimal.toRat).getD 0

def amountOn (underlying : String) (r : ReservationRow) : ℚ :=
  if r.underlying = underlying then amountValue r else 0

namespace Ledger

def openSum (s : Ledger) (w : ReservationRow → ℚ) : ℚ := (s.openReservations.map w).sum

def openTotal (s : Ledger) : ℚ := s.openSum amountValue

def openTotalFor (s : Ledger) (underlying : String) : ℚ := s.openSum (amountOn underlying)

end Ledger

theorem sumReservations_ok {rows : List ReservationRow} {q : ℚ} (h : sumReservations rows = .ok q) :
    q = (rows.map amountValue).sum := by
  induction rows generalizing q with
  | nil =>
    cases h
    rfl
  | cons r rest ih =>
    simp only [sumReservations, except_bind_eq_ok, except_pure_eq_ok] at h
    obtain ⟨d, hd, total, htotal, rfl⟩ := h
    have hvalue : amountValue r = d.toRat := by
      unfold storedAmount at hd
      cases hv : r.amount.value with
      | none =>
        rw [hv] at hd
        cases hd
      | some d' =>
        rw [hv] at hd
        obtain ⟨-, rfl⟩ := amountOf_eq_ok.mp hd
        simp [amountValue, hv]
    rw [List.map_cons, List.sum_cons, hvalue, ih htotal]

theorem openReservationCount_eq (s : Ledger) :
    (s.openReservationCount : ℚ) = s.openSum fun _ => 1 := by
  simp [Ledger.openReservationCount, Ledger.openSum]

/-! ### What a step does to the reservations -/

/-- Reservations are rewritten in place, and none is opened. -/
structure Shrinks (s s' : Ledger) (g : ReservationRow → ReservationRow) : Prop where
  rows : s'.reservations = s.reservations.map g
  same : ∀ r, (g r).eventId = r.eventId ∧ (g r).amount = r.amount ∧
    (g r).underlying = r.underlying ∧ (g r).createdAt = r.createdAt
  opens : ∀ r ∈ s.reservations, (g r).state.isOpen → r.state.isOpen

/-- What a call that the monitor allows does to the reservations. -/
inductive ReservationStep (s s' : Ledger) (c : LedgerCall) : Prop where
  | frame (h : s'.reservations = s.reservations)
  | hold (a : ReserveArgs) (hc : c = .reserveAndIssuePermit a) (hargs : ReserveArgsOk a)
      (hbudgets : BudgetsOk s a) (hfree : V1Free s a) (h : s' = s.held a)
  | shrink (g : ReservationRow → ReservationRow) (h : Shrinks s s' g)

/-- Events are unique, so setting the state of an open event's rows opens none. -/
theorem shrinks_reservationsSet {s s' : Ledger} {event : String} {q : ReservationState}
    {now : DateTime} {r : ReservationRow} (hevents : (s.reservations.map (·.eventId)).Nodup)
    (hr : s.reservationForEvent event = some r) (hopen : r.state.isOpen)
    (h : s'.reservations = reservationsSet event q now s.reservations) :
    Shrinks s s' fun r =>
      if r.eventId = event then { r with state := q, updatedAt := now } else r := by
  refine ⟨by simpa [reservationsSet, Table.setWhere] using h, ?_, ?_⟩
  · intro r'
    split <;> exact ⟨rfl, rfl, rfl, rfl⟩
  · intro r' hr' ho
    split at ho
    · rename_i he
      rw [Ledger.reservationForEvent] at hr
      have hkey : r.eventId = event := by
        simpa using List.find?_some hr
      have hrow : r' = r :=
        Table.eq_of_key hevents hr' (List.mem_of_find?_eq_some hr) (he.trans hkey.symm)
      rw [hrow]
      exact hopen
    · exact ho

theorem ReservationStep.of_after {α : Type} {x : LedgerTxn α} {s : Ledger} {c : LedgerCall}
    (hx : Txn.Atomic x) (hok : ∀ {a s'}, x s = .ok a s' → ReservationStep s s' c) :
    ReservationStep s (Txn.after x s) c := by
  rcases hx.after_cases s with ⟨a, ha⟩ | hs
  · exact hok ha
  · rw [hs]
    exact .frame rfl

/-- What a call of a V1 kernel does to the reservations. -/
theorem reservationStep_exec {s : Ledger} {t : Seen} {c : LedgerCall} {p : RiskPolicy}
    (hevents : (s.reservations.map (·.eventId)).Nodup) (ht : t.policy = .v1 p)
    (hallows : t.allows c) : ReservationStep s (c.exec s) c := by
  cases c with
  | freezeCandidate a =>
    refine .of_after (atomic_freezeCandidate a) fun hok => ?_
    obtain ⟨rows, events, rfl⟩ := freezeCandidate_ok hok
    exact .frame rfl
  | markNotRun eventId reason now =>
    refine .of_after (atomic_recordNotRunWith true eventId reason now) fun hok => ?_
    obtain ⟨-, events, rfl⟩ := recordNotRunWith_ok hok
    exact .frame rfl
  | recordAccountSnapshot equity now =>
    refine .of_after (atomic_recordAccountSnapshot equity now) fun hok => ?_
    obtain ⟨rows, rfl⟩ := recordAccountSnapshot_ok hok
    exact .frame rfl
  | setControlStateWithPassport state reason payload now =>
    refine .of_after (atomic_setControlStateWithPassport state reason payload now) fun hok => ?_
    obtain ⟨events, rfl⟩ := setControlStateWithPassport_ok hok
    exact .frame rfl
  | recordSubmission a =>
    refine .of_after (atomic_recordSubmission a) fun hok => ?_
    obtain ⟨_, _, events, -, -, -, -, -, -, -, rfl⟩ := recordSubmission_ok hok
    exact .frame rfl
  | reconcileObservedOrder a =>
    refine .of_after (atomic_reconcileObservedOrder a) fun hok => ?_
    obtain ⟨_, r, _, q, fills, events, -, -, -, hr, -, hst, -, rfl⟩ := reconcileObservedOrder_ok hok
    exact .shrink _ (shrinks_reservationsSet hevents hr (by rw [hst]; rfl) rfl)
  | releaseConsumedAfterFlat eventId permitId now =>
    refine .of_after (atomic_releaseConsumedAfterFlat eventId permitId now) fun hok => ?_
    obtain ⟨_, r, events, -, -, -, hr, -, hst, rfl⟩ := releaseConsumedAfterFlat_ok hok
    exact .shrink _ (shrinks_reservationsSet hevents hr (by rw [hst]; rfl) rfl)
  | reserveAndIssuePermit a =>
    refine .of_after (atomic_reserveAndIssuePermit a) fun hok => ?_
    obtain ⟨hargs, -, hbudgets, hfree, -, rfl⟩ := reserveAndIssuePermit_eq_ok.mp hok
    exact .hold a rfl hargs hbudgets hfree rfl
  | reserveV2AndIssuePermit a =>
    obtain ⟨-, p', hp'⟩ := hallows
    rw [ht] at hp'
    cases hp'
  | _ => exact hallows.elim

/-! ### Sums over a step -/

theorem sum_filter_map_le {l : List ReservationRow} {g : ReservationRow → ReservationRow}
    {w : ReservationRow → ℚ} (hw : ∀ r ∈ l, 0 ≤ w r) (hg : ∀ r, w (g r) = w r)
    (hopen : ∀ r ∈ l, (g r).state.isOpen → r.state.isOpen) :
    (((l.map g).filter fun r => r.state.isOpen).map w).sum ≤
      ((l.filter fun r => r.state.isOpen).map w).sum := by
  induction l with
  | nil => rfl
  | cons r rest ih =>
    have hrest := ih (fun r' h => hw r' (List.mem_cons_of_mem r h))
      fun r' h => hopen r' (List.mem_cons_of_mem r h)
    have hr := hw r List.mem_cons_self
    have ho := hopen r List.mem_cons_self
    cases hgo : (g r).state.isOpen with
    | true =>
      simp [hgo, ho hgo, hg]
      exact hrest
    | false =>
      cases hro : r.state.isOpen with
      | true =>
        simp [hgo, hro]
        linarith
      | false =>
        simp [hgo, hro]
        exact hrest

theorem Shrinks.openSum_le {s s' : Ledger} {g : ReservationRow → ReservationRow}
    (h : Shrinks s s' g) {w : ReservationRow → ℚ} (hw : ∀ r ∈ s.reservations, 0 ≤ w r)
    (hg : ∀ r, w (g r) = w r) : s'.openSum w ≤ s.openSum w := by
  unfold Ledger.openSum Ledger.openReservations
  rw [h.rows]
  exact sum_filter_map_le hw hg h.opens

theorem openSum_held (s : Ledger) (a : ReserveArgs) (w : ReservationRow → ℚ) :
    (s.held a).openSum w = s.openSum w + w (newReservation ("rsv-" ++ a.eventId) a.eventId
      (.ofStr a.amount) a.underlying a.now) := by
  simp [Ledger.openSum, Ledger.openReservations, Ledger.held, newReservation,
    ReservationState.isOpen]

theorem amountValue_held (a : ReserveArgs) :
    amountValue (newReservation ("rsv-" ++ a.eventId) a.eventId (.ofStr a.amount) a.underlying
      a.now) = a.amount.toRat := rfl

theorem openTotalFor_held (s : Ledger) (a : ReserveArgs) (underlying : String) :
    (s.held a).openTotalFor underlying =
      s.openTotalFor underlying + if a.underlying = underlying then a.amount.toRat else 0 := by
  rw [Ledger.openTotalFor, openSum_held, amountOn, amountValue_held]
  rfl

/-! ### The invariants -/

/-- One reservation for each event, and no negative amount. -/
structure SoundBook (s : Ledger) : Prop where
  events : (s.reservations.map (·.eventId)).Nodup
  amounts : ∀ r ∈ s.reservations, 0 ≤ amountValue r

/-- The limits of a V1 policy that its reservation transaction rechecks. -/
structure WithinLimits (p : RiskPolicy) (s : Ledger) : Prop where
  sound : SoundBook s
  aggregate : s.openTotal ≤ p.aggregateExposureLimit.toRat
  expressions : (s.openReservationCount : Int) ≤ p.maxOpenExpressions
  entries : ∀ now, (s.entriesToday now : Int) ≤ p.maxEntriesPerDay

/-- The limit that its kernel checks before the transaction. -/
structure WithinConcentration (p : RiskPolicy) (s : Ledger) : Prop where
  sound : SoundBook s
  each : ∀ underlying, s.openTotalFor underlying ≤ p.concentrationLimit.toRat

theorem RiskPolicy.positive (p : RiskPolicy) :
    0 < p.aggregateExposureLimit.toRat ∧ 0 < p.concentrationLimit.toRat ∧
      0 < p.maxOpenExpressions ∧ 0 < p.maxEntriesPerDay := by
  have h := p.accepted
  simp only [RiskPolicyFields.check, isPositive, Bool.and_eq_true, decide_eq_true_eq] at h
  tauto

theorem openReservations_congr {s s' : Ledger} (h : s'.reservations = s.reservations) :
    s'.openReservations = s.openReservations := by
  rw [Ledger.openReservations, h, Ledger.openReservations]

namespace Shrinks

variable {s s' : Ledger} {g : ReservationRow → ReservationRow}

theorem amountValue (h : Shrinks s s' g) (r : ReservationRow) :
    Risk.amountValue (g r) = Risk.amountValue r := by
  rw [Risk.amountValue, (h.same r).2.1, Risk.amountValue]

theorem amountOn (h : Shrinks s s' g) (underlying : String) (r : ReservationRow) :
    Risk.amountOn underlying (g r) = Risk.amountOn underlying r := by
  rw [Risk.amountOn, (h.same r).2.2.1, h.amountValue, Risk.amountOn]

end Shrinks

namespace SoundBook

variable {s s' : Ledger}

theorem empty : SoundBook Ledger.empty := by
  constructor <;> simp [Ledger.empty]

theorem frame (h : SoundBook s) (hr : s'.reservations = s.reservations) : SoundBook s' :=
  ⟨hr ▸ h.events, hr ▸ h.amounts⟩

theorem shrink (h : SoundBook s) {g : ReservationRow → ReservationRow} (hg : Shrinks s s' g) :
    SoundBook s' := by
  refine ⟨?_, ?_⟩
  · rw [hg.rows, List.map_map]
    simpa [Function.comp_def, hg.same] using h.events
  · intro r hr
    rw [hg.rows] at hr
    obtain ⟨r₀, hr₀, rfl⟩ := List.mem_map.mp hr
    rw [hg.amountValue]
    exact h.amounts r₀ hr₀

theorem hold (h : SoundBook s) {a : ReserveArgs} (hargs : ReserveArgsOk a) (hfree : V1Free s a) :
    SoundBook (s.held a) := by
  refine ⟨Table.nodup_map_concat h.events hfree.events, ?_⟩
  intro r hr
  rcases List.mem_append.mp hr with hr | hr
  · exact h.amounts r hr
  · rw [List.mem_singleton.mp hr, amountValue_held]
    exact hargs.amountNonneg.2

theorem amountOn_nonneg (h : SoundBook s) (underlying : String) :
    ∀ r ∈ s.reservations, 0 ≤ amountOn underlying r := by
  intro r hr
  unfold amountOn
  split
  · exact h.amounts r hr
  · exact le_rfl

end SoundBook

namespace WithinLimits

variable {p : RiskPolicy} {s s' : Ledger}

theorem empty (p : RiskPolicy) : WithinLimits p Ledger.empty := by
  obtain ⟨haggregate, -, hexpressions, hentries⟩ := p.positive
  exact ⟨.empty, haggregate.le, hexpressions.le, fun _ => hentries.le⟩

theorem frame (h : WithinLimits p s) (hr : s'.reservations = s.reservations) :
    WithinLimits p s' := by
  have hopen := openReservations_congr hr
  refine ⟨h.sound.frame hr, ?_, ?_, ?_⟩
  · rw [Ledger.openTotal, Ledger.openSum, hopen]
    exact h.aggregate
  · rw [Ledger.openReservationCount, hopen]
    exact h.expressions
  · intro now
    rw [Ledger.entriesToday, hr]
    exact h.entries now

theorem shrink (h : WithinLimits p s) {g : ReservationRow → ReservationRow}
    (hg : Shrinks s s' g) : WithinLimits p s' := by
  refine ⟨h.sound.shrink hg, ?_, ?_, ?_⟩
  · exact (hg.openSum_le h.sound.amounts hg.amountValue).trans h.aggregate
  · have hcount : (s'.openReservationCount : ℚ) ≤ s.openReservationCount := by
      rw [openReservationCount_eq, openReservationCount_eq]
      exact hg.openSum_le (fun _ _ => zero_le_one) fun _ => rfl
    have hle : s'.openReservationCount ≤ s.openReservationCount := by
      exact_mod_cast hcount
    exact le_trans (by exact_mod_cast hle) h.expressions
  · intro now
    have hsame : s'.entriesToday now = s.entriesToday now := by
      simp only [Ledger.entriesToday, hg.rows, List.filter_map, List.length_map]
      congr 2
      funext r
      simp [(hg.same r).2.2.2]
    rw [hsame]
    exact h.entries now

theorem hold (h : WithinLimits p s) {a : ReserveArgs} (hargs : ReserveArgsOk a)
    (hbudgets : BudgetsOk s a) (hfree : V1Free s a)
    (hlimit : a.aggregateLimit = p.aggregateExposureLimit)
    (hopen : a.maxOpenExpressions = p.maxOpenExpressions)
    (hday : a.maxEntriesPerDay = p.maxEntriesPerDay) : WithinLimits p (s.held a) := by
  obtain ⟨held, hheld, hle⟩ := hbudgets.aggregate
  refine ⟨h.sound.hold hargs hfree, ?_, ?_, ?_⟩
  · rw [Ledger.openTotal, openSum_held, amountValue_held, ← hlimit]
    rw [sumReservations_ok hheld] at hle
    exact hle
  · have hcount : (s.held a).openReservationCount = s.openReservationCount + 1 := by
      simp [Ledger.openReservationCount, Ledger.openReservations, Ledger.held, newReservation,
        ReservationState.isOpen]
    have hlt := hbudgets.expressions
    rw [hcount]
    push_cast
    omega
  · intro now
    -- only the day of the new reservation gains an entry
    have hcount : (s.held a).entriesToday now =
        s.entriesToday now + if a.now.utcDay = now.utcDay then 1 else 0 := by
      simp only [Ledger.entriesToday, Ledger.held, Ledger.withPassportEvents_reservations,
        Ledger.withPermits_reservations, Ledger.withReservations_reservations, List.filter_append,
        List.length_append]
      congr 1
      split <;> simp_all [newReservation]
    rw [hcount]
    split
    · rename_i hsame
      have hlt := hbudgets.entries
      have heq : s.entriesToday a.now = s.entriesToday now := by
        rw [Ledger.entriesToday, hsame, Ledger.entriesToday]
      rw [heq] at hlt
      push_cast
      omega
    · simpa using h.entries now

end WithinLimits

namespace WithinConcentration

variable {p : RiskPolicy} {s s' : Ledger}

theorem empty (p : RiskPolicy) : WithinConcentration p Ledger.empty :=
  ⟨.empty, fun _ => p.positive.2.1.le⟩

theorem frame (h : WithinConcentration p s) (hr : s'.reservations = s.reservations) :
    WithinConcentration p s' := by
  refine ⟨h.sound.frame hr, fun underlying => ?_⟩
  rw [Ledger.openTotalFor, Ledger.openSum, openReservations_congr hr]
  exact h.each underlying

theorem shrink (h : WithinConcentration p s) {g : ReservationRow → ReservationRow}
    (hg : Shrinks s s' g) : WithinConcentration p s' := by
  refine ⟨h.sound.shrink hg, fun underlying => ?_⟩
  have hle := hg.openSum_le (h.sound.amountOn_nonneg underlying) (hg.amountOn underlying)
  exact hle.trans (h.each underlying)

/-- A reservation that fits what the underlying holds now. -/
theorem hold (h : WithinConcentration p s) {a : ReserveArgs} (hargs : ReserveArgsOk a)
    (hfree : V1Free s a)
    (hroom : s.openTotalFor a.underlying + a.amount.toRat ≤ p.concentrationLimit.toRat) :
    WithinConcentration p (s.held a) := by
  refine ⟨h.sound.hold hargs hfree, fun underlying => ?_⟩
  rw [openTotalFor_held]
  split
  · rename_i hsame
    rw [← hsame]
    exact hroom
  · rw [add_zero]
    exact h.each underlying

end WithinConcentration

/-! ### Every interleaving -/

section Runs

variable {ι : Type} [DecidableEq ι] {policy : RiskPolicy} {p p' : KernelPool ι} {i : ι}
  {op : LedgerOp}

/-- What a step of kernels under one V1 policy does to the reservations, with what the
reserving call has seen. -/
theorem kernelStep_reservations (hevents : (p.store.reservations.map (·.eventId)).Nodup)
    (hpolicy : ∀ j, (p.seen j).policy = .v1 policy) (hobeys : p.Obeys kernelMonitor)
    (hstep : KernelStep p i op p') :
    p'.store.reservations = p.store.reservations ∨ (∃ g, Shrinks p.store p'.store g) ∨
      ∃ a, op = .write (.reserveAndIssuePermit a) ∧ ReserveSeen (p.seen i) a ∧ ReserveArgsOk a ∧
        BudgetsOk p.store a ∧ V1Free p.store a ∧ p'.store = p.store.held a := by
  rcases kernelStep_store hstep with ⟨c, rfl, hstore⟩ | ⟨-, hstore⟩
  · have hallows : (p.seen i).allows c := hobeys.ok hstep
    rw [hstore]
    cases reservationStep_exec hevents (hpolicy i) hallows with
    | frame h => exact .inl h
    | shrink g h => exact .inr (.inl ⟨g, h⟩)
    | hold a hc hargs hbudgets hfree h =>
      subst hc
      exact .inr (.inr ⟨a, rfl, hallows, hargs, hbudgets, hfree, h⟩)
  · rw [hstore]
    exact .inl rfl

theorem withinLimits_step (hpolicy : ∀ j, (p.seen j).policy = .v1 policy)
    (hobeys : p.Obeys kernelMonitor) (hstep : KernelStep p i op p')
    (h : WithinLimits policy p.store) : WithinLimits policy p'.store := by
  rcases kernelStep_reservations h.sound.events hpolicy hobeys hstep with
    hr | ⟨g, hg⟩ | ⟨a, -, hseen, hargs, hbudgets, hfree, hs⟩
  · exact h.frame hr
  · exact h.shrink hg
  · obtain ⟨q, hq, hlimit, hopen, hday, -⟩ := hseen.limits
    rw [hpolicy i] at hq
    cases hq
    rw [hs]
    exact h.hold hargs hbudgets hfree hlimit hopen hday

/-- Under every interleaving of kernel calls on one ledger, the three budgets hold in every
committed state. -/
theorem authorizeEntry_limits {policy : RiskPolicy} {call : ι → KernelCall} {p : KernelPool ι}
    (h : KernelReach (kernelPool (fun _ => .v1 policy) call Ledger.empty) p) :
    p.store.openTotal ≤ policy.aggregateExposureLimit.toRat ∧
    (p.store.openReservationCount : Int) ≤ policy.maxOpenExpressions ∧
    ∀ now, (p.store.entriesToday now : Int) ≤ policy.maxEntriesPerDay := by
  have hinv : WithinLimits policy p.store ∧ ∀ j, (p.seen j).policy = .v1 policy := by
    refine h.inv (I := fun p => WithinLimits policy p.store ∧ ∀ j, (p.seen j).policy = .v1 policy)
      (kernelPool_obeys _ call _) ⟨.empty policy, fun _ => rfl⟩ ?_
    rintro p p' i op ⟨hlimits, hpolicy⟩ hobeys hstep -
    refine ⟨withinLimits_step hpolicy hobeys hstep hlimits, fun j => ?_⟩
    rw [kernelStep_policy hstep, hpolicy]
  exact ⟨hinv.1.aggregate, hinv.1.expressions, hinv.1.entries⟩

/-- The desk with both entries committed, within the budgets. -/
theorem authorizeEntry_limits_desk : ∃ p, KernelReach desk p ∧ p.store.openReservationCount = 2 ∧
    p.store.openTotal ≤ spyPolicy.aggregateExposureLimit.toRat := by
  obtain ⟨p, events, h, hs⟩ := desk_commits
  refine ⟨p, h, ?_, (authorizeEntry_limits h).1⟩
  rw [hs]
  rfl

/-- A reservation commits on no more open exposure of its underlying than its call has read. -/
def CommitsOnRead (p : KernelPool ι) (i : ι) (op : LedgerOp) : Prop :=
  ∀ a, op = .write (.reserveAndIssuePermit a) → ∀ held, (p.seen i).held = some (a.underlying, held) →
    p.store.openTotalFor a.underlying ≤ held

theorem withinConcentration_step (hpolicy : ∀ j, (p.seen j).policy = .v1 policy)
    (hobeys : p.Obeys kernelMonitor) (hstep : KernelStep p i op p') (hread : CommitsOnRead p i op)
    (h : WithinConcentration policy p.store) : WithinConcentration policy p'.store := by
  rcases kernelStep_reservations h.sound.events hpolicy hobeys hstep with
    hr | ⟨g, hg⟩ | ⟨a, rfl, hseen, hargs, -, hfree, hs⟩
  · exact h.frame hr
  · exact h.shrink hg
  · obtain ⟨q, hq, -, -, -, held, hheld, hroom⟩ := hseen.limits
    rw [hpolicy i] at hq
    cases hq
    rw [hs]
    have hle := hread a rfl held hheld
    exact h.hold hargs hfree (by linarith)

/-- Where reservations commit on what their calls have read, the open exposure of each underlying
stays within the limit. -/
theorem authorizeEntry_concentration {policy : RiskPolicy} {call : ι → KernelCall}
    {p : KernelPool ι}
    (h : KernelReachIf CommitsOnRead (kernelPool (fun _ => .v1 policy) call Ledger.empty) p)
    (underlying : String) : p.store.openTotalFor underlying ≤ policy.concentrationLimit.toRat := by
  have hinv : WithinConcentration policy p.store ∧ ∀ j, (p.seen j).policy = .v1 policy := by
    refine h.inv
      (I := fun p => WithinConcentration policy p.store ∧ ∀ j, (p.seen j).policy = .v1 policy)
      (kernelPool_obeys _ call _) ⟨.empty policy, fun _ => rfl⟩ ?_
    rintro p p' i op ⟨hwithin, hpolicy⟩ hobeys hstep hread
    refine ⟨withinConcentration_step hpolicy hobeys hstep hread hwithin, fun j => ?_⟩
    rw [kernelStep_policy hstep, hpolicy]
  exact hinv.1.each underlying

/-- Two interleaved entries on one underlying: each fits the concentration limit alone, and together
they exceed it. -/
theorem authorizeEntry_concentration_race : ∃ p, KernelReach desk p ∧
    spyPolicy.concentrationLimit.toRat < p.store.openTotalFor "SPY" := by
  obtain ⟨p, events, h, hs⟩ := desk_commits
  refine ⟨p, h, ?_⟩
  have hboth : (Decimal.ofNat 400).toRat <
      0 + (Decimal.cents 25000).toRat + (Decimal.cents 25000).toRat := by
    norm_num [Decimal.toRat_cents]
  rw [hs, openTotalFor_held, openTotalFor_held]
  exact hboth

/-! ### A run that meets the condition -/

/-- Nothing that a call has read of an underlying's exposure is negative. -/
def HeldNonneg (p : KernelPool ι) : Prop :=
  ∀ j underlying held, (p.seen j).held = some (underlying, held) → 0 ≤ held

theorem openReservationTotalForUnderlying_nonneg {s : Ledger} {underlying : String} {held : ℚ}
    (h : SoundBook s) (hheld : s.openReservationTotalForUnderlying underlying = .ok held) :
    0 ≤ held := by
  obtain ⟨symbol, -, hsum⟩ := except_bind_eq_ok.mp hheld
  rw [sumReservations_ok hsum]
  apply List.sum_nonneg
  intro x hx
  obtain ⟨r, hr, rfl⟩ := List.mem_map.mp hx
  exact h.amounts r (List.mem_of_mem_filter (List.mem_of_mem_filter hr))

theorem heldNonneg_reach {call : ι → KernelCall}
    (h : KernelReach (kernelPool (fun _ => .v1 policy) call Ledger.empty) p) : HeldNonneg p := by
  have hinv : (WithinLimits policy p.store ∧ ∀ j, (p.seen j).policy = .v1 policy) ∧
      HeldNonneg p := by
    refine h.inv (I := fun p => (WithinLimits policy p.store ∧
        ∀ j, (p.seen j).policy = .v1 policy) ∧ HeldNonneg p)
      (kernelPool_obeys _ call _) ⟨⟨.empty policy, fun _ => rfl⟩, by simp [HeldNonneg, kernelPool]⟩ ?_
    rintro p p' i op ⟨⟨hlimits, hpolicy⟩, hheld⟩ hobeys hstep -
    refine ⟨⟨withinLimits_step hpolicy hobeys hstep hlimits, fun j => ?_⟩, ?_⟩
    · rw [kernelStep_policy hstep, hpolicy]
    · intro j underlying held hj
      rcases kernelStep_held hstep j with hsame | ⟨u, x, hread, hnew⟩
      · exact hheld j underlying held (hsame ▸ hj)
      · rw [hnew] at hj
        cases hj
        exact openReservationTotalForUnderlying_nonneg hlimits.sound hread
  exact hinv.2

theorem kernelStep_noReservations (hstep : KernelStep p i op p')
    (hnone : p'.store.reservations = []) : p.store.reservations = [] := by
  rcases kernelStep_store hstep with ⟨c, rfl, hstore⟩ | ⟨-, hstore⟩
  · rw [hstore] at hnone
    cases tableStep_exec p.store c with
    | frame hr => rw [← hr, hnone]
    | permit _ _ hr => rw [← hr, hnone]
    | reserve r _ hr => simp [hr] at hnone
    | hold r _ _ _ hr => simp [hr] at hnone
    | holdV2 a tier _ h => simp [h, Ledger.heldV2] at hnone
    | update f g _ _ hr => simpa [hr] using hnone
  · rw [← hstore, hnone]

theorem commitsOnRead_of_noReservations {call : ι → KernelCall}
    (h : KernelReach (kernelPool (fun _ => .v1 policy) call Ledger.empty) p)
    (hnone : p.store.reservations = []) : CommitsOnRead p i op := by
  intro a _ held hheld
  have hzero : p.store.openTotalFor a.underlying = 0 := by
    simp [Ledger.openTotalFor, Ledger.openSum, Ledger.openReservations, hnone]
  rw [hzero]
  exact heldNonneg_reach h i a.underlying held hheld

theorem reachIf_of_noReservations {call : ι → KernelCall}
    (h : KernelReach (kernelPool (fun _ => .v1 policy) call Ledger.empty) p)
    (hnone : p.store.reservations = []) :
    KernelReachIf CommitsOnRead (kernelPool (fun _ => .v1 policy) call Ledger.empty) p := by
  induction h with
  | init => exact .init
  | step hreach hstep _ ih =>
    have hbefore := kernelStep_noReservations hstep hnone
    exact .step (ih hbefore) hstep (commitsOnRead_of_noReservations hreach hbefore)

/-- The desk with its first entry committed. -/
theorem authorizeEntry_concentration_desk : ∃ p, KernelReachIf CommitsOnRead desk p ∧
    p.store.openReservationCount = 1 ∧
    p.store.openTotalFor "SPY" ≤ spyPolicy.concentrationLimit.toRat := by
  obtain ⟨p, events, h, hs, hthread, -⟩ := desk_plans
  have hnone : p.store.reservations = [] := by
    rw [hs]
    rfl
  set reserve := LedgerCall.reserveAndIssuePermit (spyReserve false)
  have hstore : reserve.exec p.store = (plannedDesk events).held (spyReserve false) := by
    rw [hs]
    exact Txn.after_of_ok (firstCommit rfl rfl rfl rfl)
  obtain ⟨p', hstep, hs'⟩ := kernelStep_write (c := reserve) (hthread false)
  have hcommit := (reachIf_of_noReservations h hnone).step hstep
    (commitsOnRead_of_noReservations h hnone)
  refine ⟨p', hcommit, ?_, authorizeEntry_concentration hcommit "SPY"⟩
  rw [hs', hstore]
  rfl

end Runs

end EsscherMarket.Risk
