import EsscherMarket.Runtime.SessionDocuments

/-!
# The clocks of an arm

What `_validate_arm` makes of the clocks of an arm that was read.  The openings are compared with
the wall clock of New York to the second, and the hard flat too, but its day is not compared with
the day of the windows, and nothing compares the windows with each other.
-/

namespace EsscherMarket.Runtime

open Lib

open DateTime (microsPerSecond microsPerDay)

/-! ### The wall clock of New York -/

def wallClock (wall : Int) : Int × String :=
  let secs := (wall % microsPerDay / microsPerSecond).toNat
  (wall / microsPerDay, String.ofList (zeroPad 2 (secs / 3600) ++ ':' ::
    zeroPad 2 (secs / 60 % 60) ++ ':' :: zeroPad 2 (secs % 60)))

/-- A wall clock as in New York, which has been four to five hours behind UTC at all times: it shows
the instant moved by the offset, in seconds, that is in force. -/
def IsNewYork (eastern : Int → Int × String) : Prop :=
  ∃ offset : Int → Int, ∀ n, -18000 ≤ offset n ∧ offset n ≤ -14400 ∧
    eastern n = wallClock (n + offset n * microsPerSecond)

theorem eastern_isNewYork : IsNewYork July.eastern := by
  refine ⟨fun _ => -14400, fun n => ⟨?_, ?_, ?_⟩⟩
  · show (-18000 : Int) ≤ -14400
    omega
  · show (-14400 : Int) ≤ -14400
    omega
  · have hwall : n - 240 * 60 * microsPerSecond = n + -14400 * microsPerSecond := by
      rw [microsPerSecond]
      omega
    rw [July.eastern, wallClock, hwall]

/-- The text of a wall clock tells the second of the day. -/
theorem wallClock_secs {wall : Int} {hour minute second : Nat} (hhour : hour < 24)
    (hminute : minute < 60) (hsecond : second < 60)
    (h : (wallClock wall).2 = String.ofList (zeroPad 2 hour ++ ':' :: zeroPad 2 minute ++ ':' ::
      zeroPad 2 second)) :
    wall % microsPerDay / microsPerSecond = hour * 3600 + minute * 60 + second := by
  obtain ⟨secs, hsecs⟩ : ∃ secs, secs = (wall % microsPerDay / microsPerSecond).toNat := ⟨_, rfl⟩
  have hdiv : (secs : Int) = wall % microsPerDay / microsPerSecond := by
    rw [hsecs]
    simp only [microsPerDay, microsPerSecond]
    omega
  have hbound : secs < 86400 := by
    simp only [microsPerDay, microsPerSecond] at hdiv
    omega
  have htext := String.ofList_injective h
  rw [← hsecs] at htext
  have hread := congrArg (fun text => readClock (text ++ [])) htext
  simp only [List.append_assoc, List.cons_append] at hread
  rw [readClock_text (show secs / 3600 < 100 by omega) (show secs / 60 % 60 < 100 by omega)
      (show secs % 60 < 100 by omega),
    readClock_text (show hour < 100 by omega) (show minute < 100 by omega)
      (show second < 100 by omega)] at hread
  simp only [Option.some.injEq, Prod.mk.injEq, and_true] at hread
  omega

/-! ### What is guaranteed, and when -/

def WindowsApart (ws : List AutonomousWindow) : Prop :=
  ws.Pairwise fun w w' =>
    w.closesAt.micros ≤ w'.opensAt.micros ∨ w'.closesAt.micros ≤ w.opensAt.micros

/-- What the runner relies on: hard flat at 15:30:00 in New York on the day of all windows, which lie
apart and close by then. -/
structure Guarantee (K : Contracts) (arm : AutonomousSessionArm) : Prop where
  time : (K.eastern arm.hardFlatAt.micros).2 = hardFlatTime
  exact_ : arm.hardFlatAt.micros % microsPerSecond = 0
  day : ∀ w ∈ arm.windows, (K.eastern w.opensAt.micros).1 = (K.eastern arm.hardFlatAt.micros).1 ∧
    (K.eastern w.closesAt.micros).1 = (K.eastern arm.hardFlatAt.micros).1
  apart : WindowsApart arm.windows
  closed : ∀ w ∈ arm.windows, w.closesAt.micros ≤ arm.hardFlatAt.micros

/-- The clocks are orderly: hard flat on a whole second, within a day of the first opening, and every
window closed when the next one opens. -/
structure Orderly (arm : AutonomousSessionArm) : Prop where
  whole : arm.hardFlatAt.micros % microsPerSecond = 0
  soon : ∀ w ∈ arm.windows.head?, arm.hardFlatAt.micros < w.opensAt.micros + microsPerDay
  chain : arm.windows.IsChain fun w w' => w.closesAt.micros ≤ w'.opensAt.micros

/-! ### What the checks leave -/

structure ArmClocks (K : Contracts) (arm : AutonomousSessionArm) : Prop where
  forward : ∀ w ∈ arm.windows, w.opensAt.micros < w.closesAt.micros
  closed : ∀ w ∈ arm.windows, w.closesAt.micros ≤ arm.hardFlatAt.micros
  day : ∀ w ∈ arm.windows, (K.eastern w.opensAt.micros).1 = tradingDay K arm ∧
    (K.eastern w.closesAt.micros).1 = tradingDay K arm
  ordered : windowsOrdered arm.windows = true
  openings : arm.windows.map (fun w => (K.eastern w.opensAt.micros).2) = decisionTimes
  time : (K.eastern arm.hardFlatAt.micros).2 = hardFlatTime

section Valid

variable {K : Contracts} {arm : AutonomousSessionArm}

theorem forward_of_shape {w : AutonomousWindow} (h : validateWindowShape w = .ok ()) :
    w.opensAt.micros < w.closesAt.micros := by
  simp only [validateWindowShape, except_bind_eq_ok, utcDatetime_eq_ok, throwIf_eq_ok, not_le] at h
  obtain ⟨_, -, _, ⟨-, rfl⟩, _, ⟨-, rfl⟩, _, hlt, -⟩ := h
  exact hlt

theorem armClocks_of_valid (h : validateArm K arm = .ok ()) : ArmClocks K arm := by
  simp only [validateArm, except_bind_eq_ok, throwIf_eq_ok, utcDatetime_eq_ok, not_not,
    Bool.not_eq_false] at h
  obtain ⟨_, -, _, -, _, -, _, -, _, -, _, -, _, -, _, -, _, -, _, -, _, -, _, -, _, -, _, -, _, -,
    _, -, _, -, _, hordered, _, -, _, -, _, hwindows, _, hopenings, htime⟩ := h
  have hwindow : ∀ w ∈ arm.windows, w.opensAt.micros < w.closesAt.micros ∧
      w.closesAt.micros ≤ arm.hardFlatAt.micros ∧
      (K.eastern w.opensAt.micros).1 = tradingDay K arm ∧
      (K.eastern w.closesAt.micros).1 = tradingDay K arm := by
    intro w hw
    have hchecked := forM_eq_ok.mp hwindows w hw
    simp only [validateArmWindow, except_bind_eq_ok, throwIf_eq_ok, not_or, not_not,
      not_lt] at hchecked
    obtain ⟨_, hshape, _, hinside, _, hday, -⟩ := hchecked
    exact ⟨forward_of_shape hshape, hinside.2, hday⟩
  exact ⟨fun w hw => (hwindow w hw).1, fun w hw => (hwindow w hw).2.1,
    fun w hw => (hwindow w hw).2.2, hordered, hopenings, htime⟩

theorem isChain_of_windowsOrdered {ws : List AutonomousWindow} (h : windowsOrdered ws = true) :
    ws.IsChain fun w w' => w.opensAt.micros ≤ w'.opensAt.micros := by
  induction ws with
  | nil => exact .nil
  | cons w rest ih =>
    cases rest with
    | nil => exact .singleton w
    | cons w' rest =>
      simp only [windowsOrdered, Bool.and_eq_true, Bool.or_eq_true, decide_eq_true_eq,
        beq_iff_eq] at h
      refine .cons_cons ?_ (ih h.2)
      rcases h.1 with hlt | ⟨heq, -⟩
      · omega
      · omega

/-- Windows in the order of their openings lie apart exactly if each is closed when the next one
opens. -/
theorem windowsApart_iff {ws : List AutonomousWindow} (hordered : windowsOrdered ws = true)
    (hforward : ∀ w ∈ ws, w.opensAt.micros < w.closesAt.micros) :
    WindowsApart ws ↔ ws.IsChain fun w w' => w.closesAt.micros ≤ w'.opensAt.micros := by
  constructor
  · intro hapart
    let earlier : AutonomousWindow → AutonomousWindow → Prop := fun w w' =>
      w.opensAt.micros ≤ w'.opensAt.micros
    have htrans : Trans earlier earlier earlier := ⟨fun h h' => le_trans h h'⟩
    have hboth := hapart.and (isChain_of_windowsOrdered hordered).pairwise
    refine hboth.isChain.imp_of_mem_imp fun w w' _ hw' hww => ?_
    have h := hforward w' hw'
    rcases hww.1 with hclosed | hclosed
    · exact hclosed
    · omega
  · intro hchain
    -- closing before the next opening is transitive only for windows that open before they close
    let apart : AutonomousWindow → AutonomousWindow → Prop := fun w w' =>
      w.closesAt.micros ≤ w'.opensAt.micros ∧ w'.opensAt.micros < w'.closesAt.micros
    have htrans : Trans apart apart apart := ⟨fun hab hbc => ⟨by
      have h1 := hab.1
      have h2 := hab.2
      have h3 := hbc.1
      omega, hbc.2⟩⟩
    have happly : ws.IsChain apart :=
      hchain.imp_of_mem_imp fun w w' _ hw' h => ⟨h, hforward w' hw'⟩
    exact happly.pairwise.imp fun h => .inl h.1

/-- The time of a hard flat, in instants: less than a day from the opening at ten o'clock exactly if
on its day. -/
theorem sameDay_iff {n m : Int} (h : IsNewYork K.eastern) (hopens : (K.eastern n).2 = "10:00:00")
    (hflat : (K.eastern m).2 = hardFlatTime) (hlt : n < m) :
    (K.eastern n).1 = (K.eastern m).1 ↔ m < n + microsPerDay := by
  obtain ⟨offset, hoffset⟩ := h
  obtain ⟨hn1, hn2, hn⟩ := hoffset n
  obtain ⟨hm1, hm2, hm⟩ := hoffset m
  rw [hn] at hopens
  rw [hm] at hflat
  have hten := wallClock_secs (show 10 < 24 by decide) (show 0 < 60 by decide)
    (show 0 < 60 by decide) (hopens.trans (show "10:00:00" = _ by decide))
  have hthirty := wallClock_secs (show 15 < 24 by decide) (show 30 < 60 by decide)
    (show 0 < 60 by decide) (hflat.trans (show hardFlatTime = _ by decide))
  rw [hn, hm, wallClock, wallClock]
  simp only [microsPerDay, microsPerSecond] at hten hthirty ⊢
  omega

end Valid

/-- The hard flat of an accepted arm is at 15:30:00 in New York on the day of its windows exactly if
its clocks are orderly. -/
theorem guarantee_iff_orderly (K : Contracts) (hnewYork : IsNewYork K.eastern) (raw : List UInt8)
    (arm : AutonomousSessionArm) (h : parseAutonomousSessionArm K raw = some arm) :
    Guarantee K arm ↔ Orderly arm := by
  have hbytes := armBytes_of_parse h
  have hvalid : validateArm K arm = .ok () := by
    by_contra hinvalid
    rw [autonomousSessionArmBytes, if_neg hinvalid] at hbytes
    cases hbytes
  have hclocks := armClocks_of_valid hvalid
  obtain ⟨w, rest, hwindows⟩ : ∃ w rest, arm.windows = w :: rest := by
    cases hw : arm.windows with
    | nil =>
      have hopenings := hclocks.openings
      rw [hw] at hopenings
      cases hopenings
    | cons w rest => exact ⟨w, rest, rfl⟩
  have hmem : w ∈ arm.windows := hwindows ▸ List.mem_cons_self
  have hten : (K.eastern w.opensAt.micros).2 = "10:00:00" := by
    have hopenings := hclocks.openings
    rw [hwindows, List.map_cons, decisionTimes] at hopenings
    exact (List.cons.inj hopenings).1
  have hlt : w.opensAt.micros < arm.hardFlatAt.micros :=
    lt_of_lt_of_le (hclocks.forward w hmem) (hclocks.closed w hmem)
  have hday := sameDay_iff hnewYork hten hclocks.time hlt
  have hapart := windowsApart_iff hclocks.ordered hclocks.forward
  constructor
  · intro hg
    refine ⟨hg.exact_, fun w' hw' => ?_, hapart.mp hg.apart⟩
    rw [hwindows, List.head?_cons, Option.mem_some_iff] at hw'
    subst hw'
    exact hday.mp (hg.day w hmem).1
  · intro ho
    have hsame := hday.mpr (ho.soon w (by rw [hwindows]; rfl))
    refine ⟨hclocks.time, ho.whole, fun w' hw' => ?_, hapart.mpr ho.chain, hclocks.closed⟩
    rw [(hclocks.day w' hw').1, (hclocks.day w' hw').2, ← hsame, (hclocks.day w hmem).1]
    exact ⟨rfl, rfl⟩

namespace July

theorem inRange_arm : ∀ t ∈ arm.times, t.InRange := by
  decide

theorem parse_arm : parseAutonomousSessionArm contracts arm.bytes = some arm :=
  parse_armBytes ⟨arm, validateArm_arm, inRange_arm⟩

theorem orderly_arm : Orderly arm := ⟨by decide, by decide, by decide⟩

theorem guarantee_arm : Guarantee contracts arm :=
  (guarantee_iff_orderly contracts eastern_isNewYork arm.bytes arm parse_arm).mpr orderly_arm

def lateArm : AutonomousSessionArm := { arm with endsAt := at_ 2610, hardFlatAt := at_ 2610 }

theorem validateArm_lateArm : validateArm contracts lateArm = .ok () := by
  have hok : (validateArm contracts lateArm).isOk = true := by decide
  cases h : validateArm contracts lateArm with
  | ok u => rfl
  | error e =>
    rw [h] at hok
    cases hok

theorem inRange_lateArm : ∀ t ∈ lateArm.times, t.InRange := by
  decide

/-- An arm is accepted whose hard flat is on the day after its windows. -/
theorem hard_flat_next_day : IsNewYork contracts.eastern ∧
    ∃ raw, parseAutonomousSessionArm contracts raw = some lateArm ∧
      ¬ Guarantee contracts lateArm := by
  refine ⟨eastern_isNewYork, lateArm.bytes,
    parse_armBytes ⟨lateArm, validateArm_lateArm, inRange_lateArm⟩, fun h => ?_⟩
  have hday := (h.day (window 10) List.mem_cons_self).1
  revert hday
  decide

end July

end EsscherMarket.Runtime
