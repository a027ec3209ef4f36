import EsscherMarket.Risk.Kernel.Preview
import EsscherMarket.Runtime.PaperMcp.Payloads

/-!
# The truth source of the PAPER session

`PaperMcpAccountTruthSource`: account, order and position bytes are read by `refresh` and kept; a
snapshot is built from them and stamped with the host clock at that moment.  The model keeps, beside
every byte string, the instant at which its read returned.
-/

namespace EsscherMarket.Runtime

open Lib Risk Prog

/-! ### The source -/

/-- What a read returned, and the instant of the host clock at which it did. -/
structure Reading where
  payload : Json
  readAt : Int

/-- The host clock in microseconds, and the kept bytes. -/
structure TruthSource where
  clock : Int
  account : Option Reading
  orders : Option Reading
  positions : Option Reading

/-- An answer of the read-only door, and how long it takes. -/
structure TimedAnswer where
  micros : Nat
  answer : DoorAnswer

structure RefreshAnswers where
  account : TimedAnswer
  orders : TimedAnswer
  positions : TimedAnswer

/-- What the kernel's reads find: the time that passes before each of them, and the answers to a
refresh if the bytes are not there. -/
structure KernelWaits where
  clock : Nat
  account : Nat
  positions : Nat
  orders : Nat
  reload : RefreshAnswers

namespace TruthSource

def empty (clock : Int) : TruthSource := ⟨clock, none, none, none⟩

def wait (s : TruthSource) (micros : Nat) : TruthSource := { s with clock := s.clock + micros }

def readings (s : TruthSource) : List Reading :=
  s.account.toList ++ s.orders.toList ++ s.positions.toList

def refresh (s : TruthSource) (a : RefreshAnswers) : SourceRead Unit × TruthSource :=
  let s₁ := s.wait a.account.micros
  match readonlyCanonical "get_account_info" a.account.answer with
  | .error e => (.error e, s₁)
  | .ok account =>
    let s₂ := wait { s₁ with account := some ⟨account, s₁.clock⟩ } a.orders.micros
    match readonlyCanonical "get_orders" a.orders.answer with
    | .error e => (.error e, s₂)
    | .ok orders =>
      let s₃ := wait { s₂ with orders := some ⟨orders, s₂.clock⟩ } a.positions.micros
      match readonlyCanonical "get_all_positions" a.positions.answer with
      | .error e => (.error e, s₃)
      | .ok positions => (.ok (), { s₃ with positions := some ⟨positions, s₃.clock⟩ })

/-- `_loaded`: a refresh, unless all the bytes are there. -/
def loaded (s : TruthSource) (reload : RefreshAnswers) : SourceRead Unit × TruthSource :=
  if s.account.isSome ∧ s.orders.isSome ∧ s.positions.isSome then (.ok (), s)
  else s.refresh reload

end TruthSource

/-- An error of a read as the kernel sees it: every rejection of the composition is a `ValueError`,
and a `HostMcpError` is none of the errors that the kernel catches. -/
def SourceError.truth : SourceError → TruthError
  | composition e => .malformed e.text
  | risk e => .rejected e
  | hostMcp message => .malformed message

def SourceRead.truth {α : Type} (x : SourceRead α) : TruthRead α := x.mapError SourceError.truth

/-- What the kernel reads from bytes, with the instants of its four reads. -/
def truthOf (account orders positions : Reading) (clock accountAt positionsAt ordersAt : Int) :
    Truth where
  brokerClock := .ok (.utc clock)
  account := SourceRead.truth (some <$> accountSnapshot account.payload (.utc accountAt))
  positions := SourceRead.truth (positionSnapshots positions.payload (.utc positionsAt))
  orders := SourceRead.truth (orderSnapshots orders.payload (.utc ordersAt))

namespace TruthSource

/-- The kernel's reads: the clock, the account, the positions and the orders.  A `HostMcpError` of a
refresh leaves the kernel. -/
def kernelReads (s : TruthSource) (w : KernelWaits) : SourceRead Truth × TruthSource :=
  let s₀ := s.wait w.clock
  match (s₀.wait w.account).loaded w.reload with
  | (.error (.hostMcp message), s₁) => (.error (.hostMcp message), s₁)
  | (.error e, s₁) => (.ok ⟨.ok (.utc s₀.clock), .error e.truth, .error e.truth, .error e.truth⟩, s₁)
  | (.ok (), s₁) =>
    match s₁.account, s₁.orders, s₁.positions with
    | some account, some orders, some positions =>
      let s₂ := s₁.wait w.positions
      let s₃ := s₂.wait w.orders
      (.ok (truthOf account orders positions s₀.clock s₁.clock s₂.clock s₃.clock), s₃)
    | _, _, _ => (.error (.hostMcp "assertion"), s₁)

/-- `authorize_entry_v2` over the source approves an entry. -/
def Approves (s : TruthSource) (policy : KernelPolicy) (a : EntryV2Args) (w : KernelWaits)
    (ledger : Ledger) (approval : RiskApprovalV2) (ledger' : Ledger) : Prop :=
  ∃ truth source, s.kernelReads w = (.ok truth, source) ∧
    (authorizeEntryV2 policy { a with truth := truth }).run ledgerAnswer ledger =
      (.ok (.approved approval), ledger')

end TruthSource

/-- What happens to the source: time passes, it is refreshed, or the kernel reads it. -/
inductive SourceStep where
  | wait (micros : Nat)
  | refresh (answers : RefreshAnswers)
  | kernel (waits : KernelWaits)

namespace SourceStep

def isRefresh : SourceStep → Bool
  | refresh _ => true
  | _ => false

/-- How long a step takes on a source that is loaded. -/
def micros : SourceStep → Nat
  | wait micros => micros
  | refresh a => a.account.micros + a.orders.micros + a.positions.micros
  | kernel w => w.clock + w.account + w.positions + w.orders

end SourceStep

def TruthSource.step (s : TruthSource) : SourceStep → TruthSource
  | .wait micros => s.wait micros
  | .refresh answers => (s.refresh answers).2
  | .kernel waits => (s.kernelReads waits).2

def TruthSource.run (s : TruthSource) (steps : List SourceStep) : TruthSource :=
  steps.foldl TruthSource.step s

def elapsed (steps : List SourceStep) : Nat := (steps.map SourceStep.micros).sum

/-! ### The age of the bytes -/

structure Loaded (s : TruthSource) (account orders positions : Reading) : Prop where
  account : s.account = some account
  orders : s.orders = some orders
  positions : s.positions = some positions

namespace Loaded

variable {s : TruthSource} {account orders positions : Reading}

theorem wait (h : Loaded s account orders positions) (micros : Nat) :
    Loaded (s.wait micros) account orders positions :=
  ⟨h.account, h.orders, h.positions⟩

theorem loaded_eq (h : Loaded s account orders positions) (reload : RefreshAnswers) :
    s.loaded reload = (.ok (), s) := by
  rw [TruthSource.loaded, if_pos (by simp [h.account, h.orders, h.positions])]

theorem readings_eq (h : Loaded s account orders positions) :
    s.readings = [account, orders, positions] := by
  simp [TruthSource.readings, h.account, h.orders, h.positions]

/-- The kernel reads what is kept, and only time passes. -/
theorem kernelReads_eq (h : Loaded s account orders positions) (w : KernelWaits) :
    s.kernelReads w = (.ok (truthOf account orders positions (s.clock + w.clock)
        (s.clock + w.clock + w.account) (s.clock + w.clock + w.account + w.positions)
        (s.clock + w.clock + w.account + w.positions + w.orders)),
      (((s.wait w.clock).wait w.account).wait w.positions).wait w.orders) := by
  have hload := ((h.wait w.clock).wait w.account).loaded_eq w.reload
  rw [TruthSource.kernelReads]
  dsimp only
  rw [hload]
  simp only [TruthSource.wait, h.account, h.orders, h.positions]

theorem step (h : Loaded s account orders positions) {step : SourceStep}
    (hstep : step.isRefresh = false) :
    Loaded (s.step step) account orders positions ∧ (s.step step).clock = s.clock + step.micros := by
  cases step with
  | wait micros => exact ⟨h.wait micros, rfl⟩
  | refresh answers => cases hstep
  | kernel w =>
    rw [TruthSource.step, h.kernelReads_eq]
    refine ⟨(((h.wait _).wait _).wait _).wait _, ?_⟩
    simp only [TruthSource.wait, SourceStep.micros]
    push_cast
    ring

/-- Without a refresh the bytes stay, and get older by all the time that passes. -/
theorem run (h : Loaded s account orders positions) {steps : List SourceStep}
    (hsteps : ∀ step ∈ steps, step.isRefresh = false) :
    Loaded (s.run steps) account orders positions ∧ (s.run steps).clock = s.clock + elapsed steps := by
  induction steps generalizing s with
  | nil => exact ⟨h, by simp [TruthSource.run, elapsed]⟩
  | cons first rest ih =>
    obtain ⟨hfirst, hclock⟩ := h.step (hsteps first List.mem_cons_self)
    obtain ⟨hrest, hend⟩ := ih hfirst fun step hstep => hsteps step (List.mem_cons_of_mem first hstep)
    refine ⟨hrest, hend.trans ?_⟩
    rw [hclock, elapsed, elapsed, List.map_cons, List.sum_cons]
    push_cast
    ring

end Loaded

theorem refresh_ok {s s' : TruthSource} {a : RefreshAnswers} (h : s.refresh a = (.ok (), s')) :
    ∃ account orders positions, Loaded s' account orders positions ∧
      account.readAt = s.clock + a.account.micros ∧
      orders.readAt = account.readAt + a.orders.micros ∧
      positions.readAt = orders.readAt + a.positions.micros ∧ s'.clock = positions.readAt := by
  unfold TruthSource.refresh at h
  dsimp only at h
  split at h
  · cases h
  split at h
  · cases h
  split at h
  · cases h
  · cases h
    exact ⟨_, _, _, ⟨rfl, rfl, rfl⟩, rfl, rfl, rfl, rfl⟩

/-- A snapshot whose age passes is neither from the future nor too old. -/
theorem validateAge_ok {observedAt now : DateTime} {maxAge : Int} {stale : RiskReason}
    {path : String} {u : Unit} (h : validateAge observedAt now maxAge stale path = .ok u) :
    0 ≤ now.micros - observedAt.micros ∧
      now.micros - observedAt.micros ≤ maxAge * 1000000 := by
  unfold validateAge at h
  dsimp only at h
  split at h
  · cases h
  split at h
  · cases h
  · omega

theorem accountSnapshot_observedAt {v : Json} {t : DateTime} {account : AccountSnapshot}
    (h : accountSnapshot v t = .ok account) : account.observedAt = t := by
  simp only [accountSnapshot, except_bind_eq_ok] at h
  obtain ⟨payload, -, equity, -, buyingPower, -, cash, -, h⟩ := h
  split at h
  · cases h
    rfl
  · cases h

theorem truth_some_ok {α : Type} {x : SourceRead α} {a : α}
    (h : SourceRead.truth (some <$> x) = .ok (some a)) : x = .ok a := by
  cases x with
  | ok b =>
    cases h
    rfl
  | error e => cases h

theorem readV2Truth_age {truth : Truth} {now : DateTime} {p : RiskPolicyV2} {t : V2Truth}
    (h : readV2Truth truth now p = .ok t) : ∃ account, truth.account = .ok (some account) ∧
      0 ≤ now.micros - account.observedAt.micros ∧
      now.micros - account.observedAt.micros ≤ p.truthMaxAgeSeconds * 1000000 := by
  simp only [readV2Truth, readTruth, except_bind_eq_ok] at h
  obtain ⟨_, ⟨_, -, snapshot, hsnapshot, account, haccount, -⟩, -⟩ := h
  cases snapshot with
  | none => cases haccount
  | some found =>
    obtain ⟨_, hage, -⟩ := except_bind_eq_ok.mp haccount
    exact ⟨found, hsnapshot, validateAge_ok hage⟩

/-- The kernel's age check is on the stamp, not on the bytes: these are young enough exactly if the
time from their read to the stamp and the age of the stamp together are. -/
theorem truth_freshness (p : RiskPolicyV2) (clock : Int) (before between : List SourceStep)
    (answers : RefreshAnswers) (source : TruthSource) (w : KernelWaits) (a : EntryV2Args)
    (ledger ledger' : Ledger) (approval : RiskApprovalV2)
    (hrefresh : ((TruthSource.empty clock).run before).refresh answers = (.ok (), source))
    (hbetween : ∀ step ∈ between, step.isRefresh = false)
    (happroved : (source.run between).Approves (.v2 p) a w ledger approval ledger') :
    ∃ stamp : Int, stamp = (source.run between).clock + w.clock + w.account ∧
      0 ≤ a.now.micros - stamp ∧ a.now.micros - stamp ≤ p.truthMaxAgeSeconds * 1000000 ∧
      ((∀ r ∈ (source.run between).readings,
          a.now.micros - p.truthMaxAgeSeconds * 1000000 ≤ r.readAt) ↔
        ((answers.orders.micros + answers.positions.micros + elapsed between + w.clock +
            w.account : Nat) : Int) + (a.now.micros - stamp) ≤ p.truthMaxAgeSeconds * 1000000) := by
  obtain ⟨account, orders, positions, hloaded, -, horders, hpositions, hclock⟩ :=
    refresh_ok hrefresh
  obtain ⟨hkept, hend⟩ := hloaded.run hbetween
  obtain ⟨truth, source', hreads, happroved⟩ := happroved
  rw [hkept.kernelReads_eq] at hreads
  cases hreads
  obtain ⟨p', _, t, _, _, _, hready, -⟩ := authorizeEntryV2_approved happroved
  obtain rfl : p' = p := by
    have hpolicy := hready.policyOk
    simp only [v2Policy, except_bind_eq_ok] at hpolicy
    obtain ⟨_, -, hret⟩ := hpolicy
    exact (Except.ok.inj hret).symm
  obtain ⟨found, hfound, hage⟩ := readV2Truth_age hready.fresh
  have hstamp := accountSnapshot_observedAt (truth_some_ok hfound)
  rw [hstamp] at hage
  have hage' : 0 ≤ a.now.micros - ((source.run between).clock + w.clock + w.account) ∧
      a.now.micros - ((source.run between).clock + w.clock + w.account) ≤
        p'.truthMaxAgeSeconds * 1000000 := hage
  refine ⟨_, rfl, hage'.1, hage'.2, ?_⟩
  rw [hkept.readings_eq]
  push_cast
  constructor
  · intro hread
    have haccount := hread account List.mem_cons_self
    omega
  · intro hwaited r hr
    simp only [List.mem_cons, List.not_mem_nil, or_false] at hr
    rcases hr with rfl | rfl | rfl <;> omega

namespace July

/-- The account of the opportunity in `spyEntryV2`. -/
def cashAccount : Json :=
  .obj [("account_class", .str "PAPER"), ("buying_power", .str "100000"), ("cash", .str "300"),
    ("equity", .str "100000"), ("status", .str "ACTIVE")]

def flatReads : RefreshAnswers :=
  ⟨⟨0, .ok (some cashAccount)⟩, ⟨0, .ok (some (.arr []))⟩, ⟨0, .ok (some (.arr []))⟩⟩

def atOnce : KernelWaits := ⟨0, 0, 0, 0, flatReads⟩

theorem payloadDecimal_of {item : Json} {name : String} {d : Decimal}
    (h : decimalOf (item.get name) = some d) (hfinite : d.isFinite = true) :
    payloadDecimal item name = .ok d := by
  rw [payloadDecimal, h]
  exact if_neg (by simp [hfinite])

theorem accountSnapshot_cashAccount :
    accountSnapshot cashAccount (.utc 1000) = .ok (accountV2 false) := by
  have hequity : payloadDecimal cashAccount "equity" = .ok (.ofNat 100000) :=
    payloadDecimal_of (by decide) rfl
  have hpower : payloadDecimal cashAccount "buying_power" = .ok (.ofNat 100000) :=
    payloadDecimal_of (by decide) rfl
  have hdecimal : payloadDecimal cashAccount "cash" = .ok (.ofNat 300) :=
    payloadDecimal_of (by decide) rfl
  have hcash : payloadCash cashAccount = .ok (some (.ofNat 300)) :=
    congrArg (fun x : SourceRead Decimal => some <$> x) hdecimal
  simp only [accountSnapshot, except_bind_eq_ok]
  exact ⟨cashAccount, rfl, _, hequity, _, hpower, _, hcash, dif_pos (accountV2 false).accepted⟩

/-- The kernel reads the truth of `spyEntryV2` from these bytes, whenever they were read. -/
theorem truthOf_flat (r : Int) : truthOf ⟨cashAccount, r⟩ ⟨.arr [], r⟩ ⟨.arr [], r⟩ 1000 1000 1000
    1000 = (spyEntryV2 false).truth := by
  rw [truthOf, accountSnapshot_cashAccount]
  rfl

def flatSource (clock readAt : Int) : TruthSource :=
  ⟨clock, some ⟨cashAccount, readAt⟩, some ⟨.arr [], readAt⟩, some ⟨.arr [], readAt⟩⟩

theorem refresh_flat (clock : Int) :
    (TruthSource.empty clock).refresh flatReads = (.ok (), flatSource clock clock) := by
  simp [TruthSource.refresh, TruthSource.empty, TruthSource.wait, flatReads, flatSource,
    readonlyCanonical, cashAccount]

theorem run_flat (micros : Nat) :
    (flatSource (1000 - micros) (1000 - micros)).run [.wait micros] =
      flatSource 1000 (1000 - micros) := by
  simp [TruthSource.run, TruthSource.step, TruthSource.wait, flatSource]

/-- An entry is approved from a flat account, however long ago its bytes were read. -/
theorem flatSource_approves (readAt : Int) : ∃ approval ledger',
    (flatSource 1000 readAt).Approves (.v2 spyPolicyV2) (spyEntryV2 false) atOnce deskV2 approval
      ledger' := by
  obtain ⟨d, hd, hallocated, hone⟩ := allocate_deskV2 false
  obtain ⟨id, hid⟩ : ∃ id, d.reservationId = some id :=
    ⟨_, (Autonomy.allocateDefinedRisk_new hd hallocated (by simp)).2.2.1⟩
  obtain ⟨approval, ledger', hrun, -⟩ := run_authorizeEntryV2 (v2Consistent_reachable
    deskV2_reachable) (deskV2_ready false hd) (spyEntryV2_binds false) hallocated hid hone
    (spyEntryV2_free false id)
  have hloaded : Loaded (flatSource 1000 readAt) _ _ _ := ⟨rfl, rfl, rfl⟩
  have hreads := hloaded.kernelReads_eq atOnce
  have htruth := truthOf_flat readAt
  exact ⟨approval, ledger', _, _, hreads.trans (congrArg (fun x => (Except.ok x, _)) htruth), hrun⟩

/-- Bytes that were read a second before are used in time. -/
theorem truth_freshness_second : ∃ approval ledger',
    (flatSource 1000 (1000 - 1000000)).Approves (.v2 spyPolicyV2) (spyEntryV2 false) atOnce deskV2
      approval ledger' ∧
    ∀ r ∈ (flatSource 1000 (1000 - 1000000)).readings, 1000 - 30000000 ≤ r.readAt := by
  obtain ⟨approval, ledger', happroved⟩ := flatSource_approves (1000 - 1000000)
  refine ⟨approval, ledger', happroved, ?_⟩
  have hrun : (flatSource (1000 - 1000000) (1000 - 1000000)).run [.wait 1000000] =
      flatSource 1000 (1000 - 1000000) := run_flat 1000000
  rw [← hrun] at happroved ⊢
  obtain ⟨stamp, hstamp, -, -, hiff⟩ := truth_freshness spyPolicyV2 (1000 - 1000000) []
    [.wait 1000000] flatReads _ atOnce (spyEntryV2 false) deskV2 ledger' approval
    (refresh_flat (1000 - 1000000)) (by simp [SourceStep.isRefresh]) happroved
  refine hiff.mpr ?_
  rw [hstamp, hrun]
  decide

/-- Bytes that are a minute old: the reasoner answers a minute after the refresh, and the entry
is approved on the account of a minute ago. -/
theorem truth_freshness_minute : ∃ source approval ledger',
    (TruthSource.empty (1000 - 60000000)).refresh flatReads = (.ok (), source) ∧
    (source.run [.wait 60000000]).Approves (.v2 spyPolicyV2) (spyEntryV2 false) atOnce deskV2
      approval ledger' ∧
    ∃ r ∈ (source.run [.wait 60000000]).readings,
      r.readAt < (spyEntryV2 false).now.micros - spyPolicyV2.truthMaxAgeSeconds * 1000000 := by
  obtain ⟨approval, ledger', happroved⟩ := flatSource_approves (1000 - 60000000)
  have hrun : (flatSource (1000 - 60000000) (1000 - 60000000)).run [.wait 60000000] =
      flatSource 1000 (1000 - 60000000) := run_flat 60000000
  refine ⟨_, approval, ledger', refresh_flat (1000 - 60000000), ?_⟩
  rw [hrun]
  exact ⟨happroved, ⟨cashAccount, 1000 - 60000000⟩, List.mem_cons_self, by decide⟩

end July

end EsscherMarket.Runtime
