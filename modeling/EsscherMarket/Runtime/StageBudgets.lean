import EsscherMarket.Runtime.Arm

/-!
# Stage budgets

`runtime/stage_budgets.py`, and the clocks of a window run in
`runtime/autonomous_application_service.py`.  Each of the nine stages of a run has a budget in
milliseconds; several stages share the field that holds it.
-/

namespace EsscherMarket.Runtime

open Lib

/-! ### Stages -/

inductive Stage where
  | evidenceCapture
  | featureReceipt
  | decision
  | expression
  | risk
  | lifecycleOpen
  | monitoredExecution
  | reconciliation
  | terminal
  | closeAuthority
  deriving DecidableEq, Repr

/-- `STAGE_ORDER`. -/
def stageOrder : List Stage :=
  [.evidenceCapture, .featureReceipt, .decision, .expression, .risk, .lifecycleOpen,
    .monitoredExecution, .reconciliation, .terminal]

/-- Explicit per-stage millisecond budgets bound to one profile and arm. -/
structure StageBudgets where
  reasonerMs : Int
  marketDataMs : Int
  brokerMs : Int
  retryBackoffMs : Int
  shutdownReserveMs : Int
  profileSha256 : String
  armWindowSha256 : String
  deriving DecidableEq, Repr

/-- `getattr(budgets, STAGE_BUDGET_FIELDS[stage])`. -/
def StageBudgets.ofStage (budgets : StageBudgets) : Stage → Int
  | .evidenceCapture => budgets.marketDataMs
  | .featureReceipt => budgets.marketDataMs
  | .decision => budgets.reasonerMs
  | .expression => budgets.reasonerMs
  | .risk => budgets.reasonerMs
  | .lifecycleOpen => budgets.brokerMs
  | .monitoredExecution => budgets.brokerMs
  | .reconciliation => budgets.brokerMs
  | .terminal => budgets.shutdownReserveMs
  | .closeAuthority => budgets.shutdownReserveMs

/-! ### The accepted budgets -/

inductive BudgetError where
  /-- The arm itself is refused. -/
  | arm (error : SessionError)
  /-- `StageBudgetsRejected`. -/
  | rejected (message : String)
  deriving DecidableEq, Repr

def validateBudgetValue (value : Int) (path : String) : Except BudgetError Int := do
  throwIf (value < 0) (.rejected (path ++ " must be a non-negative integer of milliseconds"))
  return value

/-- `value == value.lower()` for the ASCII letters. -/
def isLower (s : String) : Bool := s.toList.all fun c => !c.isUpper

def validateDigest (value path : String) : Except BudgetError String := do
  throwIf (value.length ≠ 64 ∨ isLower value = false)
    (.rejected (path ++ " must be a lowercase SHA-256 digest"))
  return value

/-- The text of a UTC instant with the six digits of its microseconds. -/
def microsText (micros : Int) : String :=
  let (y, m, d) := DateTime.civil (micros / DateTime.microsPerDay)
  let rest := (micros % DateTime.microsPerDay).toNat
  let secs := rest / 1000000
  String.ofList (zeroPad 4 y.toNat ++ '-' :: zeroPad 2 m ++ '-' :: zeroPad 2 d ++
    'T' :: zeroPad 2 (secs / 3600) ++ ':' :: zeroPad 2 (secs / 60 % 60) ++
    ':' :: zeroPad 2 (secs % 60) ++ '.' :: zeroPad 6 (rest % 1000000) ++ ['Z'])

def windowTimestampText (value : DateTime) : Except BudgetError String := do
  throwIf (value.isAware = false) (.rejected "window clocks must be timezone-aware")
  return microsText value.micros

def windowPayload (window : AutonomousWindow) : Except BudgetError Json := do
  let closesAt ← windowTimestampText window.closesAt
  let opensAt ← windowTimestampText window.opensAt
  return .obj [
    ("candidate_ids", .arr (window.candidateIds.map .str)),
    ("closes_at", .str closesAt),
    ("opens_at", .str opensAt),
    ("window_id", .str window.windowId)]

/-- `autonomous_session_arm_bytes(arm)` refuses an arm that is not valid. -/
def checkArm (K : Contracts) (arm : AutonomousSessionArm) : Except BudgetError Unit :=
  (validateArm K arm).mapError .arm

def armWindowSetSha256 (K : Contracts) (arm : AutonomousSessionArm) :
    Except BudgetError String := do
  checkArm K arm
  let windows ← arm.windows.mapM windowPayload
  return (Json.obj [
    ("arm_sha256", .str arm.armSha256),
    ("schema", .str "esscher.arm_window_set"),
    ("schema_version", .int 1),
    ("windows", .arr windows)]).sha256

def stageBudgetsPayload (value : StageBudgets) : Except BudgetError Json := do
  let armWindowSha256 ← validateDigest value.armWindowSha256 "budgets.arm_window_sha256"
  let brokerMs ← validateBudgetValue value.brokerMs "budgets.broker_ms"
  let marketDataMs ← validateBudgetValue value.marketDataMs "budgets.market_data_ms"
  let profileSha256 ← validateDigest value.profileSha256 "budgets.profile_sha256"
  let reasonerMs ← validateBudgetValue value.reasonerMs "budgets.reasoner_ms"
  let retryBackoffMs ← validateBudgetValue value.retryBackoffMs "budgets.retry_backoff_ms"
  let shutdownReserveMs ← validateBudgetValue value.shutdownReserveMs "budgets.shutdown_reserve_ms"
  return .obj [
    ("arm_window_sha256", .str armWindowSha256),
    ("broker_ms", .int brokerMs),
    ("claims", .arr [.str "SYNTHETIC_FAKE", .str "NOT_ALPHA_EVIDENCE"]),
    ("market_data_ms", .int marketDataMs),
    ("profile_sha256", .str profileSha256),
    ("reasoner_ms", .int reasonerMs),
    ("retry_backoff_ms", .int retryBackoffMs),
    ("schema", .str "esscher.stage_budgets"),
    ("schema_version", .int 1),
    ("shutdown_reserve_ms", .int shutdownReserveMs)]

/-- The whole milliseconds of a span of time, from its days, seconds and microseconds. -/
def wholeMs (delta : Int) : Int :=
  let seconds := delta % DateTime.microsPerDay / 1000000
  delta / DateTime.microsPerDay * 86400000 + seconds * 1000 + delta % 1000000 / 1000

def windowDurationMs (window : AutonomousWindow) : Except BudgetError Int := do
  throwIf (window.closesAt.micros ≤ window.opensAt.micros)
    (.rejected "window must close after it opens")
  return wholeMs (window.closesAt.micros - window.opensAt.micros)

def perWindowBudgetTotalMs (value : StageBudgets) : Except BudgetError Int := do
  let _ ← stageBudgetsPayload value
  return value.marketDataMs + value.reasonerMs + value.brokerMs + value.retryBackoffMs +
    value.shutdownReserveMs

def validateStageBudgetsWithinWindow (K : Contracts) (budgets : StageBudgets)
    (arm : AutonomousSessionArm) : Except BudgetError Unit := do
  checkArm K arm
  let _ ← stageBudgetsPayload budgets
  let sha256 ← armWindowSetSha256 K arm
  throwIf (budgets.armWindowSha256 ≠ sha256)
    (.rejected "stage budgets are not bound to this armed window schedule")
  let total ← perWindowBudgetTotalMs budgets
  let durations ← arm.windows.mapM windowDurationMs
  throwIf (durations.any fun shortest => decide (shortest < total))
    (.rejected "per-window stage budgets exceed the shortest armed window length")

/-! ### The clocks of a run -/

/-- The two readings of the clock that `execute` takes around the work of a stage. -/
structure StageClock where
  stage : Stage
  startedAt : Int
  finishedAt : Int
  deriving DecidableEq, Repr

def StageClock.elapsedMs (clock : StageClock) : Int := wholeMs (clock.finishedAt - clock.startedAt)

def Follows : Int → List StageClock → Prop
  | _, [] => True
  | start, clock :: rest =>
    clock.startedAt = start ∧ clock.startedAt ≤ clock.finishedAt ∧ Follows clock.finishedAt rest

def finishOf : Int → List StageClock → Int
  | start, [] => start
  | _, clock :: rest => finishOf clock.finishedAt rest

structure WindowRun (start : Int) (run : List StageClock) : Prop where
  stages : run.map StageClock.stage = stageOrder
  follows : Follows start run

/-- `execute` records no budget violation: the whole milliseconds that elapsed are within the
budget. -/
def Measured (budgets : StageBudgets) (clock : StageClock) : Prop :=
  clock.elapsedMs ≤ budgets.ofStage clock.stage

def Lasts (budgets : StageBudgets) (clock : StageClock) : Prop :=
  clock.finishedAt - clock.startedAt ≤ 1000 * budgets.ofStage clock.stage

/-- Every run that starts as a window opens, with stages such as these, ends before it closes. -/
def RunsFit (arm : AutonomousSessionArm) (within : StageClock → Prop) : Prop :=
  ∀ window ∈ arm.windows, ∀ run, WindowRun window.opensAt.micros run →
    (∀ clock ∈ run, within clock) → finishOf window.opensAt.micros run ≤ window.closesAt.micros

def StageBudgets.stagesTotalMs (budgets : StageBudgets) : Int :=
  2 * budgets.marketDataMs + 3 * budgets.reasonerMs + 3 * budgets.brokerMs +
    budgets.shutdownReserveMs

def WindowsLast (arm : AutonomousSessionArm) (micros : Int) : Prop :=
  ∀ window ∈ arm.windows, micros ≤ window.closesAt.micros - window.opensAt.micros

/-! ### Runs and windows -/

theorem wholeMs_eq (delta : Int) : wholeMs delta = delta / 1000 := by
  simp only [wholeMs, DateTime.microsPerDay, DateTime.microsPerSecond]
  omega

/-- A run within an allowance for each stage takes at most the sum of the allowances. -/
theorem finishOf_le {allowance : Stage → Int} {run : List StageClock} {start : Int}
    (hfollows : Follows start run)
    (hwithin : ∀ clock ∈ run, clock.finishedAt - clock.startedAt ≤ allowance clock.stage) :
    finishOf start run ≤ start + ((run.map StageClock.stage).map allowance).sum := by
  induction run generalizing start with
  | nil => simp [finishOf]
  | cons clock rest ih =>
    obtain ⟨hstart, -, hrest⟩ := hfollows
    have hclock := hwithin clock List.mem_cons_self
    have htail := ih hrest fun c hc => hwithin c (List.mem_cons_of_mem clock hc)
    rw [finishOf, List.map_cons, List.map_cons, List.sum_cons]
    omega

def longestRun (allowance : Stage → Int) : Int → List Stage → List StageClock
  | _, [] => []
  | start, stage :: rest =>
    ⟨stage, start, start + allowance stage⟩ :: longestRun allowance (start + allowance stage) rest

theorem stages_longestRun (allowance : Stage → Int) (start : Int) (stages : List Stage) :
    (longestRun allowance start stages).map StageClock.stage = stages := by
  induction stages generalizing start with
  | nil => rfl
  | cons stage rest ih => rw [longestRun, List.map_cons, ih]

theorem follows_longestRun {allowance : Stage → Int} (h : ∀ stage, 0 ≤ allowance stage)
    (start : Int) (stages : List Stage) : Follows start (longestRun allowance start stages) := by
  induction stages generalizing start with
  | nil => trivial
  | cons stage rest ih =>
    have hstage := h stage
    refine ⟨rfl, ?_, ih _⟩
    show start ≤ start + allowance stage
    omega

theorem finishOf_longestRun (allowance : Stage → Int) (start : Int) (stages : List Stage) :
    finishOf start (longestRun allowance start stages) = start + (stages.map allowance).sum := by
  induction stages generalizing start with
  | nil => simp [longestRun, finishOf]
  | cons stage rest ih =>
    rw [longestRun, finishOf, ih, List.map_cons, List.sum_cons, Int.add_assoc]

theorem mem_longestRun {allowance : Stage → Int} {start : Int} {stages : List Stage}
    {clock : StageClock} (h : clock ∈ longestRun allowance start stages) :
    clock.finishedAt - clock.startedAt = allowance clock.stage := by
  induction stages generalizing start with
  | nil => cases h
  | cons stage rest ih =>
    rcases List.mem_cons.mp h with rfl | h
    · show start + allowance stage - start = allowance stage
      omega
    · exact ih h

/-- Runs fit exactly where the allowances do. -/
theorem runsFit_iff {arm : AutonomousSessionArm} {allowance : Stage → Int}
    (hallowance : ∀ stage, 0 ≤ allowance stage) {within : StageClock → Prop}
    (hwithin : ∀ clock, within clock ↔
      clock.finishedAt - clock.startedAt ≤ allowance clock.stage) :
    RunsFit arm within ↔ WindowsLast arm (stageOrder.map allowance).sum := by
  constructor
  · intro hfit window hwindow
    have hrun : WindowRun window.opensAt.micros
        (longestRun allowance window.opensAt.micros stageOrder) :=
      ⟨stages_longestRun _ _ _, follows_longestRun hallowance _ _⟩
    have hfinish := hfit window hwindow _ hrun fun clock hclock =>
      (hwithin clock).mpr (mem_longestRun hclock).le
    rw [finishOf_longestRun] at hfinish
    omega
  · intro hlast window hwindow run hrun hclocks
    have hfinish := finishOf_le hrun.follows fun clock hclock =>
      (hwithin clock).mp (hclocks clock hclock)
    have hwindow := hlast window hwindow
    rw [hrun.stages] at hfinish
    omega

/-! ### Accepted budgets -/

theorem validateBudgetValue_eq_ok {value v : Int} {path : String} :
    validateBudgetValue value path = .ok v ↔ 0 ≤ value ∧ value = v := by
  simp only [validateBudgetValue, except_bind_eq_ok, throwIf_eq_ok, except_pure_eq_ok, not_lt,
    exists_const]

theorem stageBudgetsPayload_nonneg {value : StageBudgets} {payload : Json}
    (h : stageBudgetsPayload value = .ok payload) (stage : Stage) : 0 ≤ value.ofStage stage := by
  simp only [stageBudgetsPayload, except_bind_eq_ok, validateBudgetValue_eq_ok] at h
  obtain ⟨_, -, _, ⟨hbroker, -⟩, _, ⟨hmarket, -⟩, _, -, _, ⟨hreasoner, -⟩, _, -, _,
    ⟨hshutdown, -⟩, -⟩ := h
  cases stage <;> assumption

theorem ofStage_nonneg {K : Contracts} {budgets : StageBudgets} {arm : AutonomousSessionArm}
    (h : validateStageBudgetsWithinWindow K budgets arm = .ok ()) (stage : Stage) :
    0 ≤ budgets.ofStage stage := by
  rw [validateStageBudgetsWithinWindow] at h
  obtain ⟨_, -, h⟩ := except_bind_eq_ok.mp h
  obtain ⟨payload, hpayload, -⟩ := except_bind_eq_ok.mp h
  exact stageBudgetsPayload_nonneg hpayload stage

/-- Runs within accepted budgets end inside their window exactly where the budgets fit in it,
counted once for each stage. -/
theorem runs_fit_iff {K : Contracts} {budgets : StageBudgets} {arm : AutonomousSessionArm}
    (h : validateStageBudgetsWithinWindow K budgets arm = .ok ()) :
    (RunsFit arm (Lasts budgets) ↔ WindowsLast arm (1000 * budgets.stagesTotalMs)) ∧
      (RunsFit arm (Measured budgets) ↔
        WindowsLast arm (1000 * budgets.stagesTotalMs + 9 * 999)) := by
  have hnonneg := ofStage_nonneg h
  constructor
  · have hsum : (stageOrder.map fun stage => 1000 * budgets.ofStage stage).sum =
        1000 * budgets.stagesTotalMs := by
      simp only [stageOrder, List.map_cons, List.map_nil, List.sum_cons, List.sum_nil,
        StageBudgets.ofStage, StageBudgets.stagesTotalMs]
      omega
    rw [← hsum]
    refine runsFit_iff (fun stage => ?_) fun clock => Iff.rfl
    have := hnonneg stage
    omega
  · have hsum : (stageOrder.map fun stage => 1000 * budgets.ofStage stage + 999).sum =
        1000 * budgets.stagesTotalMs + 9 * 999 := by
      simp only [stageOrder, List.map_cons, List.map_nil, List.sum_cons, List.sum_nil,
        StageBudgets.ofStage, StageBudgets.stagesTotalMs]
      omega
    rw [← hsum]
    refine runsFit_iff (fun stage => ?_) fun clock => ?_
    · have := hnonneg stage
      omega
    · rw [Measured, StageClock.elapsedMs, wholeMs_eq]
      omega

/-! ### Budgets for the session in July -/

namespace July

/-- Half an hour for the reasoner, and none for anything else. -/
def slowReasoner (armWindowSha256 : String) : StageBudgets where
  reasonerMs := 1800000
  marketDataMs := 0
  brokerMs := 0
  retryBackoffMs := 0
  shutdownReserveMs := 0
  profileSha256 := sha 'a'
  armWindowSha256 := armWindowSha256

theorem isLower_sha256 (v : Json) : isLower v.sha256 = true := by
  have hdigit : (List.range 16).all (fun n => !(Sha256.hexDigit n).isUpper) = true := by decide
  rw [isLower, Json.sha256, Sha256.hexdigest, String.toList_ofList, List.all_eq_true]
  intro c hc
  obtain ⟨b, hb, hc⟩ := List.mem_flatMap.mp hc
  obtain ⟨w, -, hw⟩ := List.mem_flatMap.mp hb
  have hlt : b < 256 := bytesBE_lt 4 w b hw
  simp only [List.mem_cons, List.not_mem_nil, or_false] at hc
  rcases hc with rfl | rfl
  · exact List.all_eq_true.mp hdigit _ (List.mem_range.mpr (by omega))
  · exact List.all_eq_true.mp hdigit _ (List.mem_range.mpr (by omega))

theorem validateDigest_sha256 (v : Json) (path : String) :
    validateDigest v.sha256 path = .ok v.sha256 := by
  rw [validateDigest, throwIf, if_neg (by simp [isLower_sha256])]
  rfl

theorem accepted_slowReasoner : ∃ sha256,
    validateStageBudgetsWithinWindow contracts (slowReasoner sha256) arm = .ok () := by
  have harm : checkArm contracts arm = .ok () := by
    rw [checkArm, validateArm_arm]
    rfl
  obtain ⟨windows, hwindows⟩ : ∃ windows, arm.windows.mapM windowPayload = .ok windows := ⟨_, rfl⟩
  have hsha := validateDigest_sha256 (.obj [("arm_sha256", .str arm.armSha256),
    ("schema", .str "esscher.arm_window_set"), ("schema_version", .int 1),
    ("windows", .arr windows)])
  set text := (Json.obj [("arm_sha256", .str arm.armSha256),
    ("schema", .str "esscher.arm_window_set"), ("schema_version", .int 1),
    ("windows", .arr windows)]).sha256 with htext
  have hset : armWindowSetSha256 contracts arm = .ok text := by
    rw [armWindowSetSha256, harm, hwindows]
    rfl
  have hprofile : validateDigest (sha 'a') "budgets.profile_sha256" = .ok (sha 'a') := by decide
  obtain ⟨payload, hpayload⟩ : ∃ payload, stageBudgetsPayload (slowReasoner text) = .ok payload := by
    simp only [stageBudgetsPayload, slowReasoner, hsha, hprofile]
    exact ⟨_, rfl⟩
  have htotal : perWindowBudgetTotalMs (slowReasoner text) = .ok 1800000 := by
    rw [perWindowBudgetTotalMs, hpayload]
    rfl
  have hdurations : arm.windows.mapM windowDurationMs = .ok (List.replicate 6 1800000) := by decide
  refine ⟨text, ?_⟩
  simp only [validateStageBudgetsWithinWindow, except_bind_eq_ok, throwIf_eq_ok]
  exact ⟨(), harm, payload, hpayload, text, hset, (), not_not.mpr rfl, 1800000, htotal, _,
    hdurations, by decide⟩

/-- Accepted budgets, and a run within them that ends an hour after its window closed. -/
theorem run_overruns : ∃ sha256 run,
    validateStageBudgetsWithinWindow contracts (slowReasoner sha256) arm = .ok () ∧
      WindowRun (window 10).opensAt.micros run ∧
      (∀ clock ∈ run, Lasts (slowReasoner sha256) clock ∧ Measured (slowReasoner sha256) clock) ∧
      (window 10).closesAt.micros < finishOf (window 10).opensAt.micros run := by
  obtain ⟨sha256, haccepted⟩ := accepted_slowReasoner
  have hnonneg := ofStage_nonneg haccepted
  have hallowance : ∀ stage, 0 ≤ 1000 * (slowReasoner sha256).ofStage stage := by
    intro stage
    have := hnonneg stage
    omega
  refine ⟨sha256, longestRun (fun stage => 1000 * (slowReasoner sha256).ofStage stage)
    (window 10).opensAt.micros stageOrder, haccepted,
    ⟨stages_longestRun _ _ _, follows_longestRun hallowance _ _⟩, fun clock hclock => ?_, ?_⟩
  · have hspan := mem_longestRun hclock
    refine ⟨hspan.le, ?_⟩
    rw [Measured, StageClock.elapsedMs, wholeMs_eq, hspan]
    omega
  · rw [finishOf_longestRun]
    exact (by decide : (window 10).closesAt.micros < (window 10).opensAt.micros +
      (stageOrder.map fun stage => 1000 * (slowReasoner "").ofStage stage).sum)

/-- The condition for the budgets of the session, and a run that breaks it. -/
theorem runs_fit_iff_slowReasoner : ∃ sha256,
    (RunsFit arm (Lasts (slowReasoner sha256)) ↔
      WindowsLast arm (1000 * (slowReasoner sha256).stagesTotalMs)) ∧
    (RunsFit arm (Measured (slowReasoner sha256)) ↔
      WindowsLast arm (1000 * (slowReasoner sha256).stagesTotalMs + 9 * 999)) := by
  obtain ⟨sha256, haccepted⟩ := accepted_slowReasoner
  exact ⟨sha256, runs_fit_iff haccepted⟩

end July

end EsscherMarket.Runtime
