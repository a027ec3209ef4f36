import EsscherMarket.Lib.IsoReader
import EsscherMarket.Risk.PolicyDocument
import EsscherMarket.Runtime.Sidecar.Formats

/-!
# The document of the exit-plan clocks

`parse_lifecycle_clocks` of `lifecycle/clocks.py` as a reader of untrusted bytes: what it raises
besides `LifecycleRejected` is kept apart, as for the document of the V1 policy.
-/

namespace EsscherMarket.Runtime

open Lib Lifecycle Risk Risk.PolicyDocument

/-! ### The reader -/

/-- `LifecycleRejected` with its reason and path, or what else is raised. -/
inductive ClocksError where
  | rejected (reason : LifecycleReason) (path : String)
  | typeError
  | unicodeEncodeError

/-- `LifecycleRejected`. -/
def ClocksError.IsRejected (e : ClocksError) : Prop := ∃ reason path, e = .rejected reason path

/-- `_timestamp`; a failure inside the constructor's `try` is one of the order of the clocks. -/
def readClock (iso : IsoReader) (payload : PyJson) (key : String) : Except ClocksError DateTime :=
  match payload.get key with
  | .str text =>
    match text.toString?.bind fun s => iso.read (DateTime.replaceZ s) with
    | some t =>
      if isUtc t then .ok t else .error (.rejected .exitPlanClocksMisordered "lifecycle_clocks")
    | none => .error (.rejected .exitPlanClocksMisordered "lifecycle_clocks")
  | _ => .error (.rejected .exitPlanClocksMisordered "lifecycle_clocks")

def parseClocksDocument (f : Json.FloatRepr) (iso : IsoReader) (raw : List UInt8) :
    Except ClocksError LifecycleClocks := do
  let payload ← (PyJson.loads ⟨true, false⟩ raw).mapError fun _ =>
    .rejected .unsupportedInput "lifecycle_clocks"
  throwIf (payload.isObject = false) (.rejected .unsupportedInput "lifecycle_clocks")
  throwIf (payload.hasKeys clockFields = false) (.rejected .unsupportedInput "lifecycle_clocks")
  throwIf ((payload.get "schema").isText "esscher.lifecycle_exit_plan" = false)
    (.rejected .unsupportedInput "lifecycle_clocks.schema")
  throwIf ((payload.get "schema_version").isOne f = false)
    (.rejected .unsupportedInput "lifecycle_clocks.schema_version")
  -- what has no hash is not looked up in a set
  throwIf ((payload.get "cohort_id").isContainer = true) .typeError
  throwIf ((knownCohorts.any fun cohort => (payload.get "cohort_id").isText cohort) = false)
    (.rejected .exitPlanCohortMismatch "lifecycle_clocks.cohort_id")
  let eventRunId := documentText f (payload.get "event_run_id")
  let policySha256 := documentText f (payload.get "policy_sha256")
  let sourceSha256 := documentText f (payload.get "source_sha256")
  let observationWindowStartAt ← readClock iso payload "observation_window_start_at"
  let observationWindowEndAt ← readClock iso payload "observation_window_end_at"
  let entryDeadlineAt ← readClock iso payload "entry_deadline_at"
  let timeExitAt ← readClock iso payload "time_exit_at"
  let flatteningDeadlineAt ← readClock iso payload "flattening_deadline_at"
  let fields : LifecycleClocksFields := ⟨eventRunId.replaced,
    (documentText f (payload.get "cohort_id")).replaced, policySha256.replaced,
    sourceSha256.replaced, observationWindowStartAt, observationWindowEndAt, entryDeadlineAt,
    timeExitAt, flatteningDeadlineAt⟩
  if h : fields.check = true then
    let result : LifecycleClocks := ⟨fields, h⟩
    -- a lone surrogate has no bytes
    throwIf (¬ ∀ t ∈ [eventRunId, policySha256, sourceSha256], PlainText t) .unicodeEncodeError
    let again ← (lifecycleClocksBytes result).mapError fun _ => .rejected .unsupportedInput "clock"
    throwIf (again ≠ raw) (.rejected .unsupportedInput "lifecycle_clocks")
    throwIf (result.sourceVerified = false)
      (.rejected .exitPlanUnverified "lifecycle_clocks.source_sha256")
    return result
  else throw (.rejected .exitPlanClocksMisordered "lifecycle_clocks")

/-! ### Clocks that are written -/

namespace LifecycleClocks

def times (c : LifecycleClocks) : List DateTime :=
  [c.observationWindowStartAt, c.observationWindowEndAt, c.entryDeadlineAt, c.timeExitAt,
    c.flatteningDeadlineAt]

/-- The clocks as they are read back: in `UTC` itself. -/
abbrev reread (c : LifecycleClocks) : LifecycleClocksFields :=
  { c.toLifecycleClocksFields with
    observationWindowStartAt := c.observationWindowStartAt.canonical
    observationWindowEndAt := c.observationWindowEndAt.canonical
    entryDeadlineAt := c.entryDeadlineAt.canonical
    timeExitAt := c.timeExitAt.canonical
    flatteningDeadlineAt := c.flatteningDeadlineAt.canonical }

end LifecycleClocks

/-- Clocks that Python can hold: each is in the range of a datetime. -/
abbrev HeldClocks : Type := { c : LifecycleClocks // ∀ t ∈ LifecycleClocks.times c, t.InRange }

/-- Equal clocks: datetimes are compared as instants. -/
structure SameClocks (c d : LifecycleClocks) : Prop where
  eventRunId : c.eventRunId = d.eventRunId
  cohortId : c.cohortId = d.cohortId
  policySha256 : c.policySha256 = d.policySha256
  sourceSha256 : c.sourceSha256 = d.sourceSha256
  instants : (LifecycleClocks.times c).map DateTime.micros =
    (LifecycleClocks.times d).map DateTime.micros

section Document

variable {f : Json.FloatRepr} {iso : IsoReader} {raw : List UInt8} {c : LifecycleClocks}

theorem clockText_eq_ok {t : DateTime} {s : String} :
    clockText t = .ok s ↔ isUtc t = true ∧ t.isoformatZ = s := by
  rw [clockText]
  by_cases h : isUtc t = true
  · rw [if_pos h, Except.ok.injEq]
    exact ⟨fun hs => ⟨h, hs⟩, fun hs => hs.2⟩
  · rw [if_neg h]
    exact ⟨fun hs => (by cases hs), fun hs => absurd hs.1 h⟩

theorem lifecycleClocksBytes_eq_ok : lifecycleClocksBytes c = .ok raw ↔
    (∀ t ∈ LifecycleClocks.times c, isUtc t = true) ∧ (lifecycleClocksPayload c).canonicalBytes = raw := by
  simp only [lifecycleClocksBytes, except_bind_eq_ok, except_pure_eq_ok, clockText_eq_ok,
    LifecycleClocks.times, List.forall_mem_cons, List.not_mem_nil, false_imp_iff, implies_true,
    and_true]
  constructor
  · rintro ⟨_, ⟨h1, -⟩, _, ⟨h2, -⟩, _, ⟨h3, -⟩, _, ⟨h4, -⟩, _, ⟨h5, -⟩, hbytes⟩
    exact ⟨⟨h1, h2, h3, h4, h5⟩, hbytes⟩
  · rintro ⟨⟨h1, h2, h3, h4, h5⟩, hbytes⟩
    exact ⟨_, ⟨h1, rfl⟩, _, ⟨h2, rfl⟩, _, ⟨h3, rfl⟩, _, ⟨h4, rfl⟩, _, ⟨h5, rfl⟩, hbytes⟩

/-- What is read has these bytes. -/
theorem lifecycleClocksBytes_of_parse (h : parseClocksDocument f iso raw = .ok c) :
    lifecycleClocksBytes c = .ok raw := by
  simp only [parseClocksDocument, except_bind_eq_ok] at h
  obtain ⟨_, -, _, -, _, -, _, -, _, -, _, -, _, -, _, -, _, -, _, -, _, -, _, -, h⟩ := h
  split at h
  · simp only [except_bind_eq_ok, throwIf_eq_ok, except_pure_eq_ok, except_mapError_eq_ok] at h
    obtain ⟨_, -, again, hagain, _, hsame, _, -, rfl⟩ := h
    rw [hagain, not_not.mp hsame]
  · cases h

theorem readable_clocks (c : LifecycleClocks) : Json.Readable (lifecycleClocksPayload c) := by
  have hone : (Nat.toDigits 10 1).length ≤ PyJson.maxDigits := by decide
  refine .obj _ ?_ ?_
  · simp only [List.map_cons, List.map_nil]
    decide
  · simp only [List.forall_mem_cons]
    exact ⟨.str _, .int _ hone, .str _, .str _, .str _, .str _, .str _, .str _, .str _, .str _,
      .str _, fun _ h => by cases h⟩

def clocksDocument (c : LifecycleClocks) : PyJson := .ofJson (lifecycleClocksPayload c).sorted

theorem get_clocksDocument {key : String} {w : Json} (h : (lifecycleClocksPayload c).get key = w) :
    (clocksDocument c).get key = .ofJson w.sorted := by
  rw [clocksDocument, PyJson.get_ofJson, Json.get_sorted (readable_clocks c).wellFormed, h]

theorem offsetText_of_isUtc {t : DateTime} (h : isUtc t = true) :
    DateTime.offsetText t.tzinfo = "+00:00".toList := by
  rw [isUtc, Bool.or_eq_true, beq_iff_eq, beq_iff_eq] at h
  rcases h with h | h <;> rw [h] <;> decide

theorem isUtc_canonical {t : DateTime} (h : isUtc t = true) : isUtc t.canonical = true := by
  rw [isUtc, Bool.or_eq_true, beq_iff_eq, beq_iff_eq] at h ⊢
  rcases h with h | h
  · exact .inl (by rw [DateTime.canonical, h]; rfl)
  · exact .inl (by rw [DateTime.canonical, h]; rfl)

theorem readClock_isoformatZ {t : DateTime} {key : String} (hutc : isUtc t = true)
    (hrange : t.InRange) (h : (lifecycleClocksPayload c).get key = .str t.isoformatZ) :
    readClock iso (clocksDocument c) key = .ok t.canonical := by
  have hoffset := offsetText_of_isUtc hutc
  have htext : DateTime.replaceZ t.isoformatZ = t.isoformat := by
    rw [DateTime.isoformatZ_eq hoffset,
      DateTime.replaceZ_isoText _ _ (DateTime.not_mem_fractionText _), DateTime.isoformat_eq,
      hoffset]
  have hvalue : (clocksDocument c).get key = .str (PyText.of t.isoformatZ) := get_clocksDocument h
  rw [readClock, hvalue]
  simp only [PyText.toString?_of, Option.bind_some, htext, iso.reads t hrange,
    isUtc_canonical hutc, if_true]

theorem check_reread (c : LifecycleClocks) : (LifecycleClocks.reread c).check = true := by
  have hc := c.accepted
  simp only [LifecycleClocksFields.check, List.all_cons, List.all_nil,
    DateTime.isAware_canonical] at hc ⊢
  exact hc

theorem sameClocks_reread (c : LifecycleClocks) : SameClocks ⟨_, check_reread c⟩ c :=
  ⟨rfl, rfl, rfl, rfl, rfl⟩

/-- The clocks as they are read back have the same document. -/
theorem payload_reread (c : LifecycleClocks) :
    lifecycleClocksPayload ⟨_, check_reread c⟩ = lifecycleClocksPayload c := by
  have htext : ∀ t : DateTime, t.canonical.isoformatZ = t.isoformatZ := by
    intro t
    rw [DateTime.isoformatZ, DateTime.isoformatZ, DateTime.isoformat_canonical]
  simp only [lifecycleClocksPayload, htext]

/-- Clocks that can be written are read back if their source is verified. -/
theorem parse_lifecycleClocksBytes (c : HeldClocks) (h : lifecycleClocksBytes c.1 = .ok raw) :
    parseClocksDocument f iso raw = if c.1.sourceVerified = true then .ok ⟨_, check_reread c.1⟩
      else .error (.rejected .exitPlanUnverified "lifecycle_clocks.source_sha256") := by
  obtain ⟨c, hrange⟩ := c
  obtain ⟨hutc, rfl⟩ := lifecycleClocksBytes_eq_ok.mp h
  have hloads : PyJson.loads ⟨true, false⟩ (lifecycleClocksPayload c).canonicalBytes =
      .ok (clocksDocument c) := PyJson.loads_canonicalBytes (readable_clocks c) _
  have hagain : lifecycleClocksBytes ⟨_, check_reread c⟩ =
      .ok (lifecycleClocksPayload c).canonicalBytes := by
    refine lifecycleClocksBytes_eq_ok.mpr ⟨?_, congrArg Json.canonicalBytes (payload_reread c)⟩
    intro t ht
    have hmem : t ∈ (LifecycleClocks.times c).map DateTime.canonical := ht
    obtain ⟨u, hu, rfl⟩ := List.mem_map.mp hmem
    exact isUtc_canonical (hutc u hu)
  have hclock : ∀ {key t}, t ∈ LifecycleClocks.times c →
      (lifecycleClocksPayload c).get key = .str t.isoformatZ →
      readClock iso (clocksDocument c) key = .ok t.canonical :=
    fun ht hkey => readClock_isoformatZ (hutc _ ht) (hrange _ ht) hkey
  have htext : ∀ {key s}, (lifecycleClocksPayload c).get key = .str s →
      documentText f ((clocksDocument c).get key) = .of s := by
    intro key s hkey
    rw [get_clocksDocument hkey]
    rfl
  have hcohort : knownCohorts.any (fun cohort => ((clocksDocument c).get "cohort_id").isText
      cohort) = true := by
    have hc := c.accepted
    simp only [LifecycleClocksFields.check, Bool.and_eq_true] at hc
    rw [List.any_eq_true]
    refine ⟨c.cohortId, List.contains_iff_mem.mp hc.1.1.1.2, ?_⟩
    rw [get_clocksDocument (w := .str c.cohortId) rfl]
    exact (PyJson.isText_ofJson _ _).trans (beq_self_eq_true _)
  have hkeys : (clocksDocument c).hasKeys clockFields = true := by
    rw [clocksDocument, PyJson.hasKeys_ofJson, Json.hasKeys_sorted]
    rfl
  have hobject : (clocksDocument c).isObject = true := by
    simp [clocksDocument, lifecycleClocksPayload, Json.sorted, PyJson.ofJson, PyJson.isObject]
  have hschema : ((clocksDocument c).get "schema").isText "esscher.lifecycle_exit_plan" = true := by
    rw [get_clocksDocument (w := .str "esscher.lifecycle_exit_plan") rfl]
    decide
  have hversion : ((clocksDocument c).get "schema_version").isOne f = true := by
    rw [get_clocksDocument (w := .int 1) rfl]
    rfl
  have hhash : ((clocksDocument c).get "cohort_id").isContainer = false := by
    rw [get_clocksDocument (w := .str c.cohortId) rfl]
    rfl
  have hplain : ∀ t ∈ [PyText.of c.eventRunId, PyText.of c.policySha256,
      PyText.of c.sourceSha256], PlainText t := by
    simp only [List.forall_mem_cons, plainText_of, List.not_mem_nil, false_imp_iff, implies_true,
      and_self]
  have hstart := @hclock "observation_window_start_at" c.observationWindowStartAt (by simp [LifecycleClocks.times]) rfl
  have hend := @hclock "observation_window_end_at" c.observationWindowEndAt (by simp [LifecycleClocks.times]) rfl
  have hentry := @hclock "entry_deadline_at" c.entryDeadlineAt (by simp [LifecycleClocks.times]) rfl
  have hexit := @hclock "time_exit_at" c.timeExitAt (by simp [LifecycleClocks.times]) rfl
  have hflat := @hclock "flattening_deadline_at" c.flatteningDeadlineAt (by simp [LifecycleClocks.times]) rfl
  simp only [parseClocksDocument, hloads, except_mapError_ok, hobject, hkeys, hschema, hversion,
    hhash,
    hcohort, hstart, hend, hentry, hexit, hflat, @htext "event_run_id" c.eventRunId rfl,
    @htext "cohort_id" c.cohortId rfl, @htext "policy_sha256" c.policySha256 rfl, @htext "source_sha256" c.sourceSha256 rfl,
    PyText.replaced_of, throwIf, Bool.true_eq_false, Bool.false_eq_true, if_false, bind, Except.bind]
  rw [dif_pos (check_reread c), if_neg (not_not.mpr hplain)]
  simp only [hagain, except_mapError_ok, ne_eq, not_true_eq_false, if_false]
  by_cases hverified : c.sourceVerified = true
  · rw [if_pos hverified, if_neg (by rw [Bool.not_eq_false]; exact hverified)]
    rfl
  · rw [if_neg hverified, if_pos (Bool.not_eq_true _ ▸ hverified)]

/-! ### What is raised -/

/-- The cohort has a hash, and no text of the clocks holds a lone surrogate. -/
structure ClocksTexts (payload : PyJson) : Prop where
  hashed : (payload.get "cohort_id").isContainer = false
  plain : ∀ key ∈ ["event_run_id", "policy_sha256", "source_sha256"], ∀ t,
    payload.get key = .str t → PlainText t

theorem raisesOnly_readClock (payload : PyJson) (key : String) :
    RaisesOnly ClocksError.IsRejected (readClock iso payload key) := by
  unfold readClock
  split
  · split
    · split
      · exact raisesOnly_ok _
      · exact raisesOnly_error ⟨_, _, rfl⟩
    · exact raisesOnly_error ⟨_, _, rfl⟩
  · exact raisesOnly_error ⟨_, _, rfl⟩

/-- Only `LifecycleRejected` is raised on such texts. -/
theorem parseClocksDocument_raises (h : ∀ payload, PyJson.loads ⟨true, false⟩ raw = .ok payload →
    ClocksTexts payload) :
    RaisesOnly ClocksError.IsRejected (parseClocksDocument f iso raw) := by
  have hcheck : ∀ {c : Prop} [Decidable c] {reason path},
      RaisesOnly ClocksError.IsRejected (throwIf c (.rejected reason path)) :=
    raisesOnly_throwIf ⟨_, _, rfl⟩
  refine (raisesOnly_mapError fun _ => ⟨_, _, rfl⟩).bind fun payload hloads => ?_
  obtain ⟨hhashed, hplain⟩ := h payload (except_mapError_eq_ok.mp hloads)
  simp only [List.forall_mem_cons, List.not_mem_nil, false_imp_iff, implies_true,
    and_true] at hplain
  refine hcheck.bind fun _ _ => hcheck.bind fun _ _ => hcheck.bind fun _ _ => hcheck.bind fun _ _ =>
    (raisesOnly_throwIf_of_not (by rw [hhashed]; decide)).bind fun _ _ => hcheck.bind fun _ _ =>
    (raisesOnly_readClock _ _).bind fun _ _ => (raisesOnly_readClock _ _).bind fun _ _ =>
    (raisesOnly_readClock _ _).bind fun _ _ => (raisesOnly_readClock _ _).bind fun _ _ =>
    (raisesOnly_readClock _ _).bind fun _ _ => ?_
  dsimp only
  split
  · refine (raisesOnly_throwIf_of_not (not_not.mpr ?_)).bind fun _ _ =>
      (raisesOnly_mapError fun _ => ⟨_, _, rfl⟩).bind fun _ _ => hcheck.bind fun _ _ =>
      hcheck.bind fun _ _ => raisesOnly_ok _
    simp only [List.forall_mem_cons, List.not_mem_nil, false_imp_iff, implies_true, and_true]
    exact ⟨plainText_documentText hplain.1, plainText_documentText hplain.2.1,
      plainText_documentText hplain.2.2⟩
  · exact raisesOnly_error ⟨_, _, rfl⟩

end Document

/-! ### Both documents -/

/-- Where no text that is printed is empty or holds a lone surrogate, the readers return or reject,
what they return is written as it was read, and what is written is read back. -/
theorem documents_read_back (f : Json.FloatRepr) (iso : IsoReader) (order : FieldOrder) :
    (∀ raw, (∀ payload, PyJson.loads ⟨true, false⟩ raw = .ok payload → PolicyTexts payload) →
      RaisesOnly DocumentError.IsRejected (parseRiskPolicy f order raw)) ∧
    (∀ raw p, parseRiskPolicy f order raw = .ok p → riskPolicyBytes p = .ok raw) ∧
    (∀ raw p, riskPolicyBytes p = .ok raw → parseRiskPolicy f order raw = .ok p) ∧
    (∀ raw, (∀ payload, PyJson.loads ⟨true, false⟩ raw = .ok payload → ClocksTexts payload) →
      RaisesOnly ClocksError.IsRejected (parseClocksDocument f iso raw)) ∧
    (∀ raw c, parseClocksDocument f iso raw = .ok c → lifecycleClocksBytes c = .ok raw) ∧
    (∀ raw (c : HeldClocks), lifecycleClocksBytes c.1 = .ok raw →
      (c.1.sourceVerified = true →
        ∃ d, parseClocksDocument f iso raw = .ok d ∧ SameClocks d c.1) ∧
      (c.1.sourceVerified = false → parseClocksDocument f iso raw =
        .error (.rejected .exitPlanUnverified "lifecycle_clocks.source_sha256"))) := by
  refine ⟨fun _ h => parseRiskPolicy_raises h, fun _ _ h => riskPolicyBytes_of_parse h,
    fun _ _ h => parse_riskPolicyBytes h, fun _ h => parseClocksDocument_raises h,
    fun _ _ h => lifecycleClocksBytes_of_parse h, fun raw c h => ?_⟩
  have hparse : parseClocksDocument f iso raw = _ := parse_lifecycleClocksBytes c h
  refine ⟨fun hverified => ?_, fun hverified => ?_⟩
  · rw [if_pos hverified] at hparse
    exact ⟨_, hparse, sameClocks_reread c.1⟩
  · rw [if_neg (by rw [hverified]; decide)] at hparse
    exact hparse

def writtenFloats : Json.FloatRepr := .literals

def secondsClocks (source : Char) : LifecycleClocksFields where
  eventRunId := "e1"
  cohortId := "BMO"
  policySha256 := String.ofList (List.replicate 64 'a')
  sourceSha256 := String.ofList (List.replicate 64 source)
  observationWindowStartAt := .utc 1000000
  observationWindowEndAt := .utc 2000000
  entryDeadlineAt := .utc 3000000
  timeExitAt := .utc 4000000
  flatteningDeadlineAt := .utc 5000000

def verifiedClocks : LifecycleClocks := ⟨secondsClocks 'a', by decide⟩

def unverifiedClocks : LifecycleClocks := ⟨secondsClocks '0', by decide⟩

theorem inRange_seconds (source : Char) (h : (secondsClocks source).check = true) :
    ∀ t ∈ LifecycleClocks.times ⟨secondsClocks source, h⟩, t.InRange := by
  have hrange : ∀ n ∈ [1000000, 2000000, 3000000, 4000000, 5000000], (DateTime.utc n).InRange := by
    decide
  intro t ht
  obtain ⟨n, hn, rfl⟩ := List.mem_map.mp
    (show t ∈ [1000000, 2000000, 3000000, 4000000, 5000000].map DateTime.utc from ht)
  exact hrange n hn

theorem bytes_seconds (source : Char) (h : (secondsClocks source).check = true) :
    lifecycleClocksBytes ⟨secondsClocks source, h⟩ =
      .ok (lifecycleClocksPayload ⟨secondsClocks source, h⟩).canonicalBytes := by
  refine lifecycleClocksBytes_eq_ok.mpr ⟨fun t ht => ?_, rfl⟩
  obtain ⟨n, -, rfl⟩ := List.mem_map.mp
    (show t ∈ [1000000, 2000000, 3000000, 4000000, 5000000].map DateTime.utc from ht)
  rfl

theorem documents_read_back_demo :
    RaisesOnly DocumentError.IsRejected
      (parseRiskPolicy writtenFloats ⟨decimalFields, List.Perm.refl _⟩ []) ∧
    RaisesOnly ClocksError.IsRejected (parseClocksDocument writtenFloats .plain []) ∧
    ∃ d, parseClocksDocument writtenFloats .plain
      (lifecycleClocksPayload verifiedClocks).canonicalBytes = .ok d ∧
      SameClocks d verifiedClocks := by
  have hboth := documents_read_back writtenFloats .plain ⟨decimalFields, List.Perm.refl _⟩
  have hempty : ∀ payload, PyJson.loads ⟨true, false⟩ [] ≠ .ok payload := by
    intro payload h
    cases h
  exact ⟨hboth.1 [] fun payload h => absurd h (hempty payload),
    hboth.2.2.2.1 [] fun payload h => absurd h (hempty payload),
    (hboth.2.2.2.2.2 _ ⟨verifiedClocks, inRange_seconds _ _⟩ (bytes_seconds _ _)).1 (by decide)⟩

/-- Valid clocks that can be written are not read back. -/
theorem unverified_not_read : ¬ ∀ (f : Json.FloatRepr) (iso : IsoReader) (raw : List UInt8)
    (c : HeldClocks), lifecycleClocksBytes c.1 = .ok raw →
      ∃ d, parseClocksDocument f iso raw = .ok d ∧ SameClocks d c.1 := by
  intro h
  obtain ⟨d, hd, -⟩ := h writtenFloats .plain _ ⟨unverifiedClocks, inRange_seconds _ _⟩
    (bytes_seconds _ _)
  have hparse : parseClocksDocument writtenFloats .plain _ = _ :=
    parse_lifecycleClocksBytes ⟨unverifiedClocks, inRange_seconds _ _⟩ (bytes_seconds _ _)
  rw [if_neg (by decide)] at hparse
  rw [hparse] at hd
  cases hd

end EsscherMarket.Runtime
