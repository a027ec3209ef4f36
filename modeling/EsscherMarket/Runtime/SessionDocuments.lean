import EsscherMarket.Lib.IsoReader
import EsscherMarket.Lib.JsonFormat
import EsscherMarket.Lib.UtcText
import EsscherMarket.Runtime.SessionStore

/-!
# The documents of a session

The three self-hashing documents of `runtime/autonomous.py` as bytes: the arm, the identity of an
active lifecycle and the summary.  Each parser reads a value from strict JSON, validates it as its
encoder does, and compares the bytes.
-/

namespace EsscherMarket.Runtime

open Lib

/-! ### Readers -/

def readIdentifier : Json → Option String := Json.readText isIdentifier

def readDigest : Json → Option String := Json.readText (isLowerHex 64)

def readTimestamp : Json → Option DateTime
  | .str s => DateTime.parseUtc s
  | _ => none

/-! ### Arms -/

def parseWindow (v : Json) : Option AutonomousWindow := do
  if v.hasKeys ["schema", "schema_version", "window_id", "opens_at", "closes_at",
      "candidate_ids"] then
    if (v.get "schema").isText "esscher.autonomous_session_window" &&
        (v.get "schema_version").isOne then
      let candidateIds ← Json.readList readIdentifier (v.get "candidate_ids")
      if candidateIds = [] then none else
        return {
          windowId := ← readIdentifier (v.get "window_id")
          opensAt := ← readTimestamp (v.get "opens_at")
          closesAt := ← readTimestamp (v.get "closes_at")
          candidateIds := candidateIds }
    else none
  else none

/-- `parse_autonomous_session_arm` of an object of the right keys, without the comparison of the
bytes. -/
def readArm (K : Contracts) (v : Json) : Option AutonomousSessionArm := do
  if (v.get "schema").isText "esscher.autonomous_session_arm" &&
      (v.get "schema_version").isOne then
    let windows ← Json.readList parseWindow (v.get "windows")
    let arm : AutonomousSessionArm := {
      sessionId := ← readIdentifier (v.get "session_id")
      releaseCodeSha256 := ← readDigest (v.get "release_code_sha256")
      accountFingerprintSha256 := ← readDigest (v.get "account_fingerprint_sha256")
      ownerPolicySha256 := ← readDigest (v.get "owner_policy_sha256")
      strategyPolicySha256 := ← readDigest (v.get "strategy_policy_sha256")
      riskPolicySha256 := ← readDigest (v.get "risk_policy_sha256")
      executionProtocolSha256 := ← readDigest (v.get "execution_protocol_sha256")
      reasonerRouteSha256 := ← readDigest (v.get "reasoner_route_sha256")
      reasonerModelConfigSha256 := ← readDigest (v.get "reasoner_model_config_sha256")
      mode := ← Json.readText (fun _ => true) (v.get "mode")
      startsAt := ← readTimestamp (v.get "starts_at")
      endsAt := ← readTimestamp (v.get "ends_at")
      hardFlatAt := ← readTimestamp (v.get "hard_flat_at")
      windows := windows }
    let expected ← readDigest (v.get "arm_sha256")
    if validateArm K arm = .ok () ∧ windows ≠ [] ∧ expected = arm.armSha256 then some arm else none
  else none

def AutonomousSessionArm.document (arm : AutonomousSessionArm) : Json :=
  .obj (arm.unsignedPayload ++ [("arm_sha256", .str arm.armSha256)])

def armFormat (K : Contracts) : Json.Format AutonomousSessionArm where
  keys := ["schema", "schema_version", "arm_sha256", "session_id", "release_code_sha256",
    "account_fingerprint_sha256", "owner_policy_sha256", "strategy_policy_sha256",
    "risk_policy_sha256", "execution_protocol_sha256", "reasoner_route_sha256",
    "reasoner_model_config_sha256", "mode", "starts_at", "ends_at", "hard_flat_at", "windows"]
  payload := AutonomousSessionArm.document
  read := readArm K

/-- `autonomous_session_arm_bytes`; `none` where the arm is rejected. -/
def autonomousSessionArmBytes (K : Contracts) (arm : AutonomousSessionArm) : Option (List UInt8) :=
  if validateArm K arm = .ok () then some arm.bytes else none

/-- `parse_autonomous_session_arm`; `none` where it rejects. -/
def parseAutonomousSessionArm (K : Contracts) : List UInt8 → Option AutonomousSessionArm :=
  (armFormat K).decode

/-! ### Instants in UTC -/

def AutonomousWindow.inUtc (w : AutonomousWindow) : AutonomousWindow :=
  { w with opensAt := .utc w.opensAt.micros, closesAt := .utc w.closesAt.micros }

/-- The arm with its instants in `UTC` itself: a datetime is equal to that of the same instant. -/
def AutonomousSessionArm.inUtc (arm : AutonomousSessionArm) : AutonomousSessionArm :=
  { arm with
    startsAt := .utc arm.startsAt.micros
    endsAt := .utc arm.endsAt.micros
    hardFlatAt := .utc arm.hardFlatAt.micros
    windows := arm.windows.map AutonomousWindow.inUtc }

def AutonomousSessionArm.times (arm : AutonomousSessionArm) : List DateTime :=
  [arm.startsAt, arm.endsAt, arm.hardFlatAt] ++
    arm.windows.flatMap fun w => [w.opensAt, w.closesAt]

section Utc

variable {K : Contracts} {arm : AutonomousSessionArm} {w : AutonomousWindow} {day : Int}

theorem isoformatZ_utc {t : DateTime} (h : isUtc t = true) :
    (DateTime.utc t.micros).isoformatZ = t.isoformatZ := by
  have hcanonical : t.canonical = .utc t.micros := by
    rw [isUtc, Bool.or_eq_true, beq_iff_eq, beq_iff_eq] at h
    rcases h with h | h <;> rw [DateTime.canonical, h] <;> rfl
  rw [DateTime.isoformatZ, DateTime.isoformatZ, ← hcanonical, DateTime.isoformat_canonical]

theorem forM_eq_ok {α ε : Type} {f : α → Except ε Unit} {as : List α} :
    as.forM f = .ok () ↔ ∀ a ∈ as, f a = .ok () := by
  induction as with
  | nil => exact ⟨fun _ a ha => (by cases ha), fun _ => rfl⟩
  | cons a as ih =>
    show (f a >>= fun _ => as.forM f) = .ok () ↔ _
    rw [except_bind_eq_ok, List.forall_mem_cons, ← ih, Unique.exists_iff]

theorem validateWindowShape_inUtc (h : validateWindowShape w = .ok ()) :
    isUtc w.opensAt = true ∧ isUtc w.closesAt = true ∧ validateWindowShape w.inUtc = .ok () := by
  simp only [validateWindowShape, except_bind_eq_ok, utcDatetime_eq_ok] at h ⊢
  obtain ⟨_, hid, _, ⟨hopens, rfl⟩, _, ⟨hcloses, rfl⟩, hrest⟩ := h
  exact ⟨hopens, hcloses, _, hid, _, ⟨rfl, rfl⟩, _, ⟨rfl, rfl⟩, hrest⟩

theorem validateArmWindow_inUtc (h : validateArmWindow K arm day w = .ok ()) :
    isUtc w.opensAt = true ∧ isUtc w.closesAt = true ∧
      validateArmWindow K arm.inUtc day w.inUtc = .ok () := by
  simp only [validateArmWindow, except_bind_eq_ok] at h ⊢
  obtain ⟨_, hshape, hrest⟩ := h
  obtain ⟨hopens, hcloses, hshape⟩ := validateWindowShape_inUtc hshape
  exact ⟨hopens, hcloses, _, hshape, hrest⟩

theorem windowsOrdered_inUtc (ws : List AutonomousWindow) :
    windowsOrdered (ws.map AutonomousWindow.inUtc) = windowsOrdered ws := by
  induction ws with
  | nil => rfl
  | cons w rest ih =>
    cases rest with
    | nil => rfl
    | cons w' rest =>
      rw [List.map_cons, List.map_cons, windowsOrdered, windowsOrdered, ← List.map_cons, ih]
      rfl

/-- What is checked of an arm depends on its instants only. -/
theorem validateArm_inUtc (h : validateArm K arm = .ok ()) :
    (∀ t ∈ arm.times, isUtc t = true) ∧ validateArm K arm.inUtc = .ok () := by
  simp only [validateArm, except_bind_eq_ok, utcDatetime_eq_ok] at h
  obtain ⟨_, h1, _, h2, _, h3, _, h4, _, h5, _, h6, _, h7, _, h8, _, h9, _, h10, _, ⟨hstarts, rfl⟩,
    _, ⟨hends, rfl⟩, _, ⟨hflat, rfl⟩, _, hclocks, _, hsome, _, hhashes, _, hopenings, _, hordered,
    _, hunique, _, hlength, _, hwindows, _, hcadence, hdeadline⟩ := h
  have hday : tradingDay K arm.inUtc = tradingDay K arm := by
    rw [tradingDay, tradingDay, AutonomousSessionArm.inUtc]
    cases arm.windows <;> rfl
  have hall : ∀ w ∈ arm.windows, isUtc w.opensAt = true ∧ isUtc w.closesAt = true ∧
      validateArmWindow K arm.inUtc (tradingDay K arm) w.inUtc = .ok () :=
    fun w hw => validateArmWindow_inUtc (forM_eq_ok.mp hwindows w hw)
  have htimes : ∀ t ∈ arm.times, isUtc t = true := by
    intro t ht
    rcases List.mem_append.mp ht with ht | ht
    · simp only [List.mem_cons, List.not_mem_nil, or_false] at ht
      rcases ht with rfl | rfl | rfl
      · exact hstarts
      · exact hends
      · exact hflat
    · obtain ⟨w, hw, ht⟩ := List.mem_flatMap.mp ht
      simp only [List.mem_cons, List.not_mem_nil, or_false] at ht
      rcases ht with rfl | rfl
      · exact (hall w hw).1
      · exact (hall w hw).2.1
  have hmap : ∀ {β : Type} {g : AutonomousWindow → β}, (∀ w, g w.inUtc = g w) →
      arm.inUtc.windows.map g = arm.windows.map g := by
    intro β g hg
    show (arm.windows.map AutonomousWindow.inUtc).map g = _
    rw [List.map_map]
    exact List.map_congr_left fun w _ => hg w
  refine ⟨htimes, ?_⟩
  simp only [validateArm, except_bind_eq_ok, utcDatetime_eq_ok]
  refine ⟨_, h1, _, h2, _, h3, _, h4, _, h5, _, h6, _, h7, _, h8, _, h9, _, h10, _, ⟨rfl, rfl⟩, _,
    ⟨rfl, rfl⟩, _, ⟨rfl, rfl⟩, _, hclocks, (), ?_, _, hhashes, (), ?_, (), ?_, (), ?_, (), ?_, (),
    ?_, (), ?_, hdeadline⟩
  · refine throwIf_eq_ok.mpr fun hnil => throwIf_eq_ok.mp hsome ?_
    exact List.map_eq_nil_iff.mp hnil
  · refine forM_eq_ok.mpr fun w hw => ?_
    obtain ⟨u, hu, rfl⟩ := List.mem_map.mp hw
    rfl
  · rw [show arm.inUtc.windows = arm.windows.map AutonomousWindow.inUtc from rfl,
      windowsOrdered_inUtc]
    exact hordered
  · rw [hmap fun _ => rfl]
    exact hunique
  · rw [show arm.inUtc.windows.length = arm.windows.length from List.length_map _]
    exact hlength
  · rw [hday]
    refine forM_eq_ok.mpr fun w hw => ?_
    obtain ⟨u, hu, rfl⟩ := List.mem_map.mp hw
    exact (hall u hu).2.2
  · rw [hmap fun _ => rfl]
    exact hcadence

end Utc

/-! ### Arms are read back -/

/-- A valid arm whose instants Python can hold. -/
abbrev HeldArm (K : Contracts) : Type :=
  { arm : AutonomousSessionArm // validateArm K arm = .ok () ∧ ∀ t ∈ arm.times, t.InRange }

section ArmRoundTrip

variable {K : Contracts} {arm : AutonomousSessionArm} {w : AutonomousWindow} {day : Int}

theorem readTimestamp_isoformatZ {t : DateTime} (hutc : isUtc t = true) (h : t.InRange) :
    readTimestamp (.str t.isoformatZ) = some (.utc t.micros) := by
  have hrange : (DateTime.utc t.micros).InRange := by
    have hcanonical : t.canonical = .utc t.micros := by
      rw [isUtc, Bool.or_eq_true, beq_iff_eq, beq_iff_eq] at hutc
      rcases hutc with hutc | hutc <;> rw [DateTime.canonical, hutc] <;> rfl
    exact hcanonical ▸ h.canonical
  rw [readTimestamp, ← isoformatZ_utc hutc]
  exact DateTime.parseUtc_isoformatZ hrange

theorem readIdentifier_str {s : String} (h : isIdentifier s = true) :
    readIdentifier (.str s) = some s := Json.readText_str h

theorem readDigest_str {s : String} (h : isLowerHex 64 s = true) :
    readDigest (.str s) = some s := Json.readText_str h

theorem identifier_eq_ok {value path : String} {u : Unit} :
    identifier value path = .ok u ↔ isIdentifier value = true := by
  rw [identifier, throwIf_eq_ok, Bool.not_eq_false]

theorem digest_eq_ok {value path : String} {u : Unit} :
    digest value path = .ok u ↔ isLowerHex 64 value = true := by
  rw [digest, throwIf_eq_ok, Bool.not_eq_false]

theorem wellFormed_window (w : AutonomousWindow) : w.payload.wellFormed = true := by
  refine Json.wellFormed_obj.mpr ⟨?_, ?_⟩
  · simp only [List.map_cons, List.map_nil]
    decide
  · simp only [List.forall_mem_cons, Json.wellFormed_str, Json.wellFormed_int,
      Json.wellFormed_texts, List.not_mem_nil, false_imp_iff, implies_true, and_self]

theorem parseWindow_payload (hw : validateWindowShape w = .ok ()) (hopens : w.opensAt.InRange)
    (hcloses : w.closesAt.InRange) : parseWindow w.payload.sorted = some w.inUtc := by
  obtain ⟨hopensUtc, hclosesUtc, -⟩ := validateWindowShape_inUtc hw
  simp only [validateWindowShape, except_bind_eq_ok, identifier_eq_ok, throwIf_eq_ok,
    forM_eq_ok] at hw
  obtain ⟨_, hid, _, -, _, -, _, -, _, hsome, hids⟩ := hw
  have hkeys : w.payload.sorted.hasKeys ["schema", "schema_version", "window_id", "opens_at",
      "closes_at", "candidate_ids"] = true := by
    rw [Json.hasKeys_sorted]
    rfl
  have hread : Json.readList readIdentifier (Json.arr (w.candidateIds.map .str)).sorted =
      some w.candidateIds := Json.readList_texts (List.all_eq_true.mpr hids)
  rw [parseWindow, if_pos hkeys]
  simp only [Json.get_sorted (wellFormed_window w)]
  simp only [AutonomousWindow.payload, Json.get_cons, String.reduceEq, if_true, if_false,
    Json.sorted_str, Json.sorted_int, Json.isText, Json.isOne, beq_self_eq_true, Bool.and_self,
    hread, hsome, readIdentifier_str hid, readTimestamp_isoformatZ hopensUtc hopens,
    readTimestamp_isoformatZ hclosesUtc hcloses, Option.bind_eq_bind, Option.bind_some]
  rfl

theorem payload_inUtc_window (hopens : isUtc w.opensAt = true) (hcloses : isUtc w.closesAt = true) :
    w.inUtc.payload = w.payload := by
  simp only [AutonomousWindow.payload, AutonomousWindow.inUtc, isoformatZ_utc hopens,
    isoformatZ_utc hcloses]

theorem mem_times {t : DateTime} : t ∈ arm.times ↔ t = arm.startsAt ∨ t = arm.endsAt ∨
    t = arm.hardFlatAt ∨ ∃ w ∈ arm.windows, t = w.opensAt ∨ t = w.closesAt := by
  simp only [AutonomousSessionArm.times, List.mem_append, List.mem_cons, List.not_mem_nil, or_false,
    List.mem_flatMap, or_assoc]

theorem document_inUtc (h : ∀ t ∈ arm.times, isUtc t = true) : arm.inUtc.document = arm.document := by
  have hstarts := isoformatZ_utc (h _ (mem_times.mpr (.inl rfl)))
  have hends := isoformatZ_utc (h _ (mem_times.mpr (.inr (.inl rfl))))
  have hflat := isoformatZ_utc (h _ (mem_times.mpr (.inr (.inr (.inl rfl)))))
  have hwindows : arm.inUtc.windows.map AutonomousWindow.payload =
      arm.windows.map AutonomousWindow.payload := by
    show (arm.windows.map AutonomousWindow.inUtc).map _ = _
    rw [List.map_map]
    refine List.map_congr_left fun w hw => payload_inUtc_window ?_ ?_
    · exact h _ (mem_times.mpr (.inr (.inr (.inr ⟨w, hw, .inl rfl⟩))))
    · exact h _ (mem_times.mpr (.inr (.inr (.inr ⟨w, hw, .inr rfl⟩))))
  have hunsigned : arm.inUtc.unsignedPayload = arm.unsignedPayload := by
    rw [AutonomousSessionArm.unsignedPayload, AutonomousSessionArm.unsignedPayload, hwindows]
    simp only [AutonomousSessionArm.inUtc, hstarts, hends, hflat]
  rw [AutonomousSessionArm.document, AutonomousSessionArm.document, AutonomousSessionArm.armSha256,
    AutonomousSessionArm.armSha256, hunsigned]

theorem wellFormed_document (arm : AutonomousSessionArm) : arm.document.wellFormed = true := by
  have hwindows : (Json.arr (arm.windows.map AutonomousWindow.payload)).wellFormed = true := by
    refine Json.wellFormed_arr.mpr fun v hv => ?_
    obtain ⟨w, -, rfl⟩ := List.mem_map.mp hv
    exact wellFormed_window w
  refine Json.wellFormed_obj.mpr ⟨?_, ?_⟩
  · simp only [AutonomousSessionArm.unsignedPayload, List.map_cons, List.map_nil,
      List.cons_append, List.nil_append]
    decide
  · simp only [AutonomousSessionArm.unsignedPayload, List.cons_append, List.nil_append,
      List.forall_mem_cons, Json.wellFormed_str, Json.wellFormed_int, hwindows, List.not_mem_nil,
      false_imp_iff, implies_true, and_self]

theorem readArm_document (h : validateArm K arm = .ok ()) (hrange : ∀ t ∈ arm.times, t.InRange)
    {v : Json} (hget : ∀ key, v.get key = (arm.document.get key).sorted) :
    readArm K v = some arm.inUtc := by
  obtain ⟨hutc, hvalid⟩ := validateArm_inUtc h
  have hsha : arm.inUtc.armSha256 = arm.armSha256 := by
    have hdocument := document_inUtc hutc
    rw [AutonomousSessionArm.document, AutonomousSessionArm.document, Json.obj.injEq] at hdocument
    have hlast := congrArg List.getLast? hdocument
    rw [List.getLast?_concat, List.getLast?_concat] at hlast
    simpa using hlast
  have hhex : isLowerHex 64 arm.armSha256 = true := Json.isLowerHex_sha256 _
  have hsplit := h
  simp only [validateArm, except_bind_eq_ok, identifier_eq_ok, digest_eq_ok, throwIf_eq_ok] at hsplit
  obtain ⟨_, hsession, _, hrelease, _, haccount, _, howner, _, hstrategy, _, hrisk, _, hexecution, _,
    hroute, _, hmodel, _, -, _, -, _, -, _, -, _, -, _, hsome, _, -, _, -, _, -, _, -, _, -, _,
    hwindows, -⟩ := hsplit
  have hstarts := readTimestamp_isoformatZ (hutc arm.startsAt (mem_times.mpr (.inl rfl)))
    (hrange _ (mem_times.mpr (.inl rfl)))
  have hends := readTimestamp_isoformatZ (hutc arm.endsAt (mem_times.mpr (.inr (.inl rfl))))
    (hrange _ (mem_times.mpr (.inr (.inl rfl))))
  have hflat := readTimestamp_isoformatZ
    (hutc arm.hardFlatAt (mem_times.mpr (.inr (.inr (.inl rfl)))))
    (hrange _ (mem_times.mpr (.inr (.inr (.inl rfl)))))
  have hread : Json.readList parseWindow (Json.arr (arm.windows.map
      AutonomousWindow.payload)).sorted = some (arm.windows.map AutonomousWindow.inUtc) := by
    refine Json.readList_map fun w hw => parseWindow_payload ?_ ?_ ?_
    · have hwindow := forM_eq_ok.mp hwindows w hw
      simp only [validateArmWindow, except_bind_eq_ok] at hwindow
      exact hwindow.choose_spec.1
    · exact hrange _ (mem_times.mpr (.inr (.inr (.inr ⟨w, hw, .inl rfl⟩))))
    · exact hrange _ (mem_times.mpr (.inr (.inr (.inr ⟨w, hw, .inr rfl⟩))))
  have hnonempty : arm.windows.map AutonomousWindow.inUtc ≠ [] :=
    fun hnil => hsome (List.map_eq_nil_iff.mp hnil)
  simp only [readArm, hget, AutonomousSessionArm.document, AutonomousSessionArm.unsignedPayload,
    List.cons_append, List.nil_append, Json.get_cons, String.reduceEq, if_true, if_false,
    Json.sorted_str, Json.sorted_int, Json.isText, Json.isOne, beq_self_eq_true, Bool.and_self,
    hread, readIdentifier_str hsession, readDigest_str hrelease, readDigest_str haccount,
    readDigest_str howner, readDigest_str hstrategy, readDigest_str hrisk,
    readDigest_str hexecution, readDigest_str hroute, readDigest_str hmodel, readDigest_str hhex,
    Json.readText, hstarts, hends, hflat,
    Option.bind_eq_bind, Option.bind_some]
  exact if_pos ⟨hvalid, hnonempty, hsha.symm⟩

/-- An arm is read back with its instants. -/
theorem parse_armBytes (arm : HeldArm K) :
    parseAutonomousSessionArm K arm.1.bytes = some arm.1.inUtc := by
  obtain ⟨arm, h, hrange⟩ := arm
  exact Json.Format.decode_encode (F := armFormat K) (wellFormed_document arm) rfl
    (fun _ hget => readArm_document h hrange hget) (document_inUtc (validateArm_inUtc h).1)

/-- What holds of whatever the last step yields holds of whatever the body yields. -/
theorem forall_some_bind {α β : Type} {P : β → Prop} {x : Option α} {g : α → Option β}
    (h : ∀ a b, g a = some b → P b) : ∀ b, (x >>= g) = some b → P b := by
  intro b hb
  obtain ⟨a, -, ha⟩ := Option.bind_eq_some_iff.mp hb
  exact h a b ha

theorem validateArm_of_read {v : Json} :
    ∀ arm, readArm K v = some arm → validateArm K arm = .ok () := by
  unfold readArm
  split
  · iterate 15 refine forall_some_bind fun _ => ?_
    intro arm harm
    split_ifs at harm with hall
    cases harm
    exact hall.1
  · intro arm harm
    cases harm

/-- Only the bytes of an arm are read as it. -/
theorem armBytes_of_parse {raw : List UInt8} (h : parseAutonomousSessionArm K raw = some arm) :
    autonomousSessionArmBytes K arm = some raw := by
  obtain ⟨v, -, -, hread⟩ := Json.Format.read_of_decode h
  have hbytes : arm.bytes = raw := Json.Format.encode_of_decode h
  rw [autonomousSessionArmBytes, if_pos (validateArm_of_read arm hread), hbytes]

end ArmRoundTrip

/-! ### Lifecycles -/

def ActiveLifecycleIdentity.document (l : ActiveLifecycleIdentity) : Json :=
  .obj [
    ("lifecycle_id", .str l.lifecycleId),
    ("opportunity_id", .str l.opportunityId),
    ("opportunity_sha256", .str l.opportunitySha256),
    ("schema", .str "esscher.autonomous_active_lifecycle"),
    ("schema_version", .int 1),
    ("session_id", .str l.sessionId),
    ("lifecycle_sha256", .str l.lifecycleSha256)]

/-- `parse_active_lifecycle` of an object of the right keys, with the checks of its encoder. -/
def readLifecycle (v : Json) : Option ActiveLifecycleIdentity := do
  if (v.get "schema").isText "esscher.autonomous_active_lifecycle" &&
      (v.get "schema_version").isOne then
    let value : ActiveLifecycleIdentity := {
      sessionId := ← readIdentifier (v.get "session_id")
      lifecycleId := ← readIdentifier (v.get "lifecycle_id")
      opportunityId := ← readIdentifier (v.get "opportunity_id")
      opportunitySha256 := ← readDigest (v.get "opportunity_sha256")
      lifecycleSha256 := ← readDigest (v.get "lifecycle_sha256") }
    if value.check = .ok () then some value else none
  else none

def lifecycleFormat : Json.Format ActiveLifecycleIdentity where
  keys := ["lifecycle_id", "lifecycle_sha256", "opportunity_id", "opportunity_sha256", "schema",
    "schema_version", "session_id"]
  payload := ActiveLifecycleIdentity.document
  read := readLifecycle

/-- `active_lifecycle_bytes`; `none` where the identity is rejected. -/
def activeLifecycleBytes (l : ActiveLifecycleIdentity) : Option (List UInt8) :=
  if l.check = .ok () then some l.document.canonicalBytes else none

/-- `parse_active_lifecycle`; `none` where it rejects. -/
def parseActiveLifecycle : List UInt8 → Option ActiveLifecycleIdentity := lifecycleFormat.decode

section Lifecycle

variable {l : ActiveLifecycleIdentity} {raw : List UInt8}

theorem activeLifecycleBytes_eq_some : activeLifecycleBytes l = some raw ↔
    l.check = .ok () ∧ l.document.canonicalBytes = raw := by
  rw [activeLifecycleBytes]
  by_cases h : l.check = .ok ()
  · rw [if_pos h, Option.some.injEq]
    exact ⟨fun hraw => ⟨h, hraw⟩, fun hraw => hraw.2⟩
  · rw [if_neg h]
    exact ⟨fun hraw => (by cases hraw), fun hraw => absurd hraw.1 h⟩

/-- A lifecycle is read back. -/
theorem parse_lifecycleBytes (h : activeLifecycleBytes l = some raw) :
    parseActiveLifecycle raw = some l := by
  obtain ⟨hcheck, rfl⟩ := activeLifecycleBytes_eq_some.mp h
  have hfields := hcheck
  simp only [ActiveLifecycleIdentity.check, except_bind_eq_ok, identifier_eq_ok, digest_eq_ok,
    throwIf_eq_ok, not_not] at hfields
  obtain ⟨_, hlid, _, hoid, _, hdigest, _, hsid, hsha⟩ := hfields
  have hhex : isLowerHex 64 l.lifecycleSha256 = true := hsha ▸ Json.isLowerHex_sha256 _
  refine Json.Format.decode_encode (F := lifecycleFormat) ?_ rfl (fun v hget => ?_) rfl
  · refine Json.wellFormed_obj.mpr ⟨?_, ?_⟩
    · simp only [List.map_cons, List.map_nil]
      decide
    · simp only [List.forall_mem_cons, Json.wellFormed_str, Json.wellFormed_int, List.not_mem_nil,
        false_imp_iff, implies_true, and_self]
  · show readLifecycle v = some l
    simp only [readLifecycle, hget, lifecycleFormat, ActiveLifecycleIdentity.document,
      Json.get_cons, String.reduceEq, if_true, if_false, Json.sorted_str, Json.sorted_int,
      Json.isText, Json.isOne, beq_self_eq_true, Bool.and_self, readIdentifier_str hlid,
      readIdentifier_str hoid, readIdentifier_str hsid, readDigest_str hdigest,
      readDigest_str hhex, Option.bind_eq_bind, Option.bind_some]
    exact if_pos hcheck

theorem check_of_readLifecycle {v : Json} :
    ∀ l, readLifecycle v = some l → l.check = .ok () := by
  unfold readLifecycle
  split
  · iterate 5 refine forall_some_bind fun _ => ?_
    intro l hl
    dsimp only at hl
    split_ifs at hl with hcheck
    cases hl
    exact hcheck
  · intro l hl
    cases hl

/-- Only the bytes of a lifecycle are read as it. -/
theorem lifecycleBytes_of_parse (h : parseActiveLifecycle raw = some l) :
    activeLifecycleBytes l = some raw := by
  obtain ⟨v, -, -, hread⟩ := Json.Format.read_of_decode h
  exact activeLifecycleBytes_eq_some.mpr
    ⟨check_of_readLifecycle l hread, Json.Format.encode_of_decode h⟩

end Lifecycle

/-! ### Summaries -/

/-- A summary with its counts as any mapping of names to integers. -/
structure SummaryDocument where
  sessionId : String
  armSha256 : String
  finalizedAt : DateTime
  dispositionCounts : List (String × Int)
  activeLifecycleIds : List String
  manualReasons : List String
  terminalFlatProven : Bool
  summarySha256 : String

namespace SummaryDocument

/-- `disposition_counts.get(disposition, 0)`. -/
def count (v : SummaryDocument) (d : AutonomousDisposition) : Int :=
  (v.dispositionCounts.lookup d.value).getD 0

def counts (v : SummaryDocument) : List (String × Int) :=
  AutonomousDisposition.all.map fun d => (d.value, v.count d)

/-- `_summary_unsigned_payload`, for a summary that passed its checks. -/
def unsignedPayload (v : SummaryDocument) : List (String × Json) :=
  [("active_lifecycle_ids", .arr (v.activeLifecycleIds.map .str)),
    ("arm_sha256", .str v.armSha256),
    ("disposition_counts", .obj (v.counts.map fun c => (c.1, .int c.2))),
    ("finalized_at", .str v.finalizedAt.isoformatZ),
    ("manual_reasons", .arr (v.manualReasons.map .str)),
    ("schema", .str "esscher.autonomous_session_summary"),
    ("schema_version", .int 1),
    ("session_id", .str v.sessionId),
    ("terminal_flat_proven", .bool v.terminalFlatProven)]

def document (v : SummaryDocument) : Json :=
  .obj (v.unsignedPayload ++ [("summary_sha256", .str v.summarySha256)])

/-- `_reason_code` of a code that is required. -/
def isReasonCode (s : String) : Bool := ReasonCode.all.any fun r => r.value == s

/-- A count that is not negative, of no more digits than the interpreter prints. -/
def isCount (n : Int) : Bool := decide (0 ≤ n) && decide ((Nat.toDigits 10 n.natAbs).length ≤ 4300)

/-- The checks of `autonomous_session_summary_bytes`. -/
def check (v : SummaryDocument) : Bool :=
  (v.counts.all fun c => isCount c.2) && v.activeLifecycleIds.all isIdentifier &&
  v.manualReasons.all isReasonCode && v.activeLifecycleIds == sortedSet v.activeLifecycleIds &&
  v.manualReasons == sortedSet v.manualReasons &&
  v.terminalFlatProven == (v.activeLifecycleIds.isEmpty && v.manualReasons.isEmpty) &&
  isLowerHex 64 v.armSha256 && isUtc v.finalizedAt && isIdentifier v.sessionId &&
  v.summarySha256 == (Json.obj v.unsignedPayload).sha256

/-- The summary as it is read back: the counts are those of all dispositions. -/
def completed (v : SummaryDocument) : SummaryDocument :=
  { v with
    finalizedAt := .utc v.finalizedAt.micros
    dispositionCounts := [
      ("ABSTAINED", v.count .abstained),
      ("ACTIVE", v.count .active),
      ("MANUAL_RECONCILIATION_REQUIRED", v.count .manualReconciliationRequired),
      ("REJECTED_BEFORE_MUTATION", v.count .rejectedBeforeMutation),
      ("TERMINAL_FLAT", v.count .terminalFlat)] }

end SummaryDocument

/-- The value of a summary; a mapping is equal to one with the same values under the same names. -/
structure SameSummary (v w : SummaryDocument) : Prop where
  counts : ∀ name, v.dispositionCounts.lookup name = w.dispositionCounts.lookup name
  finalizedAt : v.finalizedAt.micros = w.finalizedAt.micros
  fields : { v with dispositionCounts := [], finalizedAt := .utc 0 } =
    { w with dispositionCounts := [], finalizedAt := .utc 0 }

/-- The counts of a summary.  A count that is no integer is refused here: the encoder refuses it, or
the comparison of the bytes. -/
def readCounts : Json → Option (List (String × Int))
  | .obj fields => fields.mapM fun kv => (Json.readInt kv.2).map fun n => (kv.1, n)
  | _ => none

/-- `_parse_summary` of an object of the right keys, with the checks of its encoder. -/
def readSummary (v : Json) : Option SummaryDocument := do
  if (v.get "schema").isText "esscher.autonomous_session_summary" &&
      (v.get "schema_version").isOne then
    let value : SummaryDocument := {
      sessionId := ← readIdentifier (v.get "session_id")
      armSha256 := ← readDigest (v.get "arm_sha256")
      finalizedAt := ← readTimestamp (v.get "finalized_at")
      dispositionCounts := ← readCounts (v.get "disposition_counts")
      activeLifecycleIds := ← Json.readList readIdentifier (v.get "active_lifecycle_ids")
      manualReasons :=
        ← Json.readList (Json.readText SummaryDocument.isReasonCode) (v.get "manual_reasons")
      terminalFlatProven := ← Json.readBool (v.get "terminal_flat_proven")
      summarySha256 := ← readDigest (v.get "summary_sha256") }
    if value.check = true then some value else none
  else none

def summaryFormat : Json.Format SummaryDocument where
  keys := ["schema", "schema_version", "summary_sha256", "session_id", "arm_sha256", "finalized_at",
    "disposition_counts", "active_lifecycle_ids", "manual_reasons", "terminal_flat_proven"]
  payload := SummaryDocument.document
  read := readSummary

/-- `autonomous_session_summary_bytes`; `none` where the summary is rejected. -/
def autonomousSessionSummaryBytes (v : SummaryDocument) : Option (List UInt8) :=
  if v.check = true then some v.document.canonicalBytes else none

/-- `_parse_summary`; `none` where it rejects. -/
def parseSummary : List UInt8 → Option SummaryDocument := summaryFormat.decode

section Summary

variable {v : SummaryDocument} {raw : List UInt8}

theorem summaryBytes_eq_some : autonomousSessionSummaryBytes v = some raw ↔
    v.check = true ∧ v.document.canonicalBytes = raw := by
  rw [autonomousSessionSummaryBytes]
  by_cases h : v.check = true
  · rw [if_pos h, Option.some.injEq]
    exact ⟨fun hraw => ⟨h, hraw⟩, fun hraw => hraw.2⟩
  · rw [if_neg h]
    exact ⟨fun hraw => (by cases hraw), fun hraw => absurd hraw.1 h⟩

theorem count_completed (d : AutonomousDisposition) : v.completed.count d = v.count d := by
  cases d <;> rfl

theorem unsignedPayload_completed (h : isUtc v.finalizedAt = true) :
    v.completed.unsignedPayload = v.unsignedPayload := by
  have hcounts : v.completed.counts = v.counts := by
    rw [SummaryDocument.counts, SummaryDocument.counts]
    exact List.map_congr_left fun d _ => by rw [count_completed]
  rw [SummaryDocument.unsignedPayload, SummaryDocument.unsignedPayload, hcounts]
  simp only [SummaryDocument.completed, isoformatZ_utc h]

theorem check_completed (h : v.check = true) : v.completed.check = true := by
  have hcounts : v.completed.counts = v.counts := by
    rw [SummaryDocument.counts, SummaryDocument.counts]
    exact List.map_congr_left fun d _ => by rw [count_completed]
  have hutc : isUtc v.finalizedAt = true := by
    simp only [SummaryDocument.check, Bool.and_eq_true] at h
    exact h.1.1.2
  have hunsigned := unsignedPayload_completed hutc
  have hfinal : isUtc (DateTime.utc v.finalizedAt.micros) = true := rfl
  rw [SummaryDocument.check, hcounts, hunsigned]
  rw [SummaryDocument.check, hutc] at h
  exact h

theorem wellFormed_summary (v : SummaryDocument) : v.document.wellFormed = true := by
  have hcounts : (Json.obj (v.counts.map fun c => (c.1, Json.int c.2))).wellFormed = true := by
    refine Json.wellFormed_obj.mpr ⟨?_, ?_⟩
    · rw [SummaryDocument.counts, List.map_map, List.map_map]
      show (AutonomousDisposition.all.map AutonomousDisposition.value).Nodup
      decide
    · intro kv hkv
      obtain ⟨c, -, rfl⟩ := List.mem_map.mp hkv
      rfl
  refine Json.wellFormed_obj.mpr ⟨?_, ?_⟩
  · simp only [SummaryDocument.unsignedPayload, List.map_cons, List.map_nil, List.cons_append,
      List.nil_append]
    decide
  · simp only [SummaryDocument.unsignedPayload, List.cons_append, List.nil_append,
      List.forall_mem_cons, Json.wellFormed_str, Json.wellFormed_int, Json.wellFormed_bool,
      Json.wellFormed_texts, hcounts, List.not_mem_nil, false_imp_iff, implies_true, and_self]

theorem sorted_counts (v : SummaryDocument) :
    (Json.obj (v.counts.map fun c => (c.1, Json.int c.2))).sorted =
      .obj (v.completed.dispositionCounts.map fun c => (c.1, Json.int c.2)) := by
  simp only [SummaryDocument.counts, SummaryDocument.completed, AutonomousDisposition.all,
    List.map_cons, List.map_nil]
  generalize v.count = count
  rfl

theorem readCounts_sorted (v : SummaryDocument) :
    readCounts (Json.obj (v.counts.map fun c => (c.1, Json.int c.2))).sorted =
      some v.completed.dispositionCounts := by
  have hread : v.completed.dispositionCounts.mapM (fun c => (Json.readInt (.int c.2)).map
      fun n => (c.1, n)) = some (v.completed.dispositionCounts.map id) :=
    Json.mapM_eq_some fun _ _ => rfl
  rw [sorted_counts, readCounts, List.mapM_map]
  rwa [List.map_id] at hread

/-- A summary is read back with the counts of all dispositions. -/
theorem parse_summaryBytes (hrange : v.finalizedAt.InRange)
    (h : autonomousSessionSummaryBytes v = some raw) : parseSummary raw = some v.completed := by
  obtain ⟨hcheck, rfl⟩ := summaryBytes_eq_some.mp h
  have hfields := hcheck
  simp only [SummaryDocument.check, Bool.and_eq_true, beq_iff_eq] at hfields
  obtain ⟨⟨⟨⟨⟨⟨⟨⟨⟨-, hactive⟩, hreasons⟩, -⟩, -⟩, -⟩, harm⟩, hutc⟩, hsession⟩, hsha⟩ := hfields
  have hhex : isLowerHex 64 v.summarySha256 = true := hsha ▸ Json.isLowerHex_sha256 _
  have hids : Json.readList readIdentifier (Json.arr (v.activeLifecycleIds.map .str)).sorted =
      some v.activeLifecycleIds := Json.readList_texts hactive
  have hcodes : Json.readList (Json.readText SummaryDocument.isReasonCode)
      (Json.arr (v.manualReasons.map .str)).sorted = some v.manualReasons :=
    Json.readList_texts hreasons
  have hsame : v.completed.document = v.document := by
    rw [SummaryDocument.document, SummaryDocument.document, unsignedPayload_completed hutc]
    rfl
  refine Json.Format.decode_encode (F := summaryFormat) (wellFormed_summary v) rfl
    (fun w hget => ?_) hsame
  show readSummary w = some v.completed
  simp only [readSummary, hget, summaryFormat, SummaryDocument.document,
    SummaryDocument.unsignedPayload, List.cons_append, List.nil_append, Json.get_cons,
    String.reduceEq, if_true, if_false, Json.sorted_str, Json.sorted_int, Json.sorted_bool,
    Json.isText, Json.isOne, beq_self_eq_true, Bool.and_self, readCounts_sorted,
    hids, hcodes, readIdentifier_str hsession, readDigest_str harm, readDigest_str hhex,
    Json.readBool, readTimestamp_isoformatZ hutc hrange, Option.bind_eq_bind, Option.bind_some]
  exact if_pos (check_completed hcheck)

theorem check_of_readSummary {w : Json} :
    ∀ v, readSummary w = some v → v.check = true := by
  unfold readSummary
  split
  · iterate 8 refine forall_some_bind fun _ => ?_
    intro v hv
    dsimp only at hv
    split_ifs at hv with hcheck
    cases hv
    exact hcheck
  · intro v hv
    cases hv

/-- Only the bytes of a summary are read as it. -/
theorem summaryBytes_of_parse (h : parseSummary raw = some v) :
    autonomousSessionSummaryBytes v = some raw := by
  obtain ⟨w, -, -, hread⟩ := Json.Format.read_of_decode h
  exact summaryBytes_eq_some.mpr ⟨check_of_readSummary v hread, Json.Format.encode_of_decode h⟩

theorem lookup_completed (d : AutonomousDisposition) :
    v.completed.dispositionCounts.lookup d.value = some (v.count d) := by
  cases d <;> rfl

theorem lookup_completed_none {name : String}
    (h : ∀ d : AutonomousDisposition, name ≠ d.value) :
    v.completed.dispositionCounts.lookup name = none := by
  have hne : ∀ d : AutonomousDisposition, (name == d.value) = false :=
    fun d => beq_eq_false_iff_ne.mpr (h d)
  have h1 := hne .abstained
  have h2 := hne .active
  have h3 := hne .manualReconciliationRequired
  have h4 := hne .rejectedBeforeMutation
  have h5 := hne .terminalFlat
  simp only [AutonomousDisposition.value] at h1 h2 h3 h4 h5
  simp only [SummaryDocument.completed, List.lookup_cons, List.lookup_nil, h1, h2, h3, h4, h5]

/-- What is read back is the summary exactly if its counts are those of the dispositions. -/
theorem same_completed_iff : SameSummary v.completed v ↔
    ∀ name, (v.dispositionCounts.lookup name).isSome = true ↔
      ∃ d : AutonomousDisposition, name = d.value := by
  constructor
  · intro h name
    rw [← h.counts name]
    constructor
    · intro hsome
      by_contra hnone
      rw [lookup_completed_none fun d hd => hnone ⟨d, hd⟩] at hsome
      cases hsome
    · rintro ⟨d, rfl⟩
      rw [lookup_completed]
      rfl
  · intro h
    refine ⟨fun name => ?_, rfl, rfl⟩
    by_cases hname : ∃ d : AutonomousDisposition, name = d.value
    · obtain ⟨d, rfl⟩ := hname
      obtain ⟨n, hn⟩ := Option.isSome_iff_exists.mp ((h d.value).mpr ⟨d, rfl⟩)
      rw [lookup_completed, SummaryDocument.count, hn]
      rfl
    · rw [lookup_completed_none fun d hd => hname ⟨d, hd⟩]
      exact (Option.not_isSome_iff_eq_none.mp fun hsome => hname ((h name).mp hsome)).symm

end Summary

/-! ### The three documents -/

/-- Equal arms: datetimes are compared as instants. -/
def SameArm (arm arm' : AutonomousSessionArm) : Prop := arm.inUtc = arm'.inUtc

theorem sameArm_inUtc (arm : AutonomousSessionArm) : SameArm arm.inUtc arm := by
  have hwindows : arm.inUtc.inUtc.windows = arm.inUtc.windows := by
    show (arm.windows.map AutonomousWindow.inUtc).map AutonomousWindow.inUtc = _
    rw [List.map_map]
    rfl
  show { arm.inUtc with windows := arm.inUtc.inUtc.windows } = _
  rw [hwindows]

/-- A summary whose instant Python can hold. -/
abbrev HeldSummary : Type := { v : SummaryDocument // v.finalizedAt.InRange }

/-- The documents are canonical: what is encoded is read back, and a byte string is read only if it
is the encoding of the value that is read. -/
theorem documents_canonical (K : Contracts) :
    (∀ (arm : HeldArm K) raw, autonomousSessionArmBytes K arm.1 = some raw →
      ∃ arm', parseAutonomousSessionArm K raw = some arm' ∧ SameArm arm' arm.1) ∧
    (∀ raw arm, parseAutonomousSessionArm K raw = some arm →
      autonomousSessionArmBytes K arm = some raw) ∧
    (∀ raw l, activeLifecycleBytes l = some raw → parseActiveLifecycle raw = some l) ∧
    (∀ raw l, parseActiveLifecycle raw = some l → activeLifecycleBytes l = some raw) ∧
    (∀ (v : HeldSummary) raw, autonomousSessionSummaryBytes v.1 = some raw →
      parseSummary raw = some v.1.completed ∧ (SameSummary v.1.completed v.1 ↔
        ∀ name, (v.1.dispositionCounts.lookup name).isSome = true ↔
          ∃ d : AutonomousDisposition, name = d.value)) ∧
    (∀ raw v, parseSummary raw = some v → autonomousSessionSummaryBytes v = some raw) := by
  refine ⟨fun arm raw h => ?_, fun _ _ h => armBytes_of_parse h,
    fun _ _ h => parse_lifecycleBytes h, fun _ _ h => lifecycleBytes_of_parse h,
    fun v _ h => ⟨parse_summaryBytes v.2 h, same_completed_iff⟩,
    fun _ _ h => summaryBytes_of_parse h⟩
  rw [autonomousSessionArmBytes, if_pos arm.2.1, Option.some.injEq] at h
  exact ⟨arm.1.inUtc, h ▸ parse_armBytes arm, sameArm_inUtc arm.1⟩

/-- The summary of a session in which nothing happened, with these counts and without its digest. -/
def draftSummary (counts : List (String × Int)) : SummaryDocument where
  sessionId := "SESSION-JULY-15"
  armSha256 := July.sha 'a'
  finalizedAt := .utc 0
  dispositionCounts := counts
  activeLifecycleIds := []
  manualReasons := []
  terminalFlatProven := true
  summarySha256 := ""

def quietSummary (counts : List (String × Int)) : SummaryDocument :=
  { draftSummary counts with
    summarySha256 := (Json.obj (draftSummary counts).unsignedPayload).sha256 }

theorem unsignedPayload_sha256 (v : SummaryDocument) (sha : String) :
    ({ v with summarySha256 := sha } : SummaryDocument).unsignedPayload = v.unsignedPayload := rfl

theorem quietSummary_sha256 : (quietSummary []).summarySha256 =
    (Json.obj (quietSummary []).unsignedPayload).sha256 := by
  have hpayload : (quietSummary []).unsignedPayload = (draftSummary []).unsignedPayload :=
    unsignedPayload_sha256 (draftSummary []) _
  rw [hpayload, quietSummary]

theorem quietSummary_bytes : autonomousSessionSummaryBytes (quietSummary []) =
    some (quietSummary []).document.canonicalBytes := by
  refine summaryBytes_eq_some.mpr ⟨?_, rfl⟩
  rw [SummaryDocument.check, beq_iff_eq.mpr quietSummary_sha256, Bool.and_true]
  decide

theorem quietSummary_inRange (counts : List (String × Int)) :
    (quietSummary counts).finalizedAt.InRange := by
  show (DateTime.utc 0).InRange
  exact ⟨by decide, by decide⟩

theorem documents_canonical_demo :
    parseSummary (quietSummary []).document.canonicalBytes = some (quietSummary []).completed :=
  ((documents_canonical July.contracts).2.2.2.2.1
    ⟨quietSummary [], quietSummary_inRange []⟩ _ quietSummary_bytes).1

/-- A summary without counts is read back with counts. -/
theorem counts_completed : ¬ ∀ (v : HeldSummary) raw,
    autonomousSessionSummaryBytes v.1 = some raw →
      ∃ w, parseSummary raw = some w ∧ SameSummary w v.1 := by
  intro h
  obtain ⟨w, hw, hsame⟩ := h ⟨quietSummary [], quietSummary_inRange []⟩ _ quietSummary_bytes
  rw [parse_summaryBytes (quietSummary_inRange []) quietSummary_bytes, Option.some.injEq] at hw
  subst hw
  have hcount := hsame.counts AutonomousDisposition.abstained.value
  rw [lookup_completed] at hcount
  cases hcount

end EsscherMarket.Runtime
