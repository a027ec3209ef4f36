import EsscherMarket.Contracts.StrategyRelease

/-!
# Arm records

`contracts/strategy_release.py`: the canonical bytes of an arm record and their parser.
-/

namespace EsscherMarket.Contracts

open Lib Strategy

/-- The instants are those of aware datetimes in microseconds, and absent for naive ones. -/
structure ArmRecord where
  armId : String
  releaseSha256 : String
  accountCapabilityId : String
  sourceIds : List String
  startsAt : Option Int
  expiresAt : Option Int
  ledgerId : String
  processId : String
  flattenAuthority : Bool
  recoveryAuthority : Bool
  deriving DecidableEq, Repr

namespace ArmRecord

/-- What `_arm_payload` demands before the times. -/
def retains (v : ArmRecord) : Bool :=
  v.flattenAuthority && v.recoveryAuthority && v.sourceIds.all isReleaseIdentifier &&
  !v.sourceIds.isEmpty && sortedUnique v.sourceIds

def named (v : ArmRecord) : Bool :=
  isReleaseIdentifier v.armId && isLowerHex 64 v.releaseSha256 &&
  isReleaseIdentifier v.accountCapabilityId && isReleaseIdentifier v.ledgerId &&
  isReleaseIdentifier v.processId

def fieldsAt (v : ArmRecord) (startsAt expiresAt : String) : List (String × Json) :=
  [("schema", .str "esscher.arm_record"), ("schema_version", .int 1), ("arm_id", .str v.armId),
    ("release_sha256", .str v.releaseSha256),
    ("account_capability_id", .str v.accountCapabilityId),
    ("source_ids", .arr (v.sourceIds.map .str)), ("starts_at", .str startsAt),
    ("expires_at", .str expiresAt), ("ledger_id", .str v.ledgerId),
    ("process_id", .str v.processId), ("flatten_authority", .bool v.flattenAuthority),
    ("recovery_authority", .bool v.recoveryAuthority)]

def document (v : ArmRecord) (startsAt expiresAt : String) : Json :=
  .obj (v.fieldsAt startsAt expiresAt ++
    [("arm_sha256", .str (Json.obj (v.fieldsAt startsAt expiresAt)).sha256)])

end ArmRecord

def armPayload (v : ArmRecord) : Except ReleaseError (List (String × Json)) := do
  throwIf (v.retains = false) .rejected
  let startsAt ← timestampText v.startsAt
  let expiresAt ← timestampText v.expiresAt
  throwIf (v.expiresAt.getD 0 ≤ v.startsAt.getD 0) .rejected
  throwIf (v.named = false) .rejected
  return v.fieldsAt startsAt expiresAt

def ArmRecord.armSha256 (v : ArmRecord) : Except ReleaseError String := do
  let fields ← armPayload v
  return (Json.obj fields).sha256

def armRecordBytes (v : ArmRecord) : Except ReleaseError (List UInt8) := do
  let fields ← armPayload v
  return (Json.obj (fields ++ [("arm_sha256", .str (Json.obj fields).sha256)])).canonicalBytes

/-- `_ARM_FIELDS`. -/
def armFields : List String :=
  ["account_capability_id", "arm_id", "arm_sha256", "expires_at", "flatten_authority", "ledger_id",
    "process_id", "recovery_authority", "release_sha256", "schema", "schema_version", "source_ids",
    "starts_at"]

/-- The items of a list, each of which the payload takes as an identifier only if it is a text. -/
def readSourceIds : Json → Option (List String)
  | .arr items => items.mapM fun item => match item with
    | .str s => some s
    | _ => none
  | _ => none

/-- The arm that a document with the right keys holds. -/
def readArm (data : Json) : Option ArmRecord := do
  return {
    sourceIds := ← readSourceIds (data.get "source_ids")
    armId := textOrEmpty (data.get "arm_id")
    releaseSha256 := textOrEmpty (data.get "release_sha256")
    accountCapabilityId := textOrEmpty (data.get "account_capability_id")
    startsAt := some (← releaseTimestamp (data.get "starts_at"))
    expiresAt := some (← releaseTimestamp (data.get "expires_at"))
    ledgerId := textOrEmpty (data.get "ledger_id")
    processId := textOrEmpty (data.get "process_id")
    flattenAuthority := ← releaseBool (data.get "flatten_authority")
    recoveryAuthority := ← releaseBool (data.get "recovery_authority") }

def parseArmRecord (raw : List UInt8) : Except ReleaseError ArmRecord := do
  let data ← closedObject raw armFields
  throwIf ((data.get "schema").isText "esscher.arm_record" = false) .rejected
  throwIf ((data.get "schema_version").isOne = false) .rejected
  let value ← orRejected (readArm data)
  let sha256 ← value.armSha256
  throwIf ((data.get "arm_sha256").isText sha256 = false) .rejected
  throwIf (armRecordBytes value ≠ .ok raw) .rejected
  return value

/-! ### The bytes of an arm -/

section Bytes

variable {v : ArmRecord}

theorem armPayload_eq_ok {fields : List (String × Json)} : armPayload v = .ok fields ↔
    ∃ startsAt expiresAt, v.retains = true ∧ timestampText v.startsAt = .ok startsAt ∧
      timestampText v.expiresAt = .ok expiresAt ∧ v.startsAt.getD 0 < v.expiresAt.getD 0 ∧
      v.named = true ∧ v.fieldsAt startsAt expiresAt = fields := by
  simp only [armPayload, except_bind_eq_ok, throwIf_eq_ok, except_pure_eq_ok, exists_const,
    Bool.not_eq_false, not_le]
  constructor
  · rintro ⟨hretains, startsAt, hstarts, expiresAt, hexpires, hafter, hnamed, hfields⟩
    exact ⟨startsAt, expiresAt, hretains, hstarts, hexpires, hafter, hnamed, hfields⟩
  · rintro ⟨startsAt, expiresAt, hretains, hstarts, hexpires, hafter, hnamed, hfields⟩
    exact ⟨hretains, startsAt, hstarts, expiresAt, hexpires, hafter, hnamed, hfields⟩

theorem readable_armDocument (startsAt expiresAt : String) :
    (v.document startsAt expiresAt).Readable := by
  have hsources : (Json.arr (v.sourceIds.map .str)).Readable := by
    refine .arr _ fun w hw => ?_
    obtain ⟨s, -, rfl⟩ := List.mem_map.mp hw
    exact .str s
  refine .obj _ ?_ ?_
  · have hkeys : (v.fieldsAt startsAt expiresAt ++
        [("arm_sha256", Json.str (Json.obj (v.fieldsAt startsAt expiresAt)).sha256)]).map Prod.fst =
        ["schema", "schema_version", "arm_id", "release_sha256", "account_capability_id",
          "source_ids", "starts_at", "expires_at", "ledger_id", "process_id", "flatten_authority",
          "recovery_authority", "arm_sha256"] := rfl
    rw [hkeys]
    decide
  · simp only [ArmRecord.fieldsAt, List.cons_append, List.nil_append, List.forall_mem_cons]
    exact ⟨.str _, .int 1 (by decide), .str _, .str _, .str _, hsources, .str _, .str _, .str _,
      .str _, .bool _, .bool _, .str _, fun _ h => by cases h⟩

theorem readSourceIds_sorted (ids : List String) :
    readSourceIds (Json.arr (ids.map .str)).sorted = some ids := by
  rw [Json.sorted, Json.sortedItems_eq, readSourceIds, List.map_map]
  induction ids with
  | nil => rfl
  | cons s rest ih =>
    rw [List.map_cons, List.mapM_cons, ih]
    rfl

theorem releaseTimestamp_of_text {at_ : Option Int} {text : String}
    (h : timestampText at_ = .ok text) : ∃ micros, at_ = some micros ∧
      releaseTimestamp (.str text) = some micros := by
  cases at_ with
  | none => cases h
  | some micros => exact ⟨micros, rfl, releaseTimestamp_text h⟩

theorem readArm_fields {startsAt expiresAt : String} {data digest : Json}
    (hstarts : timestampText v.startsAt = .ok startsAt)
    (hexpires : timestampText v.expiresAt = .ok expiresAt)
    (h : ∀ key, data.get key = ((Json.obj (v.fieldsAt startsAt expiresAt ++
      [("arm_sha256", digest)])).get key).sorted) : readArm data = some v := by
  obtain ⟨starts, hstart, hreadstart⟩ := releaseTimestamp_of_text hstarts
  obtain ⟨expires, hexpire, hreadexpire⟩ := releaseTimestamp_of_text hexpires
  have hsources := readSourceIds_sorted v.sourceIds
  simp only [readArm, h, ArmRecord.fieldsAt, List.cons_append, Json.get_cons,
    String.reduceEq, if_true, if_false, hsources, Json.sorted_str,
    Json.sorted_bool, hreadstart, hreadexpire, textOrEmpty, releaseBool,
    Option.bind_eq_bind, Option.bind_some]
  rw [← hstart, ← hexpire]
  rfl

/-- The canonical bytes of an arm are read back as the arm. -/
theorem parseArmRecord_bytes {raw : List UInt8} (h : armRecordBytes v = .ok raw) :
    parseArmRecord raw = .ok v := by
  obtain ⟨fields, hpayload, hraw⟩ := except_bind_eq_ok.mp h
  obtain ⟨startsAt, expiresAt, -, hstarts, hexpires, -, -, rfl⟩ := armPayload_eq_ok.mp hpayload
  have hreadable := @readable_armDocument v startsAt expiresAt
  have hwell := hreadable.wellFormed
  have hget := Json.get_sorted hwell
  have hdata : closedObject raw armFields = .ok (v.document startsAt expiresAt).sorted := by
    rw [← except_pure_eq_ok.mp hraw]
    exact closedObject_canonicalBytes hreadable rfl
  have hschema : ((v.document startsAt expiresAt).sorted.get "schema").isText
      "esscher.arm_record" = true := by
    rw [hget]
    rfl
  have hversion : ((v.document startsAt expiresAt).sorted.get "schema_version").isOne = true := by
    rw [hget]
    rfl
  have hdigest : ((v.document startsAt expiresAt).sorted.get "arm_sha256").isText
      (Json.obj (v.fieldsAt startsAt expiresAt)).sha256 = true := by
    rw [hget]
    exact beq_self_eq_true _
  have hread := readArm_fields hstarts hexpires hget
  have hsha : v.armSha256 = .ok (Json.obj (v.fieldsAt startsAt expiresAt)).sha256 := by
    rw [ArmRecord.armSha256, hpayload]
    rfl
  simp only [parseArmRecord, except_bind_eq_ok]
  exact ⟨_, hdata, (), throwIf_eq_ok.mpr (by simp [hschema]), (),
    throwIf_eq_ok.mpr (by simp [hversion]), _, orRejected_eq_ok.mpr hread, _, hsha, (),
    throwIf_eq_ok.mpr (by simp [hdigest]), (), throwIf_eq_ok.mpr (not_not.mpr h), rfl⟩

end Bytes

/-! ### What is raised -/

/-- A value, or `StrategyReleaseRejected`. -/
def OnlyRejected {α : Type} (x : Except ReleaseError α) : Prop :=
  (∃ a, x = .ok a) ∨ x = .error .rejected

theorem OnlyRejected.bind {α β : Type} {x : Except ReleaseError α} {g : α → Except ReleaseError β}
    (hx : OnlyRejected x) (hg : ∀ a, x = .ok a → OnlyRejected (g a)) : OnlyRejected (x >>= g) := by
  rcases hx with ⟨a, rfl⟩ | rfl
  · exact hg a rfl
  · exact .inr rfl

theorem onlyRejected_throwIf {c : Prop} [Decidable c] :
    OnlyRejected (throwIf c ReleaseError.rejected) := by
  by_cases h : c
  · exact .inr (if_pos h)
  · exact .inl ⟨(), if_neg h⟩

theorem onlyRejected_orRejected {α : Type} (o : Option α) : OnlyRejected (orRejected o) := by
  cases o with
  | none => exact .inr rfl
  | some a => exact .inl ⟨a, rfl⟩

theorem onlyRejected_closedObject (raw : List UInt8) (fields : List String) :
    OnlyRejected (closedObject raw fields) :=
  (onlyRejected_orRejected _).bind fun data _ => onlyRejected_throwIf.bind fun _ _ => .inl ⟨data, rfl⟩

theorem timestampText_of_read {j : Json} {micros : Int} (h : releaseTimestamp j = some micros) :
    ∃ text, timestampText (some micros) = .ok text := by
  unfold releaseTimestamp at h
  split at h
  · rename_i s
    split at h
    · cases h
    · obtain ⟨t, -, h⟩ := Option.bind_eq_some_iff.mp h
      split at h
      · rename_i hlast
        cases h
        exact ⟨s, hlast.2⟩
      · cases h
  · cases h

/-- What is read of a document gives its time and its version. -/
theorem readRelease_eq_some {data : Json} {v : StrategyRelease} (h : readRelease data = some v) :
    (∃ micros, v.createdAt = some micros ∧
      releaseTimestamp (data.get "created_at") = some micros) ∧
    releasePositive (data.get "release_version") = some v.releaseVersion := by
  simp only [readRelease, Option.bind_eq_bind, Option.bind_eq_some_iff] at h
  obtain ⟨_, -, n, hversion, micros, hcreated, _, -, _, -, _, -, h⟩ := h
  cases h
  exact ⟨⟨micros, rfl, hcreated⟩, hversion⟩

theorem lt_pow_of_natAbs {n : Int} {k : Nat} (h : n.natAbs < 10 ^ k) : n < 10 ^ k :=
  lt_of_le_of_lt Int.le_natAbs (by exact_mod_cast h)

/-- The digest of a release that was read is computed, or the release is rejected. -/
theorem onlyRejected_releaseSha256 {raw : List UInt8} {data : Json} {v : StrategyRelease}
    (hdata : closedObject raw releaseFields = .ok data) (hread : readRelease data = some v) :
    OnlyRejected v.releaseSha256 := by
  obtain ⟨⟨micros, hmicros, hcreated⟩, hversion⟩ := readRelease_eq_some hread
  obtain ⟨w, hloads, hreplaced, -⟩ := closedObject_eq_ok.mp hdata
  obtain ⟨text, htext⟩ := timestampText_of_read hcreated
  have hshort : (data.get "release_version").ShortInts PyJson.maxDigits :=
    (hreplaced ▸ PyJson.shortInts_of_loads hloads).get _
  have hprint : v.printable = true := by
    revert hversion hshort
    cases data.get "release_version" with
    | int n =>
      intro hversion hshort
      obtain ⟨-, hn⟩ := Option.ite_none_right_eq_some.mp hversion
      cases hshort with
      | int n h =>
        rw [StrategyRelease.printable, decide_eq_true_eq, ← Option.some.inj hn]
        rw [PyJson.maxDigits] at h
        exact lt_pow_of_natAbs h
    | _ =>
      intro hversion
      cases hversion
  refine OnlyRejected.bind ?_ fun fields _ => ?_
  · refine onlyRejected_throwIf.bind fun _ _ => ?_
    rw [hmicros, htext]
    exact .inl ⟨_, rfl⟩
  · rw [hprint]
    exact .inl ⟨_, rfl⟩

theorem onlyRejected_parseStrategyRelease (raw : List UInt8) :
    OnlyRejected (parseStrategyRelease raw) := by
  refine (onlyRejected_closedObject raw _).bind fun data hdata => ?_
  refine onlyRejected_throwIf.bind fun _ _ => onlyRejected_throwIf.bind fun _ _ => ?_
  refine (onlyRejected_orRejected _).bind fun v hv => ?_
  refine (onlyRejected_releaseSha256 hdata (orRejected_eq_ok.mp hv)).bind fun sha256 _ => ?_
  exact onlyRejected_throwIf.bind fun _ _ => onlyRejected_throwIf.bind fun _ _ => .inl ⟨v, rfl⟩

theorem readArm_eq_some {data : Json} {v : ArmRecord} (h : readArm data = some v) :
    ∃ starts expires, v.startsAt = some starts ∧ v.expiresAt = some expires ∧
      releaseTimestamp (data.get "starts_at") = some starts ∧
      releaseTimestamp (data.get "expires_at") = some expires := by
  simp only [readArm, Option.bind_eq_bind, Option.bind_eq_some_iff] at h
  obtain ⟨_, -, starts, hstarts, expires, hexpires, _, -, _, -, h⟩ := h
  cases h
  exact ⟨starts, expires, rfl, rfl, hstarts, hexpires⟩

theorem onlyRejected_armSha256 {data : Json} {v : ArmRecord} (hread : readArm data = some v) :
    OnlyRejected v.armSha256 := by
  obtain ⟨starts, expires, hstarts, hexpires, hstart, hexpire⟩ := readArm_eq_some hread
  obtain ⟨startText, hstartText⟩ := timestampText_of_read hstart
  obtain ⟨expireText, hexpireText⟩ := timestampText_of_read hexpire
  refine OnlyRejected.bind ?_ fun fields _ => .inl ⟨_, rfl⟩
  refine onlyRejected_throwIf.bind fun _ _ => ?_
  rw [hstarts, hexpires, hstartText, hexpireText]
  exact OnlyRejected.bind (.inl ⟨_, rfl⟩) fun _ _ => OnlyRejected.bind (.inl ⟨_, rfl⟩) fun _ _ =>
    onlyRejected_throwIf.bind fun _ _ => onlyRejected_throwIf.bind fun _ _ => .inl ⟨_, rfl⟩

theorem onlyRejected_parseArmRecord (raw : List UInt8) : OnlyRejected (parseArmRecord raw) := by
  refine (onlyRejected_closedObject raw _).bind fun data _ => ?_
  refine onlyRejected_throwIf.bind fun _ _ => onlyRejected_throwIf.bind fun _ _ => ?_
  refine (onlyRejected_orRejected _).bind fun v hv => ?_
  refine (onlyRejected_armSha256 (orRejected_eq_ok.mp hv)).bind fun sha256 _ => ?_
  exact onlyRejected_throwIf.bind fun _ _ => onlyRejected_throwIf.bind fun _ _ => .inl ⟨v, rfl⟩

/-! ### One byte form -/

theorem strategyReleaseBytes_of_parse {raw : List UInt8} {v : StrategyRelease}
    (h : parseStrategyRelease raw = .ok v) : strategyReleaseBytes v = .ok raw := by
  simp only [parseStrategyRelease, except_bind_eq_ok, throwIf_eq_ok, not_not] at h
  obtain ⟨_, -, _, -, _, -, w, -, _, -, _, -, _, hbytes, h⟩ := h
  rwa [← except_pure_eq_ok.mp h]

theorem armRecordBytes_of_parse {raw : List UInt8} {v : ArmRecord}
    (h : parseArmRecord raw = .ok v) : armRecordBytes v = .ok raw := by
  simp only [parseArmRecord, except_bind_eq_ok, throwIf_eq_ok, not_not] at h
  obtain ⟨_, -, _, -, _, -, w, -, _, -, _, -, _, hbytes, h⟩ := h
  rwa [← except_pure_eq_ok.mp h]

def sampleArm : ArmRecord where
  armId := "ARM_1"
  releaseSha256 := String.ofList (List.replicate 64 'a')
  accountCapabilityId := "PAPER_1"
  sourceIds := ["SOURCE_1"]
  startsAt := some 0
  expiresAt := some 60000000
  ledgerId := "LEDGER_1"
  processId := "PROCESS_1"
  flattenAuthority := true
  recoveryAuthority := true

end EsscherMarket.Contracts
