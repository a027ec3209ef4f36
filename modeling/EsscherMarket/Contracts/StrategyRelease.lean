import EsscherMarket.Autonomy.EpisodicStore
import EsscherMarket.Contracts.SecurityLineage
import EsscherMarket.Lib.PyJsonReplaced

/-!
# Strategy releases

`contracts/strategy_release.py`: the canonical bytes of a release, their parser, and the decision
whether a release may be promoted.
-/

namespace EsscherMarket.Contracts

open Lib Strategy
open Lib.Json (get_cons sorted_str sorted_bool wellFormed_str wellFormed_int
  wellFormed_bool)

/-- How an operation on a release ends without one: `StrategyReleaseRejected`, an `OverflowError`,
or a `ValueError`. -/
inductive ReleaseError where
  | rejected
  | overflow
  | valueError
  deriving DecidableEq, Repr

/-- The semantic ids that a release shares with the packaged policies. -/
structure SemanticIds where
  autonomyPolicyId : String
  strategyPolicyId : String
  reasonerRouteId : String
  reasonerModel : String
  reasonerSchemaId : String
  latencyProfileId : String
  sourceMatrixId : String
  riskPolicyId : String
  lifecyclePolicyId : String
  deriving DecidableEq, Repr

/-- `created_at` is the instant of an aware datetime in microseconds, and absent for a naive one. -/
structure StrategyRelease extends SemanticIds where
  releaseId : String
  releaseVersion : Int
  createdAt : Option Int
  mode : String
  codeRevision : String
  buildArtifactSha256 : String
  evidenceReportSha256 : String
  securityReportSha256 : String
  evidenceQualified : Bool
  securityPassed : Bool
  laneBindings : List (String × String)
  supersedesReleaseSha256 : Option String
  deriving DecidableEq, Repr

/-! ### Fields -/

/-- `_IDENTIFIER`. -/
def isReleaseIdentifier (s : String) : Bool :=
  pattern Char.isAlphanum (fun c => c.isAlphanum || "_.:/-".toList.contains c) 0 127 s.toList

/-- `_REVISION`. -/
def isRevision (s : String) : Bool := isLowerHex 40 s || isLowerHex 64 s

def timestampText : Option Int → Except ReleaseError String
  | none => .error .rejected
  | some micros => do
    throwIf (¬(DateTime.utc micros).InRange) .overflow
    throwIf (micros % 1000000 ≠ 0) .rejected
    return (DateTime.utc micros).isoformatZ

def releaseTimestamp : Json → Option Int
  | .str s =>
    match s.toList.reverse with
    | [] => none
    | last :: front => do
      let t ← DateTime.fromIsoformat (String.ofList (front.reverse ++ "+00:00".toList))
      if last = 'Z' ∧ timestampText (some t.micros) = .ok s then some t.micros else none
  | _ => none

def bindingJson (binding : String × String) : Json :=
  .obj [("owner_lane_id", .str binding.1), ("candidate_id", .str binding.2)]

/-- What `_release_payload` demands besides the time. -/
def StrategyRelease.wellTyped (v : StrategyRelease) : Bool :=
  v.mode == "PAPER" && isRevision v.codeRevision &&
  v.supersedesReleaseSha256.all (isLowerHex 64) &&
  [v.autonomyPolicyId, v.strategyPolicyId, v.reasonerRouteId, v.reasonerModel, v.reasonerSchemaId,
    v.latencyProfileId, v.sourceMatrixId, v.riskPolicyId, v.lifecyclePolicyId].all
      isReleaseIdentifier &&
  isReleaseIdentifier v.releaseId && decide (1 ≤ v.releaseVersion) &&
  [v.buildArtifactSha256, v.evidenceReportSha256, v.securityReportSha256].all (isLowerHex 64) &&
  v.laneBindings.length == 3 &&
  v.laneBindings.all fun b => isReleaseIdentifier b.1 && isReleaseIdentifier b.2

def StrategyRelease.fieldsAt (v : StrategyRelease) (createdAt : String) : List (String × Json) :=
  [("autonomy_policy_id", .str v.autonomyPolicyId),
    ("strategy_policy_id", .str v.strategyPolicyId),
    ("reasoner_route_id", .str v.reasonerRouteId), ("reasoner_model", .str v.reasonerModel),
    ("reasoner_schema_id", .str v.reasonerSchemaId),
    ("latency_profile_id", .str v.latencyProfileId), ("source_matrix_id", .str v.sourceMatrixId),
    ("risk_policy_id", .str v.riskPolicyId), ("lifecycle_policy_id", .str v.lifecyclePolicyId),
    ("schema", .str "esscher.strategy_release"), ("schema_version", .int 1),
    ("release_id", .str v.releaseId), ("release_version", .int v.releaseVersion),
    ("created_at", .str createdAt), ("mode", .str v.mode), ("code_revision", .str v.codeRevision),
    ("build_artifact_sha256", .str v.buildArtifactSha256),
    ("evidence_report_sha256", .str v.evidenceReportSha256),
    ("security_report_sha256", .str v.securityReportSha256),
    ("evidence_qualified", .bool v.evidenceQualified), ("security_passed", .bool v.securityPassed),
    ("lane_bindings", .arr (v.laneBindings.map bindingJson)),
    ("supersedes_release_sha256", textOrNull v.supersedesReleaseSha256)]

def releasePayload (v : StrategyRelease) : Except ReleaseError (List (String × Json)) := do
  throwIf (v.wellTyped = false) .rejected
  let createdAt ← timestampText v.createdAt
  return v.fieldsAt createdAt

/-- The longest integer that Python prints has 4300 digits. -/
def StrategyRelease.printable (v : StrategyRelease) : Bool :=
  decide (v.releaseVersion < 10 ^ 4300)

def StrategyRelease.releaseSha256 (v : StrategyRelease) : Except ReleaseError String := do
  let fields ← releasePayload v
  throwIf (v.printable = false) .valueError
  return (Json.obj fields).sha256

def StrategyRelease.document (v : StrategyRelease) (createdAt : String) : Json :=
  .obj (v.fieldsAt createdAt ++
    [("release_sha256", .str (Json.obj (v.fieldsAt createdAt)).sha256)])

def strategyReleaseBytes (v : StrategyRelease) : Except ReleaseError (List UInt8) := do
  let fields ← releasePayload v
  throwIf (v.printable = false) .valueError
  return (Json.obj (fields ++ [("release_sha256", .str (Json.obj fields).sha256)])).canonicalBytes

/-! ### The parser -/

def textOrEmpty : Json → String
  | .str s => s
  | _ => ""

/-- A value that the payload takes as a boolean. -/
def releaseBool : Json → Option Bool
  | .bool b => some b
  | _ => none

def releasePositive : Json → Option Int
  | .int n => if 1 ≤ n then some n else none
  | _ => none

def supersededDigest : Json → Option (Option String)
  | .null => some none
  | .str s => some (some s)
  | _ => none

def parseBinding (v : Json) : Option (String × String) :=
  match v.get "owner_lane_id", v.get "candidate_id" with
  | .str lane, .str candidate =>
    if v.isObject && v.hasKeys ["owner_lane_id", "candidate_id"] && isReleaseIdentifier lane &&
        isReleaseIdentifier candidate then some (lane, candidate) else none
  | _, _ => none

def parseBindings : Json → Option (List (String × String))
  | .arr items => items.mapM parseBinding
  | _ => none

/-- `_RELEASE_FIELDS`. -/
def releaseFields : List String :=
  ["autonomy_policy_id", "build_artifact_sha256", "code_revision", "created_at",
    "evidence_qualified", "evidence_report_sha256", "lane_bindings", "latency_profile_id",
    "lifecycle_policy_id", "mode", "reasoner_model", "reasoner_route_id", "reasoner_schema_id",
    "release_id", "release_sha256", "release_version", "risk_policy_id", "schema",
    "schema_version", "security_passed", "security_report_sha256", "source_matrix_id",
    "strategy_policy_id", "supersedes_release_sha256"]

/-- The release that a document with the right keys holds. -/
def readRelease (data : Json) : Option StrategyRelease := do
  return {
    laneBindings := ← parseBindings (data.get "lane_bindings")
    releaseId := textOrEmpty (data.get "release_id")
    releaseVersion := ← releasePositive (data.get "release_version")
    createdAt := some (← releaseTimestamp (data.get "created_at"))
    mode := textOrEmpty (data.get "mode")
    codeRevision := textOrEmpty (data.get "code_revision")
    buildArtifactSha256 := textOrEmpty (data.get "build_artifact_sha256")
    evidenceReportSha256 := textOrEmpty (data.get "evidence_report_sha256")
    securityReportSha256 := textOrEmpty (data.get "security_report_sha256")
    evidenceQualified := ← releaseBool (data.get "evidence_qualified")
    securityPassed := ← releaseBool (data.get "security_passed")
    autonomyPolicyId := textOrEmpty (data.get "autonomy_policy_id")
    strategyPolicyId := textOrEmpty (data.get "strategy_policy_id")
    reasonerRouteId := textOrEmpty (data.get "reasoner_route_id")
    reasonerModel := textOrEmpty (data.get "reasoner_model")
    reasonerSchemaId := textOrEmpty (data.get "reasoner_schema_id")
    latencyProfileId := textOrEmpty (data.get "latency_profile_id")
    sourceMatrixId := textOrEmpty (data.get "source_matrix_id")
    riskPolicyId := textOrEmpty (data.get "risk_policy_id")
    lifecyclePolicyId := textOrEmpty (data.get "lifecycle_policy_id")
    supersedesReleaseSha256 := ← supersededDigest (data.get "supersedes_release_sha256") }

def orRejected {α : Type} : Option α → Except ReleaseError α
  | some a => .ok a
  | none => .error .rejected

/-- `_object`; a lone surrogate, which no field accepts, becomes `U+0000`. -/
def closedObject (raw : List UInt8) (fields : List String) : Except ReleaseError Json := do
  let data ← orRejected ((PyJson.loads ⟨true, false⟩ raw).toOption.map PyJson.replaced)
  throwIf (data.hasKeys fields = false) .rejected
  return data

def parseStrategyRelease (raw : List UInt8) : Except ReleaseError StrategyRelease := do
  let data ← closedObject raw releaseFields
  throwIf ((data.get "schema").isText "esscher.strategy_release" = false) .rejected
  throwIf ((data.get "schema_version").isOne = false) .rejected
  let value ← orRejected (readRelease data)
  let sha256 ← value.releaseSha256
  throwIf ((data.get "release_sha256").isText sha256 = false) .rejected
  throwIf (strategyReleaseBytes value ≠ .ok raw) .rejected
  return value

/-! ### Promotion -/

inductive PromotionStatus where
  | promoted
  | rejected
  deriving DecidableEq, Repr

inductive PromotionReason where
  | invalidReference
  | semanticIdMismatch
  | laneBindingsMismatch
  | reasonerRouteIneligible
  | latencyProfileIneligible
  | evidenceUnqualified
  | securityFailed
  deriving DecidableEq, Repr

structure PromotionDecision where
  releaseSha256 : Option String
  status : PromotionStatus
  reason : Option PromotionReason
  deriving DecidableEq, Repr

/-- What the packaged policies say when a release is evaluated. -/
structure PackagedPolicies where
  semanticIds : SemanticIds
  routeApproved : Bool
  evaluationEligible : Bool
  promotionEligible : Bool

/-- `EXPECTED_LANE_BINDINGS`. -/
def expectedLaneBindings : List (String × String) :=
  [("EARNINGS_RESIDUAL_CONTINUATION_V1", "EARNINGS_RESIDUAL_CONTINUATION_V2"),
    ("SPY_QQQ_INTRADAY_REGIME_SPREAD_V1", "MARKET_ANCHOR_INTRADAY_CONTINUATION_V1"),
    ("LIQUID_STOCK_CATALYST_SPREAD_V1", "LIQUID_STOCK_CATALYST_CONTINUATION_V1")]

def failedGate (packaged : PackagedPolicies) (v : StrategyRelease) : Option PromotionReason :=
  if v.toSemanticIds ≠ packaged.semanticIds then some .semanticIdMismatch
  else if v.laneBindings ≠ expectedLaneBindings then some .laneBindingsMismatch
  else if ¬(packaged.routeApproved ∧ packaged.evaluationEligible) then
    some .reasonerRouteIneligible
  else if ¬packaged.promotionEligible then some .latencyProfileIneligible
  else if ¬v.evidenceQualified then some .evidenceUnqualified
  else if ¬v.securityPassed then some .securityFailed
  else none

def evaluateRelease (packaged : PackagedPolicies) (v : StrategyRelease) :
    Except ReleaseError PromotionDecision :=
  match v.releaseSha256 with
  | .error .rejected => .ok ⟨none, .rejected, some .invalidReference⟩
  | .error e => .error e
  | .ok sha256 =>
    match failedGate packaged v with
    | some reason => .ok ⟨some sha256, .rejected, some reason⟩
    | none => .ok ⟨some sha256, .promoted, none⟩

/-! ### The bytes of a release -/

section Bytes

variable {v : StrategyRelease}

theorem orRejected_eq_ok {α : Type} {o : Option α} {a : α} : orRejected o = .ok a ↔ o = some a := by
  cases o <;> simp [orRejected]

theorem closedObject_eq_ok {raw : List UInt8} {fields : List String} {data : Json} :
    closedObject raw fields = .ok data ↔ ∃ v, PyJson.loads ⟨true, false⟩ raw = .ok v ∧
      v.replaced = data ∧ data.hasKeys fields = true := by
  simp only [closedObject, except_bind_eq_ok, orRejected_eq_ok, Option.map_eq_some_iff,
    throwIf_eq_ok, except_pure_eq_ok, exists_const, Bool.not_eq_false]
  cases PyJson.loads ⟨true, false⟩ raw with
  | ok v =>
    constructor
    · rintro ⟨w, ⟨u, hu, rfl⟩, hkeys, rfl⟩
      cases hu
      exact ⟨v, rfl, rfl, hkeys⟩
    · rintro ⟨w, hw, rfl, hkeys⟩
      cases hw
      exact ⟨_, ⟨v, rfl, rfl⟩, hkeys, rfl⟩
  | error e =>
    constructor
    · rintro ⟨w, ⟨u, hu, -⟩, -⟩
      cases hu
    · rintro ⟨w, hw, -⟩
      cases hw

theorem closedObject_canonicalBytes {held : List (String × Json)} {fields : List String}
    (h : Json.Readable (.obj held)) (hkeys : (Json.obj held).hasKeys fields = true) :
    closedObject (Json.obj held).canonicalBytes fields = .ok (Json.obj held).sorted :=
  closedObject_eq_ok.mpr ⟨_, PyJson.loads_canonicalBytes h _, PyJson.replaced_ofJson _,
    (Json.hasKeys_sorted _ fields).trans hkeys⟩

theorem strategyReleaseBytes_eq_ok {raw : List UInt8} : strategyReleaseBytes v = .ok raw ↔
    ∃ createdAt, v.wellTyped = true ∧ timestampText v.createdAt = .ok createdAt ∧
      v.printable = true ∧ raw = (v.document createdAt).canonicalBytes := by
  rw [strategyReleaseBytes, releasePayload]
  cases v.wellTyped with
  | false => simp [throwIf, bind, Except.bind]
  | true =>
    cases timestampText v.createdAt with
    | error e => simp [throwIf, bind, Except.bind]
    | ok createdAt =>
      cases v.printable with
      | false => simp [throwIf, bind, Except.bind, pure, Except.pure]
      | true =>
        simp [throwIf, bind, Except.bind, pure, Except.pure, StrategyRelease.document, eq_comm]

theorem releaseSha256_eq {createdAt : String} (htyped : v.wellTyped = true)
    (htime : timestampText v.createdAt = .ok createdAt) (hprint : v.printable = true) :
    v.releaseSha256 = .ok (Json.obj (v.fieldsAt createdAt)).sha256 := by
  rw [StrategyRelease.releaseSha256, releasePayload]
  simp [throwIf, htyped, htime, hprint, bind, Except.bind, pure, Except.pure]

/-- The text of a time is read back. -/
theorem releaseTimestamp_text {micros : Int} {text : String}
    (h : timestampText (some micros) = .ok text) : releaseTimestamp (.str text) = some micros := by
  have htext := h
  rw [timestampText] at h
  obtain ⟨u, hrange, u', hwhole, htext'⟩ : ∃ u, throwIf (¬(DateTime.utc micros).InRange)
      ReleaseError.overflow = .ok u ∧ ∃ u', throwIf (micros % 1000000 ≠ 0)
      ReleaseError.rejected = .ok u' ∧ (DateTime.utc micros).isoformatZ = text := by
    obtain ⟨u, hu, h⟩ := except_bind_eq_ok.mp h
    obtain ⟨u', hu', h⟩ := except_bind_eq_ok.mp h
    exact ⟨u, hu, u', hu', Except.ok.inj h⟩
  rw [throwIf_eq_ok, not_not] at hrange hwhole
  -- the text is that of the parts, with no fraction, and a `Z` at its end
  have hoffset : DateTime.offsetText (DateTime.utc micros).tzinfo = "+00:00".toList := rfl
  have hparts := DateTime.isoformatZ_eq hoffset
  have hfraction : (DateTime.utc micros).dayMicros % 1000000 = 0 := by
    have hwall : (DateTime.utc micros).wall = micros := by
      simp [DateTime.wall, DateTime.utc, DateTime.offsetMinutes]
    rw [DateTime.dayMicros, hwall]
    simp only [DateTime.microsPerDay, DateTime.microsPerSecond]
    omega
  rw [hfraction, DateTime.fractionText, if_pos rfl, List.nil_append, DateTime.isoText_append,
    htext'] at hparts
  have hread : DateTime.fromIsoformat (String.ofList (DateTime.isoText
      (DateTime.civil ((DateTime.utc micros).wall / DateTime.microsPerDay))
      (DateTime.utc micros).dayMicros "+00:00".toList)) = some (DateTime.utc micros).canonical := by
    refine DateTime.fromIsoformat_isoText hrange ?_
    rw [hfraction]
    rfl
  rw [DateTime.isoText_append] at hread
  rw [releaseTimestamp, hparts, String.toList_ofList, List.reverse_append, List.reverse_singleton,
    List.singleton_append]
  simp only [List.reverse_reverse, hread, Option.bind_eq_bind, Option.bind_some]
  rw [if_pos]
  · rfl
  · refine ⟨trivial, ?_⟩
    rw [← hparts]
    exact htext

theorem readable_bindingJson (binding : String × String) : (bindingJson binding).Readable := by
  have hkeys : ([("owner_lane_id", Json.str binding.1),
      ("candidate_id", Json.str binding.2)].map Prod.fst) = ["owner_lane_id", "candidate_id"] := rfl
  refine .obj _ ?_ ?_
  · rw [hkeys]
    decide
  · simp only [List.forall_mem_cons]
    exact ⟨.str _, .str _, fun _ h => by cases h⟩

theorem parseBinding_sorted {binding : String × String}
    (h : (isReleaseIdentifier binding.1 && isReleaseIdentifier binding.2) = true) :
    parseBinding (bindingJson binding).sorted = some binding := by
  have hwell := (readable_bindingJson binding).wellFormed
  have hlane : (bindingJson binding).sorted.get "owner_lane_id" = .str binding.1 := by
    rw [Json.get_sorted hwell]
    rfl
  have hcandidate : (bindingJson binding).sorted.get "candidate_id" = .str binding.2 := by
    rw [Json.get_sorted hwell]
    rfl
  have hkeys : (bindingJson binding).sorted.hasKeys ["owner_lane_id", "candidate_id"] = true := by
    rw [Json.hasKeys_sorted]
    rfl
  rw [parseBinding, hlane, hcandidate]
  rw [Bool.and_eq_true] at h
  simp only [hkeys, h.1, h.2, Bool.and_true]
  rfl

theorem parseBindings_sorted {bindings : List (String × String)}
    (h : (bindings.all fun b => isReleaseIdentifier b.1 && isReleaseIdentifier b.2) = true) :
    parseBindings (Json.arr (bindings.map bindingJson)).sorted = some bindings := by
  rw [Json.sorted, Json.sortedItems_eq, parseBindings, List.map_map]
  induction bindings with
  | nil => rfl
  | cons binding rest ih =>
    rw [List.all_cons, Bool.and_eq_true] at h
    rw [List.map_cons, List.mapM_cons, Function.comp_apply, parseBinding_sorted h.1, ih h.2]
    rfl

theorem natAbs_lt_pow {n : Int} {k : Nat} (hn : 0 ≤ n) (h : n < 10 ^ k) : n.natAbs < 10 ^ k := by
  rw [← Int.natAbs_of_nonneg hn] at h
  exact_mod_cast h

/-- A version that can be printed can be read. -/
theorem readable_releaseVersion (htyped : v.wellTyped = true) (hprint : v.printable = true) :
    (Json.int v.releaseVersion).Readable := by
  rw [StrategyRelease.wellTyped] at htyped
  simp only [Bool.and_eq_true, decide_eq_true_eq] at htyped
  obtain ⟨⟨⟨⟨-, hversion⟩, -⟩, -⟩, -⟩ := htyped
  rw [StrategyRelease.printable, decide_eq_true_eq] at hprint
  exact .int _ ((Nat.length_toDigits_le_iff (by decide) (by decide)).mpr
    (natAbs_lt_pow (le_trans zero_le_one hversion) hprint))

theorem readable_document (htyped : v.wellTyped = true) (hprint : v.printable = true)
    (createdAt : String) : (v.document createdAt).Readable := by
  refine .obj _ ?_ ?_
  · have hkeys : (v.fieldsAt createdAt ++
        [("release_sha256", Json.str (Json.obj (v.fieldsAt createdAt)).sha256)]).map Prod.fst =
        ["autonomy_policy_id", "strategy_policy_id", "reasoner_route_id", "reasoner_model",
          "reasoner_schema_id", "latency_profile_id", "source_matrix_id", "risk_policy_id",
          "lifecycle_policy_id", "schema", "schema_version", "release_id", "release_version",
          "created_at", "mode", "code_revision", "build_artifact_sha256",
          "evidence_report_sha256", "security_report_sha256", "evidence_qualified",
          "security_passed", "lane_bindings", "supersedes_release_sha256", "release_sha256"] := rfl
    rw [hkeys]
    decide
  · have hbindings : (Json.arr (v.laneBindings.map bindingJson)).Readable := by
      refine .arr _ fun w hw => ?_
      obtain ⟨binding, -, rfl⟩ := List.mem_map.mp hw
      exact readable_bindingJson binding
    have hsuperseded : (textOrNull v.supersedesReleaseSha256).Readable := by
      cases v.supersedesReleaseSha256 with
      | none => exact .null
      | some digest => exact .str digest
    have hone : (Json.int 1).Readable := .int 1 (by decide)
    have hversion := readable_releaseVersion htyped hprint
    simp only [StrategyRelease.fieldsAt, List.cons_append, List.nil_append, List.forall_mem_cons]
    exact ⟨.str _, .str _, .str _, .str _, .str _, .str _, .str _, .str _, .str _, .str _, hone,
      .str _, hversion, .str _, .str _, .str _, .str _, .str _, .str _, .bool _, .bool _, hbindings,
      hsuperseded, .str _, fun _ h => by cases h⟩

theorem readRelease_fields {createdAt : String} {data digest : Json} (htyped : v.wellTyped = true)
    (htime : timestampText v.createdAt = .ok createdAt)
    (h : ∀ key, data.get key =
      ((Json.obj (v.fieldsAt createdAt ++ [("release_sha256", digest)])).get key).sorted) :
    readRelease data = some v := by
  obtain ⟨micros, hmicros⟩ : ∃ micros, v.createdAt = some micros := by
    cases hnone : v.createdAt with
    | none =>
      rw [hnone] at htime
      cases htime
    | some micros => exact ⟨micros, rfl⟩
  have hstamp : releaseTimestamp (.str createdAt) = some micros :=
    releaseTimestamp_text (hmicros ▸ htime)
  have hsuperseded : supersededDigest (textOrNull v.supersedesReleaseSha256).sorted =
      some v.supersedesReleaseSha256 := by
    cases v.supersedesReleaseSha256 <;> rfl
  rw [StrategyRelease.wellTyped] at htyped
  simp only [Bool.and_eq_true, decide_eq_true_eq] at htyped
  obtain ⟨⟨⟨⟨-, hversion⟩, -⟩, -⟩, hbindings⟩ := htyped
  have hread := parseBindings_sorted hbindings
  have hpositive : releasePositive (.int v.releaseVersion) = some v.releaseVersion :=
    if_pos hversion
  have hint : (Json.int v.releaseVersion).sorted = .int v.releaseVersion := rfl
  simp only [readRelease, h, StrategyRelease.fieldsAt, List.cons_append, get_cons,
    String.reduceEq, if_true, if_false, hread, sorted_str, sorted_bool, hint, hsuperseded, hstamp,
    textOrEmpty, releaseBool, hpositive, Option.bind_eq_bind, Option.bind_some]
  rw [← hmicros]
  rfl

/-- The canonical bytes of a release are read back as the release. -/
theorem parseStrategyRelease_bytes {raw : List UInt8} (h : strategyReleaseBytes v = .ok raw) :
    parseStrategyRelease raw = .ok v := by
  obtain ⟨createdAt, htyped, htime, hprint, hraw⟩ := strategyReleaseBytes_eq_ok.mp h
  have hreadable := readable_document htyped hprint createdAt
  have hwell := hreadable.wellFormed
  have hdata : closedObject raw releaseFields = .ok (v.document createdAt).sorted := by
    rw [hraw]
    exact closedObject_canonicalBytes hreadable rfl
  have hschema : ((v.document createdAt).sorted.get "schema").isText "esscher.strategy_release" =
      true := by
    rw [Json.get_sorted hwell]
    rfl
  have hversion : ((v.document createdAt).sorted.get "schema_version").isOne = true := by
    rw [Json.get_sorted hwell]
    rfl
  have hdigest : ((v.document createdAt).sorted.get "release_sha256").isText
      (Json.obj (v.fieldsAt createdAt)).sha256 = true := by
    rw [Json.get_sorted hwell]
    exact beq_self_eq_true _
  have hread : readRelease (v.document createdAt).sorted = some v :=
    readRelease_fields htyped htime (Json.get_sorted hwell)
  simp only [parseStrategyRelease, except_bind_eq_ok]
  refine ⟨_, hdata, (), throwIf_eq_ok.mpr (by simp [hschema]), (), throwIf_eq_ok.mpr (by simp [hversion]), _,
    orRejected_eq_ok.mpr hread, _, releaseSha256_eq htyped htime hprint, (),
    throwIf_eq_ok.mpr (by simp [hdigest]), (), throwIf_eq_ok.mpr (not_not.mpr h), rfl⟩

end Bytes

end EsscherMarket.Contracts
