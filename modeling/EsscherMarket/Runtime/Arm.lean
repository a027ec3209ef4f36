import EsscherMarket.Lib.Txn
import EsscherMarket.Lib.Json

/-!
# Autonomous session arms, opportunities and lifecycle identities

The frozen inputs of `runtime/autonomous.py`: an arm authorizes one PAPER session with its windows,
an opportunity names one piece of candidate work in a window, and a lifecycle identity names the
exposure that an opportunity led to.  Each has a canonical payload and the SHA-256 of it.

The packaged contracts (policy hashes, candidate lanes) and the New York wall clock are not part of
this code: they are the fields of `Contracts`.
-/

namespace EsscherMarket.Runtime

open Lib

/-! ### Errors and checks -/

inductive SessionError where
  | armRejected (message : String)
  | storeConflict (message : String)
  | coordinatorRejected (message : String)
  /-- `sqlite3.IntegrityError`. -/
  | integrity (message : String)
  /-- An exception of a port that the coordinator does not catch. -/
  | port
  | assertion
  deriving DecidableEq, Repr

abbrev Checked (α : Type) : Type := Except SessionError α

def isIdentifierByte (b : UInt8) : Bool :=
  (65 ≤ b && b ≤ 90) || (97 ≤ b && b ≤ 122) || (48 ≤ b && b ≤ 57) || b == 95 || b == 46 ||
  b == 58 || b == 45

/-- The pattern of an identifier, read off the UTF-8 bytes: a letter, then at most 127 letters,
digits, underscores, dots, colons or hyphens. -/
def isIdentifier (s : String) : Bool :=
  match s.toUTF8.data.toList with
  | [] => false
  | b :: rest => ((65 ≤ b && b ≤ 90) || (97 ≤ b && b ≤ 122)) && rest.length ≤ 127 &&
      rest.all isIdentifierByte

def identifier (value path : String) : Checked Unit :=
  throwIf (isIdentifier value = false) (.armRejected (path ++ " must be a bounded identifier"))

def digest (value path : String) : Checked Unit :=
  throwIf (isLowerHex 64 value = false)
    (.armRejected (path ++ " must be a lowercase SHA-256 digest"))

def isUtc (t : DateTime) : Bool := t.tzinfo == .utc || t.tzinfo == .offset 0

def utcDatetime (value : DateTime) (path : String) : Checked DateTime :=
  if isUtc value then .ok (.utc value.micros)
  else .error (.armRejected (path ++ " must be timezone-aware UTC"))

theorem utcDatetime_eq_ok {t t' : DateTime} {path : String} :
    utcDatetime t path = .ok t' ↔ isUtc t ∧ .utc t.micros = t' := by
  unfold utcDatetime
  split <;> simp_all

/-! ### Windows and arms -/

/-- One exact due window within an owner-approved autonomous session. -/
structure AutonomousWindow where
  windowId : String
  opensAt : DateTime
  closesAt : DateTime
  candidateIds : List String
  deriving DecidableEq, Repr

/-- A closed, self-hashing PAPER-only session authorization. -/
structure AutonomousSessionArm where
  sessionId : String
  releaseCodeSha256 : String
  accountFingerprintSha256 : String
  ownerPolicySha256 : String
  strategyPolicySha256 : String
  riskPolicySha256 : String
  executionProtocolSha256 : String
  reasonerRouteSha256 : String
  reasonerModelConfigSha256 : String
  mode : String
  startsAt : DateTime
  endsAt : DateTime
  hardFlatAt : DateTime
  windows : List AutonomousWindow
  deriving DecidableEq, Repr

/-- The packaged contracts that an arm must bind, and the New York calendar day and wall-clock time
of an instant. -/
structure Contracts where
  ownerPolicySha256 : String
  strategyPolicySha256 : String
  riskPolicySha256 : String
  executionProtocolSha256 : String
  reasonerRouteSha256 : String
  reasonerModelConfigSha256 : String
  candidateIds : List String
  eastern : Int → Int × String

def AutonomousWindow.payload (w : AutonomousWindow) : Json :=
  .obj [
    ("candidate_ids", .arr (w.candidateIds.map .str)),
    ("closes_at", .str w.closesAt.isoformatZ),
    ("opens_at", .str w.opensAt.isoformatZ),
    ("schema", .str "esscher.autonomous_session_window"),
    ("schema_version", .int 1),
    ("window_id", .str w.windowId)]

def AutonomousWindow.windowSha256 (w : AutonomousWindow) : String := w.payload.sha256

namespace AutonomousSessionArm

/-- `_arm_unsigned_payload`, for an arm that was validated. -/
def unsignedPayload (arm : AutonomousSessionArm) : List (String × Json) :=
  [("account_fingerprint_sha256", .str arm.accountFingerprintSha256),
   ("ends_at", .str arm.endsAt.isoformatZ),
   ("execution_protocol_sha256", .str arm.executionProtocolSha256),
   ("hard_flat_at", .str arm.hardFlatAt.isoformatZ),
   ("mode", .str arm.mode),
   ("owner_policy_sha256", .str arm.ownerPolicySha256),
   ("reasoner_model_config_sha256", .str arm.reasonerModelConfigSha256),
   ("reasoner_route_sha256", .str arm.reasonerRouteSha256),
   ("release_code_sha256", .str arm.releaseCodeSha256),
   ("risk_policy_sha256", .str arm.riskPolicySha256),
   ("schema", .str "esscher.autonomous_session_arm"),
   ("schema_version", .int 1),
   ("session_id", .str arm.sessionId),
   ("starts_at", .str arm.startsAt.isoformatZ),
   ("strategy_policy_sha256", .str arm.strategyPolicySha256),
   ("windows", .arr (arm.windows.map (·.payload)))]

def armSha256 (arm : AutonomousSessionArm) : String := (Json.obj arm.unsignedPayload).sha256

def bytes (arm : AutonomousSessionArm) : List UInt8 :=
  (Json.obj (arm.unsignedPayload ++ [("arm_sha256", .str arm.armSha256)])).canonicalBytes

end AutonomousSessionArm

/-- The owner's decision times and hard-flat time, in New York. -/
def decisionTimes : List String :=
  ["10:00:00", "11:00:00", "12:00:00", "13:00:00", "14:00:00", "15:00:00"]

def hardFlatTime : String := "15:30:00"

def validateWindowShape (w : AutonomousWindow) : Checked Unit := do
  identifier w.windowId "window.window_id"
  let opensAt ← utcDatetime w.opensAt "window.opens_at"
  let closesAt ← utcDatetime w.closesAt "window.closes_at"
  throwIf (closesAt.micros ≤ opensAt.micros) (.armRejected "window must close after it opens")
  throwIf (w.candidateIds = [])
    (.armRejected "window candidate_ids must be a non-empty tuple")
  w.candidateIds.forM fun id => identifier id "window.candidate_ids"

def windowsOrdered : List AutonomousWindow → Bool
  | [] => true
  | [_] => true
  | w :: w' :: rest =>
    (w.opensAt.micros < w'.opensAt.micros ||
      w.opensAt.micros == w'.opensAt.micros && decide (w.windowId ≤ w'.windowId)) &&
    windowsOrdered (w' :: rest)

/-- The checks on one window of an arm, on the trading day `day`. -/
def validateArmWindow (K : Contracts) (arm : AutonomousSessionArm) (day : Int)
    (w : AutonomousWindow) : Checked Unit := do
  validateWindowShape w
  throwIf (w.opensAt.micros < arm.startsAt.micros ∨ arm.hardFlatAt.micros < w.closesAt.micros)
    (.armRejected "window must fall inside the active pre-hard-flat session")
  throwIf ((K.eastern w.opensAt.micros).1 ≠ day ∨ (K.eastern w.closesAt.micros).1 ≠ day)
    (.armRejected "all windows must fall on one New York trading date")
  throwIf (w.candidateIds ≠ K.candidateIds)
    (.armRejected "window candidate IDs must be the exact three V2 lanes")

def tradingDay (K : Contracts) (arm : AutonomousSessionArm) : Int :=
  match arm.windows with
  | [] => 0
  | w :: _ => (K.eastern w.opensAt.micros).1

def validateArm (K : Contracts) (arm : AutonomousSessionArm) : Checked Unit := do
  identifier arm.sessionId "session_id"
  digest arm.releaseCodeSha256 "release_code_sha256"
  digest arm.accountFingerprintSha256 "account_fingerprint_sha256"
  digest arm.ownerPolicySha256 "owner_policy_sha256"
  digest arm.strategyPolicySha256 "strategy_policy_sha256"
  digest arm.riskPolicySha256 "risk_policy_sha256"
  digest arm.executionProtocolSha256 "execution_protocol_sha256"
  digest arm.reasonerRouteSha256 "reasoner_route_sha256"
  digest arm.reasonerModelConfigSha256 "reasoner_model_config_sha256"
  throwIf (arm.mode ≠ "PAPER") (.armRejected "autonomous sessions are permanently PAPER-only")
  let startsAt ← utcDatetime arm.startsAt "starts_at"
  let endsAt ← utcDatetime arm.endsAt "ends_at"
  let hardFlatAt ← utcDatetime arm.hardFlatAt "hard_flat_at"
  throwIf (hardFlatAt.micros < startsAt.micros ∨ endsAt.micros < hardFlatAt.micros)
    (.armRejected "session clocks must include the hard-flat deadline")
  throwIf (arm.windows = []) (.armRejected "windows must be a non-empty tuple")
  throwIf (arm.ownerPolicySha256 ≠ K.ownerPolicySha256 ∨
      arm.strategyPolicySha256 ≠ K.strategyPolicySha256 ∨
      arm.riskPolicySha256 ≠ K.riskPolicySha256 ∨
      arm.executionProtocolSha256 ≠ K.executionProtocolSha256 ∨
      arm.reasonerRouteSha256 ≠ K.reasonerRouteSha256 ∨
      arm.reasonerModelConfigSha256 ≠ K.reasonerModelConfigSha256)
    (.armRejected "arm hashes do not bind the current frozen package contracts")
  -- the ordering check reads every opening through `_utc_datetime`
  arm.windows.forM fun w => do let _ ← utcDatetime w.opensAt "window.opens_at"
  throwIf (windowsOrdered arm.windows = false)
    (.armRejected "windows must be in deterministic opening-time order")
  throwIf (¬ (arm.windows.map (·.windowId)).Nodup) (.armRejected "window IDs must be unique")
  throwIf (arm.windows.length ≠ decisionTimes.length)
    (.armRejected "arm must include every owner-approved hourly scan window")
  arm.windows.forM (validateArmWindow K arm (tradingDay K arm))
  throwIf (arm.windows.map (fun w => (K.eastern w.opensAt.micros).2) ≠ decisionTimes)
    (.armRejected "window openings must follow the exact 10:00--15:00 ET hourly cadence")
  throwIf ((K.eastern arm.hardFlatAt.micros).2 ≠ hardFlatTime)
    (.armRejected "hard-flat clock must be the exact owner-approved 15:30 ET deadline")

/-! ### Opportunities -/

/-- Text-free, semantically self-identifying candidate work for one window. -/
structure AutonomousOpportunity where
  sessionId : String
  opportunityId : String
  windowId : String
  windowSha256 : String
  candidateId : String
  strategyContextSha256 : String
  reasonerRouteSha256 : String
  reasonerModelConfigSha256 : String
  deriving DecidableEq, Repr

def AutonomousOpportunity.payload (o : AutonomousOpportunity) : Json :=
  .obj [
    ("candidate_id", .str o.candidateId),
    ("opportunity_id", .str o.opportunityId),
    ("reasoner_model_config_sha256", .str o.reasonerModelConfigSha256),
    ("reasoner_route_sha256", .str o.reasonerRouteSha256),
    ("schema", .str "esscher.autonomous_opportunity_identity"),
    ("schema_version", .int 1),
    ("session_id", .str o.sessionId),
    ("strategy_context_sha256", .str o.strategyContextSha256),
    ("window_id", .str o.windowId),
    ("window_sha256", .str o.windowSha256)]

def AutonomousOpportunity.opportunitySha256 (o : AutonomousOpportunity) : String := o.payload.sha256

def windowForArm (arm : AutonomousSessionArm) (windowId : String) : Checked AutonomousWindow := do
  identifier windowId "window_id"
  match arm.windows.filter fun w => w.windowId = windowId with
  | [w] => return w
  | _ => throw (.armRejected "opportunity window_id is not present in the arm")

def validateOpportunity (K : Contracts) (o : AutonomousOpportunity) (arm : AutonomousSessionArm) :
    Checked Unit := do
  validateArm K arm
  throwIf (o.sessionId ≠ arm.sessionId) (.armRejected "opportunity session does not match the arm")
  identifier o.opportunityId "opportunity.opportunity_id"
  identifier o.windowId "opportunity.window_id"
  identifier o.candidateId "opportunity.candidate_id"
  digest o.windowSha256 "opportunity.window_sha256"
  digest o.strategyContextSha256 "opportunity.strategy_context_sha256"
  digest o.reasonerRouteSha256 "opportunity.reasoner_route_sha256"
  digest o.reasonerModelConfigSha256 "opportunity.reasoner_model_config_sha256"
  let window ← windowForArm arm o.windowId
  throwIf (o.windowSha256 ≠ window.windowSha256 ∨ o.candidateId ∉ window.candidateIds ∨
      o.reasonerRouteSha256 ≠ arm.reasonerRouteSha256 ∨
      o.reasonerModelConfigSha256 ≠ arm.reasonerModelConfigSha256)
    (.armRejected "opportunity does not bind the arm's exact window, lane, and K3 identities")

/-! ### Lifecycle identities -/

/-- Sanitized durable identity for one exposure-bearing lifecycle only. -/
structure ActiveLifecycleIdentity where
  sessionId : String
  lifecycleId : String
  opportunityId : String
  opportunitySha256 : String
  lifecycleSha256 : String
  deriving DecidableEq, Repr

namespace ActiveLifecycleIdentity

def payload (l : ActiveLifecycleIdentity) : Json :=
  .obj [
    ("lifecycle_id", .str l.lifecycleId),
    ("opportunity_id", .str l.opportunityId),
    ("opportunity_sha256", .str l.opportunitySha256),
    ("schema", .str "esscher.autonomous_active_lifecycle"),
    ("schema_version", .int 1),
    ("session_id", .str l.sessionId)]

/-- The checks of `active_lifecycle_bytes`. -/
def check (l : ActiveLifecycleIdentity) : Checked Unit := do
  identifier l.lifecycleId "active_lifecycle.lifecycle_id"
  identifier l.opportunityId "active_lifecycle.opportunity_id"
  digest l.opportunitySha256 "active_lifecycle.opportunity_sha256"
  identifier l.sessionId "active_lifecycle.session_id"
  throwIf (l.lifecycleSha256 ≠ l.payload.sha256) (.armRejected "active lifecycle hash is invalid")

/-- `ActiveLifecycleIdentity.for_candidate`, without its checks. -/
def forCandidate (arm : AutonomousSessionArm) (o : AutonomousOpportunity) (lifecycleId : String) :
    ActiveLifecycleIdentity :=
  let unsigned : ActiveLifecycleIdentity :=
    ⟨arm.sessionId, lifecycleId, o.opportunityId, o.opportunitySha256, ""⟩
  { unsigned with lifecycleSha256 := unsigned.payload.sha256 }

theorem check_forCandidate {arm : AutonomousSessionArm} {o : AutonomousOpportunity}
    {lifecycleId : String} (hlid : isIdentifier lifecycleId = true)
    (hoid : isIdentifier o.opportunityId = true) (hsid : isIdentifier arm.sessionId = true) :
    (forCandidate arm o lifecycleId).check = .ok () := by
  have hsha : isLowerHex 64 o.opportunitySha256 = true := Json.isLowerHex_sha256 _
  simp only [check, except_bind_eq_ok, identifier, digest, throwIf_eq_ok]
  refine ⟨(), ?_, (), ?_, (), ?_, (), ?_, ?_⟩
  · simp [forCandidate, hlid]
  · simp [forCandidate, hoid]
  · simp [forCandidate, hsha]
  · simp [forCandidate, hsid]
  · simp [forCandidate, payload]

end ActiveLifecycleIdentity

/-! ### One session

The session of July 15th, 2026: six windows of half an hour, hard flat at 15:30 in New York. -/

namespace July

def at_ (minutes : Int) : DateTime := .utc ((20649 * 1440 + minutes) * 60000000)

/-- The calendar day and the wall-clock time in New York, in summer. -/
def eastern (micros : Int) : Int × String :=
  let wall := micros - 240 * 60 * DateTime.microsPerSecond
  let secs := (wall % DateTime.microsPerDay / DateTime.microsPerSecond).toNat
  (wall / DateTime.microsPerDay, String.ofList (zeroPad 2 (secs / 3600) ++ ':' ::
    zeroPad 2 (secs / 60 % 60) ++ ':' :: zeroPad 2 (secs % 60)))

def sha (c : Char) : String := String.ofList (List.replicate 64 c)

def lanes : List String := ["LANE_1", "LANE_2", "LANE_3"]

def contracts : Contracts where
  ownerPolicySha256 := sha '1'
  strategyPolicySha256 := sha '2'
  riskPolicySha256 := sha '3'
  executionProtocolSha256 := sha '4'
  reasonerRouteSha256 := sha '5'
  reasonerModelConfigSha256 := sha '6'
  candidateIds := lanes
  eastern := eastern

def window (hour : Int) : AutonomousWindow where
  windowId := "W" ++ toString hour
  opensAt := at_ ((hour + 4) * 60)
  closesAt := at_ ((hour + 4) * 60 + 30)
  candidateIds := lanes

def arm : AutonomousSessionArm where
  sessionId := "SESSION-JULY-15"
  releaseCodeSha256 := sha 'a'
  accountFingerprintSha256 := sha 'b'
  ownerPolicySha256 := sha '1'
  strategyPolicySha256 := sha '2'
  riskPolicySha256 := sha '3'
  executionProtocolSha256 := sha '4'
  reasonerRouteSha256 := sha '5'
  reasonerModelConfigSha256 := sha '6'
  mode := "PAPER"
  startsAt := at_ 810
  endsAt := at_ 1200
  hardFlatAt := at_ 1170
  windows := [window 10, window 11, window 12, window 13, window 14, window 15]

theorem validateArm_arm : validateArm contracts arm = .ok () := by
  have hok : (validateArm contracts arm).isOk = true := by decide
  cases h : validateArm contracts arm with
  | ok u => rfl
  | error e =>
    rw [h] at hok
    cases hok

/-- An opportunity of the first lane in the window of ten o'clock. -/
def opportunity (opportunityId : String) : AutonomousOpportunity where
  sessionId := "SESSION-JULY-15"
  opportunityId := opportunityId
  windowId := "W10"
  windowSha256 := (window 10).windowSha256
  candidateId := "LANE_1"
  strategyContextSha256 := sha 'c'
  reasonerRouteSha256 := sha '5'
  reasonerModelConfigSha256 := sha '6'

theorem validateOpportunity_opportunity {opportunityId : String}
    (h : isIdentifier opportunityId = true) :
    validateOpportunity contracts (opportunity opportunityId) arm = .ok () := by
  have hwindow : windowForArm arm "W10" = .ok (window 10) := by
    have hid : identifier "W10" "window_id" = .ok () := throwIf_eq_ok.mpr (by decide)
    have hfilter : (arm.windows.filter fun w => w.windowId = "W10") = [window 10] := by
      decide
    rw [windowForArm, hid, hfilter]
    rfl
  have hsession : ¬ ("SESSION-JULY-15" ≠ arm.sessionId) := by decide
  have hwindowId : ¬ isIdentifier "W10" = false := by decide
  have hlane : ¬ isIdentifier "LANE_1" = false := by decide
  have hdigest : ∀ c ∈ ['5', '6', 'c'], ¬ isLowerHex 64 (sha c) = false := by
    intro c hc
    simp only [List.mem_cons, List.not_mem_nil, or_false] at hc
    rcases hc with rfl | rfl | rfl <;> decide
  have hsha : ¬ isLowerHex 64 (window 10).windowSha256 = false := by
    rw [AutonomousWindow.windowSha256, Json.isLowerHex_sha256]
    simp
  simp only [validateOpportunity, except_bind_eq_ok]
  refine ⟨(), validateArm_arm, (), throwIf_eq_ok.mpr hsession, (),
    throwIf_eq_ok.mpr (by simp [opportunity, h]), (), throwIf_eq_ok.mpr hwindowId, (),
    throwIf_eq_ok.mpr hlane, (), throwIf_eq_ok.mpr hsha, (),
    throwIf_eq_ok.mpr (hdigest 'c' (by simp)), (), throwIf_eq_ok.mpr (hdigest '5' (by simp)), (),
    throwIf_eq_ok.mpr (hdigest '6' (by simp)), window 10, hwindow, throwIf_eq_ok.mpr ?_⟩
  simp [opportunity, window, lanes, arm]

end July

end EsscherMarket.Runtime
