import EsscherMarket.Lib.DecimalContext
import EsscherMarket.Lib.PyJsonReplaced
import EsscherMarket.Lib.Raises
import EsscherMarket.Risk.Controls
import EsscherMarket.Risk.Policy

/-!
# The document of the V1 policy

`risk_policy_bytes` and `parse_risk_policy` of `risk/policy.py` as a reader of untrusted bytes: what
it raises besides `RiskRejected` is kept apart.
-/

namespace EsscherMarket.Risk.PolicyDocument

open Lib

/-! ### The reader -/

/-- `RiskRejected` with its reason and path, or what else is raised. -/
inductive DocumentError where
  | rejected (reason : RiskReason) (path : String)
  | valueError
  | unicodeEncodeError

/-- `RiskRejected`. -/
def DocumentError.IsRejected (e : DocumentError) : Prop := ∃ reason path, e = .rejected reason path

/-- `_DECIMAL_FIELDS`. -/
def decimalFields : List String :=
  ["account_capital", "per_event_loss_budget", "aggregate_exposure_limit", "daily_loss_limit",
    "drawdown_limit", "concentration_limit", "close_only_equity_threshold"]

/-- `_POLICY_FIELDS`. -/
def policyFields : List String :=
  ["schema", "schema_version", "policy_id", "version", "run_mode", "account_capital",
    "per_event_loss_budget", "aggregate_exposure_limit", "daily_loss_limit", "drawdown_limit",
    "concentration_limit", "max_entries_per_day", "max_open_expressions",
    "close_only_equity_threshold", "truth_max_age_seconds", "constants_source_sha256"]

abbrev FieldOrder : Type := { order : List String // order.Perm decimalFields }

def positiveDecimal (value : PyJson) (path : String) : Except DocumentError Decimal :=
  match value with
  | .str text =>
    match text.toString?.bind Decimal.parse with
    | none => .error (.rejected .unsupportedInput path)
    | some d =>
      if d.isFinite = false then .error (.rejected .exposureNotCalculable path)
      else if d.toRat ≤ 0 then .error (.rejected .policyUnverifiedConstant path)
      else .ok d
  | _ => .error (.rejected .unsupportedInput path)

def positiveInt (value : PyJson) (path : String) : Except DocumentError Int :=
  match value with
  | .int n => if n ≤ 0 then .error (.rejected .policyUnverifiedConstant path) else .ok n
  | _ => .error (.rejected .policyUnverifiedConstant path)

def readDecimal (payload : PyJson) (field : String) : Except DocumentError (String × Decimal) := do
  return (field, ← positiveDecimal (payload.get field) ("risk_policy." ++ field))

def decimalOf (decimals : List (String × Decimal)) (field : String) : Decimal :=
  (decimals.lookup field).getD .nan

/-- `str(value)`. -/
def documentText (f : Json.FloatRepr) : PyJson → PyText
  | .str text => text
  | value => (value.pyRepr f).map Char.toNat

def PlainText (t : PyText) : Prop := t.toString?.isSome

instance (t : PyText) : Decidable (PlainText t) := inferInstanceAs (Decidable (_ = true))

def counts (p : RiskPolicyFields) : List Int :=
  [p.maxEntriesPerDay, p.maxOpenExpressions, p.truthMaxAgeSeconds]

/-- The interpreter prints integers of so many digits. -/
def isPrintable (n : Int) : Prop := (Nat.toDigits 10 n.natAbs).length ≤ PyJson.maxDigits

instance (n : Int) : Decidable (isPrintable n) := inferInstanceAs (Decidable (_ ≤ _))

def riskPolicyBytes (p : RiskPolicy) : Except DocumentError (List UInt8) := do
  throwIf (¬ ∀ n ∈ counts p.toRiskPolicyFields, isPrintable n) .valueError
  return (riskPolicyPayload p).canonicalBytes

def parseRiskPolicy (f : Json.FloatRepr) (order : FieldOrder) (raw : List UInt8) :
    Except DocumentError RiskPolicy := do
  let payload ← (PyJson.loads ⟨true, false⟩ raw).mapError fun _ =>
    .rejected .unsupportedInput "risk_policy"
  throwIf (payload.isObject = false) (.rejected .unsupportedInput "risk_policy")
  throwIf (payload.hasKeys policyFields = false) (.rejected .unsupportedInput "risk_policy")
  throwIf ((payload.get "schema").isText "esscher.paper_account_risk_policy" = false)
    (.rejected .unsupportedInput "risk_policy.schema")
  throwIf ((payload.get "schema_version").isOne f = false)
    (.rejected .unsupportedInput "risk_policy.schema_version")
  throwIf ((payload.get "run_mode").isText "PAPER" = false)
    (.rejected .policyNotPaperOnly "risk_policy.run_mode")
  let decimals ← order.1.mapM (readDecimal payload)
  let maxEntriesPerDay ← positiveInt (payload.get "max_entries_per_day")
    "risk_policy.max_entries_per_day"
  let maxOpenExpressions ← positiveInt (payload.get "max_open_expressions")
    "risk_policy.max_open_expressions"
  let truthMaxAgeSeconds ← positiveInt (payload.get "truth_max_age_seconds")
    "risk_policy.truth_max_age_seconds"
  let policyId := documentText f (payload.get "policy_id")
  let version := documentText f (payload.get "version")
  let constantsSource := documentText f (payload.get "constants_source_sha256")
  let fields : RiskPolicyFields := {
    policyId := policyId.replaced
    version := version.replaced
    runMode := (documentText f (payload.get "run_mode")).replaced
    accountCapital := decimalOf decimals "account_capital"
    perEventLossBudget := decimalOf decimals "per_event_loss_budget"
    aggregateExposureLimit := decimalOf decimals "aggregate_exposure_limit"
    dailyLossLimit := decimalOf decimals "daily_loss_limit"
    drawdownLimit := decimalOf decimals "drawdown_limit"
    concentrationLimit := decimalOf decimals "concentration_limit"
    maxEntriesPerDay := maxEntriesPerDay
    maxOpenExpressions := maxOpenExpressions
    closeOnlyEquityThreshold := decimalOf decimals "close_only_equity_threshold"
    truthMaxAgeSeconds := truthMaxAgeSeconds
    constantsSourceSha256 := constantsSource.replaced }
  if h : fields.check = true then
    let result : RiskPolicy := ⟨fields, h⟩
    -- a lone surrogate has no bytes
    throwIf (¬ ∀ t ∈ [policyId, version, constantsSource], PlainText t) .unicodeEncodeError
    let again ← riskPolicyBytes result
    throwIf (again ≠ raw) (.rejected .unsupportedInput "risk_policy")
    return result
  else throw .valueError

/-! ### Decimals -/

section Decimals

variable {payload : PyJson}

theorem readDecimal_eq_ok {field : String} {item : String × Decimal} :
    readDecimal payload field = .ok item ↔
      positiveDecimal (payload.get field) ("risk_policy." ++ field) = .ok item.2 ∧
        item.1 = field := by
  simp only [readDecimal, except_bind_eq_ok, except_pure_eq_ok]
  constructor
  · rintro ⟨d, hd, rfl⟩
    exact ⟨hd, rfl⟩
  · rintro ⟨hd, rfl⟩
    exact ⟨item.2, hd, rfl⟩

theorem decimalOf_mapM {order : List String} {decimals : List (String × Decimal)}
    (h : order.mapM (readDecimal payload) = .ok decimals) :
    ∀ field ∈ order, positiveDecimal (payload.get field) ("risk_policy." ++ field) =
      .ok (decimalOf decimals field) := by
  induction order generalizing decimals with
  | nil => exact fun field hfield => by cases hfield
  | cons first rest ih =>
    simp only [List.mapM_cons, except_bind_eq_ok, except_pure_eq_ok] at h
    obtain ⟨item, hitem, items, hitems, rfl⟩ := h
    obtain ⟨hvalue, hname⟩ := readDecimal_eq_ok.mp hitem
    intro field hfield
    rw [decimalOf, List.lookup_cons]
    by_cases hsame : field = first
    · rw [hsame, hname, beq_self_eq_true]
      exact hvalue
    · rw [hname, beq_eq_false_iff_ne.mpr hsame]
      exact ih hitems field ((List.mem_cons.mp hfield).resolve_left hsame)

theorem mapM_readDecimal {order : List String} (d : String → Decimal)
    (h : ∀ field ∈ order, positiveDecimal (payload.get field) ("risk_policy." ++ field) =
      .ok (d field)) :
    ∃ decimals, order.mapM (readDecimal payload) = .ok decimals := by
  induction order with
  | nil => exact ⟨[], rfl⟩
  | cons first rest ih =>
    obtain ⟨decimals, hdecimals⟩ := ih fun field hfield => h field (List.mem_cons_of_mem _ hfield)
    refine ⟨(first, d first) :: decimals, ?_⟩
    simp only [List.mapM_cons, except_bind_eq_ok, except_pure_eq_ok]
    exact ⟨_, readDecimal_eq_ok.mpr ⟨h first List.mem_cons_self, rfl⟩, _, hdecimals, rfl⟩

theorem isPositive_of_positiveDecimal {value : PyJson} {path : String} {d : Decimal}
    (h : positiveDecimal value path = .ok d) : isPositive d = true := by
  unfold positiveDecimal at h
  split at h
  · split at h
    · cases h
    · split_ifs at h with hfinite hpos
      cases h
      rw [isPositive, Bool.and_eq_true, decide_eq_true_eq]
      exact ⟨Bool.not_eq_false _ ▸ hfinite, not_le.mp hpos⟩
  · cases h

theorem positiveDecimal_toText {d : Decimal} (h : isPositive d = true) (path : String) :
    positiveDecimal (.ofJson (.str d.toText)) path = .ok d := by
  rw [isPositive, Bool.and_eq_true, decide_eq_true_eq] at h
  show (match (PyText.of d.toText).toString?.bind Decimal.parse with
    | none => _
    | some d => _) = _
  rw [PyText.toString?_of, Option.bind_some, Decimal.parse_toText h.1]
  show (if d.isFinite = false then _ else if d.toRat ≤ 0 then _ else Except.ok d) = _
  rw [if_neg (by rw [h.1]; decide), if_neg (not_le.mpr h.2)]

theorem raisesOnly_positiveDecimal (value : PyJson) (path : String) :
    RaisesOnly DocumentError.IsRejected (positiveDecimal value path) := by
  unfold positiveDecimal
  split
  · split
    · exact raisesOnly_error ⟨_, _, rfl⟩
    · split
      · exact raisesOnly_error ⟨_, _, rfl⟩
      · split
        · exact raisesOnly_error ⟨_, _, rfl⟩
        · exact raisesOnly_ok _
  · exact raisesOnly_error ⟨_, _, rfl⟩

theorem raisesOnly_positiveInt (value : PyJson) (path : String) :
    RaisesOnly DocumentError.IsRejected (positiveInt value path) := by
  unfold positiveInt
  split
  · split
    · exact raisesOnly_error ⟨_, _, rfl⟩
    · exact raisesOnly_ok _
  · exact raisesOnly_error ⟨_, _, rfl⟩

theorem positiveInt_eq_ok {value : PyJson} {path : String} {n : Int} :
    positiveInt value path = .ok n ↔ value = .int n ∧ 0 < n := by
  cases value with
  | int m =>
    rw [positiveInt]
    by_cases hm : m ≤ 0
    · rw [if_pos hm]
      refine ⟨fun h => (by cases h), fun h => ?_⟩
      obtain ⟨heq, hpos⟩ := h
      cases heq
      omega
    · rw [if_neg hm]
      constructor
      · intro h
        cases h
        exact ⟨rfl, not_le.mp hm⟩
      · rintro ⟨heq, -⟩
        cases heq
        rfl
  | _ => exact ⟨fun h => (by cases h), fun h => (by cases h.1)⟩

end Decimals

/-! ### What is returned -/

section Document

variable {f : Json.FloatRepr} {order : FieldOrder} {raw : List UInt8} {p : RiskPolicy}

theorem riskPolicyBytes_eq_ok : riskPolicyBytes p = .ok raw ↔
    (∀ n ∈ counts p.toRiskPolicyFields, isPrintable n) ∧ (riskPolicyPayload p).canonicalBytes = raw := by
  simp only [riskPolicyBytes, except_bind_eq_ok, throwIf_eq_ok, not_not, except_pure_eq_ok]
  constructor
  · rintro ⟨_, hcounts, hbytes⟩
    exact ⟨hcounts, hbytes⟩
  · rintro ⟨hcounts, hbytes⟩
    exact ⟨(), hcounts, hbytes⟩

/-- What is read has these bytes. -/
theorem riskPolicyBytes_of_parse (h : parseRiskPolicy f order raw = .ok p) :
    riskPolicyBytes p = .ok raw := by
  simp only [parseRiskPolicy, except_bind_eq_ok] at h
  obtain ⟨_, -, _, -, _, -, _, -, _, -, _, -, _, -, _, -, _, -, _, -, h⟩ := h
  split at h
  · simp only [except_bind_eq_ok, throwIf_eq_ok, except_pure_eq_ok] at h
    obtain ⟨_, -, again, hagain, _, hsame, rfl⟩ := h
    rw [hagain, not_not.mp hsame]
  · cases h

def documentOf (p : RiskPolicy) : PyJson := .ofJson (riskPolicyPayload p).sorted

theorem readable_payload (h : ∀ n ∈ counts p.toRiskPolicyFields, isPrintable n) :
    Json.Readable (riskPolicyPayload p) := by
  have hone : (Nat.toDigits 10 1).length ≤ PyJson.maxDigits := by decide
  simp only [counts, List.forall_mem_cons, isPrintable] at h
  obtain ⟨hentries, hopen, hage, -⟩ := h
  refine .obj _ ?_ ?_
  · simp only [List.map_cons, List.map_nil]
    decide
  · simp only [List.forall_mem_cons]
    exact ⟨.str _, .int _ hone, .str _, .str _, .str _, .str _, .str _, .str _, .str _, .str _,
      .str _, .int _ hentries, .int _ hopen, .str _, .int _ hage, .str _, fun _ h => by cases h⟩

theorem get_document (h : ∀ n ∈ counts p.toRiskPolicyFields, isPrintable n) (key : String) :
    (documentOf p).get key = .ofJson ((riskPolicyPayload p).get key).sorted := by
  rw [documentOf, PyJson.get_ofJson, Json.get_sorted (readable_payload h).wellFormed]

/-- A policy that can be written is read back. -/
theorem parse_riskPolicyBytes (h : riskPolicyBytes p = .ok raw) :
    parseRiskPolicy f order raw = .ok p := by
  obtain ⟨hcounts, rfl⟩ := riskPolicyBytes_eq_ok.mp h
  have hp := p.accepted
  simp only [RiskPolicyFields.check, Bool.and_eq_true, decide_eq_true_eq, bne_iff_ne,
    beq_iff_eq] at hp
  obtain ⟨⟨⟨⟨⟨⟨⟨⟨⟨⟨⟨⟨-, -⟩, hmode⟩, hcapital⟩, hbudget⟩, hexposure⟩, hdaily⟩, hdrawdown⟩,
    hconcentration⟩, hthreshold⟩, hentries⟩, hopen⟩, hage⟩ := hp
  have hloads : PyJson.loads ⟨true, false⟩ (riskPolicyPayload p).canonicalBytes =
      .ok (documentOf p) := PyJson.loads_canonicalBytes (readable_payload hcounts) _
  have hget : ∀ {key w}, (riskPolicyPayload p).get key = w →
      (documentOf p).get key = .ofJson w.sorted := by
    rintro key w rfl
    exact get_document hcounts key
  have hdecimal : ∀ {field d}, isPositive d = true →
      (riskPolicyPayload p).get field = .str d.toText →
      positiveDecimal ((documentOf p).get field) ("risk_policy." ++ field) = .ok d := by
    intro field d hd hfield
    rw [hget hfield]
    exact positiveDecimal_toText hd _
  have hall : ∀ field ∈ decimalFields, ∃ d, positiveDecimal ((documentOf p).get field)
      ("risk_policy." ++ field) = .ok d := by
    simp only [decimalFields, List.forall_mem_cons]
    exact ⟨⟨_, hdecimal hcapital rfl⟩, ⟨_, hdecimal hbudget rfl⟩, ⟨_, hdecimal hexposure rfl⟩,
      ⟨_, hdecimal hdaily rfl⟩, ⟨_, hdecimal hdrawdown rfl⟩, ⟨_, hdecimal hconcentration rfl⟩,
      ⟨_, hdecimal hthreshold rfl⟩, fun _ h => by cases h⟩
  obtain ⟨decimals, hdecimals⟩ : ∃ decimals, order.1.mapM (readDecimal (documentOf p)) = .ok decimals := mapM_readDecimal
    (fun field => (positiveDecimal ((documentOf p).get field)
      ("risk_policy." ++ field)).toOption.getD .nan) fun field hfield => by
        obtain ⟨d, hd⟩ := hall field (order.2.mem_iff.mp hfield)
        rw [hd]
        rfl
  have hvalue : ∀ {field d}, field ∈ decimalFields → isPositive d = true →
      (riskPolicyPayload p).get field = .str d.toText → decimalOf decimals field = d := by
    intro field d hfield hd htext
    have hread := decimalOf_mapM hdecimals field (order.2.mem_iff.mpr hfield)
    rw [hdecimal hd htext] at hread
    exact (Except.ok.inj hread).symm
  have htext : ∀ {key s}, (riskPolicyPayload p).get key = .str s →
      documentText f ((documentOf p).get key) = .of s := by
    intro key s hkey
    rw [hget hkey]
    rfl
  have hplain : ∀ s : String, PlainText (.of s) := by
    intro s
    rw [PlainText, PyText.toString?_of]
    rfl
  simp only [parseRiskPolicy, except_bind_eq_ok]
  refine ⟨documentOf p, except_mapError_eq_ok.mpr hloads, (), throwIf_eq_ok.mpr ?_, (),
    throwIf_eq_ok.mpr ?_, (), throwIf_eq_ok.mpr ?_, (), throwIf_eq_ok.mpr ?_, (),
    throwIf_eq_ok.mpr ?_, decimals, hdecimals, p.maxEntriesPerDay, ?_, p.maxOpenExpressions, ?_,
    p.truthMaxAgeSeconds, ?_, ?_⟩
  · simp [documentOf, riskPolicyPayload, Json.sorted, PyJson.ofJson, PyJson.isObject]
  · rw [documentOf, PyJson.hasKeys_ofJson, Json.hasKeys_sorted]
    exact Bool.true_eq_false.mp
  · rw [hget (w := .str "esscher.paper_account_risk_policy") rfl]
    decide
  · rw [hget (w := .int 1) rfl]
    exact Bool.true_eq_false.mp
  · rw [hget (w := .str p.runMode) rfl, hmode]
    decide
  · rw [hget (w := .int p.maxEntriesPerDay) rfl]
    exact positiveInt_eq_ok.mpr ⟨rfl, hentries⟩
  · rw [hget (w := .int p.maxOpenExpressions) rfl]
    exact positiveInt_eq_ok.mpr ⟨rfl, hopen⟩
  · rw [hget (w := .int p.truthMaxAgeSeconds) rfl]
    exact positiveInt_eq_ok.mpr ⟨rfl, hage⟩
  · rw [htext (s := p.policyId) rfl, htext (s := p.version) rfl, htext (s := p.runMode) rfl,
      htext (s := p.constantsSourceSha256) rfl, PyText.replaced_of, PyText.replaced_of,
      PyText.replaced_of, PyText.replaced_of, hvalue (by decide) hcapital rfl,
      hvalue (by decide) hbudget rfl, hvalue (by decide) hexposure rfl,
      hvalue (by decide) hdaily rfl, hvalue (by decide) hdrawdown rfl,
      hvalue (by decide) hconcentration rfl, hvalue (by decide) hthreshold rfl]
    rw [dif_pos p.accepted]
    simp only [except_bind_eq_ok, throwIf_eq_ok, not_not, List.forall_mem_cons, hplain,
      List.not_mem_nil, false_imp_iff, implies_true, and_self]
    exact ⟨(), trivial, _, h, (), rfl, rfl⟩

end Document

/-! ### What is raised -/

section Raised

variable {f : Json.FloatRepr} {order : FieldOrder} {raw : List UInt8} {value : PyJson}

theorem plainText_of (s : String) : PlainText (.of s) := by
  rw [PlainText, PyText.toString?_of]
  rfl

theorem plainText_documentText (h : ∀ t, value = .str t → PlainText t) :
    PlainText (documentText f value) := by
  have hrepr : ∀ cs : List Char, PlainText (cs.map Char.toNat) := by
    intro cs
    rw [← String.toList_ofList (l := cs)]
    exact plainText_of (String.ofList cs)
  cases value with
  | str t => exact h t rfl
  | _ => exact hrepr _

/-- No value but the empty text is printed as nothing. -/
theorem documentText_ne_nil (h : value ≠ .str []) : documentText f value ≠ [] := by
  cases value with
  | str t => exact fun ht => h (congrArg PyJson.str ht)
  | null =>
    rw [documentText, PyJson.pyRepr]
    · decide
    · exact fun t ht => by cases ht
  | bool b => cases b <;> exact fun hnil => (by cases hnil)
  | int n =>
    intro hnil
    have hempty : (toString n).toList = [] := List.map_eq_nil_iff.mp hnil
    have htext : toString n = "" := String.toList_eq_nil_iff.mp hempty
    cases n with
    | ofNat n =>
      have hdigits : Nat.toDigits 10 n = [] := by
        have hlist : (toString n).toList = Nat.toDigits 10 n := by
          rw [Nat.toString_eq_ofList_toDigits, String.toList_ofList]
        rw [← hlist]
        exact hempty
      have hpos := Nat.length_toDigits_pos (b := 10) (n := n)
      rw [hdigits] at hpos
      exact absurd hpos (by decide)
    | negSucc n => exact absurd hempty (by simp [toString, Int.repr])
  | float literal =>
    rw [documentText, PyJson.pyRepr]
    · intro hnil
      rw [List.map_eq_nil_iff] at hnil
      split_ifs at hnil with hreal hnan hsign
      · rw [Bool.and_eq_true] at hreal
        have htext := f.real literal hreal.1 hreal.2
        rw [String.toList_eq_nil_iff.mp hnil] at htext
        exact absurd htext (by decide)
      all_goals exact absurd hnil (by decide)
    · exact fun t ht => by cases ht
  | arr items => exact fun hnil => (by cases hnil)
  | obj fields => exact fun hnil => (by cases hnil)

theorem replaced_ne_empty {t : PyText} (h : t ≠ []) : t.replaced ≠ "" := by
  intro hempty
  have hlist := congrArg String.toList hempty
  rw [PyText.replaced, String.toList_ofList] at hlist
  exact h (List.map_eq_nil_iff.mp hlist)

theorem isPrintable_of_lt {n : Int} (h : n.natAbs < 10 ^ PyJson.maxDigits) : isPrintable n := by
  have htext : (toString n.natAbs).toList = Nat.toDigits 10 n.natAbs := by
    rw [Nat.toString_eq_ofList_toDigits, String.toList_ofList]
  have hcount := (Decimal.digitCount_le_iff (c := n.natAbs) (k := PyJson.maxDigits)
    (by decide)).mpr h
  rwa [Decimal.digitCount, htext] at hcount

/-- The identifier and the version are no empty texts, and no text of the policy holds a lone
surrogate. -/
structure PolicyTexts (payload : PyJson) : Prop where
  nonempty : ∀ key ∈ ["policy_id", "version"], payload.get key ≠ .str []
  plain : ∀ key ∈ ["policy_id", "version", "constants_source_sha256"], ∀ t,
    payload.get key = .str t → PlainText t

/-- Only `RiskRejected` is raised on such texts. -/
theorem parseRiskPolicy_raises (h : ∀ payload, PyJson.loads ⟨true, false⟩ raw = .ok payload →
    PolicyTexts payload) :
    RaisesOnly DocumentError.IsRejected (parseRiskPolicy f order raw) := by
  have hcheck : ∀ {c : Prop} [Decidable c] {reason path},
      RaisesOnly DocumentError.IsRejected (throwIf c (.rejected reason path)) :=
    raisesOnly_throwIf ⟨_, _, rfl⟩
  refine (raisesOnly_mapError fun _ => ⟨_, _, rfl⟩).bind fun payload hloads => hcheck.bind fun _ _ =>
    hcheck.bind fun _ _ => hcheck.bind fun _ _ => hcheck.bind fun _ _ =>
    hcheck.bind fun _ hmode => ?_
  refine (raisesOnly_mapM fun field _ => (raisesOnly_positiveDecimal _ _).bind fun _ _ =>
    raisesOnly_ok _).bind fun decimals hdecimals => ?_
  refine (raisesOnly_positiveInt _ _).bind fun entries hentries =>
    (raisesOnly_positiveInt _ _).bind fun expressions hexpressions =>
    (raisesOnly_positiveInt _ _).bind fun age hage => ?_
  have hloaded := except_mapError_eq_ok.mp hloads
  obtain ⟨hnonempty, hplain⟩ := h payload hloaded
  simp only [List.forall_mem_cons, List.not_mem_nil, false_imp_iff, implies_true,
    and_true] at hnonempty hplain
  have hpaper : (documentText f (payload.get "run_mode")).replaced = "PAPER" := by
    have htext := Bool.not_eq_false _ ▸ throwIf_eq_ok.mp hmode
    revert htext
    cases payload.get "run_mode" with
    | str t =>
      intro htext
      rw [documentText, beq_iff_eq.mp htext, PyText.replaced_of]
    | _ => exact fun htext => by cases htext
  have hdecimal : ∀ field ∈ decimalFields, isPositive (decimalOf decimals field) = true :=
    fun field hfield => isPositive_of_positiveDecimal
      (decimalOf_mapM hdecimals field (order.2.mem_iff.mpr hfield))
  have hshort : ∀ {key path} {n : Int}, positiveInt (payload.get key) path = .ok n →
      isPrintable n := by
    intro key path n hn
    have hints := PyJson.shortInts_get (PyJson.shortInts_of_loads hloaded) key
    rw [(positiveInt_eq_ok.mp hn).1] at hints
    cases hints with
    | int _ hlt => exact isPrintable_of_lt hlt
  dsimp only
  split
  · refine (raisesOnly_throwIf_of_not (not_not.mpr ?_)).bind fun _ _ => ?_
    · simp only [List.forall_mem_cons, List.not_mem_nil, false_imp_iff, implies_true, and_true]
      exact ⟨plainText_documentText hplain.1, plainText_documentText hplain.2.1,
        plainText_documentText hplain.2.2⟩
    · refine RaisesOnly.bind ?_ fun _ _ => hcheck.bind fun _ _ => raisesOnly_ok _
      refine (raisesOnly_throwIf_of_not (not_not.mpr ?_)).bind fun _ _ => raisesOnly_ok _
      simp only [counts, List.forall_mem_cons, List.not_mem_nil, false_imp_iff,
        implies_true, and_true]
      exact ⟨hshort hentries, hshort hexpressions, hshort hage⟩
  · rename_i hfields
    refine absurd ?_ hfields
    simp only [decimalFields, List.forall_mem_cons] at hdecimal
    obtain ⟨h1, h2, h3, h4, h5, h6, h7, -⟩ := hdecimal
    simp only [RiskPolicyFields.check, hpaper, h1, h2, h3, h4, h5, h6, h7,
      decide_eq_true (positiveInt_eq_ok.mp hentries).2,
      decide_eq_true (positiveInt_eq_ok.mp hexpressions).2,
      decide_eq_true (positiveInt_eq_ok.mp hage).2,
      bne_iff_ne.mpr (replaced_ne_empty (documentText_ne_nil (f := f) hnonempty.1)),
      bne_iff_ne.mpr (replaced_ne_empty (documentText_ne_nil (f := f) hnonempty.2)),
      beq_self_eq_true, Bool.and_self]

end Raised

end EsscherMarket.Risk.PolicyDocument
