import EsscherMarket.Execution.Expression.Observations
import EsscherMarket.Lib.DecimalPrecision
import EsscherMarket.Lib.PyJsonRoundTrip
import EsscherMarket.Passport.Chain

/-!
# The document of a promoted policy

`execution/expression/policy.py` as a reader of untrusted bytes: every exception of its
conversions is kept apart.
-/

namespace EsscherMarket.Execution

open Lib

/-! ### The reader -/

/-- `ExpressionRejected` with its reason and path, or what a conversion or `__post_init__` raises. -/
inductive PolicyError where
  | rejected (reason : ExpressionReason) (path : String)
  | typeError
  | valueError
  | overflowError
  | unicodeEncodeError
  deriving DecidableEq, Repr

/-- `_POLICY_FIELDS`. -/
def policyFields : List String :=
  ["schema", "schema_version", "policy_id", "version", "gate_d_report_sha256", "expression_kind",
    "objective", "evidence_threshold", "evidence_min_events", "operational_loss_budget",
    "quote_max_age_ms", "cross_leg_skew_max_ms", "spread_max_bps", "min_quote_size", "min_dte",
    "max_dte", "delta_min", "delta_max", "width_min", "width_max", "liquidity_min_open_interest"]

/-- `ExpressionKind(text)`. -/
def ExpressionKind.ofValue (text : String) : Option ExpressionKind :=
  [.cashNoTrade, .shares, .oneLongOption, .debitVertical].find? fun kind => kind.value == text

def policyDecimal (value : PyJson) (path : String) : Except PolicyError Decimal :=
  match value with
  | .str text =>
    match text.toString?.bind Decimal.parse with
    | none => .error (.rejected .unsupportedInput path)
    | some d => if d.isFinite then .ok d else .error (.rejected .nonFiniteValue path)
  | _ => .error (.rejected .unsupportedInput path)

/-- `int(value)`; `truncate` is `int` of a finite float. -/
def policyInt (truncate : String → Option Int) : PyJson → Except PolicyError Int
  | .int n => .ok n
  | .bool b => .ok (if b then 1 else 0)
  | .float literal =>
    match truncate literal with
    | some n => .ok n
    | none => .error .overflowError
  | .str text =>
    match text.toString?.bind Passport.intOfText with
    | some n =>
      if (text.filter fun code => decide (48 ≤ code ∧ code ≤ 57)).length ≤ PyJson.maxDigits then .ok n
      else .error .valueError
    | none => .error .valueError
  | _ => .error .typeError

variable (f : Json.FloatRepr) (truncate : String → Option Int)

/-- `str(value)`. -/
def policyText : PyJson → PyText
  | .str text => text
  | value => (value.pyRepr f).map Char.toNat

structure PolicyArguments where
  policyId : PyText
  version : PyText
  gateDReportSha256 : PyText
  expressionKind : ExpressionKind
  objective : PyText
  evidenceThreshold : Decimal
  evidenceMinEvents : Int
  operationalLossBudget : Decimal
  quoteMaxAgeMs : Int
  crossLegSkewMaxMs : Int
  spreadMaxBps : Decimal
  minQuoteSize : Int
  minDte : Int
  maxDte : Int
  deltaMin : Decimal
  deltaMax : Decimal
  widthMin : Decimal
  widthMax : Decimal
  liquidityMinOpenInterest : Int
  allowsIndicativeData : Bool

namespace PolicyArguments

def texts (a : PolicyArguments) : List PyText :=
  [a.policyId, a.version, a.gateDReportSha256, a.objective]

def counts (a : PolicyArguments) : List Int :=
  [a.evidenceMinEvents, a.quoteMaxAgeMs, a.crossLegSkewMaxMs, a.minQuoteSize, a.minDte, a.maxDte,
    a.liquidityMinOpenInterest]

/-- The fields of the policy; a lone surrogate counts as some character. -/
def fields (a : PolicyArguments) : PromotedExpressionPolicyFields where
  policyId := String.ofList (a.policyId.map Char.ofNat)
  version := String.ofList (a.version.map Char.ofNat)
  gateDReportSha256 := String.ofList (a.gateDReportSha256.map Char.ofNat)
  expressionKind := a.expressionKind
  objective := String.ofList (a.objective.map Char.ofNat)
  evidenceThreshold := a.evidenceThreshold
  evidenceMinEvents := a.evidenceMinEvents.toNat
  operationalLossBudget := a.operationalLossBudget
  quoteMaxAgeMs := a.quoteMaxAgeMs.toNat
  crossLegSkewMaxMs := a.crossLegSkewMaxMs.toNat
  spreadMaxBps := a.spreadMaxBps
  minQuoteSize := a.minQuoteSize.toNat
  minDte := a.minDte.toNat
  maxDte := a.maxDte.toNat
  deltaMin := a.deltaMin
  deltaMax := a.deltaMax
  widthMin := a.widthMin
  widthMax := a.widthMax
  liquidityMinOpenInterest := a.liquidityMinOpenInterest.toNat
  allowsIndicativeData := a.allowsIndicativeData

/-- `PromotedExpressionPolicy.__post_init__` on the arguments. -/
def check (a : PolicyArguments) : Bool :=
  a.counts.all (fun n => decide (0 ≤ n)) && a.fields.check

end PolicyArguments

def readPolicyHeader (raw : List UInt8) : Except PolicyError (PyJson × ExpressionKind) := do
  let payload ← (PyJson.loads ⟨true, false⟩ raw).mapError fun _ =>
    .rejected .unsupportedInput "promoted_expression_policy"
  throwIf (payload.isObject = false) (.rejected .unsupportedInput "promoted_expression_policy")
  -- no field is missing, and none is unknown but for the optional one
  throwIf ((payload.hasKeys policyFields ||
    payload.hasKeys ("allows_indicative_data" :: policyFields)) = false)
    (.rejected .unsupportedInput "promoted_expression_policy")
  throwIf ((match payload.field? "allows_indicative_data" with
    | none => true
    | some (.bool _) => true
    | _ => false) = false)
    (.rejected .unsupportedInput "promoted_expression_policy.allows_indicative_data")
  throwIf ((payload.get "schema").isText "esscher.promoted_expression_policy" = false)
    (.rejected .unsupportedInput "promoted_expression_policy.schema")
  throwIf ((payload.get "schema_version").isOne f = false)
    (.rejected .unsupportedSchemaVersion "promoted_expression_policy.schema_version")
  match (policyText f (payload.get "expression_kind")).toString?.bind ExpressionKind.ofValue with
  | some kind => return (payload, kind)
  | none => throw (.rejected .unsupportedInput "promoted_expression_policy.expression_kind")

def readPolicyArguments (payload : PyJson) (kind : ExpressionKind) :
    Except PolicyError PolicyArguments := do
  let evidenceThreshold ← policyDecimal (payload.get "evidence_threshold")
    "promoted_expression_policy.evidence_threshold"
  let evidenceMinEvents ← policyInt truncate (payload.get "evidence_min_events")
  let operationalLossBudget ← policyDecimal (payload.get "operational_loss_budget")
    "promoted_expression_policy.operational_loss_budget"
  let quoteMaxAgeMs ← policyInt truncate (payload.get "quote_max_age_ms")
  let crossLegSkewMaxMs ← policyInt truncate (payload.get "cross_leg_skew_max_ms")
  let spreadMaxBps ← policyDecimal (payload.get "spread_max_bps")
    "promoted_expression_policy.spread_max_bps"
  let minQuoteSize ← policyInt truncate (payload.get "min_quote_size")
  let minDte ← policyInt truncate (payload.get "min_dte")
  let maxDte ← policyInt truncate (payload.get "max_dte")
  let deltaMin ← policyDecimal (payload.get "delta_min") "promoted_expression_policy.delta_min"
  let deltaMax ← policyDecimal (payload.get "delta_max") "promoted_expression_policy.delta_max"
  let widthMin ← policyDecimal (payload.get "width_min") "promoted_expression_policy.width_min"
  let widthMax ← policyDecimal (payload.get "width_max") "promoted_expression_policy.width_max"
  let liquidityMinOpenInterest ← policyInt truncate (payload.get "liquidity_min_open_interest")
  return {
    policyId := policyText f (payload.get "policy_id")
    version := policyText f (payload.get "version")
    gateDReportSha256 := policyText f (payload.get "gate_d_report_sha256")
    expressionKind := kind
    objective := policyText f (payload.get "objective")
    evidenceThreshold, evidenceMinEvents, operationalLossBudget, quoteMaxAgeMs, crossLegSkewMaxMs,
    spreadMaxBps, minQuoteSize, minDte, maxDte, deltaMin, deltaMax, widthMin, widthMax,
    liquidityMinOpenInterest
    allowsIndicativeData := match payload.get "allows_indicative_data" with
      | .bool b => b
      | _ => false }

def promotedExpressionPolicyBytes (p : PromotedExpressionPolicy) : List UInt8 :=
  (promotedExpressionPolicyPayload p).canonicalBytes

def parsePromotedExpressionPolicy (raw : List UInt8) :
    Except PolicyError PromotedExpressionPolicy := do
  let (payload, kind) ← readPolicyHeader f raw
  let arguments ← readPolicyArguments f truncate payload kind
  if h : arguments.check = true then
    let policy : PromotedExpressionPolicy := ⟨arguments.fields, (Bool.and_eq_true_iff.mp h).2⟩
    -- a lone surrogate has no bytes
    throwIf (arguments.texts.any fun text => text.toString?.isNone) .unicodeEncodeError
    throwIf (promotedExpressionPolicyBytes policy ≠ raw)
      (.rejected .unsupportedInput "promoted_expression_policy")
    return policy
  else throw .valueError

/-! ### The document of a policy is read back -/

namespace PromotedExpressionPolicy

def documentFields (p : PromotedExpressionPolicy) : List (String × Json) :=
  match promotedExpressionPolicyPayload p with
  | .obj fields => fields
  | _ => []

def counts (p : PromotedExpressionPolicy) : List Nat :=
  [p.evidenceMinEvents, p.quoteMaxAgeMs, p.crossLegSkewMaxMs, p.minQuoteSize, p.minDte, p.maxDte,
    p.liquidityMinOpenInterest]

def decimals (p : PromotedExpressionPolicy) : List Decimal :=
  [p.evidenceThreshold, p.operationalLossBudget, p.spreadMaxBps, p.deltaMin, p.deltaMax, p.widthMin,
    p.widthMax]

/-- A policy whose document can be read: its decimals are finite, and no count has more digits than
are converted. -/
structure Representable (p : PromotedExpressionPolicy) : Prop where
  finite : ∀ d ∈ p.decimals, d.isFinite
  short : ∀ n ∈ p.counts, (Nat.toDigits 10 n).length ≤ PyJson.maxDigits

end PromotedExpressionPolicy

section Document

variable {p : PromotedExpressionPolicy}

theorem keys_documentFields : p.documentFields.map Prod.fst = policyFields ∨
    p.documentFields.map Prod.fst = policyFields ++ ["allows_indicative_data"] := by
  rw [PromotedExpressionPolicy.documentFields, promotedExpressionPolicyPayload]
  cases p.allowsIndicativeData with
  | false => exact .inl rfl
  | true => exact .inr rfl

theorem nodup_documentFields : (p.documentFields.map Prod.fst).Nodup := by
  rcases @keys_documentFields p with h | h <;> rw [h] <;> decide

theorem readable_documentFields (h : p.Representable) : Json.Readable (.obj p.documentFields) := by
  refine .obj _ nodup_documentFields ?_
  have hshort := h.short
  simp only [PromotedExpressionPolicy.counts, List.forall_mem_cons] at hshort
  obtain ⟨h1, h2, h3, h4, h5, h6, h7, -⟩ := hshort
  have hone : (Nat.toDigits 10 1).length ≤ PyJson.maxDigits := by decide
  have hflag : ∀ kv ∈ (if p.allowsIndicativeData then [("allows_indicative_data", Json.bool true)]
      else []), Json.Readable kv.2 := by
    intro kv hkv
    split at hkv
    · rw [List.mem_singleton.mp hkv]
      exact .bool true
    · cases hkv
  rw [PromotedExpressionPolicy.documentFields, promotedExpressionPolicyPayload]
  refine List.forall_mem_append.mpr ⟨?_, hflag⟩
  simp only [List.forall_mem_cons]
  exact ⟨.str _, .int _ hone, .str _, .str _, .str _, .str _, .str _, .str _, .int _ h1, .str _,
    .int _ h2, .int _ h3, .str _, .int _ h4, .int _ h5, .int _ h6, .str _, .str _, .str _, .str _,
    .int _ h7, fun _ h => by cases h⟩

def documentOf (p : PromotedExpressionPolicy) : PyJson :=
  .ofJson (Json.obj p.documentFields).sorted

theorem loads_document (h : p.Representable) :
    PyJson.loads ⟨true, false⟩ (promotedExpressionPolicyBytes p) = .ok (documentOf p) :=
  PyJson.loads_canonicalBytes (readable_documentFields h) _

theorem get_document (h : p.Representable) {key : String} {w : Json}
    (hmem : (key, w) ∈ p.documentFields) : (documentOf p).get key = .ofJson w.sorted :=
  PyJson.get_ofJson_sorted (readable_documentFields h) hmem

theorem hasKeys_document : ((documentOf p).hasKeys policyFields ||
    (documentOf p).hasKeys ("allows_indicative_data" :: policyFields)) = true := by
  simp only [documentOf, PyJson.hasKeys_ofJson, Json.hasKeys_sorted]
  rw [Bool.or_eq_true]
  rcases @keys_documentFields p with h | h
  · exact .inl (PyJson.hasKeys_of_mem_iff fun key => by rw [h])
  · exact .inr (PyJson.hasKeys_of_mem_iff fun key => by
      rw [h, List.mem_append, List.mem_singleton, List.mem_cons, or_comm])

theorem lossy_of (s : String) : String.ofList ((PyText.of s).map Char.ofNat) = s := by
  have hmap : (PyText.of s).map Char.ofNat = s.toList := by
    rw [PyText.of, List.map_map]
    exact (List.map_congr_left fun c _ => Char.ofNat_toNat c).trans (List.map_id _)
  rw [hmap, String.ofList_toList]

theorem policyDecimal_toText {d : Decimal} (h : d.isFinite) (path : String) :
    policyDecimal (.ofJson (.str d.toText)) path = .ok d := by
  show (match (PyText.of d.toText).toString?.bind Decimal.parse with
    | none => _
    | some d => _) = _
  rw [PyText.toString?_of, Option.bind_some, Decimal.parse_toText h]
  exact if_pos h

theorem field?_flag (h : p.Representable) : (documentOf p).field? "allows_indicative_data" =
    if p.allowsIndicativeData then some (.bool true) else none := by
  rw [documentOf, PyJson.field?_ofJson, Json.field?_sorted (readable_documentFields h).wellFormed,
    PromotedExpressionPolicy.documentFields, promotedExpressionPolicyPayload]
  cases p.allowsIndicativeData <;> rfl

theorem ofValue_value (kind : ExpressionKind) : ExpressionKind.ofValue kind.value = some kind := by
  cases kind <;> decide

theorem readPolicyHeader_document (h : p.Representable) :
    readPolicyHeader f (promotedExpressionPolicyBytes p) = .ok (documentOf p, p.expressionKind) := by
  have hschema := @get_document p h "schema" (.str "esscher.promoted_expression_policy")
    (List.mem_append_left _ (by simp))
  have hversion := @get_document p h "schema_version" (.int 1)
    (List.mem_append_left _ (by simp))
  have hkind := @get_document p h "expression_kind" (.str p.expressionKind.value)
    (List.mem_append_left _ (by simp))
  have htext : (policyText f ((documentOf p).get "expression_kind")).toString?.bind
      ExpressionKind.ofValue = some p.expressionKind := by
    rw [hkind]
    show (PyText.of p.expressionKind.value).toString?.bind _ = _
    rw [PyText.toString?_of, Option.bind_some, ofValue_value]
  have hflag : (match (documentOf p).field? "allows_indicative_data" with
      | none => true
      | some (.bool _) => true
      | _ => false) = true := by
    rw [field?_flag h]
    cases p.allowsIndicativeData <;> rfl
  simp only [readPolicyHeader, except_bind_eq_ok, throwIf_eq_ok, loads_document h]
  refine ⟨documentOf p, rfl, (), by simp [documentOf, PyJson.isObject, PyJson.ofJson, Json.sorted],
    (), by rw [hasKeys_document]; simp, (), by rw [hflag]; simp, (), by rw [hschema]; decide, (),
    by rw [hversion]; exact Bool.true_eq_false.mp, ?_⟩
  rw [htext]
  rfl

def PromotedExpressionPolicy.arguments (p : PromotedExpressionPolicy) : PolicyArguments where
  policyId := .of p.policyId
  version := .of p.version
  gateDReportSha256 := .of p.gateDReportSha256
  expressionKind := p.expressionKind
  objective := .of p.objective
  evidenceThreshold := p.evidenceThreshold
  evidenceMinEvents := p.evidenceMinEvents
  operationalLossBudget := p.operationalLossBudget
  quoteMaxAgeMs := p.quoteMaxAgeMs
  crossLegSkewMaxMs := p.crossLegSkewMaxMs
  spreadMaxBps := p.spreadMaxBps
  minQuoteSize := p.minQuoteSize
  minDte := p.minDte
  maxDte := p.maxDte
  deltaMin := p.deltaMin
  deltaMax := p.deltaMax
  widthMin := p.widthMin
  widthMax := p.widthMax
  liquidityMinOpenInterest := p.liquidityMinOpenInterest
  allowsIndicativeData := p.allowsIndicativeData

theorem fields_arguments : p.arguments.fields = p.toPromotedExpressionPolicyFields := by
  simp only [PolicyArguments.fields, PromotedExpressionPolicy.arguments, lossy_of, Int.toNat_natCast]

theorem check_arguments : p.arguments.check = true := by
  have hcounts : p.arguments.counts.all (fun n => decide (0 ≤ n)) = true := by
    simp [PolicyArguments.counts, PromotedExpressionPolicy.arguments]
  rw [PolicyArguments.check, hcounts, fields_arguments, p.accepted]
  rfl

theorem readPolicyArguments_document (h : p.Representable) :
    readPolicyArguments f truncate (documentOf p) p.expressionKind = .ok p.arguments := by
  have htext : ∀ {k s}, (k, Json.str s) ∈ p.documentFields →
      policyText f ((documentOf p).get k) = .of s := fun hmem => by
    rw [get_document h hmem]
    rfl
  have hint : ∀ {k} {n : Nat}, (k, Json.int n) ∈ p.documentFields →
      policyInt truncate ((documentOf p).get k) = .ok (n : Int) := fun hmem => by
    rw [get_document h hmem]
    rfl
  have hdecimal : ∀ {k d path}, d.isFinite → (k, Json.str d.toText) ∈ p.documentFields →
      policyDecimal ((documentOf p).get k) path = .ok d := fun hd hmem => by
    rw [get_document h hmem]
    exact policyDecimal_toText hd _
  have hflag : (match (documentOf p).get "allows_indicative_data" with
      | .bool b => b
      | _ => false) = p.allowsIndicativeData := by
    rw [PyJson.get, field?_flag h]
    cases p.allowsIndicativeData <;> rfl
  have hmem : ∀ {kv}, kv ∈ _ → kv ∈ p.documentFields := fun h => List.mem_append_left _ h
  have hfinite := h.finite
  simp only [PromotedExpressionPolicy.decimals, List.forall_mem_cons] at hfinite
  obtain ⟨hthreshold, hbudget, hspread, hdmin, hdmax, hwmin, hwmax, -⟩ := hfinite
  simp only [readPolicyArguments, except_bind_eq_ok]
  refine ⟨_, hdecimal hthreshold (hmem (by simp)),
    _, hint (n := p.evidenceMinEvents) (hmem (by simp)),
    _, hdecimal hbudget (hmem (by simp)),
    _, hint (n := p.quoteMaxAgeMs) (hmem (by simp)),
    _, hint (n := p.crossLegSkewMaxMs) (hmem (by simp)),
    _, hdecimal hspread (hmem (by simp)),
    _, hint (n := p.minQuoteSize) (hmem (by simp)),
    _, hint (n := p.minDte) (hmem (by simp)),
    _, hint (n := p.maxDte) (hmem (by simp)),
    _, hdecimal hdmin (hmem (by simp)),
    _, hdecimal hdmax (hmem (by simp)),
    _, hdecimal hwmin (hmem (by simp)),
    _, hdecimal hwmax (hmem (by simp)),
    _, hint (n := p.liquidityMinOpenInterest) (hmem (by simp)), ?_⟩
  rw [htext (k := "policy_id") (s := p.policyId) (hmem (by simp)),
    htext (k := "version") (s := p.version) (hmem (by simp)),
    htext (k := "gate_d_report_sha256") (s := p.gateDReportSha256) (hmem (by simp)),
    htext (k := "objective") (s := p.objective) (hmem (by simp))]
  show Except.ok _ = _
  rw [hflag]
  rfl

theorem parsePromotedExpressionPolicy_eq_ok {raw : List UInt8} :
    parsePromotedExpressionPolicy f truncate raw = .ok p ↔
      ∃ payload kind arguments, readPolicyHeader f raw = .ok (payload, kind) ∧
        readPolicyArguments f truncate payload kind = .ok arguments ∧ arguments.check = true ∧
        (arguments.texts.any fun text => text.toString?.isNone) = false ∧
        arguments.fields = p.toPromotedExpressionPolicyFields ∧
        promotedExpressionPolicyBytes p = raw := by
  simp only [parsePromotedExpressionPolicy, except_bind_eq_ok, Prod.exists]
  refine exists_congr fun payload => exists_congr fun kind => ?_
  constructor
  · rintro ⟨hheader, arguments, harguments, h⟩
    refine ⟨arguments, hheader, harguments, ?_⟩
    split at h
    · rename_i hcheck
      simp only [except_bind_eq_ok, throwIf_eq_ok] at h
      obtain ⟨-, htexts, -, hbytes, h⟩ := h
      cases except_pure_eq_ok.mp h
      exact ⟨hcheck, Bool.not_eq_true _ ▸ htexts, rfl, not_not.mp hbytes⟩
    · cases h
  · rintro ⟨arguments, hheader, harguments, hcheck, htexts, hfields, hbytes⟩
    refine ⟨hheader, arguments, harguments, ?_⟩
    obtain ⟨fields, haccepted⟩ := p
    cases hfields
    rw [dif_pos hcheck]
    simp only [except_bind_eq_ok, throwIf_eq_ok]
    exact ⟨(), by rw [htexts]; exact Bool.false_ne_true, (), not_not.mpr hbytes, rfl⟩

/-- The document of a policy is read back. -/
theorem parse_promotedExpressionPolicyBytes (h : p.Representable) :
    parsePromotedExpressionPolicy f truncate (promotedExpressionPolicyBytes p) = .ok p := by
  have htexts : (p.arguments.texts.any fun text => text.toString?.isNone) = false := by
    simp [PolicyArguments.texts, PromotedExpressionPolicy.arguments, PyText.toString?_of]
  exact (parsePromotedExpressionPolicy_eq_ok f truncate).mpr ⟨_, _, _,
    readPolicyHeader_document f h, readPolicyArguments_document f truncate h, check_arguments,
    htexts, fields_arguments, rfl⟩

end Document

/-! ### What is raised -/

/-- A policy, or `ExpressionRejected`. -/
def OnlyRejects {α : Type} (x : Except PolicyError α) : Prop :=
  (∃ a, x = .ok a) ∨ ∃ reason path, x = .error (.rejected reason path)

theorem OnlyRejects.bind {α β : Type} {x : Except PolicyError α} {g : α → Except PolicyError β}
    (hx : OnlyRejects x) (hg : ∀ a, x = .ok a → OnlyRejects (g a)) : OnlyRejects (x >>= g) := by
  rcases hx with ⟨a, rfl⟩ | ⟨reason, path, rfl⟩
  · exact hg a rfl
  · exact .inr ⟨reason, path, rfl⟩

theorem onlyRejects_throwIf {c : Prop} [Decidable c] {reason : ExpressionReason} {path : String} :
    OnlyRejects (throwIf c (.rejected reason path)) := by
  by_cases h : c
  · exact .inr ⟨reason, path, if_pos h⟩
  · exact .inl ⟨(), if_neg h⟩

theorem onlyRejects_decimal (value : PyJson) (path : String) :
    OnlyRejects (policyDecimal value path) := by
  unfold policyDecimal
  split
  · split
    · exact .inr ⟨_, _, rfl⟩
    · split
      · exact .inl ⟨_, rfl⟩
      · exact .inr ⟨_, _, rfl⟩
  · exact .inr ⟨_, _, rfl⟩

theorem onlyRejects_header (raw : List UInt8) : OnlyRejects (readPolicyHeader f raw) := by
  have hload : OnlyRejects ((PyJson.loads ⟨true, false⟩ raw).mapError fun _ =>
      PolicyError.rejected .unsupportedInput "promoted_expression_policy") := by
    cases PyJson.loads ⟨true, false⟩ raw with
    | ok payload => exact .inl ⟨payload, rfl⟩
    | error e => exact .inr ⟨_, _, rfl⟩
  refine hload.bind fun payload _ => onlyRejects_throwIf.bind fun _ _ =>
    onlyRejects_throwIf.bind fun _ _ => onlyRejects_throwIf.bind fun _ _ =>
    onlyRejects_throwIf.bind fun _ _ => onlyRejects_throwIf.bind fun _ _ => ?_
  split
  · exact .inl ⟨_, rfl⟩
  · exact .inr ⟨_, _, rfl⟩

def countFields : List String :=
  ["evidence_min_events", "quote_max_age_ms", "cross_leg_skew_max_ms", "min_quote_size", "min_dte",
    "max_dte", "liquidity_min_open_interest"]

/-- Every count is a JSON integer that is not negative, no text holds a lone surrogate, and
`__post_init__` takes the values. -/
structure Convertible (payload : PyJson) (kind : ExpressionKind) : Prop where
  counts : ∀ key ∈ countFields, ∃ n : Nat, payload.get key = .int n
  texts : ∀ key ∈ ["policy_id", "version", "gate_d_report_sha256", "objective"],
    (policyText f (payload.get key)).toString?.isSome
  checked : ∀ arguments, readPolicyArguments f truncate payload kind = .ok arguments →
    arguments.fields.check = true

variable {f truncate}

theorem onlyRejects_arguments {payload : PyJson} {kind : ExpressionKind}
    (h : Convertible f truncate payload kind) :
    OnlyRejects (readPolicyArguments f truncate payload kind) := by
  have hint : ∀ {key}, key ∈ countFields → OnlyRejects (policyInt truncate (payload.get key)) := by
    intro key hkey
    obtain ⟨n, hn⟩ := h.counts key hkey
    exact .inl ⟨n, by rw [hn]; rfl⟩
  exact (onlyRejects_decimal _ _).bind fun _ _ => (hint (by decide)).bind fun _ _ =>
    (onlyRejects_decimal _ _).bind fun _ _ => (hint (by decide)).bind fun _ _ =>
    (hint (by decide)).bind fun _ _ => (onlyRejects_decimal _ _).bind fun _ _ =>
    (hint (by decide)).bind fun _ _ => (hint (by decide)).bind fun _ _ =>
    (hint (by decide)).bind fun _ _ => (onlyRejects_decimal _ _).bind fun _ _ =>
    (onlyRejects_decimal _ _).bind fun _ _ => (onlyRejects_decimal _ _).bind fun _ _ =>
    (onlyRejects_decimal _ _).bind fun _ _ => (hint (by decide)).bind fun _ _ => .inl ⟨_, rfl⟩

theorem check_of_convertible {payload : PyJson} {kind : ExpressionKind}
    (h : Convertible f truncate payload kind) {arguments : PolicyArguments}
    (harguments : readPolicyArguments f truncate payload kind = .ok arguments) :
    arguments.check = true ∧ (arguments.texts.any fun text => text.toString?.isNone) = false := by
  have hchecked := h.checked arguments harguments
  have hint : ∀ {key n}, key ∈ countFields → policyInt truncate (payload.get key) = .ok n → 0 ≤ n := by
    intro key n hkey hn
    obtain ⟨m, hm⟩ := h.counts key hkey
    rw [hm] at hn
    cases hn
    exact Int.natCast_nonneg m
  simp only [readPolicyArguments, except_bind_eq_ok] at harguments
  obtain ⟨_, -, _, h1, _, -, _, h2, _, h3, _, -, _, h4, _, h5, _, h6, _, -, _, -, _, -, _, -, _, h7,
    harguments⟩ := harguments
  cases harguments
  have htexts := h.texts
  simp only [List.forall_mem_cons] at htexts
  obtain ⟨hid, hversion, hdigest, hobjective, -⟩ := htexts
  refine ⟨?_, ?_⟩
  · rw [PolicyArguments.check, hchecked, Bool.and_true]
    simp [PolicyArguments.counts, hint (by decide) h1, hint (by decide) h2, hint (by decide) h3,
      hint (by decide) h4, hint (by decide) h5, hint (by decide) h6, hint (by decide) h7]
  · simp [PolicyArguments.texts, ← Option.not_isSome, hid, hversion, hdigest, hobjective]

theorem onlyRejects_parse {raw : List UInt8} (h : ∀ payload kind,
    readPolicyHeader f raw = .ok (payload, kind) → Convertible f truncate payload kind) :
    OnlyRejects (parsePromotedExpressionPolicy f truncate raw) := by
  refine (onlyRejects_header f raw).bind fun ⟨payload, kind⟩ hheader => ?_
  have hconvertible := h payload kind hheader
  refine (onlyRejects_arguments hconvertible).bind fun arguments harguments => ?_
  obtain ⟨hcheck, htexts⟩ := check_of_convertible hconvertible harguments
  rw [dif_pos hcheck, htexts]
  exact onlyRejects_throwIf.bind fun _ _ => .inl ⟨_, rfl⟩

/-! ### Equal policies -/

/-- `==` of two policies; decimals are compared by value. -/
def PromotedExpressionPolicy.beq (p q : PromotedExpressionPolicy) : Bool :=
  p.policyId == q.policyId && p.version == q.version &&
  p.gateDReportSha256 == q.gateDReportSha256 && p.expressionKind == q.expressionKind &&
  p.objective == q.objective && p.counts == q.counts &&
  p.allowsIndicativeData == q.allowsIndicativeData &&
  (List.zipWith Decimal.beq p.decimals q.decimals).all id

theorem promotedExpressionPolicyBytes_congr {p q : PromotedExpressionPolicy} (h : p.beq q = true)
    (htexts : p.decimals.map Decimal.toText = q.decimals.map Decimal.toText) :
    promotedExpressionPolicyBytes p = promotedExpressionPolicyBytes q := by
  simp only [PromotedExpressionPolicy.beq, Bool.and_eq_true, beq_iff_eq] at h
  obtain ⟨⟨⟨⟨⟨⟨⟨hid, hversion⟩, hdigest⟩, hkind⟩, hobjective⟩, hcounts⟩, hflag⟩, -⟩ := h
  simp only [PromotedExpressionPolicy.counts, PromotedExpressionPolicy.decimals, List.map_cons,
    List.cons.injEq] at hcounts htexts
  obtain ⟨h1, h2, h3, h4, h5, h6, h7, -⟩ := hcounts
  obtain ⟨hthreshold, hbudget, hspread, hdmin, hdmax, hwmin, hwmax, -⟩ := htexts
  rw [promotedExpressionPolicyBytes, promotedExpressionPolicyBytes, promotedExpressionPolicyPayload,
    promotedExpressionPolicyPayload, hid, hversion, hdigest, hkind, hobjective, hflag, h1, h2, h3, h4,
    h5, h6, h7, hthreshold, hbudget, hspread, hdmin, hdmax, hwmin, hwmax]

def thresholdPolicyFields (threshold : Decimal) : PromotedExpressionPolicyFields where
  policyId := "policy"
  version := "1"
  gateDReportSha256 := String.ofList (List.replicate 64 'a')
  expressionKind := .shares
  objective := "AFTER_COST_EXPECTED_EDGE_VS_CASH"
  evidenceThreshold := threshold
  evidenceMinEvents := 1
  operationalLossBudget := .finite false 100 0
  quoteMaxAgeMs := 1000
  crossLegSkewMaxMs := 100
  spreadMaxBps := .finite false 50 0
  minQuoteSize := 1
  minDte := 5
  maxDte := 45
  deltaMin := .finite false 3 (-1)
  deltaMax := .finite false 7 (-1)
  widthMin := .finite false 1 0
  widthMax := .finite false 10 0
  liquidityMinOpenInterest := 10
  allowsIndicativeData := false

def tenthPolicy : PromotedExpressionPolicy :=
  ⟨thresholdPolicyFields (.finite false 1 (-1)), by decide +kernel⟩

def tenHundredthsPolicy : PromotedExpressionPolicy :=
  ⟨thresholdPolicyFields (.finite false 10 (-2)), by decide +kernel⟩

theorem representable_tenthPolicy : tenthPolicy.Representable := ⟨by decide, by decide⟩

theorem representable_tenHundredthsPolicy : tenHundredthsPolicy.Representable :=
  ⟨by decide, by decide⟩

theorem convertible_document {p : PromotedExpressionPolicy} (h : p.Representable) :
    Convertible f truncate (documentOf p) p.expressionKind := by
  have hmem : ∀ {kv}, kv ∈ _ → kv ∈ p.documentFields := fun h => List.mem_append_left _ h
  have hint : ∀ {k} {n : Nat}, (k, Json.int n) ∈ p.documentFields →
      ∃ n : Nat, (documentOf p).get k = .int n := fun hmem => ⟨_, get_document h hmem⟩
  have htext : ∀ {k s}, (k, Json.str s) ∈ p.documentFields →
      (policyText f ((documentOf p).get k)).toString?.isSome := fun {k s} hmem => by
    rw [get_document h hmem]
    show (PyText.of s).toString?.isSome = true
    rw [PyText.toString?_of]
    rfl
  refine ⟨?_, ?_, fun arguments harguments => ?_⟩
  · simp only [countFields, List.forall_mem_cons]
    exact ⟨hint (n := p.evidenceMinEvents) (hmem (by simp)),
      hint (n := p.quoteMaxAgeMs) (hmem (by simp)), hint (n := p.crossLegSkewMaxMs) (hmem (by simp)),
      hint (n := p.minQuoteSize) (hmem (by simp)), hint (n := p.minDte) (hmem (by simp)),
      hint (n := p.maxDte) (hmem (by simp)),
      hint (n := p.liquidityMinOpenInterest) (hmem (by simp)), fun _ h => by cases h⟩
  · simp only [List.forall_mem_cons]
    exact ⟨htext (s := p.policyId) (hmem (by simp)), htext (s := p.version) (hmem (by simp)),
      htext (s := p.gateDReportSha256) (hmem (by simp)), htext (s := p.objective) (hmem (by simp)),
      fun _ h => by cases h⟩
  · rw [readPolicyArguments_document f truncate h] at harguments
    cases harguments
    rw [fields_arguments, p.accepted]

def literalFloats : Json.FloatRepr := .literals

end EsscherMarket.Execution
