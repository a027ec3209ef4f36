import EsscherMarket.Execution.Expression.Agreement

/-!
# From a compiled vertical to a permit

`contracts/compiled_to_permit.py`: the bridge that reads the terms of one compiled debit vertical
back from the texts of its block, checks them, and builds the permit for them.
-/

namespace EsscherMarket.Execution

open Lib
open Strategy (StrategyDecision StrategyInput isUtc)

/-- What the bridge raises: its own rejection of a field, or the permit's `ValueError`. -/
inductive PermitError where
  | rejected (path : String)
  | valueError
  deriving DecidableEq, Repr

/-- Registered constants that bind a permit to its host contract. -/
structure PermitBridgeConstants where
  riskPolicySha256 : String
  permitProtocolSha256 : String
  executionProtocolSha256 : String
  gateDReportSha256 : String
  accepted : (isLowerHex 64 riskPolicySha256 && isLowerHex 64 permitProtocolSha256 &&
    isLowerHex 64 executionProtocolSha256 && isLowerHex 64 gateDReportSha256) = true

/-- What a decision must repeat of the joined strategy input, by the name of the field. -/
def lineageFields (input : StrategyInput) (decision : StrategyDecision) :
    List (String × String × String) :=
  [("event_id", decision.eventId, input.eventId),
   ("candidate_id", decision.candidateId, input.candidateId),
   ("cohort_id", decision.cohortId, input.cohortId),
   ("policy_sha256", decision.policySha256, input.policySha256),
   ("candidate_manifest_sha256", decision.candidateManifestSha256, input.candidateManifestSha256),
   ("strategy_snapshot_sha256", decision.strategySnapshotSha256, input.snapshotSha256),
   ("feature_receipt_sha256", decision.featureReceiptSha256, input.featureReceiptSha256)]

def validateStrategyLineage (input : StrategyInput) (decision : StrategyDecision) :
    Except PermitError Unit := do
  throwIf (decision.disposition ≠ .accepted) (.rejected "decision.disposition")
  match (lineageFields input decision).find? fun field => field.2.1 != field.2.2 with
  | some field => .error (.rejected s!"decision.{field.1}")
  | none => pure ()

/-! ### The terms of a compiled vertical -/

/-- `_text`: non-empty normalized text. -/
def textField (block : Block) (field : String) : Option String :=
  match block.get? field with
  | some (.str s) => if isExactText s then some s else none
  | _ => none

/-- `_decimal`: a finite decimal, read from `str(value)`. -/
def decimalField (block : Block) (field : String) : Option Decimal :=
  (Decimal.parse (((block.get? field).getD .null).pyStr)).filter (·.isFinite)

def mappingField (block : Block) (field : String) : Option Block :=
  match block.get? field with
  | some (.obj fields) => some fields
  | _ => none

/-- `VerticalType(text)`. -/
def VerticalType.ofValue (text : String) : Option VerticalType :=
  [.bullCall, .bearPut].find? fun t => t.value == text

/-- `OptionType(text)`. -/
def OptionType.ofValue (text : String) : Option OptionType :=
  [.call, .put].find? fun t => t.value == text

/-- `date.fromisoformat(text)` of a normalized text. -/
def expiryField (block : Block) (field : String) : Option Date := do
  let text ← textField block field
  (Date.fromIsoformat text).filter fun d => d.isoformat == text

def legOfBlock (leg : Block) (underlying : String) (expiry : Date) (side : OptionSide)
    (positionIntent : PositionIntent) : Option OptionLeg := do
  let symbol ← textField leg "symbol"
  let optionType ← (textField leg "option_type").bind OptionType.ofValue
  let strike ← decimalField leg "strike"
  let fields : OptionLegFields :=
    ⟨symbol, underlying, expiry, optionType, strike, side, positionIntent, 1⟩
  if h : fields.check = true then some ⟨fields, h⟩ else none

/-- What `_vertical_terms` reads. -/
structure VerticalTerms where
  underlying : String
  verticalType : VerticalType
  expiry : Date
  quantity : Int
  limitPrice : Decimal
  width : Decimal
  maximumLoss : Decimal
  longLeg : OptionLeg
  shortLeg : OptionLeg

/-- The `try` block of `_vertical_terms`: every failure of it is one rejection. -/
def parseTerms (block : Block) : Option VerticalTerms := do
  let underlying ← textField block "underlying"
  let expiry ← expiryField block "expiry"
  let verticalType ← (textField block "vertical_type").bind VerticalType.ofValue
  let quantity ← match block.get? "quantity" with
    | some (.int 1) => some 1
    | _ => none
  let limitPrice ← decimalField block "limit_price"
  let width ← decimalField block "width"
  let maximumLoss ← decimalField block "maximum_loss"
  if limitPrice.toRat ≤ 0 ∨ width.toRat ≤ 0 ∨ maximumLoss.toRat ≤ 0 then none
  else do
    let long ← mappingField block "long_leg"
    let short ← mappingField block "short_leg"
    let longLeg ← legOfBlock long underlying expiry .buy .buyToOpen
    let shortLeg ← legOfBlock short underlying expiry .sell .sellToOpen
    some ⟨underlying, verticalType, expiry, quantity, limitPrice, width, maximumLoss, longLeg,
      shortLeg⟩

def verticalTerms (compiled : CompiledExpression) : Except PermitError VerticalTerms := do
  throwIf (compiled.expressionKind ≠ .debitVertical) (.rejected "compiled.expression_kind")
  match compiled.debitVertical with
  | none => .error (.rejected "compiled.debit_vertical")
  | some block =>
    match parseTerms block with
    | none => .error (.rejected "compiled.debit_vertical")
    | some terms =>
      throwIf (terms.width.toRat ≠ (terms.shortLeg.strike.sub terms.longLeg.strike).abs.toRat)
        (.rejected "compiled.debit_vertical.width")
      throwIf (terms.maximumLoss.toRat ≠
          ((terms.limitPrice.times (.ofNat 100)).times (.ofInt terms.quantity)).toRat)
        (.rejected "compiled.debit_vertical.maximum_loss")
      pure terms

/-! ### The permit -/

/-- Two legs are equal: strikes are compared by value. -/
def sameLeg (a b : OptionLeg) : Bool :=
  a.symbol == b.symbol && a.underlying == b.underlying && a.expiry == b.expiry &&
  a.optionType == b.optionType && decide (a.strike.toRat = b.strike.toRat) && a.side == b.side &&
  a.positionIntent == b.positionIntent && a.ratioQty == b.ratioQty

/-- `validate_compiled_permit` at a clock: one canonical permit is the exact compiled package. -/
def validateCompiledPermit (compiled : CompiledExpression) (permit : DebitVerticalPermit)
    (constants : PermitBridgeConstants) (now : DateTime) : Except PermitError Unit := do
  let terms ← verticalTerms compiled
  throwIf (permit.permitId ≠ debitVerticalPermitId permit.toDebitVerticalPermitFields)
    (.rejected "permit.permit_id")
  throwIf (permit.eventRunId ≠ compiled.eventId) (.rejected "permit.event_run_id")
  throwIf (permit.decisionSha256 ≠ compiled.decisionSha256) (.rejected "permit.decision_sha256")
  throwIf (permit.snapshotSha256 ≠ compiled.snapshotSha256) (.rejected "permit.snapshot_sha256")
  throwIf (permit.policySha256 ≠ constants.riskPolicySha256) (.rejected "permit.policy_sha256")
  throwIf (permit.protocolSha256 ≠ constants.permitProtocolSha256)
    (.rejected "permit.protocol_sha256")
  throwIf (permit.executionProtocolSha256 ≠ constants.executionProtocolSha256)
    (.rejected "permit.execution_protocol_sha256")
  throwIf (permit.verticalType ≠ terms.verticalType) (.rejected "permit.vertical_type")
  throwIf (permit.quantity ≠ terms.quantity) (.rejected "permit.quantity")
  throwIf (permit.limitPrice.toRat ≠ terms.limitPrice.toRat) (.rejected "permit.limit_price")
  throwIf ((sameLeg permit.longLeg terms.longLeg && sameLeg permit.shortLeg terms.shortLeg) = false)
    (.rejected "permit.legs")
  throwIf (permit.maximumLoss.toRat ≠ terms.maximumLoss.toRat) (.rejected "permit.maximum_loss")
  throwIf (permit.expiresAt.micros < permit.issuedAt.micros) (.rejected "permit.timing")
  throwIf (isUtc now = false) (.rejected "now")
  throwIf (now.micros < permit.issuedAt.micros ∨ permit.expiresAt.micros ≤ now.micros)
    (.rejected "permit.timing")

def permitFields (compiled : CompiledExpression) (input : StrategyInput)
    (constants : PermitBridgeConstants) (issued expires : DateTime) (terms : VerticalTerms) :
    DebitVerticalPermitFields where
  permitId := "UNBOUND"
  eventRunId := compiled.eventId
  policySha256 := constants.riskPolicySha256
  snapshotSha256 := compiled.snapshotSha256
  decisionSha256 := compiled.decisionSha256
  evidenceSha256 := input.evidencePacketSha256
  protocolSha256 := constants.permitProtocolSha256
  executionProtocolSha256 := constants.executionProtocolSha256
  issuedAt := issued
  expiresAt := expires
  verticalType := terms.verticalType
  quantity := terms.quantity
  limitPrice := terms.limitPrice
  longLeg := terms.longLeg
  shortLeg := terms.shortLeg

/-- `_require_utc`: the same instant in `UTC`. -/
def requireUtc (value : DateTime) (path : String) : Except PermitError DateTime := do
  throwIf (isUtc value = false) (.rejected path)
  pure (.utc value.micros)

/-- Build the only canonical PAPER permit from an accepted package. -/
def buildDebitVerticalPermit (compiled : CompiledExpression) (input : StrategyInput)
    (decision : StrategyDecision) (constants : PermitBridgeConstants) (issuedAt expiresAt : DateTime) :
    Except PermitError DebitVerticalPermit := do
  validateStrategyLineage input decision
  let issued ← requireUtc issuedAt "issued_at"
  let expires ← requireUtc expiresAt "expires_at"
  throwIf (expires.micros ≤ issued.micros) (.rejected "expires_at")
  throwIf (issued.micros < decision.decisionAt.micros ∨ issued.micros < compiled.compiledAt.micros)
    (.rejected "issued_at")
  throwIf (input.candidateEntryDeadlineAt.micros < expires.micros) (.rejected "expires_at")
  throwIf (compiled.gateDReportSha256 ≠ constants.gateDReportSha256)
    (.rejected "compiled.gate_d_report_sha256")
  throwIf (compiled.decisionSha256 ≠ Strategy.strategyDecisionSha256 decision)
    (.rejected "compiled.decision_sha256")
  let terms ← verticalTerms compiled
  -- the provisional permit and the one with the derived identity are checked alike
  if h : (permitFields compiled input constants issued expires terms).checkTerms = true then do
    let permit := DebitVerticalPermit.ofTerms _ h
    validateCompiledPermit compiled permit constants issued
    pure permit
  else .error .valueError

/-! ### The terms of a compiled vertical, read back -/

theorem textField_eq {block : Block} {field text : String} (h : block.get? field = some (.str text))
    (htext : isExactText text = true) : textField block field = some text := by
  rw [textField, h]
  exact if_pos htext

theorem decimalField_eq {block : Block} {field : String} {d : Decimal} (hd : d.isFinite = true)
    (h : block.get? field = some (.str d.toText)) : decimalField block field = some d := by
  rw [decimalField, h, Option.getD_some, Json.pyStr, Decimal.parse_toText hd]
  simp [hd]

theorem isExactText_isoformat (d : Date) : isExactText d.isoformat = true := by
  have hspace : ∀ c ∈ d.isoformat.toList, isSpace c = false := by
    intro c hc
    rw [Date.isoformat, String.toList_ofList] at hc
    have hdigits : ∀ w n, ∀ c ∈ zeroPad w n, isSpace c = false := fun w n c hc =>
      (Decimal.plain_of_text (.inl (isDigit_zeroPad hc))).1
    simp only [List.mem_append, List.mem_cons] at hc
    rcases hc with (hc | rfl | hc) | rfl | hc
    · exact hdigits 4 _ c hc
    · rfl
    · exact hdigits 2 _ c hc
    · rfl
    · exact hdigits 2 _ c hc
  have hne : d.isoformat ≠ "" := by
    intro h
    have hlen := congrArg (·.toList.length) h
    simp [Date.isoformat] at hlen
  rw [isExactText, strip_eq_self hspace]
  simp [hne]

theorem expiryField_eq {block : Block} {field : String} (leg : OptionLeg)
    (h : block.get? field = some (.str leg.expiry.isoformat)) :
    expiryField block field = some leg.expiry := by
  obtain ⟨hyear, hcalendar⟩ := leg.expiry_spec
  rw [expiryField, textField_eq h (isExactText_isoformat leg.expiry)]
  simp only [Option.bind_eq_bind, Option.bind_some, Date.fromIsoformat_isoformat hyear hcalendar]
  simp

theorem verticalType_ofValue (t : VerticalType) : VerticalType.ofValue t.value = some t := by
  cases t <;> decide

theorem optionType_ofValue (t : OptionType) : OptionType.ofValue t.value = some t := by
  cases t <;> decide

theorem isFinite_strike (leg : OptionLeg) : leg.strike.isFinite = true := by
  have h := leg.accepted
  simp only [OptionLegFields.check, Bool.and_eq_true] at h
  tauto

/-- A compiled leg is read back. -/
theorem legOfBlock_legBlock (leg : OptionLeg) (hsymbol : isExactText leg.symbol = true)
    (hratio : leg.ratioQty = 1) :
    legOfBlock [("symbol", .str leg.symbol), ("option_type", .str leg.optionType.value),
      ("strike", .str leg.strike.toText)] leg.underlying leg.expiry leg.side leg.positionIntent =
      some leg := by
  have htype : isExactText leg.optionType.value = true := by cases leg.optionType <;> decide
  rw [legOfBlock, textField_eq rfl hsymbol, textField_eq rfl htype,
    decimalField_eq (isFinite_strike leg) rfl]
  simp only [Option.bind_eq_bind, Option.bind_some, optionType_ofValue]
  obtain ⟨⟨symbol, underlying, expiry, optionType, strike, side, positionIntent, ratioQty⟩,
    haccepted⟩ := leg
  cases hratio
  exact dif_pos haccepted

variable {snapshot : ExpressionMarketSnapshot} {policy : PromotedExpressionPolicy}

theorem isExactText_of_requireSymbol {text : String} (h : requireSymbol text = true) :
    isExactText text = true := by
  simp only [requireSymbol, Bool.and_eq_true] at h
  rw [isExactText, Bool.and_eq_true]
  exact h.1

theorem isExactText_underlying (snapshot : ExpressionMarketSnapshot) :
    isExactText snapshot.underlying = true := by
  have h := snapshot.accepted
  simp only [SnapshotFields.check, Bool.and_eq_true] at h
  exact isExactText_of_requireSymbol (by tauto)

theorem underlying_of_mem {contract : OptionContractObservation} (h : contract ∈ snapshot.chain) :
    contract.underlying = snapshot.underlying := by
  have hchecks := snapshot.accepted
  simp only [SnapshotFields.check, Bool.and_eq_true, List.all_eq_true] at hchecks
  exact beq_iff_eq.mp (hchecks.1.1.1.1.2 contract h).1

theorem isExactText_contractSymbol (contract : OptionContractObservation) :
    isExactText contract.symbol = true := by
  have h := contract.accepted
  simp only [contractCheck, Bool.and_eq_true] at h
  exact isExactText_of_requireSymbol (by tauto)

/-- The legs of a compiled vertical are its contracts, bought and sold to open. -/
structure CompiledLegs (snapshot : ExpressionMarketSnapshot) (directionIsUp : Bool)
    (geometry : VerticalGeometry) (longLeg shortLeg : OptionLeg) : Prop where
  long : longLeg.toOptionLegFields = legFields geometry.longLeg .buy .buyToOpen
  short : shortLeg.toOptionLegFields = legFields geometry.shortLeg .sell .sellToOpen
  underlying : longLeg.underlying = snapshot.underlying ∧ shortLeg.underlying = snapshot.underlying
  expiry : shortLeg.expiry = longLeg.expiry
  optionType : longLeg.optionType = directionOptionType directionIsUp ∧
    shortLeg.optionType = directionOptionType directionIsUp
  strikes : StrikesOrdered directionIsUp geometry.longLeg geometry.shortLeg
  width : geometry.width = (shortLeg.strike.sub longLeg.strike).abs

theorem compiledLegs {directionIsUp : Bool} {geometry : VerticalGeometry}
    {longLeg shortLeg : OptionLeg}
    (hgeometry : selectVerticalGeometry snapshot policy directionIsUp = .ok geometry)
    (hlong : buildOptionLeg geometry.longLeg .buy .buyToOpen = .ok longLeg)
    (hshort : buildOptionLeg geometry.shortLeg .sell .sellToOpen = .ok shortLeg) :
    CompiledLegs snapshot directionIsUp geometry longLeg shortLeg := by
  obtain ⟨hselect, hchain, hexpiry, hlongType, hshortType, hstrikes, hwidth⟩ :=
    selectVerticalGeometry_spec hgeometry
  have hlongFields := (buildOptionLeg_eq_ok.mp hlong).1
  have hshortFields := (buildOptionLeg_eq_ok.mp hshort).1
  refine ⟨hlongFields, hshortFields, ⟨?_, ?_⟩, ?_, ⟨?_, ?_⟩, hstrikes, ?_⟩
  · rw [hlongFields]
    exact underlying_of_mem (selectLongContract_eq_ok hselect).1
  · rw [hshortFields]
    exact underlying_of_mem hchain
  · rw [hlongFields, hshortFields]
    exact hexpiry.symm
  · rw [hlongFields]
    exact hlongType
  · rw [hshortFields]
    exact hshortType
  · rw [hwidth, hlongFields, hshortFields]
    rfl

def directionVerticalType (directionIsUp : Bool) : VerticalType :=
  if directionIsUp then .bullCall else .bearPut

def termsOf (snapshot : ExpressionMarketSnapshot) (directionIsUp : Bool)
    (geometry : VerticalGeometry) (longLeg shortLeg : OptionLeg) (package : PackageObservation) :
    VerticalTerms where
  underlying := snapshot.underlying
  verticalType := directionVerticalType directionIsUp
  expiry := longLeg.expiry
  quantity := 1
  limitPrice := package.netAsk
  width := geometry.width
  maximumLoss := package.netAsk.times contractMultiplier
  longLeg := longLeg
  shortLeg := shortLeg

theorem isExactText_value (t : VerticalType) : isExactText t.value = true := by
  cases t <;> decide

/-- The block of a compiled vertical is read back. -/
theorem parseTerms_block {directionIsUp : Bool} {geometry : VerticalGeometry}
    {longLeg shortLeg : OptionLeg} {package : PackageObservation}
    (hlegs : CompiledLegs snapshot directionIsUp geometry longLeg shortLeg)
    (hprice : 0 < package.netAsk.toRat)
    (hwidth : geometry.width.isFinite = true ∧ 0 < geometry.width.toRat)
    (hloss : 0 < (package.netAsk.times contractMultiplier).toRat) :
    parseTerms (debitVerticalBlock snapshot directionIsUp longLeg shortLeg package geometry.width
      (package.netAsk.times contractMultiplier)) =
      some (termsOf snapshot directionIsUp geometry longLeg shortLeg package) := by
  have hlossFinite : (package.netAsk.times contractMultiplier).isFinite = true :=
    Decimal.isFinite_times (isFinite_netAsk package) rfl
  have hlongLeg : legOfBlock [("symbol", .str longLeg.symbol),
      ("option_type", .str longLeg.optionType.value), ("strike", .str longLeg.strike.toText)]
      snapshot.underlying longLeg.expiry .buy .buyToOpen = some longLeg := by
    have h := legOfBlock_legBlock longLeg
      (by rw [hlegs.long]; exact isExactText_contractSymbol geometry.longLeg) (by rw [hlegs.long]; rfl)
    rw [hlegs.underlying.1] at h
    rw [hlegs.long] at h ⊢
    exact h
  have hshortLeg : legOfBlock [("symbol", .str shortLeg.symbol),
      ("option_type", .str shortLeg.optionType.value), ("strike", .str shortLeg.strike.toText)]
      snapshot.underlying longLeg.expiry .sell .sellToOpen = some shortLeg := by
    have h := legOfBlock_legBlock shortLeg
      (by rw [hlegs.short]; exact isExactText_contractSymbol geometry.shortLeg)
      (by rw [hlegs.short]; rfl)
    rw [hlegs.underlying.2, hlegs.expiry] at h
    rw [hlegs.short] at h ⊢
    exact h
  have hpositive : ¬(package.netAsk.toRat ≤ 0 ∨ geometry.width.toRat ≤ 0 ∨
      (package.netAsk.times contractMultiplier).toRat ≤ 0) := by
    rw [not_or, not_or, not_le, not_le, not_le]
    exact ⟨hprice, hwidth.2, hloss⟩
  rw [parseTerms, textField_eq rfl (isExactText_underlying snapshot), expiryField_eq longLeg rfl,
    textField_eq rfl (isExactText_value (directionVerticalType directionIsUp)),
    decimalField_eq (isFinite_netAsk package) rfl, decimalField_eq hwidth.1 rfl,
    decimalField_eq hlossFinite rfl]
  have hquantity : (debitVerticalBlock snapshot directionIsUp longLeg shortLeg package geometry.width
      (package.netAsk.times contractMultiplier)).get? "quantity" = some (.int 1) := rfl
  have hlong : mappingField (debitVerticalBlock snapshot directionIsUp longLeg shortLeg package
      geometry.width (package.netAsk.times contractMultiplier)) "long_leg" =
      some [("symbol", .str longLeg.symbol), ("option_type", .str longLeg.optionType.value),
        ("strike", .str longLeg.strike.toText)] := rfl
  have hshort : mappingField (debitVerticalBlock snapshot directionIsUp longLeg shortLeg package
      geometry.width (package.netAsk.times contractMultiplier)) "short_leg" =
      some [("symbol", .str shortLeg.symbol), ("option_type", .str shortLeg.optionType.value),
        ("strike", .str shortLeg.strike.toText)] := rfl
  simp only [Option.bind_eq_bind, Option.bind_some, verticalType_ofValue, if_neg hpositive,
    hquantity, hlong, hshort, hlongLeg, hshortLeg]
  rfl

/-- The net ask of an admissible package is positive, and so is what the package can lose. -/
theorem netAsk_spec {package : PackageObservation} (h : PackageAdmissible snapshot policy package) :
    ∃ c e, package.netAsk = .finite false c e ∧ c ≠ 0 ∧
      0 < (package.netAsk.times contractMultiplier).toRat := by
  have hpositive := h.twoSided.2
  have hfinite := isFinite_netAsk package
  generalize package.netAsk = ask at hpositive hfinite ⊢
  cases ask with
  | finite n c e =>
    have hpow : (0 : ℚ) < Decimal.pow10 e := by
      rw [Decimal.pow10_eq_zpow]
      exact zpow_pos (by norm_num) e
    have hc : c ≠ 0 := by
      rintro rfl
      simp [Decimal.toRat] at hpositive
    have hn : n = false := by
      cases n with
      | false => rfl
      | true =>
        have hnonneg : (0 : ℚ) ≤ c * Decimal.pow10 e := by positivity
        simp only [Decimal.toRat, if_true] at hpositive
        linarith
    subst hn
    have hmul : c * 100 ≠ 0 := by omega
    exact ⟨c, e, rfl, hc, Decimal.toRat_fix_pos hmul⟩
  | _ => cases hfinite

/-- The width of the legs is exact: strikes are tenths of a cent of at most eight digits. -/
theorem width_spec {directionIsUp : Bool} {geometry : VerticalGeometry} {longLeg shortLeg : OptionLeg}
    (h : CompiledLegs snapshot directionIsUp geometry longLeg shortLeg) :
    geometry.width.toRat = |shortLeg.strike.toRat - longLeg.strike.toRat| ∧
      ∃ k : Nat, k < 10 ^ 8 ∧ geometry.width.toRat = k * Decimal.pow10 (-3) := by
  obtain ⟨k, hk, hlong⟩ := longLeg.strike_spec
  obtain ⟨l, hl, hshort⟩ := shortLeg.strike_spec
  have hpow : ∀ m : Nat, (m : ℚ) / 1000 = m * Decimal.pow10 (-3) := by
    intro m
    rw [Decimal.pow10_eq_zpow]
    norm_num
    ring
  rw [hpow] at hlong hshort
  have hprecision : 10 ^ 8 < 10 ^ Decimal.precision := by decide
  have hexact : geometry.width.toRat = |shortLeg.strike.toRat - longLeg.strike.toRat| := by
    rw [h.width]
    exact Decimal.toRat_abs_sub (isFinite_strike shortLeg) (isFinite_strike longLeg)
      (hl.trans hprecision) (hk.trans hprecision) hshort hlong
  refine ⟨hexact, ((l : Int) - k).natAbs, by omega, ?_⟩
  have hpos : (0 : ℚ) < Decimal.pow10 (-3) := by
    rw [Decimal.pow10_eq_zpow]
    positivity
  rw [hexact, hshort, hlong, ← sub_mul, abs_mul, abs_of_pos hpos, Nat.cast_natAbs]
  norm_cast

def AtMostCents : Decimal → Prop
  | .finite _ _ e => -2 ≤ e
  | _ => False

instance decidableAtMostCents : ∀ d, Decidable (AtMostCents d)
  | .finite _ _ e => inferInstanceAs (Decidable (-2 ≤ e))
  | .infinite _ => .isFalse id
  | .nan => .isFalse id

theorem toRat_contractMultiplier : contractMultiplier.toRat = 100 := by
  simp [contractMultiplier, Decimal.ofNat, Decimal.toRat, Decimal.pow10]

theorem toRat_maximumLoss (package : PackageObservation) :
    (package.netAsk.mul (.ofNat 100)).toRat = package.netAsk.toRat * 100 := by
  rw [Decimal.toRat_mul (isFinite_netAsk package) rfl]
  exact congrArg _ toRat_contractMultiplier

/-- What the width is worth is exact, and less than ten millions. -/
theorem width_times {directionIsUp : Bool} {geometry : VerticalGeometry} {longLeg shortLeg : OptionLeg}
    (hlegs : CompiledLegs snapshot directionIsUp geometry longLeg shortLeg)
    (hfinite : geometry.width.isFinite = true) :
    (geometry.width.times contractMultiplier).toRat = geometry.width.toRat * 100 ∧
      geometry.width.toRat * 100 < 10 ^ 7 := by
  obtain ⟨-, k, hk, hvalue⟩ := width_spec hlegs
  have hprecision : 10 ^ 8 < 10 ^ Decimal.precision := by decide
  have hscaled : geometry.width.toRat * 100 = k * Decimal.pow10 (-1) := by
    have hpow : Decimal.pow10 (-3) * (100 : ℚ) = Decimal.pow10 (-1) := by
      rw [Decimal.pow10_eq_zpow, Decimal.pow10_eq_zpow]
      norm_num
    rw [hvalue, mul_assoc, hpow]
  have hnonneg : (0 : ℚ) ≤ k * Decimal.pow10 (-1) := by
    rw [Decimal.pow10_eq_zpow]
    positivity
  refine ⟨?_, ?_⟩
  · have habs : |geometry.width.toRat * contractMultiplier.toRat| = k * Decimal.pow10 (-1) := by
      rw [toRat_contractMultiplier, hscaled, abs_of_nonneg hnonneg]
    rw [Decimal.toRat_times_of_abs hfinite rfl (hk.trans hprecision) habs, toRat_contractMultiplier]
  · have hbound : (k : ℚ) < 10 ^ 8 := by exact_mod_cast hk
    have hpow : Decimal.pow10 (-1) = 1 / 10 := by
      rw [Decimal.pow10_eq_zpow]
      norm_num
    rw [hscaled, hpow]
    linarith

/-- A debit in whole cents that the compiler found below the width is exact: a rounded one would be
larger than every width. -/
theorem debit_exact {directionIsUp : Bool} {geometry : VerticalGeometry}
    {longLeg shortLeg : OptionLeg} {package : PackageObservation}
    (hlegs : CompiledLegs snapshot directionIsUp geometry longLeg shortLeg)
    (hpackage : PackageAdmissible snapshot policy package) (hfinite : geometry.width.isFinite = true)
    (hcents : AtMostCents package.netAsk)
    (hdebit : (package.netAsk.times contractMultiplier).lt
      (geometry.width.times contractMultiplier) = true) :
    (package.netAsk.times contractMultiplier).toRat = package.netAsk.toRat * 100 ∧
      package.netAsk.toRat < |shortLeg.strike.toRat - longLeg.strike.toRat| := by
  obtain ⟨hworth, hbounded⟩ := width_times hlegs hfinite
  obtain ⟨c, e, hask, -, -⟩ := netAsk_spec hpackage
  have hlt := (Decimal.lt_iff (Decimal.isFinite_times (isFinite_netAsk package) rfl)
    (Decimal.isFinite_times hfinite rfl)).mp hdebit
  rw [hworth] at hlt
  rw [← (width_spec hlegs).1]
  rw [hask] at hcents hlt ⊢
  rcases lt_or_ge (c * 100) (10 ^ Decimal.precision) with hsmall | hlarge
  · have habs : |(Decimal.finite false c e).toRat * contractMultiplier.toRat| =
        (c * 100 : Nat) * Decimal.pow10 e := by
      rw [abs_mul, Decimal.abs_toRat_finite, toRat_contractMultiplier]
      push_cast
      rw [abs_of_pos (by norm_num : (0 : ℚ) < 100)]
      ring
    have hexact : ((Decimal.finite false c e).times contractMultiplier).toRat =
        (Decimal.finite false c e).toRat * 100 := by
      rw [Decimal.toRat_times_of_abs rfl rfl hsmall habs, toRat_contractMultiplier]
    rw [hexact] at hlt
    exact ⟨hexact, by linarith⟩
  · have hround := @Decimal.le_toRat_fix (c * 100) e hlarge
    have hexponent : (10 : ℚ) ^ (26 : Int) ≤ (10 : ℚ) ^ ((Decimal.precision : Int) + e) := by
      have hcents' : -2 ≤ e := hcents
      refine zpow_le_zpow_right₀ (by norm_num) ?_
      rw [Decimal.precision]
      omega
    have htimes : ((Decimal.finite false c e).times contractMultiplier) =
        (Decimal.finite false (c * 100) e).fix := by
      rw [Decimal.times, contractMultiplier, Decimal.ofNat, Decimal.mul, Int.add_zero]
      rfl
    rw [htimes] at hlt
    norm_num at hexponent
    linarith

variable {decision maker : StrategyDecision} {decisionBytes : List UInt8}
  {policySha256 gateDReportSha256 : String} {compiledAt issuedAt expiresAt : DateTime}
  {compiled : CompiledExpression} {input : StrategyInput} {constants : PermitBridgeConstants}

structure CompiledFrom (snapshot : ExpressionMarketSnapshot) (policy : PromotedExpressionPolicy)
    (directionIsUp : Bool) (compiled : CompiledExpression) where
  geometry : VerticalGeometry
  package : PackageObservation
  longLeg : OptionLeg
  shortLeg : OptionLeg
  hgeometry : selectVerticalGeometry snapshot policy directionIsUp = .ok geometry
  hpackage : selectPackage snapshot geometry = .ok package
  hadmissible : PackageAdmissible snapshot policy package
  hdebit : (package.netAsk.times contractMultiplier).lt
    (geometry.width.times contractMultiplier) = true
  hlegs : CompiledLegs snapshot directionIsUp geometry longLeg shortLeg
  hkind : compiled.expressionKind = .debitVertical
  hblock : compiled.debitVertical = some (debitVerticalBlock snapshot directionIsUp longLeg shortLeg
    package geometry.width (package.netAsk.times contractMultiplier))
  hevent : strip compiled.eventId ≠ ""
  hsnapshot : isLowerHex 64 compiled.snapshotSha256 = true
  hdecision : isLowerHex 64 compiled.decisionSha256 = true

theorem exists_compiledFrom
    (h : compileExpression snapshot policy maker decisionBytes policySha256 gateDReportSha256
      compiledAt = .ok compiled) (hkind : compiled.expressionKind = .debitVertical) :
    Nonempty (CompiledFrom snapshot policy (maker.direction == .up) compiled) := by
  rw [compileExpression] at h
  split at h
  case isFalse => cases h
  simp only [except_bind_eq_ok, throwIf_eq_ok, not_not, ne_eq] at h
  obtain ⟨-, -, -, -, -, hbound, -, -, h⟩ := h
  split at h
  case isFalse => cases h
  split at h
  case isFalse => cases h
  cases hpolicyKind : policy.expressionKind with
  | cashNoTrade =>
    rw [hpolicyKind] at h
    cases h
    cases hkind
  | shares =>
    rw [hpolicyKind] at h
    obtain ⟨-, rfl⟩ := compileShares_eq_ok.mp h
    cases hkind
  | oneLongOption =>
    rw [hpolicyKind] at h
    obtain ⟨contract, leg, -, -, -, -, -, rfl⟩ := compileLongOption_eq_ok.mp h
    cases hkind
  | debitVertical =>
    rw [hpolicyKind] at h
    obtain ⟨geometry, package, longLeg, shortLeg, hgeometry, -, -, -, hpackage, hadmissible, hdebit,
      -, -, hlong, hshort, rfl⟩ := compileDebitVertical_eq_ok.mp h
    exact ⟨{
      geometry := geometry
      package := package
      longLeg := longLeg
      shortLeg := shortLeg
      hgeometry := hgeometry
      hpackage := hpackage
      hadmissible := hadmissible
      hdebit := hdebit
      hlegs := compiledLegs hgeometry hlong hshort
      hkind := rfl
      hblock := rfl
      hevent := maker.strip_eventId
      hsnapshot := Sha256.isLowerHex_hexdigest _
      hdecision := Sha256.isLowerHex_hexdigest _ }⟩

/-- The terms of a compiled vertical are read back as the compiler had them. -/
theorem verticalTerms_compiled {directionIsUp : Bool}
    (h : CompiledFrom snapshot policy directionIsUp compiled) :
    verticalTerms compiled =
      .ok (termsOf snapshot directionIsUp h.geometry h.longLeg h.shortLeg h.package) := by
  obtain ⟨c, e, hask, -, hloss⟩ := netAsk_spec h.hadmissible
  have hparse := parseTerms_block h.hlegs h.hadmissible.twoSided.2 (width_pos h.hgeometry) hloss
  have hmaximum : (h.package.netAsk.times contractMultiplier).times (.ofInt 1) =
      h.package.netAsk.times contractMultiplier :=
    Decimal.fix_times_one _ (Decimal.isFinite_mul (isFinite_netAsk h.package) rfl)
  simp only [verticalTerms, h.hblock, hparse, except_bind_eq_ok, throwIf_eq_ok, not_not, ne_eq,
    except_pure_eq_ok]
  exact ⟨(), h.hkind, (), congrArg Decimal.toRat h.hlegs.width, (),
    congrArg Decimal.toRat hmaximum.symm, trivial⟩

/-- The strategy input, the decision, the clocks and the hashes are bound as the bridge requires. -/
structure BridgeBound (compiled : CompiledExpression) (input : StrategyInput)
    (decision : StrategyDecision) (constants : PermitBridgeConstants)
    (issuedAt expiresAt : DateTime) : Prop where
  accepted : decision.disposition = .accepted
  lineage : ∀ field ∈ lineageFields input decision, field.2.1 = field.2.2
  issuedUtc : isUtc issuedAt = true
  expiresUtc : isUtc expiresAt = true
  ordered : issuedAt.micros < expiresAt.micros
  afterDecision : decision.decisionAt.micros ≤ issuedAt.micros
  afterCompilation : compiled.compiledAt.micros ≤ issuedAt.micros
  beforeDeadline : expiresAt.micros ≤ input.candidateEntryDeadlineAt.micros
  gateDReport : compiled.gateDReportSha256 = constants.gateDReportSha256
  decisionBytes : compiled.decisionSha256 = Strategy.strategyDecisionSha256 decision

/-- The permit has the legs, the limit price and the maximum loss of the compiled expression. -/
def PermitMatches (compiled : CompiledExpression) (permit : DebitVerticalPermit) : Prop :=
  ∃ block, compiled.debitVertical = some block ∧
    block.get? "underlying" = some (.str permit.underlying) ∧
    block.get? "expiry" = some (.str permit.longLeg.expiry.isoformat) ∧
    block.get? "long_leg" = some (legBlock permit.longLeg) ∧
    block.get? "short_leg" = some (legBlock permit.shortLeg) ∧
    block.get? "limit_price" = some (.str permit.limitPrice.toText) ∧
    ∃ loss, block.get? "maximum_loss" = some (.str (Decimal.toText loss)) ∧
      loss.toRat = permit.maximumLoss.toRat

/-- The price that the compiler pays: the net ask of the package of the selected geometry. -/
def SelectedAsk (snapshot : ExpressionMarketSnapshot) (policy : PromotedExpressionPolicy)
    (directionIsUp : Bool) (ask : Decimal) : Prop :=
  ∃ geometry package, selectVerticalGeometry snapshot policy directionIsUp = .ok geometry ∧
    selectPackage snapshot geometry = .ok package ∧ ask = package.netAsk

theorem atMostCents_of_permit {directionIsUp : Bool} {permit : DebitVerticalPermit}
    (h : CompiledFrom snapshot policy directionIsUp compiled) (hmatch : PermitMatches compiled permit) :
    AtMostCents h.package.netAsk := by
  obtain ⟨block, hblock, -, -, -, -, hprice, -⟩ := hmatch
  rw [h.hblock] at hblock
  cases hblock
  have hmoney := permit.accepted
  simp only [DebitVerticalPermitFields.check, DebitVerticalPermitFields.checkTerms,
    Bool.and_eq_true] at hmoney
  have hlimit : requireMoney permit.limitPrice = true := by tauto
  have htext : h.package.netAsk.toText = permit.limitPrice.toText :=
    Json.str.inj (Option.some.inj hprice)
  have hfinite : permit.limitPrice.isFinite = true := by
    cases hcases : permit.limitPrice with
    | finite n c e => rfl
    | _ =>
      rw [hcases] at hlimit
      cases hlimit
  rw [Decimal.toText_injective (isFinite_netAsk h.package) hfinite htext]
  cases hcases : permit.limitPrice with
  | finite n c e =>
    rw [hcases] at hlimit
    simp only [requireMoney, Bool.and_eq_true, decide_eq_true_eq] at hlimit
    exact hlimit.2
  | _ =>
    rw [hcases] at hlimit
    cases hlimit

theorem checkLegs_compiled {directionIsUp : Bool}
    (h : CompiledFrom snapshot policy directionIsUp compiled) :
    (permitFields compiled input constants (.utc issuedAt.micros) (.utc expiresAt.micros)
      (termsOf snapshot directionIsUp h.geometry h.longLeg h.shortLeg h.package)).checkLegs = true := by
  obtain ⟨hlong, hshort, ⟨hunderlying, hunderlying'⟩, hexpiry, ⟨htype, htype'⟩, hstrikes, -⟩ := h.hlegs
  have hsides : h.longLeg.side = .buy ∧ h.shortLeg.side = .sell := by
    rw [hlong, hshort]
    exact ⟨rfl, rfl⟩
  have hintents : h.longLeg.positionIntent = .buyToOpen ∧
      h.shortLeg.positionIntent = .sellToOpen := by
    rw [hlong, hshort]
    exact ⟨rfl, rfl⟩
  have hordered : StrikesOrdered directionIsUp h.geometry.longLeg h.geometry.shortLeg ↔
      if directionIsUp then h.longLeg.strike.toRat < h.shortLeg.strike.toRat
      else h.shortLeg.strike.toRat < h.longLeg.strike.toRat := by
    rw [hlong, hshort]
    rfl
  rw [hordered] at hstrikes
  simp only [DebitVerticalPermitFields.checkLegs, permitFields, termsOf, hsides, hintents,
    hunderlying, hunderlying', hexpiry, htype, htype']
  cases directionIsUp with
  | true =>
    have hwidth : h.longLeg.strike.toRat < h.shortLeg.strike.toRat := hstrikes
    simp only [directionVerticalType, directionOptionType, if_true, beq_self_eq_true, Bool.true_and]
    exact decide_eq_true hwidth
  | false =>
    have hwidth : h.shortLeg.strike.toRat < h.longLeg.strike.toRat := hstrikes
    simp only [directionVerticalType, directionOptionType, Bool.false_eq_true, if_false,
      beq_self_eq_true, Bool.true_and]
    exact decide_eq_true hwidth

/-- The terms of a compiled vertical in whole cents make a permit. -/
theorem checkTerms_compiled {directionIsUp : Bool}
    (h : CompiledFrom snapshot policy directionIsUp compiled)
    (hbound : BridgeBound compiled input decision constants issuedAt expiresAt)
    (hcents : AtMostCents h.package.netAsk) :
    (permitFields compiled input constants (.utc issuedAt.micros) (.utc expiresAt.micros)
      (termsOf snapshot directionIsUp h.geometry h.longLeg h.shortLeg h.package)).checkTerms = true := by
  obtain ⟨c, e, hask, hpositive, -⟩ := netAsk_spec h.hadmissible
  have hmoney : requireMoney h.package.netAsk = true := by
    rw [hask] at hcents ⊢
    have hcents' : -2 ≤ e := hcents
    simp [requireMoney, hpositive, hcents']
  have hbelow := (debit_exact h.hlegs h.hadmissible (width_pos h.hgeometry).1 hcents h.hdebit).2
  have hlegs := @checkLegs_compiled _ _ issuedAt expiresAt _ input constants _ h
  have hconstants := constants.accepted
  simp only [Bool.and_eq_true] at hconstants
  obtain ⟨⟨⟨hpolicy, hprotocol⟩, hexecution⟩, -⟩ := hconstants
  have hevent : (strip compiled.eventId != "") = true := bne_iff_ne.mpr h.hevent
  simp only [DebitVerticalPermitFields.checkTerms, Bool.and_eq_true, decide_eq_true_eq]
  exact ⟨⟨⟨⟨⟨⟨⟨⟨⟨⟨⟨⟨⟨hevent, hpolicy⟩, h.hsnapshot⟩, h.hdecision⟩, input.accepted.1⟩, hprotocol⟩,
    hexecution⟩, rfl⟩, rfl⟩, hbound.ordered⟩, rfl⟩, hmoney⟩, hlegs⟩, hbelow⟩

/-- The permit of a compiled vertical is the exact compiled package. -/
theorem validateCompiledPermit_ofTerms {directionIsUp : Bool}
    (h : CompiledFrom snapshot policy directionIsUp compiled)
    (hordered : issuedAt.micros < expiresAt.micros)
    (hterms : (permitFields compiled input constants (.utc issuedAt.micros) (.utc expiresAt.micros)
      (termsOf snapshot directionIsUp h.geometry h.longLeg h.shortLeg h.package)).checkTerms = true)
    (hloss : (h.package.netAsk.times contractMultiplier).toRat = h.package.netAsk.toRat * 100) :
    validateCompiledPermit compiled (.ofTerms _ hterms) constants (.utc issuedAt.micros) = .ok () := by
  have hsame : ∀ leg, sameLeg leg leg = true := by
    intro leg
    simp [sameLeg]
  have hmaximum : (h.package.netAsk.mul (.ofNat 100)).toRat =
      (h.package.netAsk.times contractMultiplier).toRat := by
    rw [hloss, toRat_maximumLoss]
  have horder : ¬ expiresAt.micros < issuedAt.micros := by omega
  have hactive : ¬ (issuedAt.micros < issuedAt.micros ∨ expiresAt.micros ≤ issuedAt.micros) := by
    omega
  simp only [validateCompiledPermit, verticalTerms_compiled h, except_bind_eq_ok, throwIf_eq_ok,
    not_not, ne_eq]
  refine ⟨_, rfl, (), rfl, (), rfl, (), rfl, (), rfl, (), rfl, (), rfl, (), rfl, (), rfl, (), rfl,
    (), rfl, (), ?_, (), hmaximum, (), horder, (), ?_, hactive⟩
  · have hlegs : (sameLeg h.longLeg h.longLeg && sameLeg h.shortLeg h.shortLeg) ≠ false := by
      simp [hsame]
    exact hlegs
  · exact Bool.noConfusion

/-- The bridge permits a compiled vertical exactly where the net ask of its package is in whole
cents. -/
theorem exists_permit_iff
    (hcompile : compileExpression snapshot policy maker decisionBytes policySha256
      gateDReportSha256 compiledAt = .ok compiled)
    (hkind : compiled.expressionKind = .debitVertical)
    (hbound : BridgeBound compiled input decision constants issuedAt expiresAt) :
    (∃ permit, buildDebitVerticalPermit compiled input decision constants issuedAt expiresAt =
      .ok permit ∧ PermitMatches compiled permit) ↔
    ∃ ask, SelectedAsk snapshot policy (maker.direction == .up) ask ∧ AtMostCents ask := by
  obtain ⟨h⟩ := exists_compiledFrom hcompile hkind
  constructor
  · rintro ⟨permit, -, hmatch⟩
    exact ⟨h.package.netAsk, ⟨h.geometry, h.package, h.hgeometry, h.hpackage, rfl⟩,
      atMostCents_of_permit h hmatch⟩
  · rintro ⟨ask, ⟨geometry, package, hgeometry, hpackage, rfl⟩, hcents⟩
    rw [h.hgeometry] at hgeometry
    cases hgeometry
    rw [h.hpackage] at hpackage
    cases hpackage
    have hexact := (debit_exact h.hlegs h.hadmissible (width_pos h.hgeometry).1 hcents h.hdebit).1
    have hterms := checkTerms_compiled h hbound hcents
    have hvalid := validateCompiledPermit_ofTerms h hbound.ordered hterms hexact
    have hlineage : validateStrategyLineage input decision = .ok () := by
      have hnone : (lineageFields input decision).find? (fun field => field.2.1 != field.2.2) =
          none := by
        rw [List.find?_eq_none]
        intro field hfield
        simp [hbound.lineage field hfield]
      simp only [validateStrategyLineage, hnone, except_bind_eq_ok, throwIf_eq_ok, not_not, ne_eq]
      exact ⟨(), hbound.accepted, rfl⟩
    refine ⟨.ofTerms _ hterms, ?_, ?_⟩
    · simp only [buildDebitVerticalPermit, requireUtc, except_bind_eq_ok, throwIf_eq_ok, not_not,
        ne_eq, except_pure_eq_ok]
      refine ⟨(), hlineage, _, ⟨(), ?_, rfl⟩, _, ⟨(), ?_, rfl⟩, (), ?_, (), ?_, (), ?_, (),
        hbound.gateDReport, (), hbound.decisionBytes, _, verticalTerms_compiled h, ?_⟩
      · simp [hbound.issuedUtc]
      · simp [hbound.expiresUtc]
      · exact not_le.mpr hbound.ordered
      · exact not_or.mpr ⟨not_lt.mpr hbound.afterDecision, not_lt.mpr hbound.afterCompilation⟩
      · exact not_lt.mpr hbound.beforeDeadline
      · rw [dif_pos hterms, except_bind_eq_ok]
        exact ⟨(), hvalid, rfl⟩
    · refine ⟨_, h.hblock, ?_, rfl, rfl, rfl, rfl, _, rfl, ?_⟩
      · exact congrArg (some ∘ Json.str) h.hlegs.underlying.1.symm
      · rw [hexact]
        exact (toRat_maximumLoss h.package).symm

/-! ### The concrete market -/

def spyConstants : PermitBridgeConstants :=
  ⟨digestA, digestA, digestA, digestA, by decide⟩

/-- The strategy input of the concrete decision, with an entry deadline two seconds later. -/
def spyInput : StrategyInput where
  eventId := "e1"
  candidateId := "c1"
  cohortId := "h1"
  policySha256 := digestA
  candidateEntryDeadlineAt := .utc (spyClock.micros + 2000000)
  evidencePacketSha256 := digestA
  candidateManifestSha256 := digestA
  snapshotSha256 := digestA
  featureReceiptSha256 := digestA
  accepted := ⟨by decide, by decide⟩

/-- The vertical of the concrete market, compiled at its clock. -/
def spyCompile (fine : Bool) : Except ExpressionRejected CompiledExpression :=
  compileExpression (spyEvent false fine).snapshot (spyPolicy .debitVertical) spyDecision
    (Strategy.strategyDecisionBytes spyDecision)
    (promotedExpressionPolicySha256 (spyPolicy .debitVertical)) digestA spyClock

def spyBuild (compiled : CompiledExpression) : Except PermitError DebitVerticalPermit :=
  buildDebitVerticalPermit compiled spyInput spyDecision spyConstants spyClock
    (.utc (spyClock.micros + 1000000))

theorem exists_spyCompile (fine : Bool) : ∃ compiled, spyCompile fine = .ok compiled ∧
    compiled.expressionKind = .debitVertical ∧
    BridgeBound compiled spyInput spyDecision spyConstants spyClock
      (.utc (spyClock.micros + 1000000)) := by
  have hrow : HasComparedRow (eventEconomics (spyPolicy .debitVertical) (spyEvent false fine))
      .debitVertical := by
    rw [hasComparedRow_iff]
    cases fine <;> decide +kernel
  have hexecutable : Executable (spyEvent false fine).snapshot (spyPolicy .debitVertical) true
      .debitVertical := by
    cases fine <;> decide +kernel
  have hwellFormed := @bindings_wellFormed (spyEvent false fine).snapshot (spyPolicy .debitVertical)
    spyDecision (Strategy.strategyDecisionBytes spyDecision) _ digestA spyClock (by decide) rfl rfl
  obtain ⟨compiled, hcompile⟩ := exists_compileKind_iff (b := ⟨_, _, _, _, _, _, hwellFormed⟩).mpr
    ⟨hasComparedRow_iff_comparable.mp hrow, hexecutable⟩
  refine ⟨compiled, (compileExpression_eq_ok rfl rfl rfl rfl).mpr ⟨by decide, le_rfl, _, hcompile⟩,
    ?_⟩
  obtain ⟨geometry, package, longLeg, shortLeg, -, -, -, -, -, -, -, -, -, -, -, rfl⟩ :=
    compileDebitVertical_eq_ok.mp hcompile
  exact ⟨rfl, {
    accepted := rfl
    lineage := by decide
    issuedUtc := rfl
    expiresUtc := rfl
    ordered := by decide
    afterDecision := le_rfl
    afterCompilation := le_rfl
    beforeDeadline := by decide
    gateDReport := rfl
    decisionBytes := rfl }⟩

theorem mem_of_selectPackage {geometry : VerticalGeometry} {package : PackageObservation}
    (h : selectPackage snapshot geometry = .ok package) : package ∈ snapshot.packages := by
  rw [selectPackage] at h
  split at h
  · cases h
  · rename_i found hfind
    simp only [except_bind_eq_ok, except_pure_eq_ok] at h
    obtain ⟨-, -, rfl⟩ := h
    exact List.mem_of_find?_eq_some hfind

theorem netAsk_spyCompile {fine : Bool} {compiled : CompiledExpression}
    (h : CompiledFrom (spyEvent false fine).snapshot (spyPolicy .debitVertical) true compiled) :
    h.package.netAsk = (spyPackage false fine).netAsk := by
  have hmem : h.package ∈ [spyPackage false fine] := mem_of_selectPackage h.hpackage
  rw [List.mem_singleton.mp hmem]

/-- For 2.50 the compiled vertical is permitted. -/
theorem exists_permit_iff_wholeCents : ∃ compiled, spyCompile false = .ok compiled ∧
    ∃ permit, spyBuild compiled = .ok permit ∧ PermitMatches compiled permit := by
  obtain ⟨compiled, hcompile, hkind, hbound⟩ := exists_spyCompile false
  obtain ⟨h⟩ := exists_compiledFrom hcompile hkind
  have hcents : AtMostCents h.package.netAsk := by
    rw [netAsk_spyCompile h]
    decide
  exact ⟨compiled, hcompile, (exists_permit_iff hcompile hkind hbound).mpr
    ⟨_, ⟨h.geometry, h.package, h.hgeometry, h.hpackage, rfl⟩, hcents⟩⟩

theorem not_permit_tenthsOfCents : ∃ compiled, spyCompile true = .ok compiled ∧
    compiled.expressionKind = .debitVertical ∧
    BridgeBound compiled spyInput spyDecision spyConstants spyClock
      (.utc (spyClock.micros + 1000000)) ∧
    ¬ ∃ permit, spyBuild compiled = .ok permit ∧ PermitMatches compiled permit := by
  obtain ⟨compiled, hcompile, hkind, hbound⟩ := exists_spyCompile true
  obtain ⟨h⟩ := exists_compiledFrom hcompile hkind
  refine ⟨compiled, hcompile, hkind, hbound, ?_⟩
  rintro ⟨permit, -, hmatch⟩
  have hcents := atMostCents_of_permit h hmatch
  rw [netAsk_spyCompile h] at hcents
  exact absurd hcents (by decide)

end EsscherMarket.Execution
