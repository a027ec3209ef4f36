import EsscherMarket.Lib.IsoFormat
import EsscherMarket.Lib.Json
import EsscherMarket.Lib.Txn

/-!
# Option legs and the debit-vertical permit

`execution/models.py`.  A leg and a permit carry the proof that their `__post_init__` accepted
them, so that an ill-formed one cannot be built; in particular a permit is for exactly one spread
package (`DebitVerticalPermit.quantity_eq_one`).
-/

namespace EsscherMarket.Execution

open Lib

inductive VerticalType where
  | bullCall
  | bearPut
  deriving DecidableEq, Repr

def VerticalType.value : VerticalType → String
  | bullCall => "BULL_CALL"
  | bearPut => "BEAR_PUT"

inductive OptionType where
  | call
  | put
  deriving DecidableEq, Repr

def OptionType.value : OptionType → String
  | call => "CALL"
  | put => "PUT"

inductive OptionSide where
  | buy
  | sell
  deriving DecidableEq, Repr

def OptionSide.value : OptionSide → String
  | buy => "buy"
  | sell => "sell"

inductive PositionIntent where
  | buyToOpen
  | buyToClose
  | sellToOpen
  | sellToClose
  deriving DecidableEq, Repr

def PositionIntent.value : PositionIntent → String
  | buyToOpen => "buy_to_open"
  | buyToClose => "buy_to_close"
  | sellToOpen => "sell_to_open"
  | sellToClose => "sell_to_close"

/-! ### Option legs -/

/-- The parts of a compact OCC symbol: root, expiry, right and strike. -/
structure OccParts where
  root : String
  expiry : Date
  optionType : OptionType
  strike : ℚ

/-- Match the compact OCC format `^[A-Z]{1,6}\d{6}[CP]\d{8}$` and read its parts; the expiry must
be a calendar date. -/
def parseOcc (symbol : String) : Option OccParts :=
  let cs := symbol.toList
  let n := cs.length - 15
  let root := cs.take n
  let date := (cs.drop n).take 6
  let right := (cs.drop (n + 6)).take 1
  let strike := cs.drop (n + 7)
  let expiry : Date := ⟨2000 + digitsValue (date.take 2), digitsValue ((date.drop 2).take 2),
    digitsValue (date.drop 4)⟩
  if 16 ≤ cs.length ∧ n ≤ 6 ∧ root.all (fun c => 'A' ≤ c && c ≤ 'Z') ∧ date.all Char.isDigit ∧
      (right = ['C'] ∨ right = ['P']) ∧ strike.all Char.isDigit ∧ expiry.isCalendar then
    some ⟨String.ofList root, expiry, if right = ['C'] then .call else .put,
      mkRat (digitsValue strike) 1000⟩
  else none

/-- The fields of one option contract and its intended opening action. -/
structure OptionLegFields where
  symbol : String
  underlying : String
  expiry : Date
  optionType : OptionType
  strike : Decimal
  side : OptionSide
  positionIntent : PositionIntent
  ratioQty : Int
  deriving DecidableEq

/-- `OptionLeg.__post_init__`. -/
def OptionLegFields.check (leg : OptionLegFields) : Bool :=
  leg.symbol == strip leg.symbol && isUpper leg.symbol &&
  leg.underlying == strip leg.underlying && isUpper leg.underlying &&
  leg.ratioQty == 1 && leg.strike.isFinite && decide (0 < leg.strike.toRat) &&
  match parseOcc leg.symbol with
  | none => false
  | some parts => parts.root == leg.underlying && parts.expiry == leg.expiry &&
      parts.optionType == leg.optionType && parts.strike == leg.strike.toRat

/-- One standard OCC option contract and its intended opening action. -/
structure OptionLeg extends OptionLegFields where
  accepted : toOptionLegFields.check = true

theorem expiry_of_parseOcc {symbol : String} {parts : OccParts} (h : parseOcc symbol = some parts) :
    (1 ≤ parts.expiry.year ∧ parts.expiry.year ≤ 9999) ∧ parts.expiry.isCalendar = true := by
  unfold parseOcc at h
  dsimp only at h
  split at h
  · rename_i hmatch
    obtain ⟨-, -, -, hdigits, -, -, hcalendar⟩ := hmatch
    cases h
    generalize (symbol.toList.drop (symbol.toList.length - 15)).take 6 = date at hdigits hcalendar ⊢
    rw [List.all_eq_true] at hdigits
    have hlt := @digitsValue_lt (date.take 2) fun c hc => hdigits c (List.mem_of_mem_take hc)
    have hpow : 10 ^ (date.take 2).length ≤ 10 ^ 2 :=
      Nat.pow_le_pow_right (by decide) (List.length_take_le 2 date)
    refine ⟨?_, hcalendar⟩
    dsimp only
    omega
  · cases h

theorem OptionLeg.expiry_spec (leg : OptionLeg) :
    (1 ≤ leg.expiry.year ∧ leg.expiry.year ≤ 9999) ∧ leg.expiry.isCalendar = true := by
  have h := leg.accepted
  simp only [OptionLegFields.check, Bool.and_eq_true] at h
  have hparts := h.2
  split at hparts
  · cases hparts
  · rename_i parts hparse
    simp only [Bool.and_eq_true, beq_iff_eq] at hparts
    rw [← hparts.1.1.2]
    exact expiry_of_parseOcc hparse

theorem strike_of_parseOcc {symbol : String} {parts : OccParts} (h : parseOcc symbol = some parts) :
    ∃ k : Nat, k < 10 ^ 8 ∧ parts.strike = k / 1000 := by
  unfold parseOcc at h
  dsimp only at h
  split at h
  · rename_i hmatch
    obtain ⟨hlen, -, -, -, -, hdigits, -⟩ := hmatch
    cases h
    have hcount : (symbol.toList.drop (symbol.toList.length - 15 + 7)).length = 8 := by
      rw [List.length_drop]
      omega
    generalize symbol.toList.drop (symbol.toList.length - 15 + 7) = strike at hdigits hcount ⊢
    rw [List.all_eq_true] at hdigits
    have hlt := @digitsValue_lt strike hdigits
    rw [hcount] at hlt
    exact ⟨digitsValue strike, hlt, by simp [Rat.mkRat_eq_div]⟩
  · cases h

/-- A strike is a number of tenths of a cent with at most eight digits. -/
theorem OptionLeg.strike_spec (leg : OptionLeg) :
    ∃ k : Nat, k < 10 ^ 8 ∧ leg.strike.toRat = k / 1000 := by
  have h := leg.accepted
  simp only [OptionLegFields.check, Bool.and_eq_true] at h
  have hparts := h.2
  split at hparts
  · cases hparts
  · rename_i parts hparse
    simp only [Bool.and_eq_true, beq_iff_eq] at hparts
    rw [← hparts.2]
    exact strike_of_parseOcc hparse

/-! ### The opening permit -/

/-- The fields of a debit-vertical permit.  `run_mode` is always `PAPER` and `data_class` always
`INDICATIVE_DATA`: each has one value. -/
structure DebitVerticalPermitFields where
  permitId : String
  eventRunId : String
  policySha256 : String
  snapshotSha256 : String
  decisionSha256 : String
  evidenceSha256 : String
  protocolSha256 : String
  executionProtocolSha256 : String
  issuedAt : DateTime
  expiresAt : DateTime
  verticalType : VerticalType
  quantity : Int
  limitPrice : Decimal
  longLeg : OptionLeg
  shortLeg : OptionLeg

/-- `_require_money`: finite, positive and with at most two decimal places. -/
def requireMoney : Decimal → Bool
  | .finite negative c e => !negative && c != 0 && decide (-2 ≤ e)
  | _ => false

namespace DebitVerticalPermitFields

/-- The side conditions between the two legs and the vertical type. -/
def checkLegs (p : DebitVerticalPermitFields) : Bool :=
  p.longLeg.side == .buy && p.shortLeg.side == .sell &&
  p.longLeg.positionIntent == .buyToOpen && p.shortLeg.positionIntent == .sellToOpen &&
  p.longLeg.underlying == p.shortLeg.underlying && p.longLeg.expiry == p.shortLeg.expiry &&
  p.longLeg.optionType == p.shortLeg.optionType &&
  match p.verticalType with
  | .bullCall => p.longLeg.optionType == .call &&
      decide (p.longLeg.strike.toRat < p.shortLeg.strike.toRat)
  | .bearPut => p.longLeg.optionType == .put &&
      decide (p.shortLeg.strike.toRat < p.longLeg.strike.toRat)

/-- The checks of `DebitVerticalPermit.__post_init__` on everything but the identity. -/
def checkTerms (p : DebitVerticalPermitFields) : Bool :=
  strip p.eventRunId != "" &&
  isLowerHex 64 p.policySha256 && isLowerHex 64 p.snapshotSha256 &&
  isLowerHex 64 p.decisionSha256 && isLowerHex 64 p.evidenceSha256 &&
  isLowerHex 64 p.protocolSha256 && isLowerHex 64 p.executionProtocolSha256 &&
  p.issuedAt.isAware && p.expiresAt.isAware && decide (p.issuedAt.micros < p.expiresAt.micros) &&
  p.quantity == 1 && requireMoney p.limitPrice && p.checkLegs &&
  decide (p.limitPrice.toRat < |p.shortLeg.strike.toRat - p.longLeg.strike.toRat|)

/-- `DebitVerticalPermit.__post_init__`. -/
def check (p : DebitVerticalPermitFields) : Bool := strip p.permitId != "" && p.checkTerms

end DebitVerticalPermitFields

/-- A short-lived capability authorizing one exact paper opening attempt. -/
structure DebitVerticalPermit extends DebitVerticalPermitFields where
  accepted : toDebitVerticalPermitFields.check = true

namespace DebitVerticalPermit

def underlying (p : DebitVerticalPermit) : String := p.longLeg.underlying

/-- Maximum opening debit in paper-account dollars. -/
def maximumLoss (p : DebitVerticalPermit) : Decimal := p.limitPrice.mul (.ofNat 100)

/-- A permit is for exactly one spread package. -/
theorem quantity_eq_one (p : DebitVerticalPermit) : p.quantity = 1 := by
  have h := p.accepted
  simp only [DebitVerticalPermitFields.check, DebitVerticalPermitFields.checkTerms,
    Bool.and_eq_true, beq_iff_eq] at h
  obtain ⟨-, ⟨⟨⟨-, hquantity⟩, -⟩, -⟩, -⟩ := h
  exact hquantity

theorem sides (p : DebitVerticalPermit) :
    p.longLeg.side = .buy ∧ p.longLeg.positionIntent = .buyToOpen ∧
      p.shortLeg.side = .sell ∧ p.shortLeg.positionIntent = .sellToOpen := by
  have h := p.accepted
  simp only [DebitVerticalPermitFields.check, DebitVerticalPermitFields.checkTerms,
    DebitVerticalPermitFields.checkLegs, Bool.and_eq_true, beq_iff_eq] at h
  obtain ⟨⟨⟨⟨⟨⟨⟨hlong, hshort⟩, hopen⟩, hwritten⟩, -⟩, -⟩, -⟩, -⟩ := h.2.1.2
  exact ⟨hlong, hopen, hshort, hwritten⟩

theorem strike_ne (p : DebitVerticalPermit) :
    p.longLeg.strike.toRat ≠ p.shortLeg.strike.toRat := by
  have h := p.accepted
  simp only [DebitVerticalPermitFields.check, DebitVerticalPermitFields.checkTerms,
    DebitVerticalPermitFields.checkLegs, Bool.and_eq_true] at h
  have hstrikes := h.2.1.2.2
  split at hstrikes
  · simp only [Bool.and_eq_true, decide_eq_true_eq] at hstrikes
    exact ne_of_lt hstrikes.2
  · simp only [Bool.and_eq_true, decide_eq_true_eq] at hstrikes
    exact ne_of_gt hstrikes.2

/-- The two legs are two contracts: the symbol of a leg holds its strike. -/
theorem symbol_ne (p : DebitVerticalPermit) : p.longLeg.symbol ≠ p.shortLeg.symbol := by
  intro heq
  have hstrike : ∀ leg : OptionLeg, (parseOcc leg.symbol).map (·.strike) = some leg.strike.toRat := by
    intro leg
    have h := leg.accepted
    simp only [OptionLegFields.check, Bool.and_eq_true] at h
    have hparts := h.2
    split at hparts
    · cases hparts
    · rename_i parts hparse
      simp only [Bool.and_eq_true, beq_iff_eq] at hparts
      rw [hparse, Option.map_some, hparts.2]
  have hlong := hstrike p.longLeg
  rw [heq, hstrike p.shortLeg] at hlong
  exact p.strike_ne (Option.some.inj hlong).symm

theorem isFinite_limitPrice (p : DebitVerticalPermit) : p.limitPrice.isFinite = true := by
  have h := p.accepted
  simp only [DebitVerticalPermitFields.check, DebitVerticalPermitFields.checkTerms,
    Bool.and_eq_true] at h
  have hmoney := h.2.1.1.2
  cases hprice : p.limitPrice with
  | finite n c e => rfl
  | _ => simp [hprice, requireMoney] at hmoney

theorem isLowerHex_digests (p : DebitVerticalPermit) :
    isLowerHex 64 p.policySha256 = true ∧ isLowerHex 64 p.snapshotSha256 = true := by
  have h := p.accepted
  simp only [DebitVerticalPermitFields.check, DebitVerticalPermitFields.checkTerms,
    Bool.and_eq_true] at h
  obtain ⟨⟨⟨⟨⟨⟨⟨⟨⟨⟨⟨⟨⟨-, hpolicy⟩, hsnapshot⟩, -⟩, -⟩, -⟩, -⟩, -⟩, -⟩, -⟩, -⟩, -⟩, -⟩, -⟩ := h.2
  exact ⟨hpolicy, hsnapshot⟩

theorem isLowerHex_decisionSha256 (p : DebitVerticalPermit) :
    isLowerHex 64 p.decisionSha256 = true := by
  have h := p.accepted
  simp only [DebitVerticalPermitFields.check, DebitVerticalPermitFields.checkTerms,
    Bool.and_eq_true] at h
  obtain ⟨⟨⟨⟨⟨⟨⟨⟨⟨⟨⟨-, hdecision⟩, -⟩, -⟩, -⟩, -⟩, -⟩, -⟩, -⟩, -⟩, -⟩, -⟩ := h.2
  exact hdecision

end DebitVerticalPermit

/-! ### Serialization -/

def optionLegPayload (leg : OptionLeg) : Json :=
  .obj [
    ("symbol", .str leg.symbol),
    ("underlying", .str leg.underlying),
    ("expiry", .str leg.expiry.isoformat),
    ("option_type", .str leg.optionType.value),
    ("strike", .str leg.strike.plainText),
    ("side", .str leg.side.value),
    ("position_intent", .str leg.positionIntent.value),
    ("ratio_qty", .int leg.ratioQty)]

/-- Every immutable permit term except its self-derived identity. -/
def authorizationFields (p : DebitVerticalPermitFields) : List (String × Json) :=
  [("schema", .str "ringdown.paper_execution_permit"),
   ("schema_version", .int 1),
   ("event_run_id", .str p.eventRunId),
   ("decision_sha256", .str p.decisionSha256),
   ("evidence_sha256", .str p.evidenceSha256),
   ("input_snapshot_sha256", .str p.snapshotSha256),
   ("protocol_sha256", .str p.protocolSha256),
   ("execution_protocol_sha256", .str p.executionProtocolSha256),
   ("policy_sha256", .str p.policySha256),
   ("issued_at", .str p.issuedAt.isoformat),
   ("expires_at", .str p.expiresAt.isoformat),
   ("vertical_type", .str p.verticalType.value),
   ("quantity", .int p.quantity),
   ("limit_price", .str p.limitPrice.plainText),
   ("run_mode", .str "PAPER"),
   ("data_class", .str "INDICATIVE_DATA"),
   ("legs", .arr [optionLegPayload p.longLeg, optionLegPayload p.shortLeg])]

/-- The single versioned serialization schema for an opening permit. -/
def debitVerticalPermitPayload (p : DebitVerticalPermitFields) : Json :=
  .obj (("permit_id", .str p.permitId) :: authorizationFields p)

def debitVerticalPermitSha256 (p : DebitVerticalPermit) : String :=
  (debitVerticalPermitPayload p.toDebitVerticalPermitFields).sha256

/-- The registered opening-permit identity of its immutable authorization bytes. -/
def paperExecutionPermitId (authorizationSha256 : String) : String :=
  let identity := Json.obj [
    ("schema", .str "ringdown.paper_execution_permit_identity"),
    ("schema_version", .int 1),
    ("authorization_sha256", .str authorizationSha256)]
  "rd-permit-" ++ String.ofList (identity.sha256.toList.take 32)

/-- The registered identity that binds lineage, timing, risk, and instrument terms. -/
def debitVerticalPermitId (p : DebitVerticalPermitFields) : String :=
  paperExecutionPermitId (Json.obj (authorizationFields p)).sha256

/-- A derived identity is not blank. -/
theorem strip_paperExecutionPermitId (digest : String) :
    (strip (paperExecutionPermitId digest) != "") = true := by
  rw [bne_iff_ne, paperExecutionPermitId]
  apply strip_ne_empty_of_mem (c := 'r')
  · rw [String.toList_append]
    exact List.mem_append_left _ (by decide)
  · decide

theorem isExactText_paperExecutionPermitId (digest : String) :
    isExactText (paperExecutionPermitId digest) = true :=
  Json.isExactText_tagged (c := 'r') (l := "d-permit-".toList) (by decide) (by decide) _ 31

/-- The permit with these terms and its self-derived identity. -/
def DebitVerticalPermit.ofTerms (p : DebitVerticalPermitFields) (h : p.checkTerms = true) :
    DebitVerticalPermit where
  toDebitVerticalPermitFields := { p with permitId := debitVerticalPermitId p }
  accepted := by
    simp only [DebitVerticalPermitFields.check, Bool.and_eq_true]
    exact ⟨strip_paperExecutionPermitId _, h⟩

/-! ### The closing permit -/

/-- The fields of a closing permit; `run_mode` and `data_class` have one value each. -/
structure ClosePermitFields where
  permitId : String
  openPermitId : String
  eventRunId : String
  policySha256 : String
  snapshotSha256 : String
  issuedAt : DateTime
  expiresAt : DateTime
  limitPrice : Decimal
  deriving DecidableEq

def atMostCents : Decimal → Bool
  | .finite _ _ e => decide (-2 ≤ e)
  | _ => false

/-- `ClosePermit.__post_init__`. -/
def ClosePermitFields.validate (p : ClosePermitFields) : Except String Unit := do
  throwIf (strip p.permitId = "" ∨ strip p.openPermitId = "" ∨ strip p.eventRunId = "")
    "permit_id, open_permit_id, and event_run_id must be non-empty"
  throwIf (¬ isLowerHex 64 p.policySha256) "policy_sha256 must be a lowercase SHA-256 digest"
  throwIf (¬ isLowerHex 64 p.snapshotSha256) "snapshot_sha256 must be a lowercase SHA-256 digest"
  throwIf (¬ p.issuedAt.isAware) "issued_at must be timezone-aware"
  throwIf (¬ p.expiresAt.isAware) "expires_at must be timezone-aware"
  throwIf (p.expiresAt.micros ≤ p.issuedAt.micros) "expires_at must be after issued_at"
  throwIf (¬ p.limitPrice.isFinite ∨ 0 ≤ p.limitPrice.toRat)
    "close limit_price must be a finite negative credit"
  throwIf (¬ atMostCents p.limitPrice) "limit_price cannot use more than two decimal places"

/-- A short-lived capability authorizing one atomic paper close attempt. -/
structure ClosePermit extends ClosePermitFields where
  accepted : toClosePermitFields.validate = .ok ()

theorem ClosePermit.isFinite_limitPrice (c : ClosePermit) : c.limitPrice.isFinite = true := by
  have h := c.accepted
  simp only [ClosePermitFields.validate, except_bind_eq_ok, throwIf_eq_ok] at h
  obtain ⟨_, -, _, -, _, -, _, -, _, -, _, -, _, hprice, -⟩ := h
  push Not at hprice
  exact hprice.1

/-! ### A concrete spread

One SPY 500/505 bull call spread at a debit of 2.50, for the concrete runs of later modules. -/

def digestA : String := "aaaaaaaaaaaaaaaaaaaaaaaaaaaaaaaaaaaaaaaaaaaaaaaaaaaaaaaaaaaaaaaa"

def spyLeg (symbol : String) (strike : Nat) (side : OptionSide) (intent : PositionIntent) :
    OptionLegFields :=
  ⟨symbol, "SPY", ⟨2026, 9, 18⟩, .call, .ofNat strike, side, intent, 1⟩

def spyTerms (eventRunId policySha256 : String) : DebitVerticalPermitFields where
  permitId := ""
  eventRunId := eventRunId
  policySha256 := policySha256
  snapshotSha256 := digestA
  decisionSha256 := digestA
  evidenceSha256 := digestA
  protocolSha256 := digestA
  executionProtocolSha256 := digestA
  issuedAt := .utc 1000
  expiresAt := .utc 2000
  verticalType := .bullCall
  quantity := 1
  limitPrice := .cents 250
  longLeg := ⟨spyLeg "SPY260918C00500000" 500 .buy .buyToOpen, by decide +kernel⟩
  shortLeg := ⟨spyLeg "SPY260918C00505000" 505 .sell .sellToOpen, by decide +kernel⟩

theorem isLowerHex_digestA : isLowerHex 64 digestA = true := by decide

theorem checkLegs_spyTerms : (spyTerms "" "").checkLegs = true := by
  have hstrikes : (Decimal.ofNat 500).toRat < (Decimal.ofNat 505).toRat := by norm_num
  rw [DebitVerticalPermitFields.checkLegs]
  exact Bool.and_eq_true_iff.mpr ⟨rfl, Bool.and_eq_true_iff.mpr ⟨rfl, decide_eq_true hstrikes⟩⟩

theorem limit_lt_width_spyTerms : (Decimal.cents 250).toRat <
    |(Decimal.ofNat 505).toRat - (Decimal.ofNat 500).toRat| := by
  norm_num [Decimal.toRat_cents]

theorem spyTerms_checkTerms {eventRunId policySha256 : String}
    (he : (strip eventRunId != "") = true) (hp : isLowerHex 64 policySha256 = true) :
    (spyTerms eventRunId policySha256).checkTerms = true := by
  have htime : (DateTime.utc 1000).micros < (DateTime.utc 2000).micros := by decide
  simp only [DebitVerticalPermitFields.checkTerms, Bool.and_eq_true, decide_eq_true_eq]
  exact ⟨⟨⟨⟨⟨⟨⟨⟨⟨⟨⟨⟨⟨he, hp⟩, isLowerHex_digestA⟩, isLowerHex_digestA⟩, isLowerHex_digestA⟩,
    isLowerHex_digestA⟩, isLowerHex_digestA⟩, rfl⟩, rfl⟩, htime⟩, rfl⟩, rfl⟩,
    checkLegs_spyTerms⟩, limit_lt_width_spyTerms⟩

def spyPermit (eventRunId policySha256 : String) (he : (strip eventRunId != "") = true)
    (hp : isLowerHex 64 policySha256 = true) : DebitVerticalPermit :=
  .ofTerms (spyTerms eventRunId policySha256) (spyTerms_checkTerms he hp)

theorem strip_e1 : (strip "e1" != "") = true := by decide

end EsscherMarket.Execution
