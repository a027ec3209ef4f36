import EsscherMarket.Lib.IsoFormat
import EsscherMarket.Lib.PyJson

/-!
# The security lineage

`contracts/security_lineage.py`: issuers, securities, listings, corporate actions and event chains,
their parser and its cross checks, and the resolution of one event chain.

A date is a day number and a timestamp is its microsecond.  A fault in the shape of a document is
one reason here, `malformedValue`; the reasons of the cross checks are kept.
-/

namespace EsscherMarket.Contracts

open Lib

/-- The fail-closed reasons of the lineage contract. -/
inductive LineageReason where
  | malformedValue
  | unsupportedSchema
  | duplicateField
  | referentialIntegrity
  | lineageMissing
  | lineageConflict
  | symbolReuseDetected
  | optionAdjustmentConflict
  | optionAdjustmentUnresolved
  | upstreamContractDrift
  | digestMismatch
  deriving DecidableEq, Repr

/-! ### Records -/

structure Provenance where
  sourceClass : String
  recordId : PyText
  retrievedAt : Int
  contentSha256 : Option String
  deriving DecidableEq

structure IssuerName where
  name : PyText
  effectiveFrom : Int
  provenance : Provenance
  deriving DecidableEq

/-- A ticker of an issuer; its validity does not end before it starts. -/
structure IssuerTicker where
  ticker : String
  securityId : String
  validFrom : Int
  validTo : Option Int
  provenance : Provenance
  ordered : ∀ t, validTo = some t → validFrom ≤ t
  deriving DecidableEq

structure IssuerIdentity where
  issuerId : String
  names : List IssuerName
  tickers : List IssuerTicker
  deriving DecidableEq

structure SecurityIdentity where
  securityId : String
  issuerId : String
  securityType : PyText
  provenance : Provenance
  deriving DecidableEq

/-- A listing of a security; it does not terminate before it starts. -/
structure ListingRecord where
  listingId : String
  securityId : String
  exchangeMic : String
  listedFrom : Int
  listedTo : Option Int
  delistingReason : Option PyText
  provenance : Provenance
  ordered : ∀ t, listedTo = some t → listedFrom < t
  deriving DecidableEq

def ListingRecord.activeOn (l : ListingRecord) (asof : Int) : Bool :=
  decide (l.listedFrom ≤ asof) && l.listedTo.all fun t => decide (asof < t)

inductive ActionType where
  | split
  | cashDividend
  | symbolChange
  | merger
  | spinoff
  | optionAdjustment
  deriving DecidableEq, Repr

def ActionType.value : ActionType → String
  | split => "SPLIT"
  | cashDividend => "CASH_DIVIDEND"
  | symbolChange => "SYMBOL_CHANGE"
  | merger => "MERGER"
  | spinoff => "SPINOFF"
  | optionAdjustment => "OPTION_ADJUSTMENT"

structure ActionRecord where
  actionId : String
  issuerId : String
  actionType : ActionType
  exDate : Int
  ratioNumerator : Option Int
  ratioDenominator : Option Int
  symbolFrom : Option String
  symbolTo : Option String
  successorIssuerId : Option String
  memoId : Option PyText
  provenance : Provenance
  deriving DecidableEq

structure LineageChain where
  eventId : String
  issuerId : String
  securityId : String
  listingId : String
  tickerAtCutoff : String
  listedOptionExists : Bool
  asof : Int
  provenanceLinks : List Provenance
  deriving DecidableEq

/-- `chain.asof.date()`. -/
def LineageChain.cutoffDate (chain : LineageChain) : Int := chain.asof / DateTime.microsPerDay

structure LineageFields where
  lineageVersion : PyText
  decidedAt : Int
  policySha256 : String
  sourceMatrixSha256 : String
  issuers : List IssuerIdentity
  securities : List SecurityIdentity
  listings : List ListingRecord
  actions : List ActionRecord
  chains : List LineageChain
  deriving DecidableEq

structure SecurityLineage extends LineageFields where
  sha256 : String

/-! ### Values of a document -/

/-- `_text`: a text that is not blank. -/
def text : PyJson → Option PyText
  | .str t => if t.any fun code => !isSpace (Char.ofNat code) then some t else none
  | _ => none

def nullable {α : Type} (reader : PyJson → Option α) : PyJson → Option (Option α)
  | .null => some none
  | v => (reader v).map some

def matching (p : List Char → Bool) (v : PyJson) : Option String := do
  let s ← (← text v).toString?
  if p s.toList then some s else none

def sha256Text : PyJson → Option String := matching fun cs => isLowerHex 64 (String.ofList cs)

def cik : PyJson → Option String :=
  matching fun cs => decide (cs.length = 10) && cs.all Char.isDigit

/-- A text with its own first character and a bounded number of others. -/
def pattern (first further : Char → Bool) (least most : Nat) : List Char → Bool
  | [] => false
  | c :: rest => first c && rest.all further && decide (least ≤ rest.length ∧ rest.length ≤ most)

def ticker : PyJson → Option String :=
  matching (pattern Char.isUpper (fun c => c.isUpper || c.isDigit || c == '.') 0 9)

def identifier : PyJson → Option String :=
  matching (pattern (fun c => c.isUpper || c.isDigit)
    (fun c => c.isUpper || c.isDigit || "_.:-".toList.contains c) 2 63)

def mic : PyJson → Option String := matching (pattern Char.isUpper Char.isUpper 3 3)

def calendarDate (v : PyJson) : Option Int := do
  let date ← Date.fromIsoformat (← (← text v).toString?)
  return DateTime.civilDay date.year date.month date.day

def readFraction (cs : List Char) : Option (Nat × List Char) :=
  match cs with
  | '.' :: rest =>
    let digits := rest.takeWhile Char.isDigit
    if digits.isEmpty ∨ 6 < digits.length then none
    else some (digitsValue digits * 10 ^ (6 - digits.length), rest.drop digits.length)
  | cs => some (0, cs)

/-- `_timestamp`: an instant with an explicit UTC offset. -/
def timestamp (v : PyJson) : Option Int := do
  let ((year, month, day), cs) ← readDate (← (← text v).toString?).toList
  let cs ← readChar 'T' cs
  let ((hour, minute, second), cs) ← readClock cs
  let (micro, cs) ← readFraction cs
  let number := DateTime.civilDay year month day
  if (cs = ['Z'] ∨ cs = "+00:00".toList) ∧ 1 ≤ year ∧ (⟨year, month, day⟩ : Date).isCalendar = true ∧
      hour < 24 ∧ minute < 60 ∧ second < 60 then
    return number * DateTime.microsPerDay +
      (hour * 3600 + minute * 60 + second : Nat) * DateTime.microsPerSecond + micro
  else none

def positiveInt : PyJson → Option Int
  | .int n => if 0 < n then some n else none
  | _ => none

def boolean : PyJson → Option Bool
  | .bool b => some b
  | _ => none

def itemsOf {α : Type} (reader : PyJson → Option α) : PyJson → Option (List α)
  | .arr items => items.mapM reader
  | _ => none

def someItems {α : Type} (reader : PyJson → Option α) (v : PyJson) : Option (List α) :=
  (itemsOf reader v).filter fun items => !items.isEmpty

def strictObject (fields : List String) (v : PyJson) : Option Unit :=
  if v.hasKeys fields then some () else none

/-! ### The parts of a document -/

def provenanceSourceClasses : List String :=
  ["SEC_EDGAR", "OCC_INFO_MEMO", "EXCHANGE_OFFICIAL_RECORD", "SYNTHETIC_FIXTURE"]

def parseProvenance (v : PyJson) : Option Provenance := do
  strictObject ["source_class", "record_id", "retrieved_at", "content_sha256"] v
  let sourceClass ← matching (fun cs => provenanceSourceClasses.contains (String.ofList cs))
    (v.get "source_class")
  let recordId ← text (v.get "record_id")
  let retrievedAt ← timestamp (v.get "retrieved_at")
  let contentSha256 ← nullable sha256Text (v.get "content_sha256")
  return { sourceClass, recordId, retrievedAt, contentSha256 }

def parseIssuerName (v : PyJson) : Option IssuerName := do
  strictObject ["name", "effective_from", "provenance"] v
  let name ← text (v.get "name")
  let effectiveFrom ← timestamp (v.get "effective_from")
  let provenance ← parseProvenance (v.get "provenance")
  return { name, effectiveFrom, provenance }

def parseIssuerTicker (v : PyJson) : Option IssuerTicker := do
  strictObject ["ticker", "security_id", "valid_from", "valid_to", "provenance"] v
  let validFrom ← calendarDate (v.get "valid_from")
  let validTo ← nullable calendarDate (v.get "valid_to")
  let ticker ← ticker (v.get "ticker")
  let securityId ← identifier (v.get "security_id")
  let provenance ← parseProvenance (v.get "provenance")
  if h : validTo.all (fun t => decide (validFrom ≤ t)) = true then
    return { ticker, securityId, validFrom, validTo, provenance
             ordered := fun t ht => by rw [ht] at h; simpa using h }
  else none

def parseIssuer (v : PyJson) : Option IssuerIdentity := do
  strictObject ["issuer_id", "names", "tickers"] v
  let issuerId ← cik (v.get "issuer_id")
  let names ← someItems parseIssuerName (v.get "names")
  let tickers ← someItems parseIssuerTicker (v.get "tickers")
  return { issuerId, names, tickers }

def parseSecurity (v : PyJson) : Option SecurityIdentity := do
  strictObject ["security_id", "issuer_id", "security_type", "provenance"] v
  let securityId ← identifier (v.get "security_id")
  let issuerId ← cik (v.get "issuer_id")
  let securityType ← text (v.get "security_type")
  let provenance ← parseProvenance (v.get "provenance")
  return { securityId, issuerId, securityType, provenance }

/-- `_parse_listing`: a terminated listing, and no other, has a reason. -/
def parseListing (v : PyJson) : Option ListingRecord := do
  strictObject ["listing_id", "security_id", "exchange_mic", "listed_from", "listed_to",
    "delisting_reason", "provenance"] v
  let exchangeMic ← mic (v.get "exchange_mic")
  let listedFrom ← calendarDate (v.get "listed_from")
  let listedTo ← nullable calendarDate (v.get "listed_to")
  let delistingReason ← nullable text (v.get "delisting_reason")
  let listingId ← identifier (v.get "listing_id")
  let securityId ← identifier (v.get "security_id")
  let provenance ← parseProvenance (v.get "provenance")
  if listedTo.isSome ≠ delistingReason.isSome then none
  else if h : listedTo.all (fun t => decide (listedFrom < t)) = true then
    return { listingId, securityId, exchangeMic, listedFrom, listedTo, delistingReason, provenance
             ordered := fun t ht => by rw [ht] at h; simpa using h }
  else none

def actionType (v : PyJson) : Option ActionType :=
  [ActionType.split, .cashDividend, .symbolChange, .merger, .spinoff, .optionAdjustment].find?
    fun t => v.isText t.value

/-- `_parse_action`: each type carries its own terms and no others. -/
def parseAction (v : PyJson) : Option ActionRecord := do
  strictObject ["action_id", "issuer_id", "action_type", "ex_date", "ratio_numerator",
    "ratio_denominator", "symbol_from", "symbol_to", "successor_issuer_id", "memo_id",
    "provenance"] v
  let actionType ← actionType (v.get "action_type")
  let ratioNumerator ← nullable positiveInt (v.get "ratio_numerator")
  let ratioDenominator ← nullable positiveInt (v.get "ratio_denominator")
  let symbolFrom ← nullable ticker (v.get "symbol_from")
  let symbolTo ← nullable ticker (v.get "symbol_to")
  let successorIssuerId ← nullable cik (v.get "successor_issuer_id")
  let memoId ← nullable text (v.get "memo_id")
  let actionId ← identifier (v.get "action_id")
  let issuerId ← cik (v.get "issuer_id")
  let exDate ← calendarDate (v.get "ex_date")
  let provenance ← parseProvenance (v.get "provenance")
  let isSplit := actionType == .split
  let isChange := actionType == .symbolChange
  if ratioNumerator.isSome = isSplit ∧ ratioDenominator.isSome = isSplit ∧
      symbolFrom.isSome = isChange ∧ symbolTo.isSome = isChange ∧
      successorIssuerId.isSome = (actionType == .merger || actionType == .spinoff) ∧
      (actionType = .optionAdjustment → memoId.isSome = true) then
    return { actionId, issuerId, actionType, exDate, ratioNumerator, ratioDenominator, symbolFrom,
             symbolTo, successorIssuerId, memoId, provenance }
  else none

def parseChain (v : PyJson) : Option LineageChain := do
  strictObject ["event_id", "issuer_id", "security_id", "listing_id", "ticker_at_cutoff",
    "listed_option_exists", "asof", "provenance_links"] v
  let listedOptionExists ← boolean (v.get "listed_option_exists")
  let eventId ← identifier (v.get "event_id")
  let issuerId ← cik (v.get "issuer_id")
  let securityId ← identifier (v.get "security_id")
  let listingId ← identifier (v.get "listing_id")
  let tickerAtCutoff ← ticker (v.get "ticker_at_cutoff")
  let asof ← timestamp (v.get "asof")
  let provenanceLinks ← someItems parseProvenance (v.get "provenance_links")
  return { eventId, issuerId, securityId, listingId, tickerAtCutoff, listedOptionExists, asof,
           provenanceLinks }

/-- `_parse_adjustment_policy`, which takes one value. -/
def checkAdjustmentPolicy (v : PyJson) : Option Unit := do
  strictObject ["price_adjusting_actions", "record_only_actions", "option_adjustment_authority",
    "cross_series_rule"] v
  let single (key item : String) : Bool :=
    match v.get key with
    | .arr [action] => action.isText item
    | _ => false
  if single "price_adjusting_actions" "SPLIT" && single "record_only_actions" "CASH_DIVIDEND" &&
      (v.get "option_adjustment_authority").isText "OCC_INFO_MEMO" &&
      (v.get "cross_series_rule").isText "ISSUER_ACTIONS_NEVER_ADJUST_MARKET_OR_SECTOR_SERIES" then
    some ()
  else none

/-! ### Cross checks -/

/-- A listing does not follow another one before it comes in the order of the periods. -/
def listedBefore (a b : ListingRecord) : Bool :=
  decide (a.listedFrom < b.listedFrom ∨ a.listedFrom = b.listedFrom ∧ a.exchangeMic ≤ b.exchangeMic)

/-- A listing does not end before the next one starts. -/
def overlapping : List ListingRecord → Bool
  | current :: following :: rest =>
    !(current.listedTo.any fun t => decide (t ≤ following.listedFrom)) ||
      overlapping (following :: rest)
  | _ => false

def validateListingPeriods (listings : List ListingRecord) : Except LineageReason Unit :=
  throwIf ((listings.map (·.securityId)).any fun id =>
    overlapping ((listings.filter fun l => l.securityId == id).mergeSort listedBefore))
    .lineageConflict

def actionKeys (type : ActionType) (actions : List ActionRecord) : List (String × Int) :=
  (actions.filter fun a => a.actionType == type).map fun a => (a.issuerId, a.exDate)

def validateActionConsistency (actions : List ActionRecord) : Except LineageReason Unit := do
  throwIf (¬(actionKeys .split actions).Nodup) .lineageConflict
  throwIf (¬(actionKeys .optionAdjustment actions).Nodup) .optionAdjustmentConflict

def IssuerTicker.covers (entry : IssuerTicker) (ticker : String) (day : Int) : Bool :=
  entry.ticker == ticker && decide (entry.validFrom ≤ day) &&
    entry.validTo.all fun t => decide (day < t)

def validateChain (issuers : List IssuerIdentity) (securities : List SecurityIdentity)
    (listings : List ListingRecord) (chain : LineageChain) : Except LineageReason Unit :=
  match issuers.find? fun i => i.issuerId == chain.issuerId with
  | none => .error .lineageMissing
  | some issuer => do
    throwIf (¬(securities.find? fun s => s.securityId == chain.securityId).any fun s =>
      s.issuerId == chain.issuerId) .lineageMissing
    throwIf (¬(listings.find? fun l => l.listingId == chain.listingId).any fun l =>
      l.securityId == chain.securityId) .lineageMissing
    match issuer.tickers.find? fun e => e.covers chain.tickerAtCutoff chain.cutoffDate with
    | none =>
      -- other issuers are looked at only here
      throwIf (issuers.any fun other => other.issuerId != chain.issuerId &&
        other.tickers.any fun e => e.covers chain.tickerAtCutoff chain.cutoffDate)
        .symbolReuseDetected
      .error .lineageMissing
    | some entry => throwIf (entry.securityId ≠ chain.securityId) .lineageConflict

def checkIssuers (issuers : List IssuerIdentity) : Except LineageReason Unit :=
  throwIf (¬(issuers.map (·.issuerId)).Nodup) .duplicateField

def checkSecurities (issuers : List IssuerIdentity) (securities : List SecurityIdentity) :
    Except LineageReason Unit := do
  throwIf (¬(securities.map (·.securityId)).Nodup) .duplicateField
  throwIf (¬securities.all fun s => issuers.any fun i => i.issuerId == s.issuerId)
    .referentialIntegrity

def checkListings (securities : List SecurityIdentity) (listings : List ListingRecord) :
    Except LineageReason Unit := do
  throwIf (¬(listings.map (·.listingId)).Nodup) .duplicateField
  throwIf (¬listings.all fun l => securities.any fun s => s.securityId == l.securityId)
    .referentialIntegrity
  validateListingPeriods listings

def checkActions (issuers : List IssuerIdentity) (actions : List ActionRecord) :
    Except LineageReason Unit := do
  throwIf (¬(actions.map (·.actionId)).Nodup) .duplicateField
  throwIf (¬actions.all fun a => (issuers.any fun i => i.issuerId == a.issuerId) &&
    a.successorIssuerId.all fun id => issuers.any fun i => i.issuerId == id) .referentialIntegrity
  validateActionConsistency actions

def checkChains (issuers : List IssuerIdentity) (securities : List SecurityIdentity)
    (listings : List ListingRecord) (chains : List LineageChain) : Except LineageReason Unit := do
  throwIf (¬(chains.map (·.eventId)).Nodup) .duplicateField
  chains.forM (validateChain issuers securities listings)

/-! ### The parser -/

def orMalformed {α : Type} : Option α → Except LineageReason α
  | some a => .ok a
  | none => .error .malformedValue

def checkHeader (f : Json.FloatRepr) (doc : PyJson) : Except LineageReason Unit := do
  orMalformed (strictObject ["schema", "schema_version", "lineage_id", "lineage_version",
    "decided_at", "policy_sha256", "source_matrix_sha256", "identity_rule", "adjustment_policy",
    "issuers", "securities", "listings", "actions", "chains"] doc)
  let schema ← orMalformed (text (doc.get "schema"))
  throwIf (schema ≠ PyText.of "esscher.security_lineage") .unsupportedSchema
  throwIf ((boolean (doc.get "schema_version")).isSome ∨
    (doc.get "schema_version").isOne f = false) .unsupportedSchema
  let lineageId ← orMalformed (identifier (doc.get "lineage_id"))
  throwIf (lineageId ≠ "ESSCHER_SECURITY_LINEAGE_V1") .unsupportedSchema
  throwIf (¬(doc.get "identity_rule").isText "CIK_ROOTED_IDENTITY") .malformedValue

def parseDocument (f : Json.FloatRepr) (doc : PyJson) : Except LineageReason LineageFields := do
  checkHeader f doc
  let issuers ← orMalformed (someItems parseIssuer (doc.get "issuers"))
  checkIssuers issuers
  let securities ← orMalformed (someItems parseSecurity (doc.get "securities"))
  checkSecurities issuers securities
  let listings ← orMalformed (someItems parseListing (doc.get "listings"))
  checkListings securities listings
  let actions ← orMalformed (itemsOf parseAction (doc.get "actions"))
  checkActions issuers actions
  let chains ← orMalformed (someItems parseChain (doc.get "chains"))
  checkChains issuers securities listings chains
  let lineageVersion ← orMalformed (text (doc.get "lineage_version"))
  let decidedAt ← orMalformed (timestamp (doc.get "decided_at"))
  let policySha256 ← orMalformed (sha256Text (doc.get "policy_sha256"))
  let sourceMatrixSha256 ← orMalformed (sha256Text (doc.get "source_matrix_sha256"))
  orMalformed (checkAdjustmentPolicy (doc.get "adjustment_policy"))
  return { lineageVersion, decidedAt, policySha256, sourceMatrixSha256, issuers, securities,
           listings, actions, chains }

/-- How the parser ends without a lineage; an integer of too many digits leaves it as a plain
`ValueError`. -/
inductive LineageFailure where
  | rejected (reason : LineageReason)
  | valueError
  deriving DecidableEq, Repr

def decode (raw : List UInt8) : Except LineageFailure PyJson :=
  (PyJson.loads ⟨true, true⟩ raw).mapError fun e => match e with
    | .tooManyDigits => .valueError
    | .duplicateField => .rejected .duplicateField
    | _ => .rejected .malformedValue

def parseSecurityLineage (f : Json.FloatRepr) (raw : List UInt8) :
    Except LineageFailure SecurityLineage := do
  let doc ← decode raw
  let fields ← (parseDocument f doc).mapError .rejected
  return ⟨fields, Sha256.hexdigest raw⟩

/-! ### Resolution -/

structure LineageResolution where
  eventId : String
  issuerId : String
  securityId : String
  listingId : String
  tickerAtCutoff : String
  activeAtCutoff : Bool
  actions : List ActionRecord
  optionAdjustments : List ActionRecord
  deriving DecidableEq

/-- Where a resolution is refused: the event, and the day of the split for which there is no option
adjustment. -/
structure ResolutionRejected where
  reason : LineageReason
  eventId : String
  exDate : Option Int
  deriving DecidableEq, Repr

def LineageFields.actionsForIssuer (l : LineageFields) (issuerId : String) : List ActionRecord :=
  l.actions.filter fun a => a.issuerId == issuerId

def optionAdjustments (actions : List ActionRecord) : List ActionRecord :=
  actions.filter fun a => a.actionType == .optionAdjustment

/-- The first split on whose day there is no option adjustment. -/
def unmatchedSplit (actions : List ActionRecord) : Option ActionRecord :=
  actions.find? fun a => a.actionType == .split &&
    !((optionAdjustments actions).any fun b => b.exDate == a.exDate)

def pendingSplit (chain : LineageChain) (actions : List ActionRecord) : Option ActionRecord :=
  if chain.listedOptionExists then unmatchedSplit actions else none

def resolveChain (l : LineageFields) (eventId : String) (chain : LineageChain) :
    Except ResolutionRejected LineageResolution :=
  let actions := l.actionsForIssuer chain.issuerId
  match pendingSplit chain actions with
  | some split => .error ⟨.optionAdjustmentUnresolved, eventId, some split.exDate⟩
  | none => .ok
    { eventId := eventId
      issuerId := chain.issuerId
      securityId := chain.securityId
      listingId := chain.listingId
      tickerAtCutoff := chain.tickerAtCutoff
      -- a validated chain names a listing of the lineage
      activeAtCutoff := (l.listings.find? fun r => r.listingId == chain.listingId).any fun r =>
        r.activeOn chain.cutoffDate
      actions := actions
      optionAdjustments := optionAdjustments actions }

def resolveLineage (l : LineageFields) (eventId : String) :
    Except ResolutionRejected LineageResolution :=
  match l.chains.find? fun c => c.eventId == eventId with
  | none => .error ⟨.lineageMissing, eventId, none⟩
  | some chain => resolveChain l eventId chain

end EsscherMarket.Contracts
