import EsscherMarket.Lib.IsoFormat
import EsscherMarket.Lib.JsonFloat
import EsscherMarket.Lib.Txn

/-!
# The Trade Passport chain

`passport/chain.py`: the append-only chain of entries, each with the digest of the one before, its
canonical bytes, and the parser of such bytes.
-/

namespace EsscherMarket.Passport

open Lib

def passportSchema : String := "esscher.trade_passport"

def genesisPrevSha256 : String := String.ofList (List.replicate 64 '0')

/-- Frozen trace stages in causal order. -/
inductive PassportStage where
  | sourceEvidence
  | snapshot
  | decision
  | package
  | riskReservation
  | permit
  | openSubmission
  | openFill
  | hold
  | closeSubmission
  | closeFill
  | finalFlatReconciliation
  | result
  deriving DecidableEq, Repr

namespace PassportStage

def all : List PassportStage :=
  [sourceEvidence, snapshot, decision, package, riskReservation, permit, openSubmission, openFill,
    hold, closeSubmission, closeFill, finalFlatReconciliation, result]

def value : PassportStage → String
  | sourceEvidence => "SOURCE_EVIDENCE"
  | snapshot => "SNAPSHOT"
  | decision => "DECISION"
  | package => "PACKAGE"
  | riskReservation => "RISK_RESERVATION"
  | permit => "PERMIT"
  | openSubmission => "OPEN_SUBMISSION"
  | openFill => "OPEN_FILL"
  | hold => "HOLD"
  | closeSubmission => "CLOSE_SUBMISSION"
  | closeFill => "CLOSE_FILL"
  | finalFlatReconciliation => "FINAL_FLAT_RECONCILIATION"
  | result => "RESULT"

/-- `PassportStage(value)`. -/
def ofValue (value : Json) : Option PassportStage := all.find? fun stage => value.isText stage.value

theorem ofValue_value (stage : PassportStage) : ofValue (.str stage.value) = some stage := by
  cases stage <;> decide

theorem value_of_ofValue {v : Json} {stage : PassportStage} (h : ofValue v = some stage) :
    v = .str stage.value := by
  have htext := List.find?_some h
  cases v with
  | str s => exact congrArg Json.str (beq_iff_eq.mp htext)
  | _ => cases htext

end PassportStage

/-! ### Instants -/

/-- `_utc_text` takes an aware time of whole seconds, in a year that it can write. -/
def IsStamp (t : DateTime) : Prop :=
  t.isAware = true ∧ t.micros % 1000000 = 0 ∧ (DateTime.utc t.micros).InRange

instance (t : DateTime) : Decidable (IsStamp t) := inferInstanceAs (Decidable (_ ∧ _))

/-- `_utc_text`, of a time that it takes. -/
def utcText (t : DateTime) : String := (DateTime.utc t.micros).isoformatZ

/-- `datetime.fromisoformat(text).astimezone(UTC)`, in microseconds.  A text without an offset is
read in the timezone of the host. -/
structure InstantReader where
  read : String → Option Int
  inRange : ∀ text t, read text = some t → (DateTime.utc t).InRange
  reads : ∀ t : DateTime, IsStamp t → read (utcText t) = some t.micros

/-- A reader of the texts of `isoformat` with an offset. -/
def isoReader : InstantReader where
  read text := ((DateTime.fromIsoformat (DateTime.replaceZ text)).bind fun t =>
    if (DateTime.utc t.micros).InRange then some t.micros else none)
  inRange text t h := by
    obtain ⟨d, -, h⟩ := Option.bind_eq_some_iff.mp h
    split_ifs at h with hrange
    cases h
    exact hrange
  reads t h := by
    rw [utcText, DateTime.fromIsoformat_isoformatZ h.2.2 rfl]
    exact if_pos h.2.2

/-! ### The chain -/

abbrev Payload : Type := List (String × Json)

/-- One immutable trace entry bound to its predecessor. -/
structure PassportEntry where
  sequence : Int
  stage : PassportStage
  at_ : DateTime
  payload : Payload
  prevSha256 : String
  entrySha256 : String

def entryContent (sequence : Int) (stage : PassportStage) (at_ : DateTime) (payload : Payload)
    (prevSha256 : String) : Json :=
  .obj [("schema", .str passportSchema),
    ("schema_version", .int 1),
    ("sequence", .int sequence),
    ("stage", .str stage.value),
    ("at", .str (utcText at_)),
    ("payload", .obj payload),
    ("prev_sha256", .str prevSha256)]

def computeEntrySha256 (sequence : Int) (stage : PassportStage) (at_ : DateTime) (payload : Payload)
    (prevSha256 : String) : String :=
  (entryContent sequence stage at_ payload prevSha256).sha256

def PassportEntry.hashed (sequence : Int) (stage : PassportStage) (at_ : DateTime)
    (payload : Payload) (prevSha256 : String) : PassportEntry :=
  ⟨sequence, stage, at_, payload, prevSha256,
    computeEntrySha256 sequence stage at_ payload prevSha256⟩

abbrev TradePassport : Type := List PassportEntry

namespace TradePassport

def headSha256 (passport : TradePassport) : String :=
  (passport.getLast?.map (·.entrySha256)).getD genesisPrevSha256

/-- `append`; a time without a timezone or with a fraction of a second raises. -/
def append (passport : TradePassport) (stage : PassportStage) (at_ : DateTime) (payload : Payload) :
    Option TradePassport :=
  if IsStamp at_ then
    some (passport ++ [.hashed passport.length stage at_ payload passport.headSha256])
  else none

/-- What `payload_bytes` writes of an entry. -/
def contentOf (entry : PassportEntry) : Json :=
  entryContent entry.sequence entry.stage entry.at_ entry.payload entry.prevSha256

def document (passport : TradePassport) : Json :=
  .obj [("schema", .str passportSchema),
    ("schema_version", .int 1),
    ("entries", .arr (passport.map contentOf)),
    ("head_sha256", .str passport.headSha256)]

def payloadBytes (passport : TradePassport) : List UInt8 := passport.document.canonicalBytes

def build (passport : TradePassport) :
    List (PassportStage × DateTime × Payload) → Option TradePassport
  | [] => some passport
  | (stage, at_, payload) :: rest =>
    (passport.append stage at_ payload).bind fun passport => passport.build rest

end TradePassport

/-! ### The parser -/

/-- How parsing fails: `PassportChainError`, another `ValueError`, or an exception of another kind. -/
inductive ParseError where
  | chain (message : String)
  | valueError
  | uncaught
  deriving DecidableEq, Repr

def orFail {α : Type} (e : ParseError) : Option α → Except ParseError α
  | some a => .ok a
  | none => .error e

/-- `int(text)`: a sign and digits that underscores may part, between spaces. -/
def intOfText (text : String) : Option Int :=
  let body := (strip text).toList
  let digits := if body.head? = some '-' ∨ body.head? = some '+' then body.tail else body
  let groups := digits.splitOn '_'
  if groups.all fun group => !group.isEmpty && group.all Char.isDigit then
    let n : Int := digitsValue (digits.filter Char.isDigit)
    some (if body.head? = some '-' then -n else n)
  else none

/-- `int(value)`. -/
def intOf : Json → Except ParseError Int
  | .int n => .ok n
  | .bool b => .ok (if b then 1 else 0)
  | .real literal =>
    -- the float of a sequence number that can occur is truncated as its literal is
    orFail .uncaught ((Decimal.parse literal).map fun d => d.toRat.num.tdiv d.toRat.den)
  | .str s => orFail .valueError (intOfText s)
  | _ => .error .uncaught

def entryFields : List String :=
  ["schema", "schema_version", "sequence", "stage", "at", "payload", "prev_sha256"]

def requireFields (index : Nat) (item : Json) : Except ParseError Unit :=
  match entryFields.find? fun field => (item.field? field).isNone with
  | some field => .error (.chain s!"entry {index} is missing {field}")
  | none => .ok ()

/-- One item of `entries`. -/
def parseEntry (clock : InstantReader) (index : Nat) (item : Json) :
    Except ParseError PassportEntry := do
  throwIf (item.isObject = false) (.chain s!"entry {index} must be an object")
  requireFields index item
  let stage ← orFail (.chain s!"entry {index} has an unknown stage")
    (PassportStage.ofValue (item.get "stage"))
  let micros ← orFail (.chain s!"entry {index} has an invalid timestamp")
    (clock.read (item.get "at").pyStr)
  match item.get "payload" with
  | .obj payload =>
    let sequence ← intOf (item.get "sequence")
    throwIf (¬ IsStamp (.utc micros)) .valueError
    pure (.hashed sequence stage (.utc micros) payload (item.get "prev_sha256").pyStr)
  | _ => .error (.chain s!"entry {index} payload must be an object")

def parseEntries (clock : InstantReader) (index : Nat) :
    List Json → Except ParseError (List PassportEntry)
  | [] => .ok []
  | item :: rest => do
    let entry ← parseEntry clock index item
    let entries ← parseEntries clock (index + 1) rest
    pure (entry :: entries)

def parseDocument (clock : InstantReader) (payload : Json) : Except ParseError (List PassportEntry) := do
  throwIf (payload.isObject = false) (.chain "passport must be an object")
  throwIf ((payload.get "schema").isText passportSchema = false) (.chain "unsupported passport schema")
  throwIf ((payload.get "schema_version").isOne = false)
    (.chain "unsupported passport schema version")
  match payload.get "entries" with
  | .arr items => parseEntries clock 0 items
  | _ => .error (.chain "passport entries must be a list")

def parsePassportBytes (f : Json.FloatRepr) (clock : InstantReader) (raw : List UInt8) :
    Except ParseError (List PassportEntry) := do
  let payload ← orFail (.chain "passport bytes are not valid JSON") (Json.load f raw)
  parseDocument clock payload

/-! ### What is parsed -/

variable {f : Json.FloatRepr} {clock : InstantReader}

theorem orFail_eq_ok {α : Type} {e : ParseError} {x : Option α} {a : α} :
    orFail e x = .ok a ↔ x = some a := by
  cases x <;> simp [orFail]

structure ItemReads (clock : InstantReader) (item : Json) (sequence : Int) (stage : PassportStage)
    (micros : Int) (payload : Payload) : Prop where
  isObject : item.isObject = true
  complete : ∀ field ∈ entryFields, (item.field? field).isNone = false
  stage : PassportStage.ofValue (item.get "stage") = some stage
  at_ : clock.read (item.get "at").pyStr = some micros
  payload : item.get "payload" = .obj payload
  sequence : intOf (item.get "sequence") = .ok sequence
  stamp : IsStamp (.utc micros)

theorem requireFields_eq_ok {index : Nat} {item : Json} {u : Unit} :
    requireFields index item = .ok u ↔ ∀ field ∈ entryFields, (item.field? field).isNone = false := by
  rw [requireFields]
  constructor
  · intro h field hfield
    split at h
    · cases h
    · rename_i hnone
      exact Bool.eq_false_iff.mpr (List.find?_eq_none.mp hnone field hfield)
  · intro h
    have hnone : entryFields.find? (fun field => (item.field? field).isNone) = none :=
      List.find?_eq_none.mpr fun field hfield => by simp [h field hfield]
    rw [hnone]

theorem parseEntry_eq_ok {index : Nat} {item : Json} {entry : PassportEntry} :
    parseEntry clock index item = .ok entry ↔ ∃ sequence stage micros payload,
      ItemReads clock item sequence stage micros payload ∧
      entry = .hashed sequence stage (.utc micros) payload (item.get "prev_sha256").pyStr := by
  rw [parseEntry]
  simp only [except_bind_eq_ok, throwIf_eq_ok, orFail_eq_ok, requireFields_eq_ok, Bool.not_eq_false]
  constructor
  · rintro ⟨-, hobject, -, hcomplete, stage, hstage, micros, hat, h⟩
    split at h
    · rename_i payload hpayload
      simp only [except_bind_eq_ok, throwIf_eq_ok, not_not, except_pure_eq_ok] at h
      obtain ⟨sequence, hsequence, -, hstamp, rfl⟩ := h
      exact ⟨sequence, stage, micros, payload,
        ⟨hobject, hcomplete, hstage, hat, hpayload, hsequence, hstamp⟩, rfl⟩
    · cases h
  · rintro ⟨sequence, stage, micros, payload, h, rfl⟩
    refine ⟨(), h.isObject, (), h.complete, stage, h.stage, micros, h.at_, ?_⟩
    rw [h.payload]
    simp only [except_bind_eq_ok, throwIf_eq_ok, not_not, except_pure_eq_ok]
    exact ⟨sequence, h.sequence, (), h.stamp, rfl⟩

theorem parseEntries_eq_ok {items : List Json} {entries : List PassportEntry} {index : Nat} :
    parseEntries clock index items = .ok entries ↔
      List.Forall₂ (fun item entry => ∃ sequence stage micros payload,
        ItemReads clock item sequence stage micros payload ∧
        entry = .hashed sequence stage (.utc micros) payload (item.get "prev_sha256").pyStr)
        items entries := by
  induction items generalizing index entries with
  | nil =>
    rw [parseEntries, List.forall₂_nil_left_iff]
    exact ⟨fun h => (Except.ok.inj h).symm, fun h => congrArg _ h.symm⟩
  | cons item rest ih =>
    rw [parseEntries, List.forall₂_cons_left_iff]
    simp only [except_bind_eq_ok, except_pure_eq_ok, parseEntry_eq_ok, ih]
    constructor
    · rintro ⟨entry, hentry, more, hmore, rfl⟩
      exact ⟨entry, more, hentry, hmore, rfl⟩
    · rintro ⟨entry, more, hentry, hmore, rfl⟩
      exact ⟨entry, hentry, more, hmore, rfl⟩

theorem parseDocument_eq_ok {document : Json} {entries : List PassportEntry} :
    parseDocument clock document = .ok entries ↔ document.isObject = true ∧
      (document.get "schema").isText passportSchema = true ∧
      (document.get "schema_version").isOne = true ∧
      ∃ items, document.get "entries" = .arr items ∧ parseEntries clock 0 items = .ok entries := by
  rw [parseDocument]
  simp only [except_bind_eq_ok, throwIf_eq_ok, Bool.not_eq_false]
  constructor
  · rintro ⟨-, hobject, -, hschema, -, hversion, h⟩
    split at h
    · rename_i items hitems
      exact ⟨hobject, hschema, hversion, items, hitems, h⟩
    · cases h
  · rintro ⟨hobject, hschema, hversion, items, hitems, h⟩
    refine ⟨(), hobject, (), hschema, (), hversion, ?_⟩
    rw [hitems]
    exact h

theorem parsePassportBytes_eq_ok {raw : List UInt8} {entries : List PassportEntry} :
    parsePassportBytes f clock raw = .ok entries ↔
      ∃ document, Json.load f raw = some document ∧ parseDocument clock document = .ok entries := by
  rw [parsePassportBytes]
  simp only [except_bind_eq_ok, orFail_eq_ok]

/-! ### The round trip -/

/-- An entry of a built chain: stamped and hashed, with a payload that Python holds. -/
structure WellMade (f : Json.FloatRepr) (entry : PassportEntry) : Prop where
  stamp : IsStamp entry.at_
  payload : Json.Held f (.obj entry.payload)
  hashed : entry = .hashed entry.sequence entry.stage entry.at_ entry.payload entry.prevSha256

theorem wellMade_hashed {sequence : Int} {stage : PassportStage} {at_ : DateTime} {payload : Payload}
    {prev : String} (hstamp : IsStamp at_) (hpayload : Json.Held f (.obj payload)) :
    WellMade f (.hashed sequence stage at_ payload prev) :=
  ⟨hstamp, hpayload, rfl⟩

theorem append_eq_some {passport grown : TradePassport} {stage : PassportStage} {at_ : DateTime}
    {payload : Payload} : passport.append stage at_ payload = some grown ↔ IsStamp at_ ∧
      grown = passport ++ [.hashed passport.length stage at_ payload passport.headSha256] := by
  rw [TradePassport.append]
  by_cases h : IsStamp at_
  · rw [if_pos h]
    exact ⟨fun heq => ⟨h, (Option.some.inj heq).symm⟩, fun heq => congrArg some heq.2.symm⟩
  · simp [h]

theorem wellMade_build {steps : List (PassportStage × DateTime × Payload)}
    {passport grown : TradePassport} (hsteps : ∀ step ∈ steps, Json.Held f (.obj step.2.2))
    (hpassport : ∀ entry ∈ passport, WellMade f entry) (h : passport.build steps = some grown) :
    ∀ entry ∈ grown, WellMade f entry := by
  induction steps generalizing passport with
  | nil =>
    cases h
    exact hpassport
  | cons step rest ih =>
    obtain ⟨stage, at_, payload⟩ := step
    obtain ⟨next, hnext, h⟩ := Option.bind_eq_some_iff.mp h
    obtain ⟨hstamp, rfl⟩ := append_eq_some.mp hnext
    refine ih (fun step hstep => hsteps step (List.mem_cons_of_mem _ hstep)) ?_ h
    intro entry hentry
    rcases List.mem_append.mp hentry with hentry | hentry
    · exact hpassport entry hentry
    · rw [List.mem_singleton.mp hentry]
      exact wellMade_hashed hstamp (hsteps (stage, at_, payload) List.mem_cons_self)

/-- The entry as it is read: in UTC, with the fields of its payload in order. -/
def PassportEntry.asRead (entry : PassportEntry) : PassportEntry :=
  { entry with at_ := .utc entry.at_.micros, payload := Json.sortFields entry.payload }

theorem held_contentOf {entry : PassportEntry} (h : Json.Held f (.obj entry.payload)) :
    Json.Held f (TradePassport.contentOf entry) := by
  rw [TradePassport.contentOf, entryContent, Json.held_obj]
  refine ⟨by simp, ?_⟩
  simp only [List.mem_cons, List.not_mem_nil, or_false]
  rintro kv (rfl | rfl | rfl | rfl | rfl | rfl | rfl)
  case inr.inr.inr.inr.inr.inl => exact h
  all_goals exact ⟨rfl, rfl⟩

theorem held_document {passport : TradePassport} (h : ∀ entry ∈ passport, WellMade f entry) :
    Json.Held f passport.document := by
  have hentries : Json.Held f (.arr (passport.map TradePassport.contentOf)) := by
    rw [Json.held_arr]
    intro item hitem
    obtain ⟨entry, hentry, rfl⟩ := List.mem_map.mp hitem
    exact held_contentOf (h entry hentry).payload
  rw [TradePassport.document, Json.held_obj]
  refine ⟨by simp, ?_⟩
  simp only [List.mem_cons, List.not_mem_nil, or_false]
  rintro kv (rfl | rfl | rfl | rfl)
  case inr.inr.inl => exact hentries
  all_goals exact ⟨rfl, rfl⟩

/-- The digest of an entry does not show the timezone of its time or the order of its payload. -/
theorem asRead_hashed {entry : PassportEntry}
    (h : entry = .hashed entry.sequence entry.stage entry.at_ entry.payload entry.prevSha256) :
    entry.asRead = .hashed entry.sequence entry.stage (.utc entry.at_.micros)
      (Json.sortFields entry.payload) entry.prevSha256 := by
  have hbytes : (entryContent entry.sequence entry.stage (.utc entry.at_.micros)
      (Json.sortFields entry.payload) entry.prevSha256).canonicalBytes =
      (entryContent entry.sequence entry.stage entry.at_ entry.payload
        entry.prevSha256).canonicalBytes := by
    have hpayload : (Json.obj (Json.sortFields entry.payload)).canonicalBytes =
        (Json.obj entry.payload).canonicalBytes := Json.canonicalBytes_sorted (.obj entry.payload)
    rw [entryContent, entryContent, Json.canonicalBytes, Json.canonicalBytes]
    simp only [Json.sortedFields, hpayload]
    rfl
  have hdigest : entry.entrySha256 = computeEntrySha256 entry.sequence entry.stage
      (.utc entry.at_.micros) (Json.sortFields entry.payload) entry.prevSha256 := by
    rw [h]
    exact congrArg Sha256.hexdigest hbytes.symm
  rw [PassportEntry.asRead, PassportEntry.hashed, ← hdigest]

theorem itemReads_contentOf {entry : PassportEntry} (h : WellMade f entry) :
    ItemReads clock (TradePassport.contentOf entry).sorted entry.sequence entry.stage
      entry.at_.micros (Json.sortFields entry.payload) := by
  have hwell := (held_contentOf h.payload).wellFormed
  have hget : ∀ {key : String} {v : Json}, (TradePassport.contentOf entry).get key = v →
      (TradePassport.contentOf entry).sorted.get key = v.sorted := by
    rintro key v rfl
    exact Json.get_sorted hwell key
  constructor
  case isObject => rfl
  case complete =>
    intro field hfield
    rw [Json.field?_sorted hwell, Option.isNone_map]
    simp only [entryFields, List.mem_cons, List.not_mem_nil, or_false] at hfield
    rcases hfield with rfl | rfl | rfl | rfl | rfl | rfl | rfl <;> rfl
  case stage =>
    rw [hget rfl]
    exact PassportStage.ofValue_value entry.stage
  case at_ =>
    rw [hget rfl]
    exact clock.reads entry.at_ h.stamp
  case payload => exact hget rfl
  case sequence =>
    rw [hget rfl]
    rfl
  case stamp => exact ⟨rfl, h.stamp.2⟩

/-- What a chain of well made entries writes is parsed back as its entries. -/
theorem parsePassportBytes_payloadBytes {passport : TradePassport}
    (h : ∀ entry ∈ passport, WellMade f entry) :
    parsePassportBytes f clock passport.payloadBytes = .ok (passport.map PassportEntry.asRead) := by
  have hheld := held_document h
  have hget : ∀ {key : String} {v : Json}, passport.document.get key = v →
      passport.document.sorted.get key = v.sorted := by
    rintro key v rfl
    exact Json.get_sorted hheld.wellFormed key
  have hitems : passport.document.sorted.get "entries" =
      .arr ((passport.map TradePassport.contentOf).map Json.sorted) := by
    rw [hget rfl, ← Json.sortedItems_eq]
    rfl
  rw [parsePassportBytes_eq_ok]
  refine ⟨_, Json.load_canonicalBytes hheld, parseDocument_eq_ok.mpr ⟨rfl, ?_, ?_, _, hitems, ?_⟩⟩
  · rw [hget rfl]
    exact beq_self_eq_true passportSchema
  · rw [hget rfl]
    rfl
  · rw [parseEntries_eq_ok, List.map_map, List.forall₂_map_left_iff, List.forall₂_map_right_iff,
      List.forall₂_same]
    intro entry hentry
    have hmade := h entry hentry
    refine ⟨_, _, _, _, itemReads_contentOf hmade, ?_⟩
    have hprev : ((TradePassport.contentOf entry).sorted.get "prev_sha256") =
        .str entry.prevSha256 :=
      Json.get_sorted (held_contentOf hmade.payload).wellFormed "prev_sha256"
    rw [Function.comp_apply, hprev]
    exact asRead_hashed hmade.hashed

end EsscherMarket.Passport
