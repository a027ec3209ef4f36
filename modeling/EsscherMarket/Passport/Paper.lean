import EsscherMarket.Execution.Policy
import EsscherMarket.Passport.Chain

/-!
# The verifier of PAPER passports

`passport/paper.py`: `verify_paper_trade_passport` reads a passport, checks its linkage and the
bindings between the payloads of its stages.  An outcome is `none` where an exception leaves the
verifier.
-/

namespace EsscherMarket.Passport

open Lib Execution

inductive VerdictReason where
  | emptyPassport
  | parseError
  | linkageBroken
  | stageSequenceInvalid
  | bindingInvalid
  deriving DecidableEq, Repr

/-- `PaperPassportVerification`; an invalid one has one reason. -/
inductive Verdict where
  | valid
  | invalid (reason : VerdictReason)
  deriving DecidableEq, Repr

def canceledStages : List PassportStage :=
  [.sourceEvidence, .snapshot, .decision, .permit, .openSubmission, .finalFlatReconciliation, .result]

def closedStages : List PassportStage :=
  [.sourceEvidence, .snapshot, .decision, .permit, .openSubmission, .closeSubmission,
    .finalFlatReconciliation, .result]

/-! ### Fields of a payload -/

namespace Payload

variable (payload : Payload)

def get (key : String) : Json := (Json.obj payload).get key

def isSha256 (key : String) : Bool :=
  match payload.get key with
  | .str s => isLowerHex 64 s
  | _ => false

def isStr (key : String) : Bool :=
  match payload.get key with
  | .str _ => true
  | _ => false

def isText (key : String) (text : String) : Bool := (payload.get key).isText text

def sameText (key : String) (other : Payload) (otherKey : String) : Bool :=
  match other.get otherKey with
  | .str s => payload.isText key s
  | _ => false

end Payload

/-! ### The bindings -/

def decisionBound (source snapshot decision : Payload) : Bool :=
  source.isSha256 "source_manifest_sha256" &&
  snapshot.sameText "source_manifest_sha256" source "source_manifest_sha256" &&
  snapshot.isSha256 "snapshot_sha256" && snapshot.isSha256 "evidence_sha256" &&
  decision.sameText "snapshot_sha256" snapshot "snapshot_sha256" &&
  decision.isSha256 "decision_sha256" && decision.isSha256 "protocol_sha256" &&
  decision.isText "direction_authority" "BOUNDED_RESEARCH_ONLY"

/-- The permit binds the decision, and its event run is the decision's. -/
def permitBound (snapshot decision permit : Payload) : Bool :=
  permit.sameText "decision_sha256" decision "decision_sha256" &&
  permit.sameText "snapshot_sha256" snapshot "snapshot_sha256" &&
  permit.isText "run_mode" "PAPER" && permit.isText "data_class" "INDICATIVE_DATA" &&
  permit.isSha256 "policy_sha256" && permit.isSha256 "execution_protocol_sha256" &&
  permit.isStr "permit_id" &&
  match permit.get "event_run_id", permit.get "decision_sha256" with
  | .str run, .str decision => strip run != "" && run == paperEventRunId decision
  | _, _ => false

def openingBound (permit opening : Payload) : Bool :=
  opening.isSha256 "receipt_sha256" && opening.sameText "event_run_id" permit "event_run_id" &&
  opening.sameText "permit_id" permit "permit_id" && opening.isSha256 "open_request_sha256" &&
  opening.isSha256 "open_order_sha256"

def closingBound (permit opening closing : Payload) : Bool :=
  closing.sameText "event_run_id" permit "event_run_id" &&
  closing.sameText "open_permit_id" permit "permit_id" &&
  closing.sameText "receipt_sha256" opening "receipt_sha256" && closing.isStr "close_permit_id" &&
  closing.isSha256 "close_request_sha256" && closing.isSha256 "close_order_sha256"

def terminalBound (permit opening : Payload) (finalFlat : PassportEntry) (result : Payload) : Bool :=
  let reconciliation := finalFlat.payload
  Payload.sameText reconciliation "event_run_id" permit "event_run_id" &&
  Payload.sameText reconciliation "receipt_sha256" opening "receipt_sha256" &&
  Payload.isText reconciliation "authority" "SANITIZED_BROKER_RECEIPT" &&
  Payload.isText reconciliation "final_flat_observed_at" (utcText finalFlat.at_) &&
  result.sameText "event_run_id" permit "event_run_id" &&
  result.sameText "receipt_sha256" opening "receipt_sha256" &&
  match result.get "claims" with
  | .arr [.str first, .str second] =>
    first == "PAPER_OPERATIONAL_OBSERVATION" && second == "NOT_ALPHA_EVIDENCE"
  | _ => false

def paperPnlClasses : List String := ["PAPER_REALIZED_PNL", "ZERO_NO_FILL", "PAPER_PNL_UNAVAILABLE"]

/-- The classification fits the lifecycle outcome; to look up a list or an object raises. -/
def classificationBound (outcome : Json) (result : Payload) : Option Bool :=
  match result.get "classification" with
  | .arr _ => none
  | .obj _ => none
  | .str classification =>
    some (paperPnlClasses.contains classification &&
      (match result.get "paper_pnl" with
        | .obj pnl => Payload.isText pnl "classification" classification
        | _ => false) &&
      !(outcome.isText "CANCELED_FLAT" && classification != "ZERO_NO_FILL") &&
      !(outcome.isText "CLOSED_FLAT" &&
        !(["PAPER_REALIZED_PNL", "PAPER_PNL_UNAVAILABLE"].contains classification)))
  | _ => some false

def bindingVerdict (entries : List PassportEntry) (finalFlat : PassportEntry) (outcome : Json) :
    Option Verdict :=
  match entries.map (·.payload) with
  | source :: snapshot :: decision :: permit :: opening :: rest =>
    let result := rest.getLast?.getD []
    let closing := rest.head?.getD []
    if decisionBound source snapshot decision = false ∨ permitBound snapshot decision permit = false ∨
        openingBound permit opening = false ∨
        outcome.isText "CLOSED_FLAT" = true ∧ closingBound permit opening closing = false ∨
        terminalBound permit opening finalFlat result = false then
      some (.invalid .bindingInvalid)
    else (classificationBound outcome result).map fun bound =>
      if bound then .valid else .invalid .bindingInvalid
  | _ => some (.invalid .bindingInvalid)

/-! ### The verifier -/

/-- The predecessor hash that the entries lead to, where sequence and hashes hold. -/
def linkFrom : Nat → String → List PassportEntry → Option String
  | _, prev, [] => some prev
  | index, prev, entry :: rest =>
    if entry.sequence ≠ index ∨ entry.prevSha256 ≠ prev then none
    else linkFrom (index + 1) entry.entrySha256 rest

def documentFields : List String := ["schema", "schema_version", "entries", "head_sha256"]

/-- The fields of an item are exact and its schema is the passport's. -/
def itemExact (item : Json) : Bool :=
  item.hasKeys entryFields && (item.get "schema").isText passportSchema &&
  (item.get "schema_version").isOne

def envelopeExact (document : Json) : Bool :=
  document.hasKeys documentFields && (document.get "schema").isText passportSchema &&
  (document.get "schema_version").isOne &&
  (match document.get "head_sha256" with
    | .str head => isLowerHex 64 head
    | _ => false) &&
  match document.get "entries" with
  | .arr items => items.all itemExact
  | _ => false

def stageVerdict (entries : List PassportEntry) : Option Verdict :=
  match entries.dropLast.getLast? with
  | none => some (.invalid .bindingInvalid)
  | some finalFlat =>
    let outcome := Payload.get finalFlat.payload "lifecycle_outcome"
    let expected := if outcome.isText "CLOSED_FLAT" then closedStages else canceledStages
    if entries.map (·.stage) ≠ expected then some (.invalid .stageSequenceInvalid)
    else bindingVerdict entries finalFlat outcome

def verifyEntries (document : Json) (entries : List PassportEntry) : Option Verdict :=
  if entries = [] then some (.invalid .emptyPassport)
  else if envelopeExact document = false then some (.invalid .parseError)
  else
    match linkFrom 0 genesisPrevSha256 entries with
    | none => some (.invalid .linkageBroken)
    | some last =>
      if (document.get "head_sha256").isText last = false then some (.invalid .linkageBroken)
      else stageVerdict entries

def verifyDocument (clock : InstantReader) (document : Json) : Option Verdict :=
  match parseDocument clock document with
  | .error .uncaught => none
  | .error _ => some (.invalid .parseError)
  | .ok entries => verifyEntries document entries

def verifyPaperTradePassport (f : Json.FloatRepr) (clock : InstantReader) (raw : List UInt8) :
    Option Verdict :=
  match Json.load f raw with
  | none => some (.invalid .parseError)
  | some document => verifyDocument clock document

/-! ### What is accepted -/

variable {f : Json.FloatRepr} {clock : InstantReader}

/-- An accepted document, its entries, and the hash that its head binds. -/
structure Accepted (clock : InstantReader) (document : Json) (entries : List PassportEntry)
    (last : String) : Prop where
  parsed : parseDocument clock document = .ok entries
  envelope : envelopeExact document = true
  linked : linkFrom 0 genesisPrevSha256 entries = some last
  head : document.get "head_sha256" = .str last

theorem accepted_of_verify {raw : List UInt8}
    (h : verifyPaperTradePassport f clock raw = some .valid) :
    ∃ document entries last, Json.load f raw = some document ∧
      Accepted clock document entries last := by
  rw [verifyPaperTradePassport] at h
  split at h
  · cases h
  · rename_i document hload
    rw [verifyDocument] at h
    split at h
    · cases h
    · cases h
    · rename_i entries hparsed
      rw [verifyEntries] at h
      split at h
      · cases h
      split at h
      · cases h
      rename_i _ henvelope
      split at h
      · cases h
      · rename_i last hlinked
        split at h
        · cases h
        rename_i hhead
        have htext : document.get "head_sha256" = .str last := by
          cases hget : document.get "head_sha256" with
          | str s =>
            rw [hget] at hhead
            exact congrArg Json.str (beq_iff_eq.mp (Bool.of_not_eq_false hhead))
          | _ =>
            rw [hget] at hhead
            exact absurd rfl hhead
        exact ⟨document, entries, last, hload, hparsed, Bool.of_not_eq_false henvelope, hlinked, htext⟩

def stepOf (entry : PassportEntry) : PassportStage × DateTime × Payload :=
  (entry.stage, entry.at_, entry.payload)

def rebuild (entries : List PassportEntry) : Option TradePassport :=
  TradePassport.build [] (entries.map stepOf)

theorem build_of_linkFrom {entries : List PassportEntry} {passport : TradePassport} {last : String}
    (hentries : ∀ entry ∈ entries, IsStamp entry.at_ ∧
      entry = .hashed entry.sequence entry.stage entry.at_ entry.payload entry.prevSha256)
    (h : linkFrom passport.length passport.headSha256 entries = some last) :
    passport.build (entries.map stepOf) = some (passport ++ entries) ∧
      TradePassport.headSha256 (passport ++ entries) = last := by
  induction entries generalizing passport with
  | nil =>
    rw [List.append_nil]
    exact ⟨rfl, Option.some.inj h⟩
  | cons entry rest ih =>
    obtain ⟨hstamp, hhashed⟩ := hentries entry List.mem_cons_self
    rw [linkFrom] at h
    split_ifs at h with hbroken
    rw [not_or, not_not, not_not] at hbroken
    obtain ⟨hsequence, hprev⟩ := hbroken
    have happended : passport.append entry.stage entry.at_ entry.payload =
        some (passport ++ [entry]) := by
      rw [append_eq_some]
      refine ⟨hstamp, ?_⟩
      rw [← hprev, ← hsequence, ← hhashed]
    have hnext : linkFrom (passport ++ [entry]).length
        (TradePassport.headSha256 (passport ++ [entry])) rest = some last := by
      rw [List.length_append, TradePassport.headSha256, List.getLast?_concat]
      exact h
    obtain ⟨hbuilt, hlast⟩ := ih (fun e he => hentries e (List.mem_cons_of_mem _ he)) hnext
    rw [List.append_assoc, List.singleton_append] at hbuilt hlast
    refine ⟨?_, hlast⟩
    show (passport.append entry.stage entry.at_ entry.payload).bind _ = _
    rw [happended]
    exact hbuilt

theorem hashed_of_parseEntries {items : List Json} {entries : List PassportEntry} {index : Nat}
    (h : parseEntries clock index items = .ok entries) : ∀ entry ∈ entries, IsStamp entry.at_ ∧
      entry = .hashed entry.sequence entry.stage entry.at_ entry.payload entry.prevSha256 := by
  intro entry hentry
  obtain ⟨item, -, sequence, stage, micros, payload, hreads, rfl⟩ :=
    Json.exists_of_forall₂ (parseEntries_eq_ok.mp h) hentry
  exact ⟨hreads.stamp, rfl⟩

/-- The entries of an accepted passport are those of the chain that appending them builds. -/
theorem rebuild_of_accepted {document : Json} {entries : List PassportEntry} {last : String}
    (h : Accepted clock document entries last) :
    rebuild entries = some entries ∧ TradePassport.headSha256 entries = last := by
  obtain ⟨-, -, -, items, -, hparsed⟩ := parseDocument_eq_ok.mp h.parsed
  exact @build_of_linkFrom entries [] last (hashed_of_parseEntries hparsed) h.linked

/-! ### The spelling of a passport -/

/-- An item with the values that `payload_bytes` writes: integers for the schema version and the
sequence, a text for the hash, a time in UTC to the second. -/
structure SpelledItem (item : Json) : Prop where
  version : item.get "schema_version" = .int 1
  sequence : ∃ n, item.get "sequence" = .int n
  prev : ∃ prev, item.get "prev_sha256" = .str prev
  at_ : ∃ t : DateTime, IsStamp t ∧ item.get "at" = .str (utcText t)

/-- A text that is the canonical bytes of its own document, with the values that `payload_bytes`
writes. -/
def Spelled (f : Json.FloatRepr) (raw : List UInt8) : Prop :=
  ∃ document items, Json.load f raw = some document ∧ document.canonicalBytes = raw ∧
    document.get "schema_version" = .int 1 ∧ document.get "entries" = .arr items ∧
    ∀ item ∈ items, SpelledItem item

theorem wellMade_of_parseEntries {items : List Json} {entries : List PassportEntry} {index : Nat}
    (hitems : ∀ item ∈ items, Json.Held f item)
    (h : parseEntries clock index items = .ok entries) : ∀ entry ∈ entries, WellMade f entry := by
  intro entry hentry
  obtain ⟨item, hitem, sequence, stage, micros, payload, hreads, rfl⟩ :=
    Json.exists_of_forall₂ (parseEntries_eq_ok.mp h) hentry
  have hpayload := (hitems item hitem).get "payload"
  rw [hreads.payload] at hpayload
  exact wellMade_hashed hreads.stamp hpayload

theorem spelled_payloadBytes {passport : TradePassport} (h : ∀ entry ∈ passport, WellMade f entry) :
    Spelled f passport.payloadBytes := by
  have hheld := held_document h
  have hentries : passport.document.sorted.get "entries" =
      .arr ((passport.map TradePassport.contentOf).map Json.sorted) := by
    rw [Json.get_sorted hheld.wellFormed, ← Json.sortedItems_eq]
    rfl
  refine ⟨_, _, Json.load_canonicalBytes hheld, Json.canonicalBytes_sorted _,
    Json.get_sorted hheld.wellFormed "schema_version", hentries, ?_⟩
  intro item hitem
  rw [List.map_map] at hitem
  obtain ⟨entry, hentry, rfl⟩ := List.mem_map.mp hitem
  have hwell := (held_contentOf (h entry hentry).payload).wellFormed
  exact ⟨Json.get_sorted hwell "schema_version", ⟨_, Json.get_sorted hwell "sequence"⟩,
    ⟨_, Json.get_sorted hwell "prev_sha256"⟩,
    ⟨entry.at_, (h entry hentry).stamp, Json.get_sorted hwell "at"⟩⟩

/-- An accepted text that its rebuilt chain writes is spelled so. -/
theorem spelled_of_rebuilt {raw : List UInt8}
    (hvalid : verifyPaperTradePassport f clock raw = some .valid)
    (h : ∃ entries passport, parsePassportBytes f clock raw = .ok entries ∧
      rebuild entries = some passport ∧ passport.payloadBytes = raw) : Spelled f raw := by
  obtain ⟨document, entries, last, hload, haccepted⟩ := accepted_of_verify hvalid
  obtain ⟨found, passport, hfound, hpassport, rfl⟩ := h
  have hparsed := parsePassportBytes_eq_ok.mpr ⟨document, hload, haccepted.parsed⟩
  rw [hparsed] at hfound
  cases hfound
  rw [(rebuild_of_accepted haccepted).1] at hpassport
  cases hpassport
  obtain ⟨-, -, -, items, hitems, hitemsParsed⟩ := parseDocument_eq_ok.mp haccepted.parsed
  have hentries := (Json.held_of_load hload).get "entries"
  rw [hitems, Json.held_arr] at hentries
  exact spelled_payloadBytes (wellMade_of_parseEntries hentries hitemsParsed)

theorem eq_str_of_isText {v : Json} {text : String} (h : v.isText text = true) : v = .str text := by
  cases v with
  | str s => exact congrArg Json.str (beq_iff_eq.mp h)
  | _ => cases h

/-- A spelled item is written as the entry that it is parsed as. -/
theorem canonicalBytes_item {item : Json} {sequence : Int} {stage : PassportStage} {micros : Int}
    {payload : Payload} (hheld : Json.Held f item) (hexact : itemExact item = true)
    (hreads : ItemReads clock item sequence stage micros payload) (hspelled : SpelledItem item) :
    item.canonicalBytes = (TradePassport.contentOf (.hashed sequence stage (.utc micros) payload
      (item.get "prev_sha256").pyStr)).canonicalBytes := by
  simp only [itemExact, Bool.and_eq_true] at hexact
  obtain ⟨⟨hkeys, hschema⟩, -⟩ := hexact
  obtain ⟨hversion, ⟨n, hsequence⟩, ⟨prev, hprev⟩, ⟨t, hstamp, hat⟩⟩ := hspelled
  have hn : n = sequence := by
    have h := hreads.sequence
    rw [hsequence] at h
    exact Except.ok.inj h
  have hmicros : t.micros = micros := by
    have h := hreads.at_
    rw [hat] at h
    exact Option.some.inj ((clock.reads t hstamp).symm.trans h)
  have hutc : utcText (.utc micros) = utcText t := by
    rw [← hmicros]
    rfl
  refine Json.canonicalBytes_of_hasKeys hheld.wellFormed (by simp) hkeys ?_
  simp only [List.mem_cons, List.not_mem_nil, or_false]
  rintro kv (rfl | rfl | rfl | rfl | rfl | rfl | rfl)
  · exact congrArg _ (eq_str_of_isText hschema)
  · exact congrArg _ hversion
  · exact congrArg _ (hsequence.trans (congrArg Json.int hn))
  · exact congrArg _ (PassportStage.value_of_ofValue hreads.stage)
  · exact congrArg _ (hat.trans (congrArg Json.str hutc.symm))
  · exact congrArg _ hreads.payload
  · rw [hprev]
    rfl

theorem payloadBytes_of_spelled {document : Json} {items : List Json} {entries : List PassportEntry}
    {last : String} (hheld : Json.Held f document) (h : Accepted clock document entries last)
    (hversion : document.get "schema_version" = .int 1)
    (hitems : document.get "entries" = .arr items) (hspelled : ∀ item ∈ items, SpelledItem item) :
    TradePassport.payloadBytes entries = document.canonicalBytes := by
  have henvelope := h.envelope
  simp only [envelopeExact, hitems, Bool.and_eq_true, List.all_eq_true] at henvelope
  obtain ⟨⟨⟨⟨hkeys, hschema⟩, -⟩, -⟩, hexact⟩ := henvelope
  have hheldItems : ∀ item ∈ items, Json.Held f item := by
    have hentries := hheld.get "entries"
    rw [hitems] at hentries
    exact Json.held_arr.mp hentries
  obtain ⟨-, -, -, found, hfound, hparsed⟩ := parseDocument_eq_ok.mp h.parsed
  rw [hitems] at hfound
  cases hfound
  have hwritten : ∀ (items : List Json) (entries : List PassportEntry),
      (∀ item ∈ items, Json.Held f item ∧ itemExact item = true ∧ SpelledItem item) →
      List.Forall₂ (fun item entry => ∃ sequence stage micros payload,
        ItemReads clock item sequence stage micros payload ∧
        entry = .hashed sequence stage (.utc micros) payload (item.get "prev_sha256").pyStr)
        items entries →
      items.map Json.canonicalBytes =
        (entries.map TradePassport.contentOf).map Json.canonicalBytes := by
    intro items entries hall hforall
    induction hforall with
    | nil => rfl
    | cons hentry _ ih =>
      obtain ⟨sequence, stage, micros, payload, hreads, rfl⟩ := hentry
      obtain ⟨hheldItem, hexactItem, hspelledItem⟩ := hall _ List.mem_cons_self
      rw [List.map_cons, List.map_cons, List.map_cons,
        canonicalBytes_item hheldItem hexactItem hreads hspelledItem,
        ih fun item hitem => hall item (List.mem_cons_of_mem _ hitem)]
  have harr : (Json.arr items).canonicalBytes =
      (Json.arr (entries.map TradePassport.contentOf)).canonicalBytes := by
    rw [Json.canonicalBytes, Json.canonicalBytes, Json.renderItems_eq, Json.renderItems_eq,
      hwritten items entries (fun item hitem => ⟨hheldItems item hitem, hexact item hitem,
        hspelled item hitem⟩) (parseEntries_eq_ok.mp hparsed)]
  refine Eq.symm ?_
  rw [TradePassport.payloadBytes, TradePassport.document]
  refine Json.canonicalBytes_of_hasKeys hheld.wellFormed (by simp) hkeys ?_
  simp only [List.mem_cons, List.not_mem_nil, or_false]
  rintro kv (rfl | rfl | rfl | rfl)
  · exact congrArg _ (eq_str_of_isText hschema)
  · exact congrArg _ hversion
  · exact (congrArg _ hitems).trans harr
  · rw [h.head, (rebuild_of_accepted h).2]

/-! ### The verdict on a built chain -/

theorem linkFrom_concat {entries : List PassportEntry} {index : Nat} {prev last : String}
    {entry : PassportEntry} (h : linkFrom index prev entries = some last)
    (hsequence : entry.sequence = index + entries.length) (hprev : entry.prevSha256 = last) :
    linkFrom index prev (entries ++ [entry]) = some entry.entrySha256 := by
  induction entries generalizing index prev with
  | nil =>
    cases h
    rw [List.nil_append, linkFrom, if_neg]
    · rfl
    · rw [not_or, not_not, not_not]
      exact ⟨by simpa using hsequence, hprev⟩
  | cons first rest ih =>
    rw [linkFrom] at h
    split_ifs at h with hbroken
    rw [List.cons_append, linkFrom, if_neg hbroken]
    refine ih h ?_
    rw [hsequence, List.length_cons]
    omega

theorem linkFrom_build {steps : List (PassportStage × DateTime × Payload)}
    {passport grown : TradePassport} (h : passport.build steps = some grown)
    (hlinked : linkFrom 0 genesisPrevSha256 (passport.map PassportEntry.asRead) =
      some passport.headSha256) :
    linkFrom 0 genesisPrevSha256 (grown.map PassportEntry.asRead) =
      some (TradePassport.headSha256 grown) := by
  induction steps generalizing passport with
  | nil =>
    cases h
    exact hlinked
  | cons step rest ih =>
    obtain ⟨stage, at_, payload⟩ := step
    obtain ⟨next, hnext, h⟩ := Option.bind_eq_some_iff.mp h
    obtain ⟨-, rfl⟩ := append_eq_some.mp hnext
    refine ih h ?_
    have hhead : ∀ entry : PassportEntry,
        TradePassport.headSha256 (passport ++ [entry]) = entry.entrySha256 := by
      intro entry
      rw [TradePassport.headSha256, List.getLast?_concat]
      rfl
    rw [hhead, List.map_append, List.map_singleton]
    refine linkFrom_concat hlinked ?_ rfl
    rw [List.length_map]
    exact (Int.zero_add _).symm

theorem isLowerHex_headSha256 {passport : TradePassport} (h : ∀ entry ∈ passport, WellMade f entry) :
    isLowerHex 64 passport.headSha256 = true := by
  rw [TradePassport.headSha256]
  cases hlast : passport.getLast? with
  | none => decide
  | some entry =>
    rw [Option.map_some, Option.getD_some, (h entry (List.mem_of_getLast? hlast)).hashed]
    exact Sha256.isLowerHex_hexdigest _

theorem itemExact_contentOf {entry : PassportEntry} (h : WellMade f entry) :
    itemExact (TradePassport.contentOf entry).sorted = true := by
  have hwell := (held_contentOf h.payload).wellFormed
  have hschema : (TradePassport.contentOf entry).sorted.get "schema" = .str passportSchema :=
    Json.get_sorted hwell "schema"
  have hversion : (TradePassport.contentOf entry).sorted.get "schema_version" = .int 1 :=
    Json.get_sorted hwell "schema_version"
  have hkeys : (TradePassport.contentOf entry).sorted.hasKeys entryFields = true := by
    rw [Json.hasKeys_sorted]
    rfl
  rw [itemExact, hkeys, hschema, hversion]
  rfl

theorem envelopeExact_document {passport : TradePassport}
    (h : ∀ entry ∈ passport, WellMade f entry) : envelopeExact passport.document.sorted = true := by
  have hwell := (held_document h).wellFormed
  have hget : ∀ {key : String} {v : Json}, passport.document.get key = v →
      passport.document.sorted.get key = v.sorted := by
    rintro key v rfl
    exact Json.get_sorted hwell key
  have hitems : passport.document.sorted.get "entries" =
      .arr ((passport.map TradePassport.contentOf).map Json.sorted) := by
    rw [hget rfl, ← Json.sortedItems_eq]
    rfl
  have hhead : passport.document.sorted.get "head_sha256" = .str passport.headSha256 := hget rfl
  have hversion : passport.document.sorted.get "schema_version" = .int 1 := hget rfl
  have hschema : passport.document.sorted.get "schema" = .str passportSchema := hget rfl
  have hkeys : passport.document.sorted.hasKeys documentFields = true := by
    rw [Json.hasKeys_sorted]
    rfl
  have hexact : ((passport.map TradePassport.contentOf).map Json.sorted).all itemExact = true := by
    rw [List.map_map, List.all_map, List.all_eq_true]
    exact fun entry hentry => itemExact_contentOf (h entry hentry)
  simp only [envelopeExact, hkeys, hschema, hversion, hhead, hitems, hexact,
    isLowerHex_headSha256 h, Bool.and_true, Bool.true_and]
  rfl

/-- Of a built chain only stages and bindings are in question. -/
theorem verify_payloadBytes {steps : List (PassportStage × DateTime × Payload)}
    {passport : TradePassport} (hsteps : ∀ step ∈ steps, Json.Held f (.obj step.2.2))
    (h : TradePassport.build [] steps = some passport) (hne : passport ≠ []) :
    verifyPaperTradePassport f clock passport.payloadBytes =
      stageVerdict (passport.map PassportEntry.asRead) := by
  have hmade := wellMade_build hsteps (by simp) h
  have hload := Json.load_canonicalBytes (held_document hmade)
  have hparsed : parseDocument clock passport.document.sorted =
      .ok (passport.map PassportEntry.asRead) := by
    obtain ⟨document, hdocument, hentries⟩ :=
      parsePassportBytes_eq_ok.mp (@parsePassportBytes_payloadBytes f clock passport hmade)
    rw [TradePassport.payloadBytes, hload] at hdocument
    cases hdocument
    exact hentries
  have hhead : passport.document.sorted.get "head_sha256" = .str passport.headSha256 :=
    Json.get_sorted (held_document hmade).wellFormed "head_sha256"
  rw [verifyPaperTradePassport, TradePassport.payloadBytes, hload]
  show verifyDocument clock passport.document.sorted = _
  rw [verifyDocument, hparsed]
  show verifyEntries _ _ = _
  rw [verifyEntries, if_neg (by rwa [List.map_eq_nil_iff]), envelopeExact_document hmade,
    if_neg Bool.true_eq_false.mp, linkFrom_build h rfl, hhead]
  exact if_neg (by simp [Json.isText])

/-! ### A canceled run -/

/-- `repr` on literals as they are. -/
def exactRepr : Json.FloatRepr := .literals

def demoDigest : String := String.ofList (List.replicate 64 'a')

def demoRunId : String := paperEventRunId demoDigest

def demoTime : DateTime := .utc (1782918000 * 1000000)

/-- The stages of a run whose opening order was canceled. -/
def canceledSteps : List (PassportStage × DateTime × Payload) :=
  [(.sourceEvidence, demoTime, [("source_manifest_sha256", .str demoDigest)]),
    (.snapshot, demoTime, [("evidence_sha256", .str demoDigest),
      ("snapshot_sha256", .str demoDigest), ("source_manifest_sha256", .str demoDigest)]),
    (.decision, demoTime, [("decision_sha256", .str demoDigest),
      ("direction_authority", .str "BOUNDED_RESEARCH_ONLY"), ("protocol_sha256", .str demoDigest),
      ("snapshot_sha256", .str demoDigest)]),
    (.permit, demoTime, [("data_class", .str "INDICATIVE_DATA"),
      ("decision_sha256", .str demoDigest), ("event_run_id", .str demoRunId),
      ("execution_protocol_sha256", .str demoDigest), ("permit_id", .str "open-1"),
      ("policy_sha256", .str demoDigest), ("run_mode", .str "PAPER"),
      ("snapshot_sha256", .str demoDigest)]),
    (.openSubmission, demoTime, [("event_run_id", .str demoRunId),
      ("open_order_sha256", .str demoDigest), ("open_request_sha256", .str demoDigest),
      ("permit_id", .str "open-1"), ("receipt_sha256", .str demoDigest)]),
    (.finalFlatReconciliation, demoTime, [("authority", .str "SANITIZED_BROKER_RECEIPT"),
      ("event_run_id", .str demoRunId), ("final_flat_observed_at", .str (utcText demoTime)),
      ("lifecycle_outcome", .str "CANCELED_FLAT"), ("receipt_sha256", .str demoDigest)]),
    (.result, demoTime, [("claims", .arr [.str "PAPER_OPERATIONAL_OBSERVATION",
        .str "NOT_ALPHA_EVIDENCE"]),
      ("classification", .str "ZERO_NO_FILL"), ("event_run_id", .str demoRunId),
      ("paper_pnl", .obj [("classification", .str "ZERO_NO_FILL")]),
      ("receipt_sha256", .str demoDigest)])]

theorem held_canceledSteps : ∀ step ∈ canceledSteps, Json.Held exactRepr (.obj step.2.2) := by
  simp only [canceledSteps, List.mem_cons, List.not_mem_nil, or_false]
  rintro step (rfl | rfl | rfl | rfl | rfl | rfl | rfl)
  all_goals exact ⟨by decide, rfl⟩

/-- The run is built and accepted. -/
theorem canceled_valid : ∃ passport, TradePassport.build [] canceledSteps = some passport ∧
    verifyPaperTradePassport exactRepr isoReader passport.payloadBytes = some .valid := by
  have hstamp : IsStamp demoTime := by decide
  obtain ⟨passport, hbuild, hstages⟩ : ∃ passport,
      TradePassport.build [] canceledSteps = some passport ∧ passport ≠ [] ∧
      stageVerdict (passport.map PassportEntry.asRead) = some .valid := by
    simp only [canceledSteps, TradePassport.build, TradePassport.append, if_pos hstamp,
      Option.bind_some]
    refine ⟨_, rfl, by simp, ?_⟩
    decide
  exact ⟨passport, hbuild,
    (verify_payloadBytes held_canceledSteps hbuild hstages.1).trans hstages.2⟩

/-- A built chain is parsed back, and an accepted text is that of the rebuilt chain exactly where it
is spelled as `payload_bytes` spells it. -/
theorem passportFormat_iff (f : Json.FloatRepr) (clock : InstantReader) :
    (∀ steps passport, (∀ step ∈ steps, Json.Held f (.obj step.2.2)) →
      TradePassport.build [] steps = some passport →
      parsePassportBytes f clock passport.payloadBytes =
        .ok (passport.map PassportEntry.asRead)) ∧
    ∀ raw, verifyPaperTradePassport f clock raw = some .valid →
      ((∃ entries passport, parsePassportBytes f clock raw = .ok entries ∧
        rebuild entries = some passport ∧ passport.payloadBytes = raw) ↔ Spelled f raw) := by
  refine ⟨fun steps passport hsteps hbuild => parsePassportBytes_payloadBytes
    (wellMade_build hsteps (by simp) hbuild), fun raw hvalid => ⟨spelled_of_rebuilt hvalid, ?_⟩⟩
  obtain ⟨document, entries, last, hload, haccepted⟩ := accepted_of_verify hvalid
  rintro ⟨spelled, items, hspelledLoad, hraw, hversion, hitems, hspelled⟩
  rw [hload] at hspelledLoad
  cases hspelledLoad
  exact ⟨entries, entries, parsePassportBytes_eq_ok.mpr ⟨document, hload, haccepted.parsed⟩,
    (rebuild_of_accepted haccepted).1, (payloadBytes_of_spelled (Json.held_of_load hload) haccepted
      hversion hitems hspelled).trans hraw⟩

theorem passportFormat_canceled : ∃ passport,
    TradePassport.build [] canceledSteps = some passport ∧
    parsePassportBytes exactRepr isoReader passport.payloadBytes =
      .ok (passport.map PassportEntry.asRead) ∧
    ∃ entries rebuilt, parsePassportBytes exactRepr isoReader passport.payloadBytes = .ok entries ∧
      rebuild entries = some rebuilt ∧
      TradePassport.payloadBytes rebuilt = passport.payloadBytes := by
  obtain ⟨passport, hbuild, hvalid⟩ := canceled_valid
  have hmade := wellMade_build held_canceledSteps (by simp) hbuild
  exact ⟨passport, hbuild,
    (passportFormat_iff exactRepr isoReader).1 _ _ held_canceledSteps hbuild,
    ((passportFormat_iff exactRepr isoReader).2 _ hvalid).mpr (spelled_payloadBytes hmade)⟩

/-- A passport with a newline at its end is accepted, and no chain writes it. -/
theorem verify_trailingNewline : ∃ passport,
    TradePassport.build [] canceledSteps = some passport ∧
    verifyPaperTradePassport exactRepr isoReader (passport.payloadBytes ++ [10]) = some .valid ∧
    ¬ ∃ entries rebuilt,
      parsePassportBytes exactRepr isoReader (passport.payloadBytes ++ [10]) = .ok entries ∧
      rebuild entries = some rebuilt ∧
      TradePassport.payloadBytes rebuilt = passport.payloadBytes ++ [10] := by
  obtain ⟨passport, hbuild, hvalid⟩ := canceled_valid
  have hmade := wellMade_build held_canceledSteps (by simp) hbuild
  have hheld := held_document hmade
  have hblank : ∀ b ∈ [(10 : UInt8)], Json.isBlank b = true := List.forall_mem_singleton.mpr rfl
  have hload : Json.load exactRepr (passport.payloadBytes ++ [10]) =
      Json.load exactRepr passport.payloadBytes := by
    rw [TradePassport.payloadBytes, Json.load_append_blank hheld hblank,
      Json.load_canonicalBytes hheld]
  have hvalid' : verifyPaperTradePassport exactRepr isoReader (passport.payloadBytes ++ [10]) =
      some .valid := by
    rw [verifyPaperTradePassport, hload]
    exact hvalid
  refine ⟨passport, hbuild, hvalid', fun hrebuilt => ?_⟩
  obtain ⟨document, -, hdocument, hbytes, -⟩ := spelled_of_rebuilt hvalid' hrebuilt
  rw [hload, TradePassport.payloadBytes, Json.load_canonicalBytes hheld] at hdocument
  cases hdocument
  rw [Json.canonicalBytes_sorted] at hbytes
  have hlength : passport.payloadBytes.length = (passport.payloadBytes ++ [10]).length :=
    congrArg List.length hbytes
  rw [List.length_append, List.length_singleton] at hlength
  omega

end EsscherMarket.Passport
