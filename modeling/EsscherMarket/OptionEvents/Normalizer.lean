import EsscherMarket.Lib.JsonFloat
import EsscherMarket.OptionEvents.Records

/-!
# The normalizer of account activities

`normalize_account_activities` of `sourcedata/alpaca_option_events.py`: every raw activity is made
an event, skipped, or routed to a human.  Every event of a run was made of one of the raw activities
(`events_of_normalize`).
-/

namespace EsscherMarket.OptionEvents

open Lib Strategy Execution

/-! ### The normalizer -/

def mappedActivityTypes : List (String × OptionEventKind) :=
  [("OPASN", .assignment), ("OPEXC", .exercise), ("OPEXP", .expiry)]

def manualActivityTypes : List String := ["OPCA", "OPCSH"]

def skippedActivityTypes : List String :=
  ["ACATC", "ACATS", "CFEE", "CGD", "CSD", "CSW", "DIV", "DIVCGL", "DIVCGS", "DIVFEE", "DIVFT",
    "DIVNRA", "DIVROC", "DIVTW", "DIVTXEX", "FEE", "FILL", "FOPT", "INT", "INTNRA", "INTTW", "JNL",
    "JNLC", "JNLS", "MA", "MISC", "NC", "OCT", "OPTRD", "PTC", "PTR", "REO", "REORG", "SPIN",
    "SPLIT", "TRANS"]

def requiredActivityFields : List String := ["activity_type", "id", "transaction_time"]

def mappedActivityExtraFields : List String := ["date", "qty", "symbol"]

def allowedActivityFields : List String :=
  requiredActivityFields ++ mappedActivityExtraFields ++ ["cash", "description", "net_amount",
    "order_id", "per_share", "price", "shares", "side", "type"]

/-- The reasons for which one raw activity routes to manual reconciliation. -/
inductive ActivityNormalizationReason where
  | unknownActivityType
  | unmappableActivityType
  | unknownActivityField
  | missingActivityField
  | malformedActivityId
  | malformedQty
  | malformedTimestamp
  | malformedEffectiveDate
  | symbolNotOcc
  | outOfWindow
  | duplicateActivityConflict
  deriving DecidableEq, Repr

structure ActivityManualRoute where
  reason : ActivityNormalizationReason
  sourcePayloadSha256 : String
  activityId : Option String
  deriving DecidableEq, Repr

structure ActivityAcquisition where
  windowStart : Int
  windowEnd : Int
  pages : List (List UInt8)

/-- The other arguments of `normalize_account_activities`. -/
structure NormalizerArguments where
  accountFingerprintSha256 : String
  executionProtocolSha256 : String
  evidenceClass : EvidenceClass

/-- What is read of the standard library: floats, timestamps with an offset (in microseconds) and
calendar dates. -/
structure ActivityReaders where
  floats : Json.FloatRepr
  timestamp : String → Option Int
  date : String → Option Date

def fieldNames : Json → List String
  | .obj fields => fields.map Prod.fst
  | _ => []

def positiveIntQty : Json → Option Nat
  | .int n => if 0 < n then some n.toNat else none
  | .str s =>
    if s.toList ≠ [] ∧ s.toList.all Char.isDigit ∧ 0 < digitsValue s.toList then
      some (digitsValue s.toList)
    else none
  | _ => none

structure MappedActivity where
  kind : OptionEventKind
  observedAt : Int
  effectiveDate : Date
  symbol : String
  parts : OccParts
  contracts : Nat

/-- The fields of a mapped activity, or why it goes to a human. -/
def readMapped (readers : ActivityReaders) (acquisition : ActivityAcquisition)
    (kind : OptionEventKind) (raw : Json) : Except ActivityNormalizationReason MappedActivity := do
  throwIf (¬mappedActivityExtraFields.all fun name => (raw.field? name).isSome)
    .missingActivityField
  let observedAt ← (match raw.get "transaction_time" with
    | .str s => readers.timestamp s
    | _ => none).elim (.error .malformedTimestamp) .ok
  throwIf (¬(acquisition.windowStart ≤ observedAt ∧ observedAt ≤ acquisition.windowEnd))
    .outOfWindow
  let effectiveDate ← (match raw.get "date" with
    | .str s => readers.date s
    | _ => none).elim (.error .malformedEffectiveDate) .ok
  match raw.get "symbol" with
  | .str symbol =>
    let parts ← ((parseOcc symbol).filter fun parts => decide (0 < parts.strike)).elim
      (.error .symbolNotOcc) .ok
    let contracts ← (positiveIntQty (raw.get "qty")).elim (.error .malformedQty) .ok
    return ⟨kind, observedAt, effectiveDate, symbol, parts, contracts⟩
  | _ => .error .symbolNotOcc

/-- `Decimal(digits) / Decimal(1000)`. -/
def occStrike (parts : OccParts) : Decimal :=
  (Decimal.ofInt (parts.strike * 1000).num).div (.ofNat 1000)

def activityShareDelta (m : MappedActivity) : Decimal :=
  if m.kind = .expiry then .ofNat 0
  else
    let delta := (Decimal.ofNat m.contracts).times (.ofNat 100)
    let delta := if m.kind = .exercise then delta else delta.neg
    if m.parts.optionType = .put then delta.neg else delta

def activityEventFields (arguments : NormalizerArguments) (activityId payloadSha : String)
    (m : MappedActivity) : EventFields where
  activityId
  kind := m.kind
  status := .executed
  optionSymbol := m.symbol
  contracts := m.contracts
  effectiveDate := m.effectiveDate
  observedAt := m.observedAt
  accountFingerprintSha256 := arguments.accountFingerprintSha256
  executionProtocolSha256 := arguments.executionProtocolSha256
  underlyingSymbol := m.parts.root
  underlyingQuantityDelta := activityShareDelta m
  cashDelta := ((activityShareDelta m).times (occStrike m.parts)).neg
  replacementSymbol := none
  sourcePayloadSha256 := payloadSha
  evidenceClass := arguments.evidenceClass

structure NormalizerState where
  events : List NormalizedOptionEvent
  skipped : List String
  manual : List ActivityManualRoute
  duplicates : Nat
  seen : List (String × String)

namespace NormalizerState

def seenSha (s : NormalizerState) (activityId : String) : Option String :=
  (s.seen.find? fun item => item.1 == activityId).map Prod.snd

/-- `manual.append(_manual(reason, raw))`. -/
def route (s : NormalizerState) (reason : ActivityNormalizationReason) (raw : Json) :
    NormalizerState :=
  let activityId := match raw.get "id" with
    | .str s => if s = "" then none else some s
    | _ => none
  { s with manual := s.manual ++ [⟨reason, raw.sha256, activityId⟩] }

def skip (s : NormalizerState) (activityId : String) (raw : Json) : NormalizerState :=
  match s.seenSha activityId with
  | some payloadSha =>
    if payloadSha ≠ raw.sha256 then s.route .duplicateActivityConflict raw
    else if s.skipped.contains activityId then { s with duplicates := s.duplicates + 1 }
    else { s with skipped := s.skipped ++ [activityId] }
  | none =>
    let s := { s with seen := s.seen ++ [(activityId, raw.sha256)] }
    if s.skipped.contains activityId then { s with duplicates := s.duplicates + 1 }
    else { s with skipped := s.skipped ++ [activityId] }

end NormalizerState

/-- One raw activity; `none` where the event cannot be created. -/
def normalizeActivity (readers : ActivityReaders) (acquisition : ActivityAcquisition)
    (arguments : NormalizerArguments) (s : NormalizerState) (raw : Json) :
    Option NormalizerState :=
  match raw.get "id", raw.get "activity_type" with
  | .str activityId, .str activityType =>
    if activityId = "" then some (s.route .malformedActivityId raw)
    else if ¬(fieldNames raw).all allowedActivityFields.contains then
      some (s.route .unknownActivityField raw)
    else if ¬requiredActivityFields.all fun name => (raw.field? name).isSome then
      some (s.route .missingActivityField raw)
    else if manualActivityTypes.contains activityType then
      some (s.route .unmappableActivityType raw)
    else if skippedActivityTypes.contains activityType then some (s.skip activityId raw)
    else match mappedActivityTypes.find? fun item => item.1 == activityType with
      | none => some (s.route .unknownActivityType raw)
      | some (_, kind) =>
        match readMapped readers acquisition kind raw with
        | .error reason => some (s.route reason raw)
        | .ok mapped =>
          match s.seenSha activityId with
          | some payloadSha =>
            if payloadSha ≠ raw.sha256 then some (s.route .duplicateActivityConflict raw)
            else some { s with duplicates := s.duplicates + 1 }
          | none =>
            (NormalizedOptionEvent.create
              (activityEventFields arguments activityId raw.sha256 mapped)).map fun event =>
                { s with
                  events := s.events ++ [event]
                  seen := s.seen ++ [(activityId, raw.sha256)] }
  | .str activityId, _ =>
    some (s.route (if activityId = "" then .malformedActivityId else .unknownActivityType) raw)
  | _, _ => some (s.route .malformedActivityId raw)

/-- `_validate_page_items(json.loads(raw_page))`. -/
def pageItems (readers : ActivityReaders) (page : List UInt8) : Option (List Json) :=
  match (Json.loads page).bind (Json.readFloats readers.floats) with
  | some (.arr items) => if items.all Json.isObject then some items else none
  | _ => none

/-- `normalize_account_activities`: what its loop has gathered, with the events by their ids;
`none` where it raises. -/
def normalizeAccountActivities (readers : ActivityReaders) (acquisition : ActivityAcquisition)
    (arguments : NormalizerArguments) : Option NormalizerState := do
  let items ← acquisition.pages.mapM (pageItems readers)
  let s ← items.flatten.foldlM (normalizeActivity readers acquisition arguments)
    ⟨[], [], [], 0, []⟩
  return { s with events := orderedEvents s.events }

/-! ### The events of a run of the normalizer -/

/-- What the normalizer knows of the event it makes. -/
structure FromActivity (event : EventFields) (m : MappedActivity) : Prop where
  kind : event.kind = m.kind
  mapped : m.kind = .assignment ∨ m.kind = .exercise ∨ m.kind = .expiry
  symbol : event.optionSymbol = m.symbol
  occ : parseOcc m.symbol = some m.parts
  contracts : event.contracts = m.contracts
  shares : event.underlyingQuantityDelta = activityShareDelta m
  cash : event.cashDelta = ((activityShareDelta m).times (occStrike m.parts)).neg

structure MadeOf (event : NormalizedOptionEvent) (raw : Json) : Prop where
  id : raw.get "id" = .str event.fields.activityId
  activityType : ∃ code, raw.get "activity_type" = .str code ∧
    (code, event.fields.kind) ∈ mappedActivityTypes
  symbol : raw.get "symbol" = .str event.fields.optionSymbol
  qty : positiveIntQty (raw.get "qty") = some event.fields.contracts
  mapped : ∃ m, FromActivity event.fields m

theorem readMapped_ok {readers : ActivityReaders} {acquisition : ActivityAcquisition}
    {kind : OptionEventKind} {raw : Json} {m : MappedActivity}
    (h : readMapped readers acquisition kind raw = .ok m) :
    m.kind = kind ∧ raw.get "symbol" = .str m.symbol ∧ parseOcc m.symbol = some m.parts ∧
      positiveIntQty (raw.get "qty") = some m.contracts := by
  rw [readMapped] at h
  obtain ⟨_, -, h⟩ := except_bind_eq_ok.mp h
  obtain ⟨observedAt, -, h⟩ := except_bind_eq_ok.mp h
  obtain ⟨_, -, h⟩ := except_bind_eq_ok.mp h
  obtain ⟨effectiveDate, -, h⟩ := except_bind_eq_ok.mp h
  split at h
  · rename_i symbol hsymbol
    obtain ⟨parts, hparts, h⟩ := except_bind_eq_ok.mp h
    obtain ⟨contracts, hcontracts, h⟩ := except_bind_eq_ok.mp h
    cases h
    have hocc : parseOcc symbol = some parts := by
      cases hfilter : (parseOcc symbol).filter fun parts => decide (0 < parts.strike) with
      | none => rw [hfilter] at hparts; cases hparts
      | some found =>
        rw [hfilter] at hparts
        cases hparts
        exact (Option.filter_eq_some_iff.mp hfilter).1
    have hqty : positiveIntQty (raw.get "qty") = some contracts := by
      cases hfound : positiveIntQty (raw.get "qty") with
      | none => rw [hfound] at hcontracts; cases hcontracts
      | some found => rw [hfound] at hcontracts; cases hcontracts; rfl
    exact ⟨rfl, hsymbol, hocc, hqty⟩
  · cases h

theorem normalizeActivity_events {readers : ActivityReaders} {acquisition : ActivityAcquisition}
    {arguments : NormalizerArguments} {s s' : NormalizerState} {raw : Json}
    (h : normalizeActivity readers acquisition arguments s raw = some s') :
    s'.events = s.events ∨ ∃ event, MadeOf event raw ∧ s'.events = s.events ++ [event] := by
  have hskip : ∀ activityId, (s.skip activityId raw).events = s.events := by
    intro activityId
    rw [NormalizerState.skip]
    split
    · split_ifs <;> rfl
    · dsimp only
      split_ifs <;> rfl
  rw [normalizeActivity] at h
  split at h
  · rename_i activityId activityType hid htype
    split at h
    · cases h; exact .inl rfl
    split at h
    · cases h; exact .inl rfl
    split at h
    · cases h; exact .inl rfl
    split at h
    · cases h; exact .inl rfl
    split at h
    · cases h; exact .inl (hskip activityId)
    · split at h
      · cases h; exact .inl rfl
      · rename_i code kind hfind
        split at h
        · cases h; exact .inl rfl
        · rename_i mapped hmapped
          split at h
          · split_ifs at h <;> (cases h; exact .inl rfl)
          · obtain ⟨event, hcreate, rfl⟩ := Option.map_eq_some_iff.mp h
            rw [NormalizedOptionEvent.create] at hcreate
            split_ifs at hcreate with hcheck
            cases hcreate
            obtain ⟨hkind, hsymbol, hocc, hqty⟩ := readMapped_ok hmapped
            have hcode : code = activityType := by simpa using List.find?_some hfind
            have hmem : (activityType, kind) ∈ mappedActivityTypes :=
              hcode ▸ List.mem_of_find?_eq_some hfind
            have hkinds : ∀ item ∈ mappedActivityTypes,
                item.2 = .assignment ∨ item.2 = .exercise ∨ item.2 = .expiry := by decide
            refine .inr ⟨_, ⟨hid, ⟨activityType, htype, ?_⟩, hsymbol, hqty, mapped, ?_⟩, rfl⟩
            · show (activityType, mapped.kind) ∈ mappedActivityTypes
              rw [hkind]
              exact hmem
            · exact ⟨rfl, hkind ▸ hkinds _ hmem, rfl, hocc, rfl, rfl, rfl⟩
  · cases h; exact .inl rfl
  · cases h; exact .inl rfl

theorem events_of_foldlM {readers : ActivityReaders} {acquisition : ActivityAcquisition}
    {arguments : NormalizerArguments} {items : List Json} {s s' : NormalizerState}
    (h : items.foldlM (normalizeActivity readers acquisition arguments) s = some s') :
    ∀ event ∈ s'.events, event ∈ s.events ∨ ∃ raw ∈ items, MadeOf event raw := by
  induction items generalizing s with
  | nil =>
    cases h
    exact fun event hevent => .inl hevent
  | cons raw items ih =>
    rw [List.foldlM_cons] at h
    obtain ⟨t, hstep, h⟩ := Option.bind_eq_some_iff.mp h
    intro event hevent
    rcases ih h event hevent with hold | ⟨later, hlater, hmade⟩
    · rcases normalizeActivity_events hstep with heq | ⟨new, hmade, heq⟩
      · exact .inl (heq ▸ hold)
      · rw [heq, List.mem_append, List.mem_singleton] at hold
        rcases hold with hold | rfl
        · exact .inl hold
        · exact .inr ⟨raw, List.mem_cons_self, hmade⟩
    · exact .inr ⟨later, List.mem_cons_of_mem _ hlater, hmade⟩

def rawActivities (readers : ActivityReaders) (acquisition : ActivityAcquisition) : List Json :=
  ((acquisition.pages.mapM (pageItems readers)).getD []).flatten

theorem events_of_normalize {readers : ActivityReaders} {acquisition : ActivityAcquisition}
    {arguments : NormalizerArguments} {s : NormalizerState}
    (h : normalizeAccountActivities readers acquisition arguments = some s) :
    ∀ event ∈ s.events, ∃ raw ∈ rawActivities readers acquisition, MadeOf event raw := by
  obtain ⟨items, hitems, h⟩ := Option.bind_eq_some_iff.mp h
  obtain ⟨t, hfold, h⟩ := Option.bind_eq_some_iff.mp h
  cases h
  intro event hevent
  have hmem : event ∈ t.events := List.mem_mergeSort.mp hevent
  rw [rawActivities, hitems]
  rcases events_of_foldlM hfold event hmem with hnone | hmade
  · cases hnone
  · exact hmade

end EsscherMarket.OptionEvents
