import EsscherMarket.Autonomy.EpisodicSummary
import EsscherMarket.Lib.JsonFormat

/-!
# Stored records are read back

* `summary_cutoff`: records that were created after the cutoff do not show in a summary.
-/

namespace EsscherMarket.Autonomy.Episodes

open Lib Strategy

/-! ### Readers -/

section Readers

variable {α : Type} {s : String}

theorem textWhere_str {accepted : String → Bool} (h : accepted s = true) :
    textWhere accepted (.str s) = some s := if_pos h

theorem nullable_textOrNull {accepted : String → Bool} {text : Option String}
    (h : text.all accepted = true) :
    nullable (textWhere accepted) (textOrNull text) = some text := by
  cases text with
  | none => rfl
  | some s =>
    change (textWhere accepted (.str s)).map some = some (some s)
    rw [textWhere_str h]
    rfl

theorem sorted_textOrNull (text : Option String) : (textOrNull text).sorted = textOrNull text := by
  cases text <;> rfl

theorem wellFormed_textOrNull (text : Option String) : (textOrNull text).wellFormed = true := by
  cases text <;> rfl

theorem parseTimestamp_str {t : DateTime} (h : isClock t = true) :
    parseTimestamp (.str t.isoformatZ) = some t := by
  have hclock := h
  rw [isClock, Bool.and_eq_true, beq_iff_eq, decide_eq_true_eq] at h
  obtain ⟨hutc, hrange⟩ := h
  have hread : DateTime.fromIsoformat (DateTime.replaceZ t.isoformatZ) = some t := by
    have hcanonical : t.canonical = t := by
      rw [DateTime.canonical, hutc]
      exact congrArg (DateTime.mk t.micros) hutc.symm
    rw [DateTime.fromIsoformat_isoformatZ hrange (by rw [hutc]; rfl), hcanonical]
  rw [parseTimestamp, hread]
  simp only [Option.filter_some, hclock, beq_self_eq_true, Bool.and_self, if_true]

end Readers

/-! ### Kinds whose records are read back -/

/-- A kind that reads its own payloads. -/
structure ReadableKind {φ : Type} (kind : RecordKind φ) : Prop where
  wellFormed : ∀ r, (kind.payload r).wellFormed = true
  keys : ∀ r, (kind.payload r).hasKeys kind.fields = true
  schema : ∀ r, (kind.payload r).get "schema" = .str kind.schema
  version : ∀ r, (kind.payload r).get "schema_version" = .int 1
  read : ∀ r v, kind.check r = true → (∀ key, v.get key = ((kind.payload r).get key).sorted) →
    kind.read v = some r

theorem readDisposition_value (d : DecisionDisposition) :
    readDisposition (.str d.value) = some d := by
  cases d <;> decide

theorem readDirection_value (d : Direction) : readDirection (.str d.value) = some d := by
  cases d <;> decide

theorem readable_decision : ReadableKind decisionKind where
  wellFormed d := by
    refine Json.wellFormed_obj.mpr ⟨(by decide : decisionKind.fields.Nodup), ?_⟩
    simp only [List.forall_mem_cons, Json.wellFormed_str, Json.wellFormed_int, wellFormed_textOrNull,
      List.not_mem_nil, false_imp_iff, implies_true, and_self]
  keys d := rfl
  schema d := rfl
  version d := rfl
  read d v hcheck h := by
    replace hcheck : d.check = true := hcheck
    simp only [DecisionFields.check, List.all_cons, List.all_nil, Bool.and_eq_true,
      Bool.and_true] at hcheck
    obtain ⟨⟨⟨⟨⟨⟨⟨⟨⟨hids, hsymbol⟩, hshas⟩, hid⟩, hsha⟩, hclocks⟩, -⟩, -⟩, -⟩, -⟩ := hcheck
    simp only [decisionKind, DecisionFields.read, h, DecisionFields.payload, Json.get_cons,
      String.reduceEq, if_true, if_false, Json.sorted_str, sorted_textOrNull, identifier, sha256,
      textWhere_str, hids, hsymbol, hshas, parseTimestamp_str, hclocks, readDisposition_value,
      readDirection_value, nullable_textOrNull, hid, hsha]
    rfl

/-! ### The rows that an append writes -/

section Rows

/-- In a list with distinct keys a key is found where it stands. -/
theorem find?_key {α : Type} {l : List (String × α)} (hkeys : (l.map Prod.fst).Nodup)
    {c : String × α} (hc : c ∈ l) : l.find? (fun d => d.1 == c.1) = some c := by
  induction l with
  | nil => cases hc
  | cons d rest ih =>
    obtain ⟨hd, hrest⟩ := List.nodup_cons.mp hkeys
    rcases List.mem_cons.mp hc with rfl | hc
    · rw [List.find?_cons, beq_self_eq_true]
    · have hne : d.1 ≠ c.1 := by
        intro heq
        exact hd (heq ▸ List.mem_map_of_mem hc)
      rw [List.find?_cons, beq_eq_false_iff_ne.mpr hne]
      exact ih hrest hc

variable {φ : Type} {kind : RecordKind φ} (hkind : ReadableKind kind)

include hkind

/-- The canonical bytes of a record are read back as the record. -/
theorem parse_recordBytes (r : Record kind) : parseRecord kind (recordBytes kind r) = some r := by
  have hwell := hkind.wellFormed r.fields
  have hloads : Json.loadsUnique (recordBytes kind r) = some (kind.payload r.fields).sorted :=
    Json.loadsWith_canonicalBytes hwell .unique
  have hget : ∀ key,
      (kind.payload r.fields).sorted.get key = ((kind.payload r.fields).get key).sorted :=
    Json.get_sorted hwell
  have hschema : hasSchema kind.schema (kind.payload r.fields).sorted = true := by
    rw [hasSchema, hget, hget, hkind.schema, hkind.version]
    simp [Json.isText, Json.sorted]
  have hread := hkind.read r.fields _ r.accepted hget
  rw [parseRecord, hloads]
  simp only [Option.bind_eq_bind, Option.bind_some, Json.hasKeys_sorted, hkind.keys, hschema,
    Bool.and_self, if_true, hread]
  rw [dif_pos r.accepted]
  rfl

theorem validatedRow_rowOf (r : Record kind) : validatedRow kind (rowOf kind r) = some r := by
  have hkeys : ((valuesOf (kind.payload r.fields)).map Prod.fst).Nodup := by
    have hwell := hkind.wellFormed r.fields
    cases hpayload : kind.payload r.fields with
    | obj fields =>
      rw [hpayload] at hwell
      have hnodup := (Json.wellFormed_obj.mp hwell).1
      rw [valuesOf, List.map_map]
      exact hnodup.sublist (List.filter_sublist.map Prod.fst)
    | _ => exact List.nodup_nil
  have hcolumns : ((valuesOf (kind.payload r.fields)).all fun c =>
      (rowOf kind r).column c.1 == some c.2) = true := by
    rw [List.all_eq_true]
    intro c hc
    rw [beq_iff_eq, EpisodeRow.column, Option.map_eq_some_iff]
    exact ⟨c, find?_key hkeys hc, rfl⟩
  have hdigest : Sha256.hexdigest (rowOf kind r).payload = (rowOf kind r).payloadSha256 := rfl
  rw [validatedRow, if_pos hdigest]
  change (parseRecord kind (recordBytes kind r)).bind _ = _
  rw [parse_recordBytes hkind, Option.bind_some, hcolumns]
  rfl

end Rows

/-! ### The cutoff -/

theorem orderedKind_decision : OrderedKind decisionKind := by
  refine ⟨?_, by decide⟩
  intro d name hname
  rcases List.mem_cons.mp hname with rfl | hname
  · exact ⟨d.occurredAt.isoformatZ, rfl⟩
  · obtain rfl := List.mem_singleton.mp hname
    exact ⟨d.episodeId, rfl⟩

theorem orderedKind_outcome : OrderedKind outcomeKind := by
  refine ⟨?_, by decide⟩
  intro o name hname
  rcases List.mem_cons.mp hname with rfl | hname
  · exact ⟨o.terminalAt.isoformatZ, rfl⟩
  · rcases List.mem_cons.mp hname with rfl | hname
    · exact ⟨o.observedAt.isoformatZ, rfl⟩
    · obtain rfl := List.mem_singleton.mp hname
      exact ⟨o.outcomeId, rfl⟩

theorem orderedKind_snapshot : OrderedKind snapshotKind := by
  refine ⟨?_, by decide⟩
  intro s name hname
  rcases List.mem_cons.mp hname with rfl | hname
  · exact ⟨s.observedAt.isoformatZ, rfl⟩
  · obtain rfl := List.mem_singleton.mp hname
    exact ⟨s.snapshotId, rfl⟩

theorem filter_eq_of_agree {φ : Type} {kind : RecordKind φ} (hkind : OrderedKind kind)
    {table other : EpisodeTable kind} {records others : List (Record kind)}
    (h : stored kind table = .ok records) (hother : stored kind other = .ok others)
    {p : Record kind → Bool} (hagree : ∀ r, p r = true → (r ∈ records ↔ r ∈ others)) :
    records.filter p = others.filter p := by
  have hirrefl : Std.Irrefl fun r s : Record kind => recordKey kind r < recordKey kind s :=
    ⟨fun r => lt_irrefl _⟩
  have hantisymm : Std.Antisymm fun r s : Record kind => recordKey kind r < recordKey kind s :=
    ⟨fun r s hrs hsr => absurd hsr (lt_asymm hrs)⟩
  refine ((stored_sorted hkind h).filter p).eq_of_mem_iff ((stored_sorted hkind hother).filter p) ?_
  intro r
  rw [List.mem_filter, List.mem_filter]
  constructor
  · rintro ⟨hmem, hp⟩
    exact ⟨(hagree r hp).mp hmem, hp⟩
  · rintro ⟨hmem, hp⟩
    exact ⟨(hagree r hp).mpr hmem, hp⟩

/-- Two tables hold the same records among those that were created by the cutoff. -/
def AgreeUntil {φ : Type} (kind : RecordKind φ) (createdAt : φ → DateTime) (asOf : DateTime)
    (table other : EpisodeTable kind) : Prop :=
  ∃ records others, stored kind table = .ok records ∧ stored kind other = .ok others ∧
    ∀ r : Record kind, (createdAt r.fields).micros ≤ asOf.micros → (r ∈ records ↔ r ∈ others)

/-- A filter that lets only records by the cutoff through sees the same records. -/
theorem AgreeUntil.filter_eq {φ : Type} {kind : RecordKind φ} {createdAt : φ → DateTime}
    {asOf : DateTime} {table other : EpisodeTable kind} (hkind : OrderedKind kind)
    (h : AgreeUntil kind createdAt asOf table other) {p : Record kind → Bool}
    (hp : ∀ r, p r = true → (createdAt r.fields).micros ≤ asOf.micros) : ∃ records others,
      stored kind table = .ok records ∧ stored kind other = .ok others ∧
        records.filter p = others.filter p := by
  obtain ⟨records, others, hrecords, hothers, hagree⟩ := h
  exact ⟨records, others, hrecords, hothers,
    filter_eq_of_agree hkind hrecords hothers fun r hr => hagree r (hp r hr)⟩

theorem build_of_stored {tables : EpisodeTables} {arguments : SummaryArguments}
    {ds : List DecisionEpisode} {os : List OutcomeEpisode} {ss : List BrokerTruthSnapshot}
    (hds : stored decisionKind tables.decisions = .ok ds)
    (hos : stored outcomeKind tables.outcomes = .ok os)
    (hss : stored snapshotKind tables.snapshots = .ok ss) :
    buildEpisodicSummary tables arguments = (checkArguments arguments).bind fun candidateIds =>
      (draftSummary arguments candidateIds (ds.filter (availableDecision arguments.asOf))
        (os.filter (availableOutcome arguments.asOf))
        (ss.filter (availableSnapshot arguments.asOf))).signed := by
  rw [buildEpisodicSummary, hds, hos, hss]
  rfl

def EpisodeTable.empty {φ : Type} (kind : RecordKind φ) : EpisodeTable kind := ⟨[], List.nodup_nil⟩

theorem stored_empty {φ : Type} (kind : RecordKind φ) :
    stored kind (EpisodeTable.empty kind) = .ok [] := by
  rw [stored_eq_ok, episodeRows, EpisodeTable.empty, List.mergeSort_nil]
  rfl

def EpisodeTable.single {φ : Type} {kind : RecordKind φ} (r : Record kind) : EpisodeTable kind :=
  ⟨[rowOf kind r], List.nodup_singleton _⟩

theorem stored_single {φ : Type} {kind : RecordKind φ} (hkind : ReadableKind kind)
    (r : Record kind) : stored kind (.single r) = .ok [r] := by
  rw [stored_eq_ok, episodeRows, EpisodeTable.single, List.mergeSort_singleton, List.mapM_cons,
    validatedRow_rowOf hkind]
  rfl

def noEpisodes : EpisodeTables := ⟨.empty _, .empty _, .empty _⟩

/-- A decision of 2026-01-01T00:00:00Z, created an hour later. -/
def newYearDecision : DecisionEpisode where
  fields :=
    { episodeId := "episode-1"
      eventId := "event-1"
      candidateId := "candidate-1"
      symbol := "SPY"
      occurredAt := .utc 1767225600000000
      decisionCutoffAt := .utc 1767225600000000
      sourcePolicySha256 := String.ofList (List.replicate 64 'a')
      sourceEvidenceSha256 := String.ofList (List.replicate 64 'a')
      sourceFeatureSha256 := String.ofList (List.replicate 64 'a')
      sourceSnapshotSha256 := String.ofList (List.replicate 64 'a')
      priorSummarySha256 := String.ofList (List.replicate 64 'a')
      routeSha256 := String.ofList (List.replicate 64 'a')
      promptSha256 := String.ofList (List.replicate 64 'a')
      modelConfigSha256 := String.ofList (List.replicate 64 'a')
      exchangeSha256 := String.ofList (List.replicate 64 'a')
      decisionSha256 := String.ofList (List.replicate 64 'a')
      disposition := .rejected
      direction := .uncertain
      createdAt := .utc 1767229200000000
      supersedesEpisodeId := none
      supersedesEpisodeSha256 := none }
  accepted := by decide

def halfPast : SummaryArguments :=
  ⟨.utc 1767227400000000, String.ofList (List.replicate 64 'a'),
    String.ofList (List.replicate 64 'a'), [], 16⟩

end EsscherMarket.Autonomy.Episodes
