import EsscherMarket.OptionEvents.Parsers

/-!
# The identity of an artifact

An artifact whose decimals are numbers of the default context is read back from its bytes, and
another such artifact has other bytes.  A decimal of more digits is rounded when it is written: the
artifact shares its bytes with one of other numbers.
-/

namespace EsscherMarket.OptionEvents

open Lib Strategy Execution

/-! ### Decimals -/

@[irreducible] def reread (d : Decimal) : Decimal := ((readDecimal (.str (decimalText d))).getD d)

def Readable (d : Decimal) : Prop := readDecimal (.str (decimalText d)) = some (reread d)

theorem readDecimal_decimalText {d a : Decimal} :
    readDecimal (.str (decimalText d)) = some a ↔ Readable d ∧ a = reread d := by
  rw [Readable, reread]
  cases readDecimal (.str (decimalText d)) with
  | none => exact ⟨fun h => (by cases h), fun h => (by cases h.1)⟩
  | some b =>
    rw [Option.getD_some, Option.some.injEq]
    exact ⟨fun h => ⟨rfl, h.symm⟩, fun h => h.2.symm⟩

theorem isWritable_of_fits {d : Decimal} (hd : d.isFinite) (h : Decimal.Fits d.toRat) :
    isWritable d = true := by
  obtain ⟨r, hbound, -⟩ := Decimal.bound_fits hd h
  rw [isWritable, hd, hbound]
  rfl

/-- A number of the context is read back with its value and its text. -/
theorem readDecimal_reread {d : Decimal} (hd : d.isFinite) (h : Decimal.Fits d.toRat) :
    Readable d ∧ (reread d).isFinite = true ∧ (reread d).toRat = d.toRat ∧
      decimalText (reread d) = decimalText d := by
  suffices hread : ∃ a, readDecimal (.str (decimalText d)) = some a ∧ a.isFinite = true ∧
      a.toRat = d.toRat ∧ decimalText a = decimalText d by
    obtain ⟨a, ha, hfacts⟩ := hread
    obtain ⟨hreadable, rfl⟩ := readDecimal_decimalText.mp ha
    exact ⟨hreadable, hfacts⟩
  by_cases hzero : d.toRat = 0
  · have htext : decimalText d = "0" := if_pos hzero
    have hnull : decimalText (.ofNat 0) = "0" := if_pos (Decimal.toRat_ofNat 0)
    have hparse : Decimal.parse "0" = some (.ofNat 0) := by decide
    have hread : readDecimal (.str "0") = some (.ofNat 0) := by
      rw [readDecimal, hparse]
      exact if_pos ⟨by decide, hnull⟩
    rw [htext]
    exact ⟨.ofNat 0, hread, rfl, (Decimal.toRat_ofNat 0).trans hzero.symm, hnull⟩
  · obtain ⟨r, hbound, hfinite, hvalue⟩ := Decimal.bound_fits hd h
    have htext : decimalText d = r.plainText := by
      rw [decimalText, if_neg hzero, hbound, Option.getD_some]
    have hparse := Decimal.parse_plainText_eq hfinite
    have hplain : r.normalize.expand.toRat = d.toRat := by
      rw [Decimal.toRat_normalize_expand, hvalue]
    have hplainFinite : r.normalize.expand.isFinite = true := by
      obtain ⟨n, c, k, hexpand⟩ := Decimal.exists_expand r.normalize (Decimal.isFinite_normalize hfinite)
      rw [hexpand]
      rfl
    have hfits : Decimal.Fits r.normalize.expand.toRat := by rwa [hplain]
    obtain ⟨r', hbound', hfinite', hvalue'⟩ := Decimal.bound_fits hplainFinite hfits
    have hagain : decimalText r.normalize.expand = r.plainText := by
      have hne : r'.toRat ≠ 0 := by rwa [hvalue', hplain]
      rw [decimalText, hplain, if_neg hzero, hbound', Option.getD_some]
      exact Decimal.plainText_congr hfinite' hfinite (by rw [hvalue', hplain, hvalue]) hne
    refine ⟨r.normalize.expand, ?_, hplainFinite, hplain, by rw [hagain, htext]⟩
    rw [htext, readDecimal, hparse]
    exact if_pos ⟨isWritable_of_fits hplainFinite hfits, hagain⟩

/-- A decimal that is read back with its value is a number of the context. -/
theorem fits_of_reread {d : Decimal} (hd : isWritable d) (h : Readable d)
    (hvalue : (reread d).toRat = d.toRat) : Decimal.Fits d.toRat := by
  rw [isWritable, Bool.and_eq_true] at hd
  obtain ⟨hfinite, hbound⟩ := hd
  by_cases hzero : d.toRat = 0
  · rw [hzero]
    exact Decimal.fits_zero
  · obtain ⟨r, hr⟩ := Option.isSome_iff_exists.mp hbound
    have htext : decimalText d = r.plainText := by
      rw [decimalText, if_neg hzero, hr, Option.getD_some]
    have hparse := Decimal.parse_plainText_eq (Decimal.isFinite_bound hfinite hr)
    rw [Readable, htext, readDecimal, hparse, Option.bind_eq_bind, Option.bind_some] at h
    split_ifs at h
    have hrounded : r.normalize.expand = reread d := Option.some.inj h
    rw [← hrounded, Decimal.toRat_normalize_expand] at hvalue
    rw [← hvalue]
    exact Decimal.fits_bound hfinite hr

theorem map_toRat_reread {f : Decimal → Decimal} {ds : List Decimal} :
    (ds.map f).map Decimal.toRat = ds.map Decimal.toRat ↔ ∀ d ∈ ds, (f d).toRat = d.toRat := by
  rw [List.map_map, List.map_inj_left]
  rfl

/-! ### Codecs that read what they write -/

section Lawful

variable {φ : Type} {kind : SignedKind φ}

def Signed.payload (r : Signed kind) : Json :=
  .obj (kind.unsigned r.fields ++ [(kind.digestField, .str r.sha256)])

theorem bytes_congr {r s : Signed kind} (h : kind.unsigned r.fields = kind.unsigned s.fields) :
    r.sha256 = s.sha256 ∧ r.bytes = s.bytes := by
  have hsha : r.sha256 = s.sha256 := by
    rw [Signed.sha256, Signed.sha256, Signed.unsignedPayload, Signed.unsignedPayload, h]
  exact ⟨hsha, by rw [Signed.bytes, Signed.bytes, hsha, h]⟩

/-- A codec that writes an object of its fields and reads it field by field. -/
structure Lawful (codec : Codec kind) : Prop where
  wellFormed : ∀ r : Signed kind, r.payload.wellFormed = true
  keys : ∀ r : Signed kind, r.payload.hasKeys codec.fields = true
  schema : ∀ r : Signed kind, r.payload.get "schema" = .str kind.schema
  version : ∀ r : Signed kind, r.payload.get "schema_version" = .int 1
  digest : ∀ r : Signed kind, r.payload.get kind.digestField = .str r.sha256
  decimals : ∀ f r, codec.decimals (codec.withDecimals f r) = (codec.decimals r).map f
  erased : ∀ f r, codec.withDecimals (fun _ => .nan) (codec.withDecimals f r) =
    codec.withDecimals (fun _ => .nan) r
  check : ∀ f r, (∀ d ∈ codec.decimals r, (f d).isFinite = d.isFinite ∧ (f d).toRat = d.toRat) →
    kind.check (codec.withDecimals f r) = kind.check r
  unsigned : ∀ f r, (∀ d ∈ codec.decimals r, decimalText (f d) = decimalText d) →
    kind.unsigned (codec.withDecimals f r) = kind.unsigned r
  printable : ∀ f r, codec.printable (codec.withDecimals f r) = codec.printable r
  /-- An accepted record is read as itself with its decimals reread, if they can be. -/
  read : ∀ (r : Signed kind) (v : Json), (∀ key, v.get key = (r.payload.get key).sorted) →
    ∀ fields, kind.check fields = true → (codec.read v = some fields ↔
      (∀ d ∈ codec.decimals r.fields, Readable d) ∧ fields = codec.withDecimals reread r.fields)

variable {codec : Codec kind} {r s v : Signed kind}

/-- The decimals of a record are numbers of the context. -/
def Codec.Fits (codec : Codec kind) (r : Signed kind) : Prop :=
  ∀ d ∈ codec.decimals r.fields, Decimal.Fits d.toRat

/-- If two values differ, so do their bytes, and the bytes of either are parsed to an equal value.
-/
structure Codec.OneIdentity (codec : Codec kind) (r s : Signed kind) : Prop where
  left : ∃ v, codec.parse r.bytes = some v ∧ v.sha256 = r.sha256 ∧ codec.Same v.fields r.fields
  right : ∃ v, codec.parse s.bytes = some v ∧ v.sha256 = s.sha256 ∧ codec.Same v.fields s.fields
  differ : ¬ codec.Same r.fields s.fields → r.bytes ≠ s.bytes

theorem parse_bytes_eq_some (h : Lawful codec) : codec.parse r.bytes = some v ↔
    (∀ d ∈ codec.decimals r.fields, Readable d) ∧
      v.fields = codec.withDecimals reread r.fields ∧ r.sha256 = v.sha256 ∧
      codec.encode v = some r.bytes := by
  have hloads : Json.loadsUnique r.bytes = some r.payload.sorted :=
    Json.loadsWith_canonicalBytes (h.wellFormed r) .unique
  have hdecode : decodeObject codec.fields r.bytes = some r.payload.sorted := by
    rw [decodeObject, hloads, Option.bind_eq_bind, Option.bind_some, Json.hasKeys_sorted, h.keys r,
      if_pos rfl]
  have hget := Json.get_sorted (h.wellFormed r)
  have hschema : ((r.payload.sorted.get "schema").isText kind.schema &&
      (r.payload.sorted.get "schema_version").isOne) = true := by
    rw [hget, hget, h.schema, h.version]
    simp [Json.sorted, Json.isText, Json.isOne]
  have hdigest : readDigest (r.payload.sorted.get kind.digestField) = some r.sha256 := by
    rw [hget, h.digest]
    exact Json.readText_str (Json.isLowerHex_sha256 _)
  rw [Codec.parse, hdecode]
  simp only [Option.bind_eq_bind, Option.bind_some, hschema, if_true, hdigest]
  rw [Option.bind_eq_some_iff]
  constructor
  · rintro ⟨fields, hread, hvalue⟩
    split_ifs at hvalue with hcheck hsame
    cases hvalue
    obtain ⟨hreadable, hfields⟩ := (h.read r _ hget fields hcheck).mp hread
    exact ⟨hreadable, hfields, hsame⟩
  · rintro ⟨hreadable, hfields, hsame⟩
    refine ⟨v.fields, (h.read r _ hget v.fields v.accepted).mpr ⟨hreadable, hfields⟩, ?_⟩
    rw [dif_pos v.accepted]
    exact if_pos hsame

theorem writable_iff {fields : φ} : codec.writable fields = true ↔
    (∀ d ∈ codec.decimals fields, isWritable d = true) ∧ codec.printable fields = true := by
  simp only [Codec.writable, Bool.and_eq_true, List.all_eq_true]

/-- Values of numbers of the context are read back. -/
theorem parse_of_fits (h : Lawful codec) (hr : codec.writable r.fields) (hfits : codec.Fits r) :
    ∃ v, codec.parse r.bytes = some v ∧ v.sha256 = r.sha256 ∧ codec.Same v.fields r.fields := by
  obtain ⟨hwritable, hprintable⟩ := writable_iff.mp hr
  have hfinite : ∀ d ∈ codec.decimals r.fields, d.isFinite = true := by
    intro d hd
    have hboth := hwritable d hd
    rw [isWritable, Bool.and_eq_true] at hboth
    exact hboth.1
  have hreread : ∀ d ∈ codec.decimals r.fields, Readable d ∧ (reread d).isFinite = true ∧
      (reread d).toRat = d.toRat ∧ decimalText (reread d) = decimalText d :=
    fun d hd => readDecimal_reread (hfinite d hd) (hfits d hd)
  have hcheck : kind.check (codec.withDecimals reread r.fields) = true := by
    rw [h.check reread r.fields fun d hd =>
      ⟨(hreread d hd).2.1.trans (hfinite d hd).symm, (hreread d hd).2.2.1⟩]
    exact r.accepted
  have hunsigned := h.unsigned reread r.fields fun d hd => (hreread d hd).2.2.2
  let v : Signed kind := ⟨codec.withDecimals reread r.fields, hcheck⟩
  obtain ⟨hsha, hbytes⟩ : v.sha256 = r.sha256 ∧ v.bytes = r.bytes := bytes_congr hunsigned
  have hencode : codec.encode v = some r.bytes := by
    have hw : codec.writable v.fields = true := by
      refine writable_iff.mpr ⟨?_, (h.printable reread r.fields).trans hprintable⟩
      intro d hd
      rw [h.decimals] at hd
      obtain ⟨d', hd', rfl⟩ := List.mem_map.mp hd
      refine isWritable_of_fits (hreread d' hd').2.1 ?_
      rw [(hreread d' hd').2.2.1]
      exact hfits d' hd'
    rw [Codec.encode, if_pos hw, hbytes]
  refine ⟨v, (parse_bytes_eq_some h).mpr ⟨fun d hd => (hreread d hd).1, rfl, hsha.symm, hencode⟩,
    hsha, h.erased reread r.fields, ?_⟩
  show (codec.decimals (codec.withDecimals reread r.fields)).map Decimal.toRat = _
  rw [h.decimals]
  exact map_toRat_reread.mpr fun d hd => (hreread d hd).2.2.1

/-- Only values of numbers of the context are. -/
theorem fits_of_parse (h : Lawful codec) (hr : codec.writable r.fields)
    (hparse : codec.parse r.bytes = some v) (hsame : codec.Same v.fields r.fields) :
    codec.Fits r := by
  obtain ⟨hreadable, hfields, -⟩ := (parse_bytes_eq_some h).mp hparse
  obtain ⟨hwritable, -⟩ := writable_iff.mp hr
  have hvalues := hsame.2
  rw [hfields, h.decimals] at hvalues
  intro d hd
  exact fits_of_reread (hwritable d hd) (hreadable d hd) (map_toRat_reread.mp hvalues d hd)

/-- Two values have one identity each exactly if their numbers are those of the context. -/
theorem oneIdentity_iff (h : Lawful codec) (hr : codec.writable r.fields)
    (hs : codec.writable s.fields) :
    codec.OneIdentity r s ↔ codec.Fits r ∧ codec.Fits s := by
  constructor
  · rintro ⟨⟨v, hv, -, hvsame⟩, ⟨w, hw, -, hwsame⟩, -⟩
    exact ⟨fits_of_parse h hr hv hvsame, fits_of_parse h hs hw hwsame⟩
  · rintro ⟨hfr, hfs⟩
    refine ⟨parse_of_fits h hr hfr, parse_of_fits h hs hfs, fun hdiffer hbytes => hdiffer ?_⟩
    -- the same bytes are parsed to one value, and both are equal to it
    obtain ⟨v, hv, -, hvsame⟩ := parse_of_fits h hr hfr
    obtain ⟨w, hw, -, hwsame⟩ := parse_of_fits h hs hfs
    rw [hbytes, hw, Option.some.injEq] at hv
    rw [hv] at hwsame
    exact ⟨hvsame.1.symm.trans hwsame.1, hvsame.2.symm.trans hwsame.2⟩

end Lawful

/-! ### The readers of the fields -/

section Readers

theorem readTimestamp_text {n : Int} (h : isInstant n = true) :
    readTimestamp (.str (timestampText n)) = some n := by
  have hrange : (DateTime.utc n).InRange := of_decide_eq_true h
  rw [readTimestamp, timestampText, DateTime.parseUtc_isoformatZ hrange]
  rfl

theorem readDate_text {d : Date} (h : isDate d = true) : readDate (.str d.isoformat) = some d := by
  rw [isDate, Bool.and_eq_true, decide_eq_true_eq] at h
  rw [readDate, Date.fromIsoformat_isoformat h.1 h.2, Option.bind_eq_bind, Option.bind_some,
    if_pos rfl]

theorem readBoundedId_text {s : String} (h : isBoundedId s = true) :
    readBoundedId (.str s) = some s := Json.readText_str h

theorem readSymbol_text {s : String} (h : isSymbol s = true) : readSymbol (.str s) = some s :=
  Json.readText_str h

theorem readDigest_text {s : String} (h : isDigest s = true) : readDigest (.str s) = some s :=
  Json.readText_str h

theorem readList_digests {xs : List String} (h : xs.all isDigest = true) :
    Json.readList readDigest (Json.arr (xs.map .str)).sorted = some xs := Json.readList_texts h

theorem readList_boundedIds {xs : List String} (h : xs.all isBoundedId = true) :
    Json.readList readBoundedId (Json.arr (xs.map .str)).sorted = some xs := Json.readList_texts h

theorem readEvidenceClass_value (e : EvidenceClass) :
    readEvidenceClass (.str e.value) = some e := by
  cases e <;> decide

theorem readAssetClass_value (a : AssetClass) : readAssetClass (.str a.value) = some a := by
  cases a <;> decide

theorem readOptionEventKind_value (k : OptionEventKind) :
    readOptionEventKind (.str k.value) = some k := by
  cases k <;> decide

theorem readOptionEventStatus_value (s : OptionEventStatus) :
    readOptionEventStatus (.str s.value) = some s := by
  cases s <;> decide

theorem readOptionReconciliationState_value (s : OptionReconciliationState) :
    readOptionReconciliationState (.str s.value) = some s := by
  cases s <;> decide

theorem readOptionType_value (t : OptionType) : readOptionType (.str t.value) = some t := by
  cases t <;> decide

theorem readCount_int {n : Nat} (h : 0 < n) : readCount (.int n) = some n := by
  have hpos : (0 : Int) < n := by omega
  rw [readCount, Json.readInt, Option.bind_eq_bind, Option.bind_some, if_pos hpos, Int.toNat_natCast]

theorem readNullable_symbol {s : Option String} (h : s.all isSymbol = true) :
    Json.readNullable readSymbol (textOrNull s).sorted = some s := by
  cases s with
  | none => rfl
  | some text =>
    have htext : readSymbol (.str text) = some text := readSymbol_text h
    show (readSymbol (.str text)).map some = _
    rw [htext]
    rfl

theorem wellFormed_textOrNull (s : Option String) : (textOrNull s).wellFormed = true := by
  cases s <;> rfl

end Readers

/-! ### Coverages -/

theorem lawful_coverage : Lawful coverageCodec where
  wellFormed r := by
    refine Json.wellFormed_obj.mpr ⟨?_, ?_⟩
    · simp only [coverageKind, CoverageFields.unsigned, List.map_cons, List.map_nil,
        List.cons_append, List.nil_append]
      decide
    · simp only [coverageKind, CoverageFields.unsigned, List.cons_append, List.nil_append,
        List.forall_mem_cons, Json.wellFormed_str, Json.wellFormed_int, Json.wellFormed_bool,
        Json.wellFormed_texts, List.not_mem_nil, false_imp_iff, implies_true, and_self]
  keys r := rfl
  schema r := rfl
  version r := rfl
  digest r := rfl
  decimals f r := rfl
  erased f r := rfl
  check f r h := rfl
  unsigned f r h := rfl
  printable f r := rfl
  read r v h fields hcheck := by
    have haccepted : r.fields.check = true := r.accepted
    simp only [CoverageFields.check, List.all_cons, List.all_nil, Bool.and_eq_true,
      Bool.and_true] at haccepted
    obtain ⟨⟨⟨⟨⟨haccount, hprotocol, hsource⟩, hstart, hend, hobserved⟩, -⟩, -⟩, hevents⟩ :=
      haccepted
    have hread : CoverageFields.read v = some r.fields := by
      simp only [CoverageFields.read, h, Signed.payload, coverageKind, CoverageFields.unsigned,
        List.cons_append, List.nil_append, Json.get_cons, String.reduceEq, if_true, if_false,
        Json.sorted_str, Json.sorted_bool, Json.readBool, readDigest_text haccount,
        readDigest_text hprotocol, readDigest_text hsource, readTimestamp_text hstart,
        readTimestamp_text hend, readTimestamp_text hobserved, readEvidenceClass_value,
        readList_digests hevents]
      rfl
    have hcodec : coverageCodec.read v = some r.fields := hread
    rw [hcodec, Option.some.injEq]
    exact ⟨fun heq => ⟨fun d hd => (by cases hd), heq.symm⟩, fun heq => heq.2.symm⟩

/-! ### Events -/

theorem lawful_event : Lawful eventCodec where
  wellFormed r := by
    refine Json.wellFormed_obj.mpr ⟨?_, ?_⟩
    · simp only [eventKind, EventFields.unsigned, List.map_cons, List.map_nil,
        List.cons_append, List.nil_append]
      decide
    · simp only [eventKind, EventFields.unsigned, List.cons_append, List.nil_append,
        List.forall_mem_cons, Json.wellFormed_str, Json.wellFormed_int, wellFormed_textOrNull,
        List.not_mem_nil, false_imp_iff, implies_true, and_self]
  keys r := rfl
  schema r := rfl
  version r := rfl
  digest r := rfl
  decimals f r := rfl
  erased f r := rfl
  check f r h := by
    obtain ⟨hdelta, hcash, -⟩ := List.forall_mem_cons.mp h |>.imp id List.forall_mem_cons.mp
    simp only [eventKind, eventCodec, EventFields.check, hdelta.1, hcash.1]
  unsigned f r h := by
    obtain ⟨hdelta, hcash, -⟩ := List.forall_mem_cons.mp h |>.imp id List.forall_mem_cons.mp
    simp only [eventKind, eventCodec, EventFields.unsigned, hdelta, hcash]
  printable f r := rfl
  read r v h fields hcheck := by
    have haccepted : r.fields.check = true := r.accepted
    simp only [EventFields.check, List.all_cons, List.all_nil, Bool.and_eq_true,
      Bool.and_true, decide_eq_true_eq] at haccepted
    obtain ⟨⟨⟨⟨⟨⟨⟨⟨⟨⟨⟨hcount, -⟩, -⟩, haccount, hprotocol, hsource⟩, hid⟩, -⟩, hdate⟩, hobserved⟩,
      hsymbol⟩, hreplacement⟩, -⟩, hunderlying⟩ := haccepted
    show EventFields.read v = some fields ↔ _
    simp only [EventFields.read, h, Signed.payload, eventKind, EventFields.unsigned,
      List.cons_append, List.nil_append, Json.get_cons, String.reduceEq, if_true, if_false,
      Json.sorted_str, Json.sorted_int, readDigest_text haccount, readDigest_text hprotocol,
      readDigest_text hsource, readBoundedId_text hid, readSymbol_text hsymbol,
      readSymbol_text hunderlying, readCount_int hcount, readDate_text hdate,
      readTimestamp_text hobserved, readOptionEventKind_value, readOptionEventStatus_value,
      readEvidenceClass_value, readNullable_symbol hreplacement, Option.bind_eq_bind,
      Option.bind_some, Option.bind_eq_some_iff, readDecimal_decimalText, Option.pure_def,
      Option.some.injEq]
    constructor
    · rintro ⟨_, ⟨hdelta, rfl⟩, _, ⟨hcash, rfl⟩, rfl⟩
      exact ⟨by simp only [eventCodec, List.forall_mem_cons, hdelta, hcash, List.not_mem_nil,
        false_imp_iff, implies_true, and_self], rfl⟩
    · rintro ⟨hreadable, rfl⟩
      obtain ⟨hdelta, hcash, -⟩ :=
        List.forall_mem_cons.mp hreadable |>.imp id List.forall_mem_cons.mp
      exact ⟨_, ⟨hdelta, rfl⟩, _, ⟨hcash, rfl⟩, rfl⟩

/-! ### Bindings -/

theorem lawful_binding : Lawful bindingCodec where
  wellFormed r := by
    refine Json.wellFormed_obj.mpr ⟨?_, ?_⟩
    · simp only [bindingKind, BindingFields.unsigned, List.map_cons, List.map_nil,
        List.cons_append, List.nil_append]
      decide
    · simp only [bindingKind, BindingFields.unsigned, List.cons_append, List.nil_append,
        List.forall_mem_cons, Json.wellFormed_str, Json.wellFormed_int, List.not_mem_nil,
        false_imp_iff, implies_true, and_self]
  keys r := rfl
  schema r := rfl
  version r := rfl
  digest r := rfl
  decimals f r := rfl
  erased f r := rfl
  check f r h := by
    obtain ⟨hlong, hshort, hbaseline⟩ :=
      List.forall_mem_cons.mp h |>.imp id List.forall_mem_cons.mp
    have hbaseline := hbaseline _ List.mem_cons_self
    simp only [bindingKind, bindingCodec, BindingFields.check, hlong.1, hlong.2, hshort.1,
      hshort.2, hbaseline.1]
  unsigned f r h := by
    obtain ⟨hlong, hshort, hbaseline⟩ :=
      List.forall_mem_cons.mp h |>.imp id List.forall_mem_cons.mp
    have hbaseline := hbaseline _ List.mem_cons_self
    simp only [bindingKind, bindingCodec, BindingFields.unsigned, hlong, hshort, hbaseline]
  printable f r := rfl
  read r v h fields hcheck := by
    have haccepted : r.fields.check = true := r.accepted
    simp only [BindingFields.check, List.all_cons, List.all_nil, Bool.and_eq_true,
      Bool.and_true] at haccepted
    obtain ⟨⟨⟨⟨⟨-, haccount, hactivation, hcalendar, hprotocol, hlifecycle, hopportunity, hpermit,
      harm⟩, hlid, hoid, hpid, hrid, hsid⟩, hobserved, hclose, hhorizon⟩, hdate, hexpiry⟩, hlong,
      hshort, hunderlying⟩ := haccepted
    show BindingFields.read v = some fields ↔ _
    simp only [BindingFields.read, h, Signed.payload, bindingKind, BindingFields.unsigned,
      List.cons_append, List.nil_append, Json.get_cons, String.reduceEq, if_true, if_false,
      Json.sorted_str, Json.sorted_int, Json.readInt, readDigest_text haccount,
      readDigest_text hactivation, readDigest_text hcalendar, readDigest_text hprotocol,
      readDigest_text hlifecycle, readDigest_text hopportunity, readDigest_text hpermit,
      readDigest_text harm, readBoundedId_text hlid, readBoundedId_text hoid,
      readBoundedId_text hpid, readBoundedId_text hrid, readBoundedId_text hsid,
      readTimestamp_text hobserved, readTimestamp_text hclose, readTimestamp_text hhorizon,
      readDate_text hdate, readDate_text hexpiry, readSymbol_text hlong, readSymbol_text hshort,
      readSymbol_text hunderlying, readEvidenceClass_value, readOptionType_value,
      Option.bind_eq_bind, Option.bind_some, Option.bind_eq_some_iff, readDecimal_decimalText,
      Option.pure_def, Option.some.injEq]
    constructor
    · rintro ⟨_, ⟨hlong, rfl⟩, _, ⟨hshort, rfl⟩, _, ⟨hbaseline, rfl⟩, rfl⟩
      exact ⟨by simp only [bindingCodec, List.forall_mem_cons, hlong, hshort, hbaseline,
        List.not_mem_nil, false_imp_iff, implies_true, and_self], rfl⟩
    · rintro ⟨hreadable, rfl⟩
      obtain ⟨hlong, hshort, hbaseline⟩ :=
        List.forall_mem_cons.mp hreadable |>.imp id List.forall_mem_cons.mp
      exact ⟨_, ⟨hlong, rfl⟩, _, ⟨hshort, rfl⟩, _, ⟨hbaseline _ List.mem_cons_self, rfl⟩, rfl⟩

/-! ### Receipts -/

theorem lawful_receipt : Lawful receiptCodec where
  wellFormed r := by
    refine Json.wellFormed_obj.mpr ⟨?_, ?_⟩
    · simp only [receiptKind, ReceiptFields.unsigned, List.map_cons, List.map_nil,
        List.cons_append, List.nil_append]
      decide
    · simp only [receiptKind, ReceiptFields.unsigned, List.cons_append, List.nil_append,
        List.forall_mem_cons, Json.wellFormed_str, Json.wellFormed_int, Json.wellFormed_texts,
        List.not_mem_nil, false_imp_iff, implies_true, and_self]
  keys r := rfl
  schema r := rfl
  version r := rfl
  digest r := rfl
  decimals f r := rfl
  erased f r := rfl
  check f r h := by
    simp only [receiptCodec, List.forall_mem_cons] at h
    obtain ⟨hlong, hshort, hquantity, hdelta, hcash, -⟩ := h
    simp only [receiptKind, receiptCodec, ReceiptFields.check, List.all_cons, hlong.1, hshort.1,
      hquantity.1, hdelta.1, hcash.1]
  unsigned f r h := by
    simp only [receiptCodec, List.forall_mem_cons] at h
    obtain ⟨hlong, hshort, hquantity, hdelta, hcash, -⟩ := h
    simp only [receiptKind, receiptCodec, ReceiptFields.unsigned, hlong, hshort, hquantity, hdelta,
      hcash]
  printable f r := rfl
  read r v h fields hcheck := by
    have haccepted : r.fields.check = true := r.accepted
    simp only [ReceiptFields.check, List.all_cons, List.all_nil, Bool.and_eq_true,
      Bool.and_true] at haccepted
    obtain ⟨⟨⟨⟨⟨⟨-, hevents⟩, hreasons⟩, hcoverage, hbinding, hobservation⟩, hlifecycle, hsession⟩,
      hobserved⟩, -⟩ := haccepted
    show ReceiptFields.read v = some fields ↔ _
    simp only [ReceiptFields.read, h, Signed.payload, receiptKind, ReceiptFields.unsigned,
      List.cons_append, List.nil_append, Json.get_cons, String.reduceEq, if_true, if_false,
      Json.sorted_str, readExactly, Json.isText, beq_self_eq_true, readDigest_text hcoverage,
      readDigest_text hbinding, readDigest_text hobservation, readBoundedId_text hlifecycle,
      readBoundedId_text hsession, readTimestamp_text hobserved, readList_digests hevents,
      readList_boundedIds hreasons, readOptionReconciliationState_value, readEvidenceClass_value,
      Option.bind_eq_bind, Option.bind_some, Option.bind_eq_some_iff, readDecimal_decimalText,
      Option.pure_def, Option.some.injEq]
    constructor
    · rintro ⟨_, ⟨hlong, rfl⟩, _, ⟨hshort, rfl⟩, _, ⟨hquantity, rfl⟩, _, ⟨hdelta, rfl⟩, _,
        ⟨hcash, rfl⟩, rfl⟩
      exact ⟨by simp only [receiptCodec, List.forall_mem_cons, hlong, hshort, hquantity, hdelta,
        hcash, List.not_mem_nil, false_imp_iff, implies_true, and_self], rfl⟩
    · rintro ⟨hreadable, rfl⟩
      simp only [receiptCodec, List.forall_mem_cons] at hreadable
      obtain ⟨hlong, hshort, hquantity, hdelta, hcash, -⟩ := hreadable
      exact ⟨_, ⟨hlong, rfl⟩, _, ⟨hshort, rfl⟩, _, ⟨hquantity, rfl⟩, _, ⟨hdelta, rfl⟩, _,
        ⟨hcash, rfl⟩, rfl⟩

/-! ### Observations -/

theorem wellFormed_position (p : PortfolioPosition) : p.payload.wellFormed = true := by
  refine Json.wellFormed_obj.mpr ⟨?_, ?_⟩
  · simp only [List.map_cons, List.map_nil]
    decide
  · simp only [List.forall_mem_cons, Json.wellFormed_str, List.not_mem_nil, false_imp_iff,
      implies_true, and_self]

theorem parsePosition_payload {p q : PortfolioPosition} (hp : p.check = true)
    (hq : q.check = true) : parsePosition p.payload.sorted = some q ↔
      Readable p.quantity ∧ q = p.withQuantity reread := by
  have hkeys : p.payload.sorted.hasKeys ["asset_class", "quantity", "symbol"] = true := by
    rw [Json.hasKeys_sorted]
    rfl
  have hsymbol : isSymbol p.symbol = true := by
    rw [PortfolioPosition.check, Bool.and_eq_true] at hp
    exact hp.2
  have hget := Json.get_sorted (wellFormed_position p)
  have hclass : p.payload.sorted.get "asset_class" = .str p.assetClass.value := by
    rw [hget]
    simp only [PortfolioPosition.payload, Json.get_cons, if_true, Json.sorted_str]
  have hname : p.payload.sorted.get "symbol" = .str p.symbol := by
    rw [hget]
    simp only [PortfolioPosition.payload, Json.get_cons, String.reduceEq, if_true, if_false,
      Json.sorted_str]
  have hquantity : p.payload.sorted.get "quantity" = .str (decimalText p.quantity) := by
    rw [hget]
    simp only [PortfolioPosition.payload, Json.get_cons, String.reduceEq, if_true, if_false,
      Json.sorted_str]
  rw [parsePosition, if_pos hkeys, hclass, hname, hquantity, readAssetClass_value,
    readSymbol_text hsymbol]
  simp only [Option.bind_eq_bind, Option.bind_some, Option.bind_eq_some_iff,
    readDecimal_decimalText]
  constructor
  · rintro ⟨_, ⟨hreadable, rfl⟩, hvalue⟩
    split_ifs at hvalue
    cases hvalue
    exact ⟨hreadable, rfl⟩
  · rintro ⟨hreadable, rfl⟩
    refine ⟨_, ⟨hreadable, rfl⟩, ?_⟩
    exact if_pos hq

theorem readPositions_payload {ps qs : List PortfolioPosition}
    (hps : ps.all PortfolioPosition.check = true) (hqs : qs.all PortfolioPosition.check = true) :
    Json.readList parsePosition (Json.arr (ps.map PortfolioPosition.payload)).sorted = some qs ↔
      (∀ p ∈ ps, Readable p.quantity) ∧ qs = ps.map (PortfolioPosition.withQuantity reread) := by
  rw [Json.sorted, Json.sortedItems_eq, Json.readList, List.map_map]
  induction ps generalizing qs with
  | nil =>
    refine ⟨fun h => ?_, fun h => ?_⟩
    · cases h
      exact ⟨fun p hp => (by cases hp), rfl⟩
    · rw [h.2]
      rfl
  | cons p rest ih =>
    rw [List.all_cons, Bool.and_eq_true] at hps
    simp only [List.map_cons, List.mapM_cons, Function.comp_apply, Option.bind_eq_bind,
      Option.bind_eq_some_iff, Option.pure_def, Option.some.injEq, List.forall_mem_cons]
    constructor
    · rintro ⟨q, hq, qs', hqs', rfl⟩
      rw [List.all_cons, Bool.and_eq_true] at hqs
      obtain ⟨hreadable, hsame⟩ := (parsePosition_payload hps.1 hqs.1).mp hq
      obtain ⟨hreadables, hsames⟩ := (ih hps.2 hqs.2).mp hqs'
      exact ⟨⟨hreadable, hreadables⟩, by rw [hsame, hsames]⟩
    · rintro ⟨⟨hreadable, hreadables⟩, rfl⟩
      rw [List.all_cons, Bool.and_eq_true] at hqs
      exact ⟨_, (parsePosition_payload hps.1 hqs.1).mpr ⟨hreadable, rfl⟩, _,
        (ih hps.2 hqs.2).mpr ⟨hreadables, rfl⟩, rfl⟩

theorem lawful_observation : Lawful observationCodec where
  wellFormed r := by
    refine Json.wellFormed_obj.mpr ⟨?_, ?_⟩
    · simp only [observationKind, ObservationFields.unsigned, List.map_cons, List.map_nil,
        List.cons_append, List.nil_append]
      decide
    · have hpositions : (Json.arr (r.fields.positions.map
          PortfolioPosition.payload)).wellFormed = true := by
        refine Json.wellFormed_arr.mpr fun v hv => ?_
        obtain ⟨p, -, rfl⟩ := List.mem_map.mp hv
        exact wellFormed_position p
      simp only [observationKind, ObservationFields.unsigned, List.cons_append, List.nil_append,
        List.forall_mem_cons, Json.wellFormed_str, Json.wellFormed_int, hpositions,
        List.not_mem_nil, false_imp_iff, implies_true, and_self]
  keys r := rfl
  schema r := rfl
  version r := rfl
  digest r := rfl
  decimals f r := by simp [observationCodec, PortfolioPosition.withQuantity, Function.comp_def]
  erased f r := by simp [observationCodec, PortfolioPosition.withQuantity, Function.comp_def]
  check f r h := by
    have hcheck : ∀ p ∈ r.positions, (p.withQuantity f).check = p.check := by
      intro p hp
      obtain ⟨hfinite, hvalue⟩ := h p.quantity (List.mem_map_of_mem hp)
      simp only [PortfolioPosition.check, PortfolioPosition.withQuantity, hfinite, hvalue]
    have hall : (r.positions.map (PortfolioPosition.withQuantity f)).all PortfolioPosition.check =
        r.positions.all PortfolioPosition.check := by
      rw [List.all_map, Bool.eq_iff_iff, List.all_eq_true, List.all_eq_true]
      exact forall₂_congr fun p hp => by rw [Function.comp_apply, hcheck p hp]
    have hkeys : (r.positions.map (PortfolioPosition.withQuantity f)).Pairwise
        (fun p q => toLex p.key < toLex q.key) ↔
          r.positions.Pairwise fun p q => toLex p.key < toLex q.key := List.pairwise_map
    simp only [observationKind, observationCodec, ObservationFields.check, hall, hkeys]
  unsigned f r h := by
    have hpayload : ∀ p ∈ r.positions,
        PortfolioPosition.payload (p.withQuantity f) = PortfolioPosition.payload p := by
      intro p hp
      simp only [PortfolioPosition.payload, PortfolioPosition.withQuantity,
        h p.quantity (List.mem_map_of_mem hp)]
    have hall : (r.positions.map (PortfolioPosition.withQuantity f)).map
        PortfolioPosition.payload = r.positions.map PortfolioPosition.payload := by
      rw [List.map_map]
      exact List.map_congr_left hpayload
    simp only [observationKind, observationCodec, ObservationFields.unsigned, hall]
  printable f r := rfl
  read r v h fields hcheck := by
    have haccepted : r.fields.check = true := r.accepted
    have hfields : fields.check = true := hcheck
    simp only [ObservationFields.check, List.all_cons, List.all_nil, Bool.and_eq_true,
      Bool.and_true] at haccepted hfields
    obtain ⟨⟨⟨⟨haccount, hprotocol, hsource⟩, hobserved⟩, hpositions⟩, -⟩ := haccepted
    show ObservationFields.read v = some fields ↔ _
    simp only [ObservationFields.read, h, Signed.payload, observationKind,
      ObservationFields.unsigned, List.cons_append, List.nil_append, Json.get_cons,
      String.reduceEq, if_true, if_false, Json.sorted_str, readDigest_text haccount,
      readDigest_text hprotocol, readDigest_text hsource, readTimestamp_text hobserved,
      readEvidenceClass_value, Option.bind_eq_bind, Option.bind_some, Option.bind_eq_some_iff,
      Option.pure_def, Option.some.injEq]
    constructor
    · rintro ⟨qs, hqs, rfl⟩
      obtain ⟨hreadable, hsame⟩ := (readPositions_payload hpositions hfields.1.2).mp hqs
      subst hsame
      exact ⟨List.forall_mem_map.mpr hreadable, rfl⟩
    · rintro ⟨hreadable, rfl⟩
      exact ⟨_, (readPositions_payload hpositions hfields.1.2).mpr
        ⟨List.forall_mem_map.mp hreadable, rfl⟩, rfl⟩

/-! ### The five artifacts -/

/-- The artifacts, by their codecs. -/
inductive IsArtifact : {φ : Type} → {kind : SignedKind φ} → Codec kind → Prop where
  | observation : IsArtifact observationCodec
  | coverage : IsArtifact coverageCodec
  | event : IsArtifact eventCodec
  | binding : IsArtifact bindingCodec
  | receipt : IsArtifact receiptCodec

/-- The five artifacts have one identity each exactly for numbers of the default context. -/
theorem one_identity {φ : Type} {kind : SignedKind φ} {codec : Codec kind} (h : IsArtifact codec)
    {r s : Signed kind} (hr : codec.writable r.fields = true)
    (hs : codec.writable s.fields = true) :
    codec.OneIdentity r s ↔ codec.Fits r ∧ codec.Fits s := by
  cases h with
  | observation => exact oneIdentity_iff lawful_observation hr hs
  | coverage => exact oneIdentity_iff lawful_coverage hr hs
  | event => exact oneIdentity_iff lawful_event hr hs
  | binding => exact oneIdentity_iff lawful_binding hr hs
  | receipt => exact oneIdentity_iff lawful_receipt hr hs

/-! ### A share and a little more -/

theorem check_positions {o : ObservationFields} {ps : List PortfolioPosition} (ho : o.check = true)
    (hps : ps.all PortfolioPosition.check = true)
    (hsorted : ps.Pairwise fun p q => toLex p.key < toLex q.key) :
    ({ o with positions := ps } : ObservationFields).check = true := by
  simp only [ObservationFields.check, Bool.and_eq_true, decide_eq_true_eq] at ho ⊢
  exact ⟨⟨ho.1.1, hps⟩, hsorted⟩

theorem unsigned_positions {o : ObservationFields} {ps qs : List PortfolioPosition}
    (h : ps.map PortfolioPosition.payload = qs.map PortfolioPosition.payload) :
    ({ o with positions := ps } : ObservationFields).unsigned =
      ({ o with positions := qs } : ObservationFields).unsigned := by
  simp only [ObservationFields.unsigned, h]

def flatObservation : ObservationFields where
  accountFingerprintSha256 := String.ofList (List.replicate 64 '0')
  executionProtocolSha256 := String.ofList (List.replicate 64 '0')
  observedAt := 0
  positions := []
  sourcePayloadSha256 := String.ofList (List.replicate 64 '0')
  evidenceClass := .syntheticFixture

theorem flatObservation_check : flatObservation.check = true := by
  have hdigest : isDigest (String.ofList (List.replicate 64 '0')) = true := by decide
  have hinstant : isInstant 0 = true := by
    rw [isInstant, decide_eq_true_eq]
    exact ⟨by decide, by decide⟩
  rw [ObservationFields.check, Bool.and_eq_true, Bool.and_eq_true, Bool.and_eq_true]
  refine ⟨⟨⟨?_, hinstant⟩, rfl⟩, decide_eq_true List.Pairwise.nil⟩
  exact List.all_eq_true.mpr (List.forall_mem_cons.mpr ⟨hdigest, List.forall_mem_cons.mpr
    ⟨hdigest, List.forall_mem_singleton.mpr hdigest⟩⟩)

/-- An account that holds this much of one equity. -/
def shareObservation (quantity : Decimal) : ObservationFields :=
  { flatObservation with positions := [⟨.equity, "SPY", quantity⟩] }

theorem shareObservation_check {quantity : Decimal} (hfinite : quantity.isFinite = true)
    (hvalue : quantity.toRat ≠ 0) : (shareObservation quantity).check = true := by
  have hsymbol : isSymbol "SPY" = true := by decide
  have hposition : PortfolioPosition.check ⟨.equity, "SPY", quantity⟩ = true := by
    rw [PortfolioPosition.check, hfinite, decide_eq_true hvalue, hsymbol]
    rfl
  exact check_positions flatObservation_check
    (List.all_eq_true.mpr (List.forall_mem_singleton.mpr hposition)) (List.pairwise_singleton _ _)

def oneShare : Decimal := .finite false 1 0

def shareAndBit : Decimal := .finite false (10 ^ 28 + 1) (-28)

theorem oneShare_ne_zero : oneShare.toRat ≠ 0 := by
  rw [oneShare, Decimal.toRat_finite]
  norm_num

theorem shareAndBit_ne_zero : shareAndBit.toRat ≠ 0 := by
  rw [shareAndBit, Decimal.toRat_finite]
  norm_num

def oneShareObservation : OptionPortfolioObservation :=
  ⟨shareObservation oneShare, shareObservation_check rfl oneShare_ne_zero⟩

def shareAndBitObservation : OptionPortfolioObservation :=
  ⟨shareObservation shareAndBit, shareObservation_check rfl shareAndBit_ne_zero⟩

theorem writable_oneShare : observationCodec.writable (shareObservation oneShare) = true := by
  decide

theorem writable_shareAndBit :
    observationCodec.writable (shareObservation shareAndBit) = true := by
  decide

theorem decimalText_share : decimalText shareAndBit = decimalText oneShare := by
  rw [decimalText, decimalText, if_neg shareAndBit_ne_zero, if_neg oneShare_ne_zero]
  decide

theorem unsigned_share :
    (shareObservation shareAndBit).unsigned = (shareObservation oneShare).unsigned := by
  refine unsigned_positions ?_
  rw [List.map_singleton, List.map_singleton, PortfolioPosition.payload,
    PortfolioPosition.payload, decimalText_share]

theorem bytes_share : shareAndBitObservation.bytes = oneShareObservation.bytes :=
  (bytes_congr unsigned_share).2

/-- The share and the bit are written as a share. -/
theorem one_share_twice :
    ¬ ∀ r s : OptionPortfolioObservation,
      observationCodec.writable r.fields = true → observationCodec.writable s.fields = true →
        observationCodec.OneIdentity r s := by
  intro h
  have hpair := h shareAndBitObservation oneShareObservation writable_shareAndBit writable_oneShare
  refine hpair.differ (fun hsame => ?_) bytes_share
  have hvalue : shareAndBit.toRat = oneShare.toRat := List.head_eq_of_cons_eq hsame.2
  rw [shareAndBit, oneShare, Decimal.toRat_finite, Decimal.toRat_finite] at hvalue
  norm_num at hvalue

theorem one_identity_demo :
    observationCodec.OneIdentity oneShareObservation oneShareObservation :=
  have hfits : observationCodec.Fits oneShareObservation :=
    List.forall_mem_singleton.mpr (Decimal.fits_of_adjusted (by decide) (by decide) (by decide))
  (one_identity .observation writable_oneShare writable_oneShare).mpr ⟨hfits, hfits⟩

end EsscherMarket.OptionEvents
