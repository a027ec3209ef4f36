import EsscherMarket.Lib.JsonRoundTrip

/-!
# Numbers that are no integers

`json.loads` makes a float of a literal with a fraction or an exponent, and `json.dumps` writes the
`repr` of the float.  `FloatRepr` is what the round trip of a text needs of `repr` and `float`;
`Json.load` reads a text with distinct fields and finite floats, `load_canonicalBytes` says that it
reads what was written.
-/

namespace EsscherMarket.Lib.Json

/-- `repr(float(literal))`, where the float is finite. -/
structure FloatRepr where
  repr : String → String
  isFinite : String → Bool
  real : ∀ literal, isReal (utf8 literal) = true → isFinite literal = true →
    isReal (utf8 (repr literal)) = true
  stable : ∀ literal, isReal (utf8 literal) = true → isFinite literal = true →
    repr (repr literal) = repr literal ∧ isFinite (repr literal) = true

/-- Every literal is the text of its own float. -/
def FloatRepr.literals : FloatRepr where
  repr literal := literal
  isFinite _ := true
  real _ h _ := h
  stable _ _ _ := ⟨rfl, rfl⟩

variable (f : FloatRepr)

mutual

/-- The value with each float as Python writes it; an infinite one has no JSON text. -/
def readFloats : Json → Option Json
  | .real literal => if f.isFinite literal then some (.real (f.repr literal)) else none
  | .arr items => (readFloatItems items).map .arr
  | .obj fields => (readFloatFields fields).map .obj
  | v => some v

def readFloatItems : List Json → Option (List Json)
  | [] => some []
  | v :: rest => (readFloats v).bind fun w => (readFloatItems rest).map (w :: ·)

def readFloatFields : List (String × Json) → Option (List (String × Json))
  | [] => some []
  | (k, v) :: rest => (readFloats v).bind fun w => (readFloatFields rest).map ((k, w) :: ·)

end

theorem readFloatItems_eq_some {items held : List Json} : readFloatItems f items = some held ↔
    List.Forall₂ (fun v w => readFloats f v = some w) items held := by
  induction items generalizing held with
  | nil =>
    rw [readFloatItems, List.forall₂_nil_left_iff]
    exact ⟨fun h => (Option.some.inj h).symm, fun h => congrArg some h.symm⟩
  | cons v rest ih =>
    rw [readFloatItems, List.forall₂_cons_left_iff]
    constructor
    · intro h
      obtain ⟨w, hw, h⟩ := Option.bind_eq_some_iff.mp h
      obtain ⟨more, hmore, rfl⟩ := Option.map_eq_some_iff.mp h
      exact ⟨w, more, hw, ih.mp hmore, rfl⟩
    · rintro ⟨w, more, hw, hmore, rfl⟩
      rw [hw, Option.bind_some, ih.mpr hmore]
      rfl

theorem readFloatFields_eq_some {fields held : List (String × Json)} :
    readFloatFields f fields = some held ↔
      List.Forall₂ (fun kv kw => kw.1 = kv.1 ∧ readFloats f kv.2 = some kw.2) fields held := by
  induction fields generalizing held with
  | nil =>
    rw [readFloatFields, List.forall₂_nil_left_iff]
    exact ⟨fun h => (Option.some.inj h).symm, fun h => congrArg some h.symm⟩
  | cons kv rest ih =>
    obtain ⟨k, v⟩ := kv
    rw [readFloatFields, List.forall₂_cons_left_iff]
    constructor
    · intro h
      obtain ⟨w, hw, h⟩ := Option.bind_eq_some_iff.mp h
      obtain ⟨more, hmore, rfl⟩ := Option.map_eq_some_iff.mp h
      exact ⟨(k, w), more, ⟨rfl, hw⟩, ih.mp hmore, rfl⟩
    · rintro ⟨⟨k', w⟩, more, ⟨hk, hw⟩, hmore, rfl⟩
      cases hk
      rw [hw, Option.bind_some, ih.mpr hmore]
      rfl

/-- A value that Python holds: its fields are distinct, its floats are as Python writes them. -/
structure Held (v : Json) : Prop where
  wellFormed : v.wellFormed = true
  written : readFloats f v = some v

variable {f}

theorem held_arr {items : List Json} : Held f (.arr items) ↔ ∀ v ∈ items, Held f v := by
  have hwritten : readFloats f (.arr items) = some (.arr items) ↔
      ∀ v ∈ items, readFloats f v = some v := by
    have hsame := @List.forall₂_same _ (fun v w => readFloats f v = some w) items
    rw [readFloats, ← hsame, ← readFloatItems_eq_some]
    cases readFloatItems f items <;> simp
  constructor
  · exact fun h v hv => ⟨wellFormed_arr.mp h.wellFormed v hv, hwritten.mp h.written v hv⟩
  · exact fun h => ⟨wellFormed_arr.mpr fun v hv => (h v hv).wellFormed,
      hwritten.mpr fun v hv => (h v hv).written⟩

theorem held_obj {fields : List (String × Json)} :
    Held f (.obj fields) ↔ (fields.map Prod.fst).Nodup ∧ ∀ kv ∈ fields, Held f kv.2 := by
  have hwritten : readFloats f (.obj fields) = some (.obj fields) ↔
      ∀ kv ∈ fields, readFloats f kv.2 = some kv.2 := by
    have hsame := @List.forall₂_same _ (fun (kv kw : String × Json) =>
      kw.1 = kv.1 ∧ readFloats f kv.2 = some kw.2) fields
    simp only [true_and] at hsame
    rw [readFloats, ← hsame, ← readFloatFields_eq_some]
    cases readFloatFields f fields <;> simp
  constructor
  · intro h
    obtain ⟨hkeys, hvalues⟩ := wellFormed_obj.mp h.wellFormed
    exact ⟨hkeys, fun kv hkv => ⟨hvalues kv hkv, hwritten.mp h.written kv hkv⟩⟩
  · rintro ⟨hkeys, h⟩
    exact ⟨wellFormed_obj.mpr ⟨hkeys, fun kv hkv => (h kv hkv).wellFormed⟩,
      hwritten.mpr fun kv hkv => (h kv hkv).written⟩

theorem exists_of_forall₂ {α β : Type} {R : α → β → Prop} {as : List α} {bs : List β}
    (h : List.Forall₂ R as bs) {b : β} (hb : b ∈ bs) : ∃ a ∈ as, R a b := by
  induction h with
  | nil => cases hb
  | cons hR _ ih =>
    rcases List.mem_cons.mp hb with rfl | hb
    · exact ⟨_, List.mem_cons_self, hR⟩
    · obtain ⟨a, ha, hR⟩ := ih hb
      exact ⟨a, List.mem_cons_of_mem _ ha, hR⟩

theorem keys_of_forall₂ {fields held : List (String × Json)} {R : Json → Json → Prop}
    (h : List.Forall₂ (fun kv kw => kw.1 = kv.1 ∧ R kv.2 kw.2) fields held) :
    held.map Prod.fst = fields.map Prod.fst := by
  induction h with
  | nil => rfl
  | cons hR _ ih => rw [List.map_cons, List.map_cons, hR.1, ih]

theorem held_of_readFloats {v w : Json} (h : v.wellFormed = true) (hread : readFloats f v = some w) :
    Held f w := by
  induction v using induct generalizing w with
  | hnull => cases hread; exact ⟨rfl, rfl⟩
  | hbool b => cases hread; exact ⟨rfl, rfl⟩
  | hint n => cases hread; exact ⟨rfl, rfl⟩
  | hstr s => cases hread; exact ⟨rfl, rfl⟩
  | hreal literal =>
    rw [readFloats] at hread
    split_ifs at hread with hfinite
    cases hread
    obtain ⟨hrepr, hstill⟩ := f.stable literal h hfinite
    refine ⟨f.real literal h hfinite, ?_⟩
    rw [readFloats, if_pos hstill, hrepr]
  | harr items ih =>
    rw [readFloats] at hread
    obtain ⟨held, hheld, rfl⟩ := Option.map_eq_some_iff.mp hread
    have hall := (readFloatItems_eq_some f).mp hheld
    rw [held_arr]
    intro w hw
    obtain ⟨v, hv, hvw⟩ := exists_of_forall₂ hall hw
    exact ih v hv (wellFormed_arr.mp h v hv) hvw
  | hobj fields ih =>
    rw [readFloats] at hread
    obtain ⟨held, hheld, rfl⟩ := Option.map_eq_some_iff.mp hread
    have hall := (readFloatFields_eq_some f).mp hheld
    obtain ⟨hkeys, hvalues⟩ := wellFormed_obj.mp h
    rw [held_obj, keys_of_forall₂ (R := fun v w => readFloats f v = some w) hall]
    refine ⟨hkeys, fun kw hkw => ?_⟩
    obtain ⟨kv, hkv, -, hread⟩ := exists_of_forall₂ hall hkw
    exact ih kv hkv (hvalues kv hkv) hread

theorem Held.get {v : Json} (h : Held f v) (key : String) : Held f (v.get key) := by
  cases hfield : v.field? key with
  | none =>
    rw [Json.get, hfield]
    exact ⟨rfl, rfl⟩
  | some w =>
    rw [Json.get, hfield]
    cases v with
    | obj fields =>
      obtain ⟨hkeys, hvalues⟩ := held_obj.mp h
      exact hvalues (key, w) ((field?_eq_some hkeys).mp hfield)
    | _ => cases hfield

/-- The fields of a held value are held in any order. -/
theorem Held.sorted {v : Json} (h : Held f v) : Held f v.sorted := by
  induction v using induct with
  | hnull => exact h
  | hbool b => exact h
  | hint n => exact h
  | hreal literal => exact h
  | hstr s => exact h
  | harr items ih =>
    have hitems := held_arr.mp h
    rw [Json.sorted, sortedItems_eq, held_arr]
    intro w hw
    obtain ⟨v, hv, rfl⟩ := List.mem_map.mp hw
    exact ih v hv (hitems v hv)
  | hobj fields ih =>
    obtain ⟨hkeys, hvalues⟩ := held_obj.mp h
    rw [Json.sorted, held_obj]
    refine ⟨nodup_sortFields hkeys, fun kw hkw => ?_⟩
    obtain ⟨kv, hkv, rfl⟩ := List.mem_map.mp ((sortFields_perm fields).mem_iff.mp hkw)
    exact ih kv hkv (hvalues kv hkv)

variable (f)

/-- `json.loads(…, object_pairs_hook=_unique_object)`. -/
def load (bytes : List UInt8) : Option Json := (loadsUnique bytes).bind (readFloats f)

variable {f}

theorem held_of_load {bytes : List UInt8} {v : Json} (h : load f bytes = some v) : Held f v := by
  obtain ⟨w, hw, hv⟩ := Option.bind_eq_some_iff.mp h
  exact held_of_readFloats (wellFormed_loadsWith hw) hv

/-- White space after a held value does not matter. -/
theorem load_append_blank {v : Json} (h : Held f v) {rest : List UInt8}
    (hblank : ∀ b ∈ rest, isBlank b = true) : load f (v.canonicalBytes ++ rest) = some v.sorted := by
  have hstops : Stops rest := by
    intro b hb
    have hb' := hblank b (List.mem_of_mem_head? hb)
    by_contra hnumber
    exact absurd hb' (by simp [(start_of_isNumberByte (Bool.of_not_eq_false hnumber)).1])
  have hskip : skipBlank rest = [] := List.dropWhile_eq_nil_iff.mpr hblank
  have hread := reads_sorted v h.wellFormed .unique (2 * (v.canonicalBytes ++ rest).length + 1) rest
    (by rw [canonicalBytes_sorted, List.length_append]; omega) hstops
  rw [canonicalBytes_sorted] at hread
  rw [load, loadsUnique, loadsWith, hread]
  simp only [hskip, List.isEmpty_nil, if_true, Option.bind_some]
  exact h.sorted.written

/-- A held value is read back from its canonical bytes, with its fields in order. -/
theorem load_canonicalBytes {v : Json} (h : Held f v) : load f v.canonicalBytes = some v.sorted := by
  have hload := load_append_blank h (List.forall_mem_nil _)
  rwa [List.append_nil] at hload

end EsscherMarket.Lib.Json
