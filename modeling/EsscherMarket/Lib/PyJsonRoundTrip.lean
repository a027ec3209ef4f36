import EsscherMarket.Lib.PyJson

/-!
# Python reads canonical bytes back

`Lib.JsonRoundTrip` for the reader that takes everything Python takes, for objects that hold no
float.
-/

namespace EsscherMarket.Lib

namespace Json

/-! ### Characters -/

def encode (cs : List Char) : List UInt8 := cs.flatMap String.utf8EncodeChar

theorem encode_append (cs ds : List Char) : encode (cs ++ ds) = encode cs ++ encode ds :=
  List.flatMap_append

theorem encode_cons (c : Char) (cs : List Char) :
    encode (c :: cs) = String.utf8EncodeChar c ++ encode cs := rfl

/-- A character as it stands inside a JSON string literal. -/
def escapeChar (c : Char) : List Char :=
  if c.toNat < 128 then (escapeByte (UInt8.ofNat c.toNat)).map fun b => Char.ofNat b.toNat else [c]

def stringChars (s : String) : List Char :=
  Char.ofNat 34 :: (s.toList.flatMap escapeChar ++ [Char.ofNat 34])

def joinChars : List (List Char) → List Char
  | [] => []
  | [x] => x
  | x :: y :: rest => x ++ ',' :: joinChars (y :: rest)

def fieldChars (kt : String × List Char) : List Char := stringChars kt.1 ++ ':' :: kt.2

mutual

def chars : Json → List Char
  | .null => "null".toList
  | .bool true => "true".toList
  | .bool false => "false".toList
  | .int n => (toString n).toList
  | .real literal => literal.toList
  | .str s => stringChars s
  | .arr items => '[' :: (joinChars (itemsChars items) ++ [']'])
  | .obj fields => Char.ofNat 123 :: (joinChars ((fieldsChars fields).map fieldChars) ++
      [Char.ofNat 125])

def itemsChars : List Json → List (List Char)
  | [] => []
  | v :: rest => chars v :: itemsChars rest

def fieldsChars : List (String × Json) → List (String × List Char)
  | [] => []
  | (k, v) :: rest => (k, chars v) :: fieldsChars rest

end

theorem itemsChars_eq (items : List Json) : itemsChars items = items.map chars := by
  induction items with
  | nil => rfl
  | cons v rest ih => rw [itemsChars, List.map_cons, ih]

theorem fieldsChars_eq (fields : List (String × Json)) :
    fieldsChars fields = fields.map fun kv => (kv.1, kv.2.chars) := by
  induction fields with
  | nil => rfl
  | cons kv rest ih =>
    obtain ⟨k, v⟩ := kv
    rw [fieldsChars, List.map_cons, ih]

/-! ### Their bytes -/

theorem escapeByte_of_ge {b : UInt8} (h : 128 ≤ b) : escapeByte b = [b] := by
  have hle : 128 ≤ b.toNat := UInt8.le_iff_toNat_le.mp h
  have hne : ∀ k : UInt8, k.toNat < 128 → b ≠ k := by
    rintro k hk rfl
    omega
  have hlt : ¬ b < 32 := by
    rw [UInt8.lt_iff_toNat_lt]
    exact not_lt.mpr ((by decide : (32 : UInt8).toNat ≤ 128).trans hle)
  rw [escapeByte, if_neg (hne 34 (by decide)), if_neg (hne 92 (by decide)),
    if_neg (hne 10 (by decide)), if_neg (hne 13 (by decide)), if_neg (hne 9 (by decide)),
    if_neg (hne 8 (by decide)), if_neg (hne 12 (by decide)), if_neg hlt]

/-- The bytes of a character beyond ASCII are beyond ASCII. -/
theorem ge_of_mem_utf8EncodeChar {c : Char} (hc : ¬ c.toNat < 128) {b : UInt8}
    (hb : b ∈ String.utf8EncodeChar c) : 128 ≤ b := by
  have hval : c.toNat = c.val.toNat := rfl
  rw [UInt8.le_iff_toNat_le]
  unfold String.utf8EncodeChar at hb
  simp only [] at hb
  split at hb
  · omega
  · split at hb
    · simp only [List.mem_cons, List.not_mem_nil, or_false] at hb
      rcases hb with rfl | rfl <;> rw [UInt8.toNat_ofNat'] <;> simp <;> omega
    · split at hb
      · simp only [List.mem_cons, List.not_mem_nil, or_false] at hb
        rcases hb with rfl | rfl | rfl <;> rw [UInt8.toNat_ofNat'] <;> simp <;> omega
      · simp only [List.mem_cons, List.not_mem_nil, or_false] at hb
        rcases hb with rfl | rfl | rfl | rfl <;> rw [UInt8.toNat_ofNat'] <;> simp <;> omega

theorem encode_escapeChar (c : Char) :
    encode (escapeChar c) = (String.utf8EncodeChar c).flatMap escapeByte := by
  by_cases hc : c.toNat < 128
  · have hall : (List.range 128).all (fun n => decide (encode ((escapeByte (UInt8.ofNat n)).map
        fun b => Char.ofNat b.toNat) = escapeByte (UInt8.ofNat n))) = true := by decide
    have hbytes := List.all_eq_true.mp hall c.toNat (List.mem_range.mpr hc)
    rw [decide_eq_true_eq] at hbytes
    have hval : c.val.toNat = c.toNat := rfl
    rw [escapeChar, if_pos hc, hbytes, String.utf8EncodeChar, if_pos (by omega), hval,
      List.flatMap_singleton]
  · have hself : (String.utf8EncodeChar c).flatMap escapeByte = String.utf8EncodeChar c := by
      have hge : ∀ b ∈ String.utf8EncodeChar c, 128 ≤ b := fun b hb => ge_of_mem_utf8EncodeChar hc hb
      revert hge
      induction String.utf8EncodeChar c with
      | nil => exact fun _ => rfl
      | cons b rest ih =>
        intro hge
        rw [List.flatMap_cons, escapeByte_of_ge (hge b List.mem_cons_self),
          ih fun d hd => hge d (List.mem_cons_of_mem b hd), List.singleton_append]
    rw [escapeChar, if_neg hc, hself]
    exact List.append_nil _

theorem encode_stringChars (s : String) : encode (stringChars s) = renderString s := by
  have hflat : ∀ cs : List Char, encode (cs.flatMap escapeChar) = (encode cs).flatMap escapeByte := by
    intro cs
    induction cs with
    | nil => rfl
    | cons c rest ih =>
      rw [List.flatMap_cons, encode_append, encode_escapeChar, ih, encode_cons, List.flatMap_append]
  have hquote : String.utf8EncodeChar (Char.ofNat 34) = [34] := by decide
  rw [stringChars, encode_cons, encode_append, hflat, encode_cons, hquote, renderString, utf8_eq]
  rfl

theorem encode_joinChars (texts : List (List Char)) :
    encode (joinChars texts) = joinComma (texts.map encode) := by
  induction texts with
  | nil => rfl
  | cons t rest ih =>
    cases rest with
    | nil => rfl
    | cons u more =>
      have hcomma : String.utf8EncodeChar ',' = [44] := by decide
      rw [joinChars, encode_append, encode_cons, ih, hcomma]
      rfl

theorem encode_toList (s : String) : encode s.toList = utf8 s := (utf8_eq s).symm

/-- Canonical bytes encode the characters of the value with its fields in order. -/
theorem canonicalBytes_eq (v : Json) : v.canonicalBytes = encode v.sorted.chars := by
  induction v using induct with
  | hnull => exact (encode_toList _).symm
  | hbool b => cases b <;> exact (encode_toList _).symm
  | hint n => exact (encode_toList _).symm
  | hreal literal => exact (encode_toList _).symm
  | hstr s => exact (encode_stringChars s).symm
  | harr items ih =>
    have hopen : String.utf8EncodeChar '[' = [91] := by decide
    have hclose : encode [']'] = [93] := by decide
    have hitems : (items.map sorted).map (encode ∘ chars) = items.map canonicalBytes := by
      rw [List.map_map]
      exact List.map_congr_left fun v hv => (ih v hv).symm
    rw [sorted, chars, encode_cons, encode_append, encode_joinChars, itemsChars_eq, sortedItems_eq,
      List.map_map, hitems, hopen, hclose, canonicalBytes, renderItems_eq]
    rfl
  | hobj fields ih =>
    have hopen : String.utf8EncodeChar (Char.ofNat 123) = [123] := by decide
    have hclose : encode [Char.ofNat 125] = [125] := by decide
    have hcolon : String.utf8EncodeChar ':' = [58] := by decide
    have hfields : ((fieldsChars (sortFields fields)).map fieldChars).map encode =
        (encoded (sortFields fields)).map renderField := by
      rw [fieldsChars_eq, encoded, List.map_map, List.map_map, List.map_map]
      refine List.map_congr_left fun kw hkw => ?_
      obtain ⟨kv, hkv, rfl⟩ := List.mem_map.mp ((sortFields_perm fields).mem_iff.mp hkw)
      show encode (stringChars kv.1 ++ ':' :: kv.2.sorted.chars) =
        renderString kv.1 ++ 58 :: kv.2.sorted.canonicalBytes
      rw [encode_append, encode_stringChars, encode_cons, hcolon, ← ih kv hkv, canonicalBytes_sorted]
      rfl
    rw [← canonicalBytes_sorted, sorted, chars, encode_cons, encode_append, encode_joinChars,
      hfields, hopen, hclose, canonicalBytes, sortedFields_inOrder (inOrder_sortFields fields)]
    rfl

theorem fromUTF8?_canonicalBytes (v : Json) :
    String.fromUTF8? ⟨v.canonicalBytes.toArray⟩ = some (String.ofList v.sorted.chars) := by
  have hbytes : v.canonicalBytes = utf8 (String.ofList v.sorted.chars) := by
    rw [utf8_eq, String.toList_ofList, canonicalBytes_eq]
    rfl
  rw [hbytes, fromUTF8?_utf8]

/-! ### Values without floats -/

/-- A value that is read back: no float in it, and no integer of too many digits. -/
inductive Readable : Json → Prop where
  | null : Readable .null
  | bool (b : Bool) : Readable (.bool b)
  | int (n : Int) (h : (Nat.toDigits 10 n.natAbs).length ≤ PyJson.maxDigits) : Readable (.int n)
  | str (s : String) : Readable (.str s)
  | arr (items : List Json) (h : ∀ v ∈ items, Readable v) : Readable (.arr items)
  | obj (fields : List (String × Json)) (hkeys : (fields.map Prod.fst).Nodup)
      (h : ∀ kv ∈ fields, Readable kv.2) : Readable (.obj fields)

theorem Readable.wellFormed {v : Json} (h : Readable v) : v.wellFormed = true := by
  induction h with
  | arr items _ ih => exact wellFormed_arr.mpr ih
  | obj fields hkeys _ ih => exact wellFormed_obj.mpr ⟨hkeys, ih⟩
  | _ => rfl

theorem Readable.sorted {v : Json} (h : Readable v) : Readable v.sorted := by
  induction h with
  | null => exact .null
  | bool b => exact .bool b
  | int n h => exact .int n h
  | str s => exact .str s
  | arr items _ ih =>
    rw [Json.sorted, sortedItems_eq]
    refine .arr _ fun w hw => ?_
    obtain ⟨v, hv, rfl⟩ := List.mem_map.mp hw
    exact ih v hv
  | obj fields hkeys _ ih =>
    refine .obj _ (nodup_sortFields hkeys) fun kw hkw => ?_
    obtain ⟨kv, hkv, rfl⟩ := List.mem_map.mp ((sortFields_perm fields).mem_iff.mp hkw)
    exact ih kv hkv

end Json

namespace PyText

theorem toString?_of (s : String) : (PyText.of s).toString? = some s := by
  have hvalid : (PyText.of s).all Nat.isValidChar = true := by
    rw [PyText.of, List.all_map, List.all_eq_true]
    intro c _
    exact decide_eq_true c.valid
  have hmap : (PyText.of s).map Char.ofNat = s.toList := by
    rw [PyText.of, List.map_map]
    exact (List.map_congr_left fun c _ => Char.ofNat_toNat c).trans (List.map_id _)
  rw [toString?, if_pos hvalid, hmap, String.ofList_toList]

theorem of_injective {s t : String} (h : PyText.of s = PyText.of t) : s = t := by
  have htext := toString?_of s
  rw [h, toString?_of] at htext
  exact (Option.some.inj htext).symm

end PyText

namespace PyJson

open Json

mutual

def ofJson : Json → PyJson
  | .null => .null
  | .bool b => .bool b
  | .int n => .int n
  | .real literal => .float literal
  | .str s => .str (PyText.of s)
  | .arr items => .arr (ofItems items)
  | .obj fields => .obj (ofFields fields)

def ofItems : List Json → List PyJson
  | [] => []
  | v :: rest => ofJson v :: ofItems rest

def ofFields : List (String × Json) → List (PyText × PyJson)
  | [] => []
  | (k, v) :: rest => (PyText.of k, ofJson v) :: ofFields rest

end

theorem ofItems_eq (items : List Json) : ofItems items = items.map ofJson := by
  induction items with
  | nil => rfl
  | cons v rest ih => rw [ofItems, List.map_cons, ih]

theorem ofFields_eq (fields : List (String × Json)) :
    ofFields fields = fields.map fun kv => (PyText.of kv.1, ofJson kv.2) := by
  induction fields with
  | nil => rfl
  | cons kv rest ih =>
    obtain ⟨k, v⟩ := kv
    rw [ofFields, List.map_cons, ih]

/-- The value that is read is written again. -/
theorem toJson_ofJson (f : FloatRepr) {v : Json} (h : Readable v) : (ofJson v).toJson f = some v := by
  induction h with
  | null => rfl
  | bool b => rfl
  | int n => rfl
  | str s => rw [ofJson, toJson, PyText.toString?_of, Option.map_some]
  | arr items _ ih =>
    have hitems : ∀ l : List Json, (∀ v ∈ l, (ofJson v).toJson f = some v) →
        toJsonItems f (ofItems l) = some l := by
      intro l hl
      induction l with
      | nil => rfl
      | cons v rest ihrest =>
        rw [ofItems, toJsonItems, hl v List.mem_cons_self,
          ihrest fun w hw => hl w (List.mem_cons_of_mem v hw)]
        rfl
    rw [ofJson, toJson, hitems items ih, Option.map_some]
  | obj fields hkeys _ ih =>
    have hfields : ∀ l : List (String × Json), (∀ kv ∈ l, (ofJson kv.2).toJson f = some kv.2) →
        toJsonFields f (ofFields l) = some l := by
      intro l hl
      induction l with
      | nil => rfl
      | cons kv rest ihrest =>
        obtain ⟨k, v⟩ := kv
        rw [ofFields, toJsonFields, PyText.toString?_of, Option.bind_some,
          hl (k, v) List.mem_cons_self, Option.bind_some,
          ihrest fun kw hkw => hl kw (List.mem_cons_of_mem _ hkw)]
        rfl
    rw [ofJson, toJson, hfields fields ih, Option.map_some]

/-! ### Strings -/

theorem readUnicode_control {n : Nat} (hn : n < 32) (rest : List Char) :
    readUnicode ('0' :: '0' :: (Sha256.hexBytes [n] ++ rest)) = some (n, rest) := by
  have hall : (List.range 32).all (fun n => decide (hexValue (Sha256.hexDigit (n / 16)) = some (n / 16)
      ∧ hexValue (Sha256.hexDigit (n % 16)) = some (n % 16))) = true := by decide
  have hdigits := List.all_eq_true.mp hall n (List.mem_range.mpr hn)
  rw [decide_eq_true_eq] at hdigits
  have hzero : hexValue '0' = some 0 := by decide
  have hcode : codeUnit ('0' :: '0' :: (Sha256.hexBytes [n] ++ rest)) = some (n, rest) := by
    show codeUnit ('0' :: '0' :: Sha256.hexDigit (n / 16) :: Sha256.hexDigit (n % 16) :: rest) = _
    simp only [codeUnit, hzero, hdigits.1, hdigits.2, Option.bind_eq_bind, Option.bind_some,
      Option.pure_def]
    rw [show 0 * 4096 + 0 * 256 + n / 16 * 16 + n % 16 = n by omega]
  rw [readUnicode, hcode]
  simp only [Option.bind_eq_bind, Option.bind_some, Option.pure_def]
  rw [if_neg (by omega)]

/-- One character of a string is read back from its escape. -/
theorem readString_escapeChar (fuel : Nat) (c : Char) (rest : List Char) :
    readString (fuel + 1) (escapeChar c ++ rest) =
      (readString fuel rest).map fun r => (c.toNat :: r.1, r.2) := by
  have hescape : ∀ (tail : List Char) (code : Nat), readEscape tail = some (code, rest) →
      readString (fuel + 1) (Char.ofNat 92 :: tail) =
        (readString fuel rest).map fun r => (code :: r.1, r.2) := by
    intro tail code h
    rw [readString, if_neg (by decide), if_neg (by decide), if_pos rfl, h]
    show ((readString fuel rest).bind fun r => some (code :: r.1, r.2)) = _
    cases readString fuel rest <;> rfl
  have hplain : c ≠ Char.ofNat 34 → ¬ c.toNat < 32 → c ≠ Char.ofNat 92 →
      readString (fuel + 1) ([c] ++ rest) =
        (readString fuel rest).map fun r => (c.toNat :: r.1, r.2) := by
    intro h34 h32 h92
    rw [List.singleton_append, readString, if_neg h34, if_neg h32, if_neg h92]
    cases readString fuel rest <;> rfl
  have hchar : ∀ n, c.toNat = n → c = Char.ofNat n := fun n h => by rw [← h, Char.ofNat_toNat]
  by_cases hascii : c.toNat < 128
  · have hbyte : (UInt8.ofNat c.toNat).toNat = c.toNat := by
      rw [UInt8.toNat_ofNat']
      omega
    have hne : ∀ n : Nat, n < 128 → UInt8.ofNat c.toNat ≠ UInt8.ofNat n → c.toNat ≠ n := by
      intro n _ h heq
      exact h (by rw [heq])
    have heq : ∀ n : Nat, n < 128 → UInt8.ofNat c.toNat = UInt8.ofNat n → c.toNat = n := by
      intro n hn h
      have hnat := congrArg UInt8.toNat h
      rw [hbyte, UInt8.toNat_ofNat'] at hnat
      omega
    rw [escapeChar, if_pos hascii]
    unfold escapeByte
    split_ifs with h34 h92 h10 h13 h9 h8 h12 hctl
    · rw [heq 34 (by decide) h34]
      exact hescape _ 34 rfl
    · rw [heq 92 (by decide) h92]
      exact hescape _ 92 rfl
    · rw [heq 10 (by decide) h10]
      exact hescape _ 10 rfl
    · rw [heq 13 (by decide) h13]
      exact hescape _ 13 rfl
    · rw [heq 9 (by decide) h9]
      exact hescape _ 9 rfl
    · rw [heq 8 (by decide) h8]
      exact hescape _ 8 rfl
    · rw [heq 12 (by decide) h12]
      exact hescape _ 12 rfl
    · have hlt : c.toNat < 32 := by
        have hlt := UInt8.lt_iff_toNat_lt.mp hctl
        rw [hbyte] at hlt
        exact hlt
      have hall : (List.range 32).all (fun n => decide (
          (utf8 "\\u00" ++ utf8 (String.ofList (Sha256.hexBytes [(UInt8.ofNat n).toNat]))).map
            (fun b => Char.ofNat b.toNat) =
              Char.ofNat 92 :: 'u' :: '0' :: '0' :: Sha256.hexBytes [n])) = true := by
        decide
      have htext := List.all_eq_true.mp hall c.toNat (List.mem_range.mpr hlt)
      rw [decide_eq_true_eq] at htext
      rw [htext]
      refine hescape _ c.toNat ?_
      show readEscape ('u' :: ('0' :: '0' :: (Sha256.hexBytes [c.toNat] ++ rest))) = _
      rw [readEscape, if_neg (by decide), if_neg (by decide), if_neg (by decide),
        if_neg (by decide), if_neg (by decide), if_neg (by decide), if_pos rfl,
        readUnicode_control hlt]
    · have hlt : ¬ c.toNat < 32 := by
        intro hlt
        refine hctl (UInt8.lt_iff_toNat_lt.mpr ?_)
        rw [hbyte]
        exact hlt
      rw [List.map_singleton, hbyte, Char.ofNat_toNat]
      refine hplain (fun h => h34 (by rw [h]; rfl)) hlt fun h => h92 (by rw [h]; rfl)
  · rw [escapeChar, if_neg hascii]
    refine hplain ?_ (by omega) ?_
    · rintro rfl
      exact hascii (by decide)
    · rintro rfl
      exact hascii (by decide)

theorem one_le_length_escapeChar (c : Char) : 1 ≤ (escapeChar c).length := by
  rw [escapeChar]
  split_ifs
  · rw [List.length_map]
    exact one_le_length_escapeByte _
  · exact Nat.le_refl 1

/-- A string is read back. -/
theorem readString_stringChars {fuel : Nat} (s : String) (rest : List Char)
    (hfuel : (stringChars s).length ≤ fuel + 1) :
    readString fuel ((stringChars s).tail ++ rest) = some (PyText.of s, rest) := by
  have hread : ∀ (cs : List Char) (fuel : Nat), (cs.flatMap escapeChar).length < fuel →
      readString fuel (cs.flatMap escapeChar ++ Char.ofNat 34 :: rest) =
        some (cs.map Char.toNat, rest) := by
    intro cs
    induction cs with
    | nil =>
      intro fuel hfuel
      obtain ⟨n, rfl⟩ : ∃ n, fuel = n + 1 := ⟨fuel - 1, by omega⟩
      rw [List.flatMap_nil, List.nil_append, readString, if_pos rfl]
      rfl
    | cons c cs ih =>
      intro fuel hfuel
      have hc := one_le_length_escapeChar c
      rw [List.flatMap_cons, List.length_append] at hfuel
      obtain ⟨n, rfl⟩ : ∃ n, fuel = n + 1 := ⟨fuel - 1, by omega⟩
      rw [List.flatMap_cons, List.append_assoc, readString_escapeChar, ih n (by omega)]
      rfl
  rw [stringChars, List.length_cons, List.length_append, List.length_singleton] at hfuel
  rw [stringChars, List.tail_cons, List.append_assoc, List.singleton_append,
    hread s.toList fuel (by omega)]
  rfl

/-! ### Numbers -/

def Stops (rest : List Char) : Prop :=
  ∀ c ∈ rest.head?, c.isDigit = false ∧ c ≠ '.' ∧ c ≠ 'e' ∧ c ≠ 'E'

theorem stops_cons {c : Char} {rest : List Char}
    (h : c.isDigit = false ∧ c ≠ '.' ∧ c ≠ 'e' ∧ c ≠ 'E') : Stops (c :: rest) := by
  intro d hd
  cases hd
  exact h

theorem spanDigits_append {digits rest : List Char} (h : ∀ c ∈ digits, c.isDigit = true)
    (hrest : Stops rest) : spanDigits (digits ++ rest) = (digits, rest) := by
  have hstop : rest.takeWhile Char.isDigit = [] ∧ rest.dropWhile Char.isDigit = rest := by
    cases rest with
    | nil => exact ⟨rfl, rfl⟩
    | cons c tail =>
      have hc := (hrest c rfl).1
      exact ⟨List.takeWhile_cons_of_neg (by simp [hc]), List.dropWhile_cons_of_neg (by simp [hc])⟩
  rw [spanDigits, List.span_eq_takeWhile_dropWhile, List.takeWhile_append_of_pos h,
    List.dropWhile_append_of_pos h, hstop.1, hstop.2, List.append_nil]

theorem spanWhole_toDigits (n : Nat) {rest : List Char} (hrest : Stops rest) :
    spanWhole (Nat.toDigits 10 n ++ rest) = (Nat.toDigits 10 n, rest) := by
  have hdigits : ∀ c ∈ Nat.toDigits 10 n, c.isDigit = true := fun c hc =>
    Nat.isDigit_of_mem_toDigits (by decide) (by decide) hc
  rcases Nat.eq_zero_or_pos n with rfl | hn
  · have hzero : Nat.toDigits 10 0 = ['0'] := by decide
    rw [hzero]
    rfl
  · have hhead := head_toDigits hn
    have hspan := spanDigits_append hdigits hrest
    revert hhead hspan
    cases hl : Nat.toDigits 10 n with
    | nil => exact absurd hl Nat.toDigits_ne_nil
    | cons c cs =>
      intro hhead hspan
      have hc : c ≠ '0' := fun h => hhead (by rw [h]; rfl)
      rw [List.cons_append] at hspan ⊢
      rw [spanWhole]
      · exact hspan
      · intro tail heq
        injection heq with h _
        exact hc h

theorem spanFraction_stops {rest : List Char} (h : Stops rest) : spanFraction rest = ([], rest) := by
  cases rest with
  | nil => rfl
  | cons c tail =>
    have hc := (h c rfl).2.1
    rw [spanFraction]
    intro rest heq
    injection heq with h _
    exact hc h

theorem spanExponent_stops {rest : List Char} (h : Stops rest) : spanExponent rest = ([], rest) := by
  cases rest with
  | nil => rfl
  | cons c tail =>
    obtain ⟨-, -, he, hE⟩ := h c rfl
    simp only [spanExponent]
    rw [if_neg fun hexp => hexp.1.elim he hE]

/-- An integer is read back from its digits. -/
theorem readNumber_toDigits (n : Nat) (hn : (Nat.toDigits 10 n).length ≤ maxDigits)
    {rest : List Char} (hrest : Stops rest) :
    readNumber (Nat.toDigits 10 n ++ rest) = .ok (.int n, rest) ∧
      readNumber ('-' :: (Nat.toDigits 10 n ++ rest)) = .ok (.int (-n), rest) := by
  have hvalue : digitsValue (Nat.toDigits 10 n) = n := by
    rw [digitsValue_eq, Nat.ofDigitChars_ten_toDigits]
  have hempty : (Nat.toDigits 10 n).isEmpty = false := by
    cases h : Nat.toDigits 10 n with
    | nil => exact absurd h Nat.toDigits_ne_nil
    | cons c cs => rfl
  have hminus : ∀ cs, Nat.toDigits 10 n ++ rest ≠ '-' :: cs := by
    intro cs heq
    cases h : Nat.toDigits 10 n with
    | nil => exact absurd h Nat.toDigits_ne_nil
    | cons c digits =>
      have hc : c.isDigit = true :=
        Nat.isDigit_of_mem_toDigits (by decide) (by decide) (h ▸ List.mem_cons_self)
      rw [h, List.cons_append] at heq
      injection heq with hchar _
      rw [hchar] at hc
      exact absurd hc (by decide)
  constructor
  · unfold readNumber
    split
    rename_i sign unsigned hsplit
    split at hsplit
    · exact absurd ‹_› (hminus _)
    · cases hsplit
      simp only [spanWhole_toDigits n hrest, spanFraction_stops hrest, spanExponent_stops hrest,
        hempty, hvalue, Bool.false_eq_true, if_false, List.isEmpty_nil, Bool.and_self, if_true,
        not_lt.mpr hn]
  · simp only [readNumber, spanWhole_toDigits n hrest, spanFraction_stops hrest,
      spanExponent_stops hrest, hempty, hvalue, Bool.false_eq_true, if_false, List.isEmpty_nil,
      Bool.and_self, if_true, not_lt.mpr hn, List.isEmpty_cons]

/-! ### Values -/

/-- The characters of `v` are read back as `v`, whatever follows them. -/
def Reads (v : Json) : Prop :=
  ∀ (hooks : LoadHooks) fuel rest, 2 * v.chars.length ≤ fuel → Stops rest →
    readValue hooks fuel (v.chars ++ rest) = .ok (ofJson v, rest)

def Starts (v : Json) : Prop :=
  ∃ c tail, v.chars = c :: tail ∧ isBlank c = false ∧ c ≠ ']'

theorem skipBlank_of_starts {v : Json} (h : Starts v) (rest : List Char) :
    skipBlank (v.chars ++ rest) = v.chars ++ rest := by
  obtain ⟨c, tail, hv, hc, -⟩ := h
  rw [hv, List.cons_append, skipBlank, List.dropWhile_cons_of_neg (by simp [hc])]

theorem reads_word {v : Json} {c : Char} {word : List Char} (hword : v.chars = c :: word)
    (hread : ∀ (hooks : LoadHooks) n rest,
      readValue hooks (n + 1) (c :: (word ++ rest)) = .ok (ofJson v, rest)) : Reads v := by
  intro hooks fuel rest hfuel _
  rw [hword] at hfuel ⊢
  obtain ⟨n, rfl⟩ : ∃ n, fuel = n + 1 := ⟨fuel - 1, by rw [List.length_cons] at hfuel; omega⟩
  exact hread hooks n rest

theorem reads_str (s : String) : Reads (.str s) := by
  intro hooks fuel rest hfuel _
  have hchars : (Json.str s).chars = stringChars s := rfl
  have hcons : stringChars s = Char.ofNat 34 :: (stringChars s).tail := rfl
  have hlength : 1 ≤ (stringChars s).length := by
    rw [hcons, List.length_cons]
    omega
  rw [hchars] at hfuel ⊢
  obtain ⟨n, rfl⟩ : ∃ n, fuel = n + 1 := ⟨fuel - 1, by omega⟩
  have hread := @readString_stringChars n s rest (by omega)
  rw [hcons, List.cons_append, readValue, if_pos rfl, hread]
  rfl

theorem minusInfinity_toList : "-Infinity".toList = '-' :: 'I' :: "nfinity".toList := by
  decide

theorem reads_digits {c : Char} {hooks : LoadHooks} {n : Nat} {rest : List Char}
    (h : c.isDigit = true) : readValue hooks (n + 1) (c :: rest) = readNumber (c :: rest) := by
  have hne : ∀ d : Char, d.isDigit = false → c ≠ d := by
    rintro d hd rfl
    rw [h] at hd
    cases hd
  have hminus : "-Infinity".toList.isPrefixOf (c :: rest) = false := by
    rw [minusInfinity_toList, List.isPrefixOf, beq_eq_false_iff_ne.mpr (hne '-' (by decide)).symm,
      Bool.false_and]
  rw [readValue, if_neg (hne (Char.ofNat 34) (by decide)), if_neg (hne '[' (by decide)),
    if_neg (hne (Char.ofNat 123) (by decide)), if_neg (hne 'n' (by decide)),
    if_neg (hne 't' (by decide)), if_neg (hne 'f' (by decide)), if_neg (hne 'N' (by decide)),
    if_neg (hne 'I' (by decide)), hminus, if_neg Bool.false_ne_true]

theorem reads_minus {hooks : LoadHooks} {n : Nat} {c : Char} {rest : List Char} (h : c.isDigit = true) :
    readValue hooks (n + 1) ('-' :: c :: rest) = readNumber ('-' :: c :: rest) := by
  have hc : 'I' ≠ c := by
    rintro rfl
    exact absurd h (by decide)
  have hminus : "-Infinity".toList.isPrefixOf ('-' :: c :: rest) = false := by
    rw [minusInfinity_toList, List.isPrefixOf, List.isPrefixOf, beq_eq_false_iff_ne.mpr hc,
      Bool.false_and, Bool.and_false]
  have hne : ∀ d : Char, d ≠ '-' → '-' ≠ d := fun d hd => hd.symm
  rw [readValue, if_neg (hne (Char.ofNat 34) (by decide)), if_neg (hne '[' (by decide)),
    if_neg (hne (Char.ofNat 123) (by decide)), if_neg (hne 'n' (by decide)),
    if_neg (hne 't' (by decide)), if_neg (hne 'f' (by decide)), if_neg (hne 'N' (by decide)),
    if_neg (hne 'I' (by decide)), hminus, if_neg Bool.false_ne_true]

/-- The characters of an integer: its digits, after a sign if there is one. -/
theorem chars_int (n : Int) : (Json.int n).chars =
    (if n < 0 then ['-'] else []) ++ Nat.toDigits 10 n.natAbs := by
  have htext : ∀ k : Nat, (toString k).toList = Nat.toDigits 10 k := fun k => by
    rw [Nat.toString_eq_ofList_toDigits, String.toList_ofList]
  cases n with
  | ofNat k => exact htext k
  | negSucc k =>
    have hneg : toString (Int.negSucc k) = "-" ++ toString (k + 1) := rfl
    show (toString (Int.negSucc k)).toList = _
    rw [hneg, String.toList_append, htext, if_pos (Int.negSucc_lt_zero k)]
    rfl

theorem reads_int {n : Int} (h : (Nat.toDigits 10 n.natAbs).length ≤ maxDigits) :
    Reads (.int n) := by
  intro hooks fuel rest hfuel hrest
  rw [chars_int] at hfuel ⊢
  have hread := readNumber_toDigits n.natAbs h hrest
  have hhead : ∀ c tail, Nat.toDigits 10 n.natAbs = c :: tail → c.isDigit = true := fun c tail hl =>
    Nat.isDigit_of_mem_toDigits (by decide) (by decide) (hl ▸ List.mem_cons_self)
  cases hl : Nat.toDigits 10 n.natAbs with
  | nil => exact absurd hl Nat.toDigits_ne_nil
  | cons c tail =>
    rw [hl, List.length_append, List.length_cons] at hfuel
    obtain ⟨m, rfl⟩ : ∃ m, fuel = m + 1 := ⟨fuel - 1, by omega⟩
    rw [hl] at hread
    by_cases hn : n < 0
    · rw [if_pos hn, List.singleton_append, List.cons_append, List.cons_append,
        reads_minus (hhead c tail hl), ← List.cons_append, hread.2, ofJson,
        show -(n.natAbs : Int) = n by omega]
    · rw [if_neg hn, List.nil_append, List.cons_append, reads_digits (hhead c tail hl),
        ← List.cons_append, hread.1, ofJson, show (n.natAbs : Int) = n by omega]

theorem starts_of_readable {v : Json} (h : Readable v) : Starts v := by
  cases h with
  | null => exact ⟨'n', _, rfl, by decide, by decide⟩
  | bool b => cases b <;> exact ⟨_, _, rfl, by decide, by decide⟩
  | int n h =>
    rw [Starts, chars_int]
    by_cases hn : n < 0
    · rw [if_pos hn]
      exact ⟨'-', _, rfl, by decide, by decide⟩
    · rw [if_neg hn, List.nil_append]
      cases hl : Nat.toDigits 10 n.natAbs with
      | nil => exact absurd hl Nat.toDigits_ne_nil
      | cons c tail =>
        have hc : c.isDigit = true :=
          Nat.isDigit_of_mem_toDigits (by decide) (by decide) (hl ▸ List.mem_cons_self)
        have hne : ∀ d : Char, d.isDigit = false → c ≠ d := by
          rintro d hd rfl
          rw [hc] at hd
          cases hd
        refine ⟨c, tail, rfl, ?_, hne ']' (by decide)⟩
        simp [isBlank, hne ' ' (by decide), hne '\n' (by decide), hne '\r' (by decide),
          hne '\t' (by decide)]
  | str s => exact ⟨Char.ofNat 34, _, rfl, by decide, by decide⟩
  | arr items h => exact ⟨'[', _, rfl, by decide, by decide⟩
  | obj fields hkeys h => exact ⟨Char.ofNat 123, _, rfl, by decide, by decide⟩

theorem joinChars_cons (x : List Char) (rest : List (List Char)) (hrest : rest ≠ []) :
    joinChars (x :: rest) = x ++ ',' :: joinChars rest := by
  cases rest with
  | nil => exact absurd rfl hrest
  | cons y rest => rfl

theorem readItems_join {items : List Json} (hne : items ≠ [])
    (h : ∀ v ∈ items, Starts v ∧ Reads v) {hooks : LoadHooks} {fuel : Nat} (rest : List Char)
    (hfuel : 2 * (joinChars (items.map chars)).length + 1 ≤ fuel) :
    readItems hooks fuel (joinChars (items.map chars) ++ ']' :: rest) =
      .ok (items.map ofJson, rest) := by
  induction items generalizing fuel with
  | nil => exact absurd rfl hne
  | cons v more ih =>
    obtain ⟨n, rfl⟩ : ∃ n, fuel = n + 1 := ⟨fuel - 1, by omega⟩
    obtain ⟨-, hv⟩ := h v List.mem_cons_self
    cases hmore : more with
    | nil =>
      have hjoin : joinChars ([v].map chars) = v.chars := rfl
      rw [hmore, hjoin] at hfuel
      rw [hjoin, readItems, hv hooks n (']' :: rest) (by omega) (stops_cons (by decide))]
      rfl
    | cons w tail =>
      have hcomma : joinChars ((v :: more).map chars) = v.chars ++ ',' :: joinChars (more.map chars) :=
        joinChars_cons _ _ (by simp [hmore])
      rw [hcomma, List.length_append, List.length_cons] at hfuel
      have htail := @ih (by simp [hmore]) (fun w hw => h w (List.mem_cons_of_mem v hw)) n (by omega)
      have hskip : skipBlank (joinChars (more.map chars) ++ ']' :: rest) =
          joinChars (more.map chars) ++ ']' :: rest := by
        have hw := (h w (by simp [hmore])).1
        rw [hmore]
        cases tail with
        | nil => exact skipBlank_of_starts hw _
        | cons u tail =>
          rw [List.map_cons, joinChars_cons _ _ (by simp), List.append_assoc]
          exact skipBlank_of_starts hw _
      rw [← hmore, hcomma, List.append_assoc, List.cons_append, readItems,
        hv hooks n _ (by omega) (stops_cons (by decide))]
      show ((readItems hooks n (skipBlank (joinChars (more.map chars) ++ ']' :: rest))).bind fun r =>
        .ok (ofJson v :: r.1, r.2)) = _
      rw [hskip, htail]
      rfl

theorem reads_arr {items : List Json} (h : ∀ v ∈ items, Starts v ∧ Reads v) :
    Reads (.arr items) := by
  intro hooks fuel rest hfuel _
  have hchars : (Json.arr items).chars = '[' :: (joinChars (items.map chars) ++ [']']) := by
    rw [chars, itemsChars_eq]
  rw [hchars, List.length_cons, List.length_append, List.length_singleton] at hfuel
  obtain ⟨n, rfl⟩ : ∃ n, fuel = n + 1 := ⟨fuel - 1, by omega⟩
  rw [hchars, List.cons_append, List.append_assoc, List.singleton_append]
  cases hitems : items with
  | nil => rfl
  | cons v more =>
    have hread := @readItems_join _ (by simp [hitems]) h hooks n rest (by omega)
    obtain ⟨c, tail, hv, hblank, hclose⟩ := (h v (by simp [hitems])).1
    obtain ⟨after, hafter⟩ : ∃ after, joinChars (items.map chars) ++ ']' :: rest = c :: after := by
      rw [hitems, List.map_cons]
      cases more with
      | nil => exact ⟨_, by rw [List.map_nil, joinChars, hv]; rfl⟩
      | cons w more => exact ⟨_, by rw [joinChars_cons _ _ (by simp), hv]; rfl⟩
    rw [← hitems, hafter, readValue]
    rw [hafter] at hread
    rw [if_neg (by decide), if_pos rfl, skipBlank, List.dropWhile_cons_of_neg (by simp [hblank])]
    split
    · rename_i heq
      injection heq with hc _
      exact absurd hc hclose
    · rw [hread, ofJson, ofItems_eq]
      rfl

/-- The dict of fields with distinct keys holds them as they are. -/
theorem dictOf_eq {fields : List (PyText × PyJson)} (h : (fields.map Prod.fst).Nodup) :
    dictOf fields = fields := by
  have hfold : ∀ (more held : List (PyText × PyJson)), ((held ++ more).map Prod.fst).Nodup →
      more.foldl (fun held kv =>
        if held.any fun item => item.1 == kv.1 then
          held.map fun item => if item.1 == kv.1 then kv else item
        else held ++ [kv]) held = held ++ more := by
    intro more
    induction more with
    | nil => exact fun held _ => (List.append_nil held).symm
    | cons kv rest ih =>
      intro held hkeys
      have hfresh : (held.any fun item => item.1 == kv.1) = false := by
        rw [List.map_append, List.nodup_append] at hkeys
        rw [List.any_eq_false]
        intro item hitem heq
        exact hkeys.2.2 item.1 (List.mem_map_of_mem hitem) kv.1 (by simp) (beq_iff_eq.mp heq)
      have happend : held ++ kv :: rest = held ++ [kv] ++ rest := by simp
      rw [List.foldl_cons, hfresh, if_neg Bool.false_ne_true, happend]
      exact ih _ (happend ▸ hkeys)
  exact hfold fields [] h

theorem objectOf_ofFields (hooks : LoadHooks) {fields : List (String × Json)}
    (h : (fields.map Prod.fst).Nodup) : objectOf hooks (ofFields fields) = .ok (ofJson (.obj fields)) := by
  have hkeys : ((ofFields fields).map Prod.fst).Nodup := by
    have hmap : (ofFields fields).map Prod.fst = (fields.map Prod.fst).map PyText.of := by
      rw [ofFields_eq, List.map_map, List.map_map]
      rfl
    rw [hmap]
    exact h.map fun _ _ heq => PyText.of_injective heq
  rw [objectOf, if_pos hkeys, dictOf_eq hkeys, ite_self, ofJson]

theorem readFields_join {fields : List (String × Json)} (hne : fields ≠ [])
    (h : ∀ kv ∈ fields, Starts kv.2 ∧ Reads kv.2) {hooks : LoadHooks} {fuel : Nat}
    (rest : List Char) (hfuel : 2 * (joinChars ((fieldsChars fields).map fieldChars)).length + 1 ≤ fuel) :
    readFields hooks fuel (joinChars ((fieldsChars fields).map fieldChars) ++ Char.ofNat 125 :: rest) =
      .ok (ofFields fields, rest) := by
  induction fields generalizing fuel with
  | nil => exact absurd rfl hne
  | cons kv more ih =>
    obtain ⟨key, v⟩ := kv
    obtain ⟨n, rfl⟩ : ∃ n, fuel = n + 1 := ⟨fuel - 1, by omega⟩
    obtain ⟨hstart, hv⟩ := h (key, v) List.mem_cons_self
    have hcons : stringChars key = Char.ofNat 34 :: (stringChars key).tail := rfl
    have hlength : (fieldChars (key, v.chars)).length =
        (stringChars key).length + (v.chars.length + 1) := by
      rw [fieldChars, List.length_append, List.length_cons]
    -- one field, and what is read after it
    have hfield : ∀ (after : List Char) (c : Char), Stops (c :: after) → isBlank c = false →
        2 * ((stringChars key).length + 1 + v.chars.length) ≤ n →
        readFields hooks (n + 1) (fieldChars (key, v.chars) ++ c :: after) =
          if c = Char.ofNat 125 then .ok ([(PyText.of key, ofJson v)], after)
          else if c = ',' then (readFields hooks n (skipBlank after)).map fun r =>
            ((PyText.of key, ofJson v) :: r.1, r.2)
          else .error .malformed := by
      intro after c hstops hblank hlen
      have hstring := @readString_stringChars n key (':' :: (v.chars ++ c :: after)) (by omega)
      have hvalue := hv hooks n (c :: after) (by show 2 * v.chars.length ≤ n; omega) hstops
      have hskip : skipBlank (c :: after) = c :: after :=
        List.dropWhile_cons_of_neg (by simp [hblank])
      rw [fieldChars, hcons]
      show ((orMalformed (readString n ((stringChars key).tail ++ ':' :: v.chars ++ c :: after))).bind
        _) = _
      rw [List.append_assoc, List.cons_append, hstring]
      show ((readValue hooks n (skipBlank (v.chars ++ c :: after))).bind _) = _
      rw [skipBlank_of_starts hstart, hvalue]
      simp only [Except.bind, hskip]
      show (if c = Char.ofNat 125 then Except.ok ([(PyText.of key, ofJson v)], after)
        else if c = ',' then (readFields hooks n (skipBlank after)).bind fun r =>
          Except.ok ((PyText.of key, ofJson v) :: r.1, r.2)
        else Except.error LoadError.malformed) = _
      cases readFields hooks n (skipBlank after) <;> rfl
    cases hmore : more with
    | nil =>
      have hjoin : joinChars ((fieldsChars [(key, v)]).map fieldChars) = fieldChars (key, v.chars) := rfl
      rw [hmore, hjoin, hlength] at hfuel
      rw [hjoin, hfield rest (Char.ofNat 125) (stops_cons (by decide)) (by decide) (by omega),
        if_pos rfl]
      rfl
    | cons kw tail =>
      have hcomma : joinChars ((fieldsChars ((key, v) :: more)).map fieldChars) =
          fieldChars (key, v.chars) ++ ',' :: joinChars ((fieldsChars more).map fieldChars) :=
        joinChars_cons _ _ (by rw [hmore]; exact List.cons_ne_nil _ _)
      rw [hcomma, List.length_append, hlength, List.length_cons] at hfuel
      have htail := @ih (by simp [hmore]) (fun w hw => h w (List.mem_cons_of_mem _ hw)) n (by omega)
      have hskip : skipBlank (joinChars ((fieldsChars more).map fieldChars) ++ Char.ofNat 125 :: rest) =
          joinChars ((fieldsChars more).map fieldChars) ++ Char.ofNat 125 :: rest := by
        obtain ⟨after, hafter⟩ : ∃ after, joinChars ((fieldsChars more).map fieldChars) =
            Char.ofNat 34 :: after := by
          rw [hmore]
          cases tail <;> exact ⟨_, rfl⟩
        rw [hafter]
        exact List.dropWhile_cons_of_neg (by decide)
      rw [← hmore, hcomma, List.append_assoc, List.cons_append,
        hfield _ ',' (stops_cons (by decide)) (by decide) (by omega), if_neg (by decide), if_pos rfl,
        hskip, htail]
      rfl

theorem reads_obj {fields : List (String × Json)} (hkeys : (fields.map Prod.fst).Nodup)
    (h : ∀ kv ∈ fields, Starts kv.2 ∧ Reads kv.2) : Reads (.obj fields) := by
  intro hooks fuel rest hfuel _
  rw [chars, List.length_cons, List.length_append, List.length_singleton] at hfuel
  obtain ⟨n, rfl⟩ : ∃ n, fuel = n + 1 := ⟨fuel - 1, by omega⟩
  have hobject := objectOf_ofFields hooks hkeys
  rw [chars, List.cons_append, List.append_assoc, List.singleton_append]
  cases hfields : fields with
  | nil =>
    rw [hfields] at hobject
    show ((objectOf hooks []).map fun v => (v, rest)) = _
    rw [show ([] : List (PyText × PyJson)) = ofFields [] from rfl, hobject]
    rfl
  | cons kv more =>
    have hread := @readFields_join _ (by simp [hfields]) h hooks n rest (by omega)
    obtain ⟨tail, htail⟩ : ∃ tail, joinChars ((fieldsChars fields).map fieldChars) =
        Char.ofNat 34 :: tail := by
      rw [hfields]
      cases more <;> exact ⟨_, rfl⟩
    rw [htail] at hread
    rw [← hfields, htail]
    show ((readFields hooks n (Char.ofNat 34 :: tail ++ Char.ofNat 125 :: rest)).bind fun r =>
      (objectOf hooks r.1).map fun v => (v, r.2)) = _
    rw [hread]
    show (objectOf hooks (ofFields fields)).map _ = _
    rw [hobject]
    rfl

/-- A value is read back from its characters. -/
theorem reads_of_readable {v : Json} (h : Readable v) : Reads v := by
  induction h with
  | null => exact reads_word (c := 'n') rfl fun hooks n rest => rfl
  | bool b =>
    cases b with
    | true => exact reads_word (c := 't') rfl fun hooks n rest => rfl
    | false => exact reads_word (c := 'f') rfl fun hooks n rest => rfl
  | int n h => exact reads_int h
  | str s => exact reads_str s
  | arr items h ih => exact reads_arr fun v hv => ⟨starts_of_readable (h v hv), ih v hv⟩
  | obj fields hkeys h ih =>
    exact reads_obj hkeys fun kv hkv => ⟨starts_of_readable (h kv hkv), ih kv hkv⟩

/-- An object is read back from its canonical bytes. -/
theorem loads_canonicalBytes {fields : List (String × Json)} (h : Readable (.obj fields))
    (hooks : LoadHooks) :
    loads hooks (Json.obj fields).canonicalBytes = .ok (ofJson (Json.obj fields).sorted) := by
  have hread := reads_of_readable h.sorted hooks (2 * (Json.obj fields).sorted.chars.length + 1) []
    (by omega) (fun c hc => by cases hc)
  have hskip := skipBlank_of_starts (starts_of_readable h.sorted) []
  have hbom : (Json.obj fields).sorted.chars.head? ≠ some (Char.ofNat 0xfeff) := by
    rw [Json.sorted, chars, List.head?_cons]
    decide
  rw [List.append_nil] at hread hskip
  rw [loads, fromUTF8?_canonicalBytes]
  show (throwIf ((String.ofList (Json.obj fields).sorted.chars).toList.head? = _) LoadError.malformed >>=
    fun _ => _) = _
  rw [String.toList_ofList, throwIf, if_neg hbom]
  show ((readValue hooks (2 * (Json.obj fields).sorted.chars.length + 1)
    (skipBlank (Json.obj fields).sorted.chars)).bind _) = _
  rw [hskip, hread]
  rfl

/-! ### Fields -/

theorem field?_ofJson (v : Json) (key : String) :
    (ofJson v).field? key = (v.field? key).map ofJson := by
  cases v with
  | obj fields =>
    rw [ofJson, ofFields_eq]
    show Option.map Prod.snd (List.find? _ _) = _
    rw [List.find?_map]
    have hkey : ((fun kv : PyText × PyJson => kv.1 == PyText.of key) ∘
        fun kv : String × Json => (PyText.of kv.1, ofJson kv.2)) = fun kv => kv.1 == key := by
      funext kv
      show (PyText.of kv.1 == PyText.of key) = (kv.1 == key)
      rw [Bool.eq_iff_iff, beq_iff_eq, beq_iff_eq]
      exact ⟨PyText.of_injective, congrArg PyText.of⟩
    rw [hkey, Json.field?, Option.map_map, Option.map_map]
    rfl
  | _ => rfl

theorem without_ofJson (v : Json) (key : String) :
    (ofJson v).without key = ofJson (v.without key) := by
  cases v with
  | obj fields =>
    rw [ofJson, ofFields_eq, Json.without, ofJson, ofFields_eq,
      without, List.filter_map]
    have hkey : ((fun kv : PyText × PyJson => kv.1 != PyText.of key) ∘
        fun kv : String × Json => (PyText.of kv.1, ofJson kv.2)) = fun kv => kv.1 != key := by
      funext kv
      show (PyText.of kv.1 != PyText.of key) = (kv.1 != key)
      rw [Bool.eq_iff_iff, bne_iff_ne, bne_iff_ne]
      exact ⟨fun h heq => h (congrArg PyText.of heq), fun h heq => h (PyText.of_injective heq)⟩
    rw [hkey]
  | _ => rfl

theorem isText_ofJson (s text : String) : (ofJson (.str s)).isText text = (s == text) := by
  show (PyText.of s == PyText.of text) = _
  rw [Bool.eq_iff_iff, beq_iff_eq, beq_iff_eq]
  exact ⟨PyText.of_injective, congrArg PyText.of⟩

theorem hasKeys_ofJson (v : Json) (keys : List String) : (ofJson v).hasKeys keys = v.hasKeys keys := by
  have hbeq : ∀ a b : String, (PyText.of a == PyText.of b) = (a == b) := by
    intro a b
    rw [Bool.eq_iff_iff, beq_iff_eq, beq_iff_eq]
    exact ⟨PyText.of_injective, congrArg PyText.of⟩
  cases v with
  | obj fields =>
    have hheld : ∀ key, ((ofJson (.obj fields)).field? key).isSome =
        fields.any fun kv => kv.1 == key := by
      intro key
      rw [field?_ofJson, Option.isSome_map, Json.field?, Option.isSome_map, List.isSome_find?]
    have hknown : ∀ key, (keys.any fun k => PyText.of key == PyText.of k) = keys.contains key := by
      intro key
      rw [List.contains_eq_any_beq]
      exact congrArg keys.any (funext fun k => hbeq key k)
    rw [ofJson, hasKeys, ← ofJson, Json.hasKeys, ofFields_eq, List.all_map]
    congr 1
    · exact congrArg fields.all (funext fun kv => hknown kv.1)
    · exact congrArg keys.all (funext hheld)
  | _ => rfl

theorem hasKeys_of_mem_iff {fields : List (String × Json)} {keys : List String}
    (h : ∀ key, key ∈ fields.map Prod.fst ↔ key ∈ keys) : (Json.obj fields).hasKeys keys = true := by
  rw [Json.hasKeys, Bool.and_eq_true, List.all_eq_true, List.all_eq_true]
  refine ⟨fun kv hkv => List.contains_iff_mem.mpr ((h kv.1).mp (List.mem_map_of_mem hkv)),
    fun key hkey => ?_⟩
  obtain ⟨kv, hkv, hkv'⟩ := List.mem_map.mp ((h key).mpr hkey)
  exact List.any_eq_true.mpr ⟨kv, hkv, beq_iff_eq.mpr hkv'⟩

/-- A field that was written is read. -/
theorem get_ofJson_sorted {fields : List (String × Json)} (h : Readable (.obj fields))
    {key : String} {w : Json} (hmem : (key, w) ∈ fields) :
    (ofJson (Json.obj fields).sorted).get key = ofJson w.sorted := by
  have hkeys := (wellFormed_obj.mp h.wellFormed).1
  rw [get, field?_ofJson, Json.field?_sorted h.wellFormed, (Json.field?_eq_some hkeys).mpr hmem]
  rfl

end PyJson

end EsscherMarket.Lib
