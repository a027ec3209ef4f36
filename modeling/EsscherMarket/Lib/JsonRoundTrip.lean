import EsscherMarket.Lib.JsonText

/-!
# The canonical bytes of a JSON value are read back

What `json.loads` makes of canonical bytes, for every value that Python can hold (`wellFormed`).
-/

namespace EsscherMarket.Lib.Json

open Sha256

/-! ### Strings -/

theorem fromUTF8?_utf8 (s : String) : String.fromUTF8? ⟨(utf8 s).toArray⟩ = some s := by
  have hbytes : (⟨(utf8 s).toArray⟩ : ByteArray) = s.toByteArray := by
    rw [utf8, Array.toArray_toList]
    rfl
  rw [hbytes, String.fromUTF8?, dif_pos s.isValidUTF8]
  rfl

theorem utf8_eq (s : String) : utf8 s = s.toList.flatMap String.utf8EncodeChar := toUTF8_toList s

/-- The escape of a control character names it. -/
theorem readUnicode_control (n : Fin 32) (tail : List UInt8) :
    readUnicode (48 :: 48 :: (utf8 (String.ofList (hexBytes [n.val])) ++ tail)) =
      some ([UInt8.ofNat n.val], tail) := by
  have hbytes : ∀ n : Fin 32, utf8 (String.ofList (hexBytes [n.val])) =
      [if n.val < 16 then 48 else 49, UInt8.ofNat (hexDigit (n.val % 16)).toNat] := by
    decide
  have hhigh : ∀ n : Fin 32, hexValue (if n.val < 16 then 48 else 49) = some (n.val / 16) := by
    decide
  have hlow : ∀ n : Fin 32, hexValue (UInt8.ofNat
      (hexDigit (n.val % 16)).toNat) = some (n.val % 16) := by
    decide
  have hzero : hexValue 48 = some 0 := by decide
  have hchar : ∀ n : Fin 32, String.utf8EncodeChar (.ofNat n.val) = [UInt8.ofNat n.val] := by
    decide
  have hn := n.isLt
  have hcode : codeUnit (48 :: 48 :: (utf8 (String.ofList (hexBytes [n.val])) ++ tail)) =
      some (n.val, tail) := by
    rw [hbytes n]
    simp only [List.cons_append, List.nil_append, codeUnit, hzero, hhigh n, hlow n,
      Option.bind_eq_bind, Option.bind_some, Option.pure_def]
    have hdiv := Nat.div_add_mod n.val 16
    rw [show 0 * 4096 + 0 * 256 + n.val / 16 * 16 + n.val % 16 = n.val by omega]
  rw [readUnicode, hcode]
  simp only [Option.bind_eq_bind, Option.bind_some, Option.pure_def]
  rw [if_neg (by omega), if_neg (by omega), hchar n]

/-- One byte of a string is read back from its escape. -/
theorem readChars_escapeByte (fuel : Nat) (b : UInt8) (tail : List UInt8) :
    readChars (fuel + 1) (escapeByte b ++ tail) =
      (readChars fuel tail).map fun r => (b :: r.1, r.2) := by
  have hescape : ∀ c d, readEscape (c :: tail) = some ([d], tail) →
      readChars (fuel + 1) (92 :: c :: tail) =
        (readChars fuel tail).map fun r => (d :: r.1, r.2) := by
    intro c d h
    rw [readChars, if_neg (by decide), if_neg (by decide), if_pos rfl, h]
    show ((readChars fuel tail).bind fun r => some ([d] ++ r.1, r.2)) = _
    cases readChars fuel tail <;> rfl
  unfold escapeByte
  split_ifs with h34 h92 h10 h13 h9 h8 h12 hctl
  · exact h34 ▸ hescape 34 34 rfl
  · exact h92 ▸ hescape 92 92 rfl
  · exact h10 ▸ hescape 110 10 rfl
  · exact h13 ▸ hescape 114 13 rfl
  · exact h9 ▸ hescape 116 9 rfl
  · exact h8 ▸ hescape 98 8 rfl
  · exact h12 ▸ hescape 102 12 rfl
  · have hlt : b.toNat < 32 := UInt8.lt_iff_toNat_lt.mp hctl
    have hunicode := readUnicode_control ⟨b.toNat, hlt⟩ tail
    have hescape : utf8 "\\u00" = [92, 117, 48, 48] := by decide
    rw [hescape]
    show readChars (fuel + 1) (92 :: 117 :: 48 :: 48 :: (utf8 _ ++ tail)) = _
    rw [readChars, if_neg (by decide), if_neg (by decide), if_pos rfl]
    have hread : readEscape (117 :: 48 :: 48 :: (utf8 (String.ofList (hexBytes [b.toNat])) ++ tail)) =
        some ([b], tail) := by
      rw [readEscape, if_neg (by decide), if_neg (by decide), if_neg (by decide),
        if_neg (by decide), if_neg (by decide), if_neg (by decide), if_pos rfl, hunicode]
      simp
    rw [hread]
    show ((readChars fuel tail).bind fun r => some ([b] ++ r.1, r.2)) = _
    cases readChars fuel tail <;> rfl
  · rw [List.singleton_append, readChars, if_neg h34, if_neg hctl, if_neg h92]
    cases readChars fuel tail <;> rfl

theorem readChars_escaped {fuel : Nat} (bytes : List UInt8) (rest : List UInt8)
    (hfuel : bytes.length < fuel) :
    readChars fuel (bytes.flatMap escapeByte ++ 34 :: rest) = some (bytes, rest) := by
  induction bytes generalizing fuel with
  | nil =>
    obtain ⟨n, rfl⟩ := Nat.exists_eq_add_of_lt hfuel
    rw [List.flatMap_nil, List.nil_append, readChars, if_pos rfl]
  | cons b bs ih =>
    rw [List.length_cons] at hfuel
    obtain ⟨n, rfl⟩ : ∃ n, fuel = n + 1 := ⟨fuel - 1, by omega⟩
    rw [List.flatMap_cons, List.append_assoc, readChars_escapeByte, ih (by omega)]
    rfl

theorem one_le_length_escapeByte (b : UInt8) : 1 ≤ (escapeByte b).length := by
  have hescape : utf8 "\\u00" = [92, 117, 48, 48] := by decide
  unfold escapeByte
  rw [hescape]
  split_ifs <;> simp

theorem length_le_length_renderString (s : String) : (utf8 s).length + 2 ≤ (renderString s).length := by
  have hlen : ∀ bytes : List UInt8, bytes.length ≤ (bytes.flatMap escapeByte).length := by
    intro bytes
    induction bytes with
    | nil => exact Nat.le_refl _
    | cons b bs ih =>
      have hb := one_le_length_escapeByte b
      rw [List.flatMap_cons, List.length_append, List.length_cons]
      omega
  have hs := hlen (utf8 s)
  simp only [renderString, List.length_cons, List.length_append, List.length_nil]
  omega

/-- A string is read back. -/
theorem readString_renderString {fuel : Nat} (s : String) (rest : List UInt8)
    (hfuel : (utf8 s).length < fuel) :
    readString fuel ((renderString s).tail ++ rest) = some (s, rest) := by
  have hread := readChars_escaped (utf8 s) rest hfuel
  rw [renderString, List.tail_cons, List.append_assoc, List.singleton_append, readString, hread]
  simp only [Option.bind_eq_bind, Option.bind_some, fromUTF8?_utf8, Option.pure_def]

/-! ### Numbers -/

theorem utf8EncodeChar_of_isDigit {c : Char} (h : c.isDigit = true) :
    String.utf8EncodeChar c = [UInt8.ofNat c.toNat] := by
  have hc := toNat_of_isDigit h
  have hval : c.val.toNat = c.toNat := rfl
  rw [String.utf8EncodeChar, if_pos (by omega), hval]

theorem utf8_toString_nat (n : Nat) :
    utf8 (toString n) = (Nat.toDigits 10 n).map fun c => UInt8.ofNat c.toNat := by
  have hdigits : ∀ c ∈ Nat.toDigits 10 n, c.isDigit = true := fun c hc =>
    Nat.isDigit_of_mem_toDigits (by decide) (by decide) hc
  rw [utf8_eq, Nat.toString_eq_ofList_toDigits, String.toList_ofList]
  revert hdigits
  induction Nat.toDigits 10 n with
  | nil => exact fun _ => rfl
  | cons c cs ih =>
    intro hdigits
    rw [List.flatMap_cons, List.map_cons, utf8EncodeChar_of_isDigit (hdigits c List.mem_cons_self),
      ih fun d hd => hdigits d (List.mem_cons_of_mem c hd)]
    rfl

theorem toNat_digitByte {c : Char} (h : c.isDigit = true) :
    (UInt8.ofNat c.toNat).toNat = c.toNat := by
  have hc := toNat_of_isDigit h
  rw [UInt8.toNat_ofNat']
  omega

theorem isDigitByte_of_isDigit {c : Char} (h : c.isDigit = true) :
    isDigitByte (UInt8.ofNat c.toNat) = true := by
  have hc := toNat_of_isDigit h
  have hb := toNat_digitByte h
  simp only [isDigitByte, Bool.and_eq_true, decide_eq_true_eq, UInt8.le_iff_toNat_le, hb]
  exact hc

theorem bytesValue_map (cs : List Char) (h : ∀ c ∈ cs, c.isDigit = true) :
    bytesValue (cs.map fun c => UInt8.ofNat c.toNat) = digitsValue cs := by
  have hgo : ∀ n : Nat, (cs.map fun c => UInt8.ofNat c.toNat).foldl
      (fun n b => n * 10 + (b.toNat - 48)) n = cs.foldl (fun n c => n * 10 + (c.toNat - 48)) n := by
    induction cs with
    | nil => exact fun n => rfl
    | cons c cs ih =>
      intro n
      rw [List.map_cons, List.foldl_cons, List.foldl_cons,
        toNat_digitByte (h c List.mem_cons_self)]
      exact ih (fun d hd => h d (List.mem_cons_of_mem c hd)) _
  exact hgo 0

/-- A number's digits do not start with a zero, but for zero itself. -/
theorem head_toDigits {n : Nat} (hn : 0 < n) : (Nat.toDigits 10 n).head? ≠ some '0' := by
  induction n using Nat.strongRecOn with
  | ind n ih =>
    by_cases hlt : n < 10
    · rw [Nat.toDigits_of_lt_base hlt]
      revert hn
      have hsmall : ∀ k : Fin 10, 0 < k.val → [k.val.digitChar].head? ≠ some '0' := by decide
      exact hsmall ⟨n, hlt⟩
    · rw [Nat.toDigits_of_base_le (by decide) (by omega),
        List.head?_append_of_ne_nil _ Nat.toDigits_ne_nil]
      exact ih (n / 10) (by omega) (by omega)

theorem isWhole_utf8 (n : Nat) : isWhole (utf8 (toString n)) = true := by
  have hdigits : ∀ c ∈ Nat.toDigits 10 n, c.isDigit = true := fun c hc =>
    Nat.isDigit_of_mem_toDigits (by decide) (by decide) hc
  rcases Nat.eq_zero_or_pos n with rfl | hn
  · decide
  · have hhead := head_toDigits hn
    have hne : Nat.toDigits 10 n ≠ [] := Nat.toDigits_ne_nil
    rw [utf8_toString_nat]
    cases hl : Nat.toDigits 10 n with
    | nil => exact absurd hl hne
    | cons c cs =>
      rw [hl] at hhead hdigits
      have hc := hdigits c List.mem_cons_self
      have hzero : UInt8.ofNat c.toNat ≠ 48 := by
        intro h
        have hnat := toNat_digitByte hc
        rw [h] at hnat
        have hchar : c = '0' := Char.toNat_inj.mp hnat.symm
        exact hhead (congrArg some hchar)
      have hall : ((c :: cs).map fun c => UInt8.ofNat c.toNat).all isDigitByte = true := by
        rw [List.all_map, List.all_eq_true]
        exact fun d hd => isDigitByte_of_isDigit (hdigits d hd)
      rw [isWhole, hall]
      simp [hzero]

theorem unsigned_whole {digits : List UInt8} (h : digits.all isDigitByte = true) :
    unsigned digits = digits ∧ digits.head? ≠ some 45 := by
  have hhead : digits.head? ≠ some 45 := by
    intro h45
    cases digits with
    | nil => cases h45
    | cons b rest =>
      cases h45
      rw [List.all_cons] at h
      exact absurd h (by simp [isDigitByte])
  exact ⟨if_neg hhead, hhead⟩

theorem all_of_isWhole {digits : List UInt8} (h : isWhole digits = true) :
    digits.all isDigitByte = true ∧ digits ≠ [] := by
  simp only [isWhole, Bool.and_eq_true, Bool.not_eq_true', List.isEmpty_eq_false_iff] at h
  exact ⟨h.1.2, h.1.1⟩

theorem isNumberByte_of_isDigitByte {b : UInt8} (h : isDigitByte b = true) :
    isNumberByte b = true := by
  simp [isNumberByte, h]

/-- An integer is read back from its digits. -/
theorem numberOf_int (n : Int) : numberOf (utf8 (toString n)) = some (.int n) ∧
    ∀ b ∈ utf8 (toString n), isNumberByte b = true := by
  have hnat : ∀ k : Nat, bytesValue (utf8 (toString k)) = k := by
    intro k
    rw [utf8_toString_nat, bytesValue_map _ fun c hc =>
      Nat.isDigit_of_mem_toDigits (by decide) (by decide) hc, digitsValue_eq,
      Nat.ofDigitChars_ten_toDigits]
  have hall : ∀ k : Nat, ∀ b ∈ utf8 (toString k), isNumberByte b = true := fun k b hb =>
    isNumberByte_of_isDigitByte (List.all_eq_true.mp (all_of_isWhole (isWhole_utf8 k)).1 b hb)
  cases n with
  | ofNat k =>
    obtain ⟨hunsigned, hhead⟩ := unsigned_whole (all_of_isWhole (isWhole_utf8 k)).1
    refine ⟨?_, hall k⟩
    show numberOf (utf8 (toString k)) = _
    rw [numberOf, hunsigned, if_pos (isWhole_utf8 k), if_neg hhead, hnat]
    rfl
  | negSucc k =>
    have hutf8 : utf8 (toString (Int.negSucc k)) = 45 :: utf8 (toString (k + 1)) := by
      have htext : toString (Int.negSucc k) = "-" ++ toString (k + 1) := rfl
      rw [htext, utf8_eq, String.toList_append, List.flatMap_append, ← utf8_eq, ← utf8_eq]
      rfl
    rw [hutf8]
    refine ⟨?_, ?_⟩
    · have hunsigned : unsigned (45 :: utf8 (toString (k + 1))) = utf8 (toString (k + 1)) := rfl
      rw [numberOf, hunsigned, if_pos (isWhole_utf8 (k + 1)), List.head?_cons, if_pos rfl,
        List.tail_cons, hnat]
      rfl
    · intro b hb
      rcases List.mem_cons.mp hb with rfl | hb
      · rfl
      · exact hall (k + 1) b hb

theorem isNumberByte_of_isExponent {bytes : List UInt8} (h : isExponent bytes = true) :
    ∀ b ∈ bytes, isNumberByte b = true := by
  cases bytes with
  | nil => simp
  | cons e rest =>
    simp only [isExponent, Bool.and_eq_true, Bool.or_eq_true, beq_iff_eq] at h
    obtain ⟨⟨he, -⟩, hdigits⟩ := h
    have hrest : ∀ b ∈ rest, isNumberByte b = true := by
      split_ifs at hdigits with hsign
      · cases rest with
        | nil => simp
        | cons s digits =>
          intro b hb
          rcases List.mem_cons.mp hb with rfl | hb
          · rcases hsign with hs | hs <;> cases hs <;> rfl
          · exact isNumberByte_of_isDigitByte (List.all_eq_true.mp hdigits b hb)
      · exact fun b hb => isNumberByte_of_isDigitByte (List.all_eq_true.mp hdigits b hb)
    intro b hb
    rcases List.mem_cons.mp hb with rfl | hb
    · rcases he with rfl | rfl <;> rfl
    · exact hrest b hb

theorem isNumberByte_of_takeWhile {bytes : List UInt8}
    (h : ∀ b ∈ bytes.dropWhile isDigitByte, isNumberByte b = true) :
    ∀ b ∈ bytes, isNumberByte b = true := by
  intro b hb
  rw [← List.takeWhile_append_dropWhile (p := isDigitByte) (l := bytes)] at hb
  rcases List.mem_append.mp hb with hb | hb
  · exact isNumberByte_of_isDigitByte (List.mem_takeWhile_imp hb)
  · exact h b hb

theorem isNumberByte_of_isFraction {bytes : List UInt8} (h : isFraction bytes = true) :
    ∀ b ∈ bytes, isNumberByte b = true := by
  cases bytes with
  | nil => simp
  | cons f rest =>
    rw [isFraction] at h
    split_ifs at h with hdot
    · rw [Bool.and_eq_true] at h
      intro b hb
      rcases List.mem_cons.mp hb with rfl | hb
      · subst hdot
        rfl
      · exact isNumberByte_of_takeWhile (isNumberByte_of_isExponent h.2) b hb
    · exact isNumberByte_of_isExponent h

/-- The literal of a number that is no integer is read as it stands. -/
theorem numberOf_real {literal : String} (h : isReal (utf8 literal) = true) :
    numberOf (utf8 literal) = some (.real literal) ∧
      ∀ b ∈ utf8 literal, isNumberByte b = true := by
  have hparts := h
  rw [isReal, Bool.and_eq_true] at hparts
  have hfraction := hparts.2
  have hwhole : ¬ isWhole (unsigned (utf8 literal)) = true := by
    intro hw
    have hall := List.all_eq_true.mp (all_of_isWhole hw).1
    rw [List.dropWhile_eq_nil_iff.mpr hall] at hfraction
    cases hfraction
  refine ⟨?_, ?_⟩
  · rw [numberOf, if_neg hwhole, if_pos h, fromUTF8?_utf8]
    rfl
  · have hunsigned := isNumberByte_of_takeWhile (isNumberByte_of_isFraction hfraction)
    cases hbytes : utf8 literal with
    | nil => simp
    | cons s rest =>
      rw [hbytes] at hunsigned
      by_cases hs : s = 45
      · intro b hb
        rcases List.mem_cons.mp hb with rfl | hb
        · subst hs
          rfl
        · refine hunsigned b ?_
          rw [unsigned, if_pos (by rw [hs]; rfl)]
          exact hb
      · rw [unsigned, if_neg (by simpa using hs)] at hunsigned
        exact hunsigned

def Stops (rest : List UInt8) : Prop := ∀ b ∈ rest.head?, isNumberByte b = false

theorem takeWhile_token {token rest : List UInt8} (h : ∀ b ∈ token, isNumberByte b = true)
    (hrest : Stops rest) : (token ++ rest).takeWhile isNumberByte = token ∧
      (token ++ rest).dropWhile isNumberByte = rest := by
  have hstop : rest.takeWhile isNumberByte = [] ∧ rest.dropWhile isNumberByte = rest := by
    cases rest with
    | nil => exact ⟨rfl, rfl⟩
    | cons b tail =>
      have hb := hrest b rfl
      exact ⟨List.takeWhile_cons_of_neg (by simp [hb]), List.dropWhile_cons_of_neg (by simp [hb])⟩
  rw [List.takeWhile_append_of_pos h, List.dropWhile_append_of_pos h, hstop.1, hstop.2,
    List.append_nil]
  exact ⟨rfl, rfl⟩

theorem readNumber_token {token rest : List UInt8} {v : Json} (hv : numberOf token = some v)
    (h : ∀ b ∈ token, isNumberByte b = true) (hrest : Stops rest) :
    readNumber (token ++ rest) = some (v, rest) := by
  obtain ⟨htake, hdrop⟩ := takeWhile_token h hrest
  rw [readNumber, htake, hdrop, hv]
  rfl

/-! ### Fields in order -/

def insertKey {α : Type} (key : String) (a : α) : List (String × α) → List (String × α)
  | [] => [(key, a)]
  | (k, x) :: rest => if k < key then (k, x) :: insertKey key a rest else (key, a) :: (k, x) :: rest

mutual

/-- The value with the fields of every object in order. -/
def sorted : Json → Json
  | .arr items => .arr (sortedItems items)
  | .obj fields => .obj (sortFields fields)
  | v => v

def sortedItems : List Json → List Json
  | [] => []
  | v :: rest => sorted v :: sortedItems rest

def sortFields : List (String × Json) → List (String × Json)
  | [] => []
  | (k, v) :: rest => insertKey k (sorted v) (sortFields rest)

end

/-- What a rule about JSON values has to say: its arrays from their items, its objects from their
fields. -/
theorem induct {P : Json → Prop} (hnull : P .null) (hbool : ∀ b, P (.bool b))
    (hint : ∀ n, P (.int n)) (hreal : ∀ literal, P (.real literal)) (hstr : ∀ s, P (.str s))
    (harr : ∀ items, (∀ v ∈ items, P v) → P (.arr items))
    (hobj : ∀ fields, (∀ kv ∈ fields, P kv.2) → P (.obj fields)) : ∀ v, P v
  | .null => hnull
  | .bool b => hbool b
  | .int n => hint n
  | .real literal => hreal literal
  | .str s => hstr s
  | .arr items => harr items fun v hv =>
      have : sizeOf v < sizeOf items := List.sizeOf_lt_of_mem hv
      induct hnull hbool hint hreal hstr harr hobj v
  | .obj fields => hobj fields fun kv hkv =>
      have : sizeOf kv < sizeOf fields := List.sizeOf_lt_of_mem hkv
      have : sizeOf kv.2 < sizeOf kv := by cases kv; simp
      induct hnull hbool hint hreal hstr harr hobj kv.2
termination_by v => sizeOf v

theorem sortedItems_eq (items : List Json) : sortedItems items = items.map sorted := by
  induction items with
  | nil => rfl
  | cons v rest ih => rw [sortedItems, List.map_cons, ih]

theorem renderItems_eq (items : List Json) : renderItems items = items.map canonicalBytes := by
  induction items with
  | nil => rfl
  | cons v rest ih => rw [renderItems, List.map_cons, ih]

theorem insertKey_perm {α : Type} (key : String) (a : α) (l : List (String × α)) :
    (insertKey key a l).Perm ((key, a) :: l) := by
  induction l with
  | nil => exact .refl _
  | cons kx rest ih =>
    obtain ⟨k, x⟩ := kx
    rw [insertKey]
    split_ifs
    · exact (ih.cons (k, x)).trans (.swap _ _ _)
    · exact .refl _

theorem sortFields_perm (fields : List (String × Json)) :
    (sortFields fields).Perm (fields.map fun kv => (kv.1, kv.2.sorted)) := by
  induction fields with
  | nil => exact .refl _
  | cons kv rest ih =>
    obtain ⟨k, v⟩ := kv
    rw [sortFields, List.map_cons]
    exact (insertKey_perm k v.sorted _).trans (ih.cons _)

def InOrder {α : Type} (l : List (String × α)) : Prop := (l.map Prod.fst).Pairwise (· ≤ ·)

theorem inOrder_cons {α : Type} {kx : String × α} {l : List (String × α)} :
    InOrder (kx :: l) ↔ (∀ ky ∈ l, kx.1 ≤ ky.1) ∧ InOrder l := by
  rw [InOrder, List.map_cons, List.pairwise_cons]
  simp only [List.mem_map, forall_exists_index, and_imp, forall_apply_eq_imp_iff₂, InOrder]

theorem inOrder_insertKey {α : Type} {key : String} {a : α} {l : List (String × α)}
    (h : InOrder l) : InOrder (insertKey key a l) := by
  induction l with
  | nil => simp [insertKey, InOrder]
  | cons kx rest ih =>
    obtain ⟨k, x⟩ := kx
    obtain ⟨hk, hrest⟩ := inOrder_cons.mp h
    rw [insertKey]
    split_ifs with hlt
    · refine inOrder_cons.mpr ⟨?_, ih hrest⟩
      intro ky hky
      rcases List.mem_cons.mp ((insertKey_perm key a rest).mem_iff.mp hky) with rfl | hky
      · exact le_of_lt hlt
      · exact hk ky hky
    · refine inOrder_cons.mpr ⟨?_, h⟩
      intro ky hky
      rcases List.mem_cons.mp hky with rfl | hky
      · exact not_lt.mp hlt
      · exact (not_lt.mp hlt).trans (hk ky hky)

theorem inOrder_sortFields (fields : List (String × Json)) : InOrder (sortFields fields) := by
  induction fields with
  | nil => simp [sortFields, InOrder]
  | cons kv rest ih => exact inOrder_insertKey ih

def encoded (fields : List (String × Json)) : List (String × List UInt8) :=
  fields.map fun kv => (kv.1, kv.2.canonicalBytes)

theorem insertField_encoded (key : String) (v : Json) (fields : List (String × Json)) :
    insertField key v.canonicalBytes (encoded fields) = encoded (insertKey key v fields) := by
  induction fields with
  | nil => rfl
  | cons kv rest ih =>
    obtain ⟨k, w⟩ := kv
    show insertField key v.canonicalBytes ((k, w.canonicalBytes) :: encoded rest) = _
    rw [insertField, insertKey, ih]
    split_ifs <;> rfl

theorem sortedFields_inOrder {fields : List (String × Json)} (h : InOrder fields) :
    sortedFields fields = encoded fields := by
  induction fields with
  | nil => rfl
  | cons kv rest ih =>
    obtain ⟨k, v⟩ := kv
    obtain ⟨hk, hrest⟩ := inOrder_cons.mp h
    rw [sortedFields, ih hrest, insertField_encoded]
    cases rest with
    | nil => rfl
    | cons kw rest =>
      obtain ⟨k', w⟩ := kw
      rw [insertKey, if_neg (not_lt.mpr (hk (k', w) List.mem_cons_self))]

/-- The canonical bytes do not show the order of fields, at any depth. -/
theorem canonicalBytes_sorted (v : Json) : v.sorted.canonicalBytes = v.canonicalBytes := by
  induction v using induct with
  | hnull => rfl
  | hbool b => rfl
  | hint n => rfl
  | hreal literal => rfl
  | hstr s => rfl
  | harr items ih =>
    rw [sorted, canonicalBytes, canonicalBytes, sortedItems_eq, renderItems_eq, renderItems_eq,
      List.map_map]
    have hitems : items.map (canonicalBytes ∘ sorted) = items.map canonicalBytes :=
      List.map_congr_left ih
    rw [hitems]
  | hobj fields ih =>
    have hfields : sortedFields fields = encoded (sortFields fields) := by
      induction fields with
      | nil => rfl
      | cons kv rest ihrest =>
        obtain ⟨k, v⟩ := kv
        have hv : v.sorted.canonicalBytes = v.canonicalBytes := ih (k, v) List.mem_cons_self
        rw [sortedFields, sortFields, ihrest fun kv hkv => ih kv (List.mem_cons_of_mem _ hkv), ← hv,
          insertField_encoded]
    rw [sorted, canonicalBytes, canonicalBytes, hfields,
      sortedFields_inOrder (inOrder_sortFields fields)]

/-! ### Values -/

mutual

/-- A value that Python can hold: the keys of an object are distinct, and the literal of a number
that is no integer is one. -/
def wellFormed : Json → Bool
  | .real literal => isReal (utf8 literal)
  | .arr items => itemsWellFormed items
  | .obj fields => decide (fields.map Prod.fst).Nodup && fieldsWellFormed fields
  | _ => true

def itemsWellFormed : List Json → Bool
  | [] => true
  | v :: rest => wellFormed v && itemsWellFormed rest

def fieldsWellFormed : List (String × Json) → Bool
  | [] => true
  | (_, v) :: rest => wellFormed v && fieldsWellFormed rest

end

theorem wellFormed_arr {items : List Json} :
    (Json.arr items).wellFormed = true ↔ ∀ v ∈ items, v.wellFormed = true := by
  rw [wellFormed]
  induction items with
  | nil => simp [itemsWellFormed]
  | cons v rest ih => simp [itemsWellFormed, ih]

theorem wellFormed_obj {fields : List (String × Json)} : (Json.obj fields).wellFormed = true ↔
    (fields.map Prod.fst).Nodup ∧ ∀ kv ∈ fields, kv.2.wellFormed = true := by
  have hfields : ∀ l : List (String × Json),
      fieldsWellFormed l = true ↔ ∀ kv ∈ l, kv.2.wellFormed = true := by
    intro l
    induction l with
    | nil => simp [fieldsWellFormed]
    | cons kv rest ih =>
      obtain ⟨k, v⟩ := kv
      rw [fieldsWellFormed, Bool.and_eq_true, ih, List.forall_mem_cons]
  rw [wellFormed, Bool.and_eq_true, decide_eq_true_eq, hfields]

/-- The canonical bytes of `v` are read back as `v`, whatever follows them. -/
def Reads (v : Json) : Prop :=
  ∀ (hook : ObjectHook) fuel rest, 2 * v.canonicalBytes.length ≤ fuel → Stops rest →
    readValue hook fuel (v.canonicalBytes ++ rest) = some (v, rest)

/-- The bytes of a number: digits, signs, a point and the letter of an exponent. -/
theorem toNat_of_isNumberByte {b : UInt8} (h : isNumberByte b = true) :
    43 ≤ b.toNat ∧ b.toNat ≤ 101 ∧ (b.toNat ≤ 57 ∨ b.toNat = 69 ∨ b.toNat = 101) := by
  simp only [isNumberByte, isDigitByte, Bool.or_eq_true, Bool.and_eq_true, decide_eq_true_eq,
    beq_iff_eq, UInt8.le_iff_toNat_le] at h
  rcases h with ((((⟨hlow, hhigh⟩ | rfl) | rfl) | rfl) | rfl) | rfl
  · have h48 : (48 : UInt8).toNat = 48 := rfl
    have h57 : (57 : UInt8).toNat = 57 := rfl
    omega
  all_goals decide

theorem start_of_isNumberByte {b : UInt8} (h : isNumberByte b = true) : isBlank b = false ∧
    b ≠ 34 ∧ b ≠ 91 ∧ b ≠ 123 ∧ b ≠ 110 ∧ b ≠ 116 ∧ b ≠ 102 := by
  obtain ⟨hlow, hhigh, hletter⟩ := toNat_of_isNumberByte h
  have hne : ∀ k : UInt8, k.toNat < 43 ∨ 101 < k.toNat ∨ k.toNat = 91 → b ≠ k := by
    rintro k hk rfl
    omega
  refine ⟨?_, hne _ (by decide), hne _ (by decide), hne _ (by decide), hne _ (by decide),
    hne _ (by decide), hne _ (by decide)⟩
  simp [isBlank, hne 32 (by decide), hne 9 (by decide), hne 10 (by decide), hne 13 (by decide)]

theorem reads_number {v : Json} {token : List UInt8} (htoken : v.canonicalBytes = token)
    (hne : token ≠ []) (hv : numberOf token = some v)
    (h : ∀ b ∈ token, isNumberByte b = true) : Reads v := by
  intro hook fuel rest hfuel hrest
  have hread := readNumber_token hv h hrest
  rw [htoken] at hfuel ⊢
  cases token with
  | nil => exact absurd rfl hne
  | cons b tail =>
    obtain ⟨n, rfl⟩ : ∃ n, fuel = n + 1 := ⟨fuel - 1, by rw [List.length_cons] at hfuel; omega⟩
    have hb := h b List.mem_cons_self
    obtain ⟨hblank, h34, h91, h123, h110, h116, h102⟩ := start_of_isNumberByte hb
    rw [List.cons_append, readValue, skipBlank, List.dropWhile_cons_of_neg (by simp [hblank])]
    simp only [if_neg h34, if_neg h91, if_neg h123, if_neg h110, if_neg h116, if_neg h102]
    exact hread

theorem readWord_append (word rest : List UInt8) (v : Json) :
    readWord word v (word ++ rest) = some (v, rest) := by
  have hword' : word.isPrefixOf (word ++ rest) = true :=
    List.isPrefixOf_iff_prefix.mpr (List.prefix_append word rest)
  rw [readWord, if_pos hword', List.drop_left]

theorem reads_word {v : Json} {b : UInt8} {word : List UInt8}
    (hword : v.canonicalBytes = b :: word)
    (hread : ∀ hook n bytes,
      readValue hook (n + 1) (b :: bytes) = readWord (b :: word) v (b :: bytes)) :
    Reads v := by
  intro hook fuel rest hfuel _
  rw [hword] at hfuel ⊢
  obtain ⟨n, rfl⟩ : ∃ n, fuel = n + 1 := ⟨fuel - 1, by rw [List.length_cons] at hfuel; omega⟩
  rw [List.cons_append, hread, ← List.cons_append, readWord_append]

theorem reads_str (s : String) : Reads (.str s) := by
  intro hook fuel rest hfuel _
  have hlen := length_le_length_renderString s
  have hbytes : (Json.str s).canonicalBytes = renderString s := rfl
  rw [hbytes] at hfuel ⊢
  obtain ⟨n, rfl⟩ : ∃ n, fuel = n + 1 := ⟨fuel - 1, by omega⟩
  have hread := @readString_renderString n s rest (by omega)
  have hcons : renderString s = 34 :: (renderString s).tail := rfl
  rw [hcons, List.cons_append]
  show (readString n ((renderString s).tail ++ rest)).map _ = _
  rw [hread]
  rfl

theorem stops_cons {b : UInt8} {rest : List UInt8} (h : isNumberByte b = false) :
    Stops (b :: rest) := by
  intro c hc
  cases hc
  exact h

theorem joinComma_cons (x : List UInt8) (rest : List (List UInt8)) (hrest : rest ≠ []) :
    joinComma (x :: rest) = x ++ 44 :: joinComma rest := by
  cases rest with
  | nil => exact absurd rfl hrest
  | cons y rest => rfl

theorem readItems_join {items : List Json} (hne : items ≠ []) (h : ∀ v ∈ items, Reads v)
    {hook : ObjectHook} {fuel : Nat} (rest : List UInt8)
    (hfuel : 2 * (joinComma (items.map canonicalBytes)).length + 1 ≤ fuel) :
    readItems hook fuel (joinComma (items.map canonicalBytes) ++ 93 :: rest) = some (items, rest) := by
  induction items generalizing fuel with
  | nil => exact absurd rfl hne
  | cons v more ih =>
    obtain ⟨n, rfl⟩ : ∃ n, fuel = n + 1 := ⟨fuel - 1, by omega⟩
    have hv := h v List.mem_cons_self
    cases hmore : more with
    | nil =>
      have hjoin : joinComma ([v].map canonicalBytes) = v.canonicalBytes := rfl
      rw [hmore, hjoin] at hfuel
      rw [hjoin, readItems, hv hook n (93 :: rest) (by omega) (stops_cons (by rfl))]
      rfl
    | cons w tail =>
      have hcomma : joinComma ((v :: more).map canonicalBytes) =
          v.canonicalBytes ++ 44 :: joinComma (more.map canonicalBytes) :=
        joinComma_cons _ _ (by simp [hmore])
      rw [hcomma, List.length_append, List.length_cons] at hfuel
      have htail := @ih (by simp [hmore]) (fun w hw => h w (List.mem_cons_of_mem v hw)) n (by omega)
      rw [← hmore, hcomma, List.append_assoc, List.cons_append, readItems,
        hv hook n _ (by omega) (stops_cons (by rfl))]
      show ((readItems hook n (joinComma (more.map canonicalBytes) ++ 93 :: rest)).bind fun r =>
        some (v :: r.1, r.2)) = _
      rw [htail]
      rfl

theorem readValue_bracket {hook : ObjectHook} {n : Nat} {bytes tail : List UInt8} (h : skipBlank bytes = 93 :: tail) :
    readValue hook (n + 1) bytes = none := by
  rw [readValue, h]
  rfl

theorem reads_arr {items : List Json} (h : ∀ v ∈ items, Reads v) : Reads (.arr items) := by
  intro hook fuel rest hfuel _
  have hbytes : (Json.arr items).canonicalBytes =
      91 :: (joinComma (items.map canonicalBytes) ++ [93]) := by
    rw [canonicalBytes, renderItems_eq]
  rw [hbytes, List.length_cons, List.length_append, List.length_singleton] at hfuel
  obtain ⟨n, rfl⟩ : ∃ n, fuel = n + 1 := ⟨fuel - 1, by omega⟩
  rw [hbytes, List.cons_append, List.append_assoc, List.singleton_append]
  cases hitems : items with
  | nil => rfl
  | cons v more =>
    have hread := @readItems_join _ (by simp [hitems]) h hook n rest (by omega)
    have hopen : (skipBlank (joinComma (items.map canonicalBytes) ++ 93 :: rest)).head? ≠
        some 93 := by
      intro hhead
      obtain ⟨m, rfl⟩ : ∃ m, n = m + 1 := ⟨n - 1, by omega⟩
      obtain ⟨k, rfl⟩ : ∃ k, m = k + 1 := ⟨m - 1, by omega⟩
      obtain ⟨tail, htail⟩ := List.head?_eq_some_iff.mp hhead
      rw [readItems, readValue_bracket htail] at hread
      cases hread
    rw [← hitems]
    show (if _ then _ else _) = _
    rw [if_neg hopen, hread]
    rfl

theorem readFields_join {fields : List (String × Json)} (hne : fields ≠ [])
    (h : ∀ kv ∈ fields, Reads kv.2) {hook : ObjectHook} {fuel : Nat} (rest : List UInt8)
    (hfuel : 2 * (joinComma ((encoded fields).map renderField)).length + 1 ≤ fuel) :
    readFields hook fuel (joinComma ((encoded fields).map renderField) ++ 125 :: rest) =
      some (fields, rest) := by
  induction fields generalizing fuel with
  | nil => exact absurd rfl hne
  | cons kv more ih =>
    obtain ⟨key, v⟩ := kv
    obtain ⟨n, rfl⟩ : ∃ n, fuel = n + 1 := ⟨fuel - 1, by omega⟩
    have hv : Reads v := h (key, v) List.mem_cons_self
    have hkey := length_le_length_renderString key
    have hcons : renderString key = 34 :: (renderString key).tail := rfl
    have hlength : (renderField (key, v.canonicalBytes)).length =
        (renderString key).length + (v.canonicalBytes.length + 1) := by
      rw [renderField, List.length_append, List.length_cons]
    -- one field, and what is read after it
    have hfield : ∀ (after : List UInt8) (b : UInt8), isNumberByte b = false →
        isBlank b = false → 2 * ((renderString key).length + 1 + v.canonicalBytes.length) ≤ n →
        readFields hook (n + 1) (renderField (key, v.canonicalBytes) ++ b :: after) =
          if b = 125 then some ([(key, v)], after)
          else if b = 44 then (readFields hook n after).map fun r => ((key, v) :: r.1, r.2)
          else none := by
      intro after b hb hblank hlen
      have hstring := @readString_renderString n key (58 :: (v.canonicalBytes ++ b :: after))
        (by omega)
      have hvalue := hv hook n (b :: after) (by omega) (stops_cons hb)
      have hskip : skipBlank (b :: after) = b :: after :=
        List.dropWhile_cons_of_neg (by simp [hblank])
      rw [renderField, hcons]
      show ((readString n ((renderString key).tail ++ 58 :: v.canonicalBytes ++ b :: after)).bind
        _) = _
      rw [List.append_assoc, List.cons_append, hstring]
      show ((readValue hook n (v.canonicalBytes ++ b :: after)).bind _) = _
      rw [hvalue]
      simp only [Option.bind_some, hskip]
      show (if b = 125 then some ([(key, v)], after)
        else if b = 44 then (readFields hook n after).bind fun r => some ((key, v) :: r.1, r.2)
        else none) = _
      cases readFields hook n after <;> rfl
    cases hmore : more with
    | nil =>
      have hjoin : joinComma ((encoded [(key, v)]).map renderField) =
          renderField (key, v.canonicalBytes) := rfl
      rw [hmore, hjoin, hlength] at hfuel
      rw [hjoin, hfield rest 125 (by rfl) (by rfl) (by omega), if_pos rfl]
    | cons kw tail =>
      have hcomma : joinComma ((encoded ((key, v) :: more)).map renderField) =
          renderField (key, v.canonicalBytes) ++ 44 :: joinComma ((encoded more).map renderField) :=
        joinComma_cons _ _ (by simp [hmore])
      rw [hcomma, List.length_append, hlength, List.length_cons] at hfuel
      have htail := @ih (by simp [hmore]) (fun w hw => h w (List.mem_cons_of_mem _ hw)) n (by omega)
      rw [← hmore, hcomma, List.append_assoc, List.cons_append,
        hfield _ 44 (by rfl) (by rfl) (by omega), if_neg (by decide), if_pos rfl, htail]
      rfl

/-- An object whose fields are in order is read up to its brace. -/
theorem readValue_obj {fields : List (String × Json)} (horder : InOrder fields)
    (hkeys : (fields.map Prod.fst).Nodup) (h : ∀ kv ∈ fields, Reads kv.2) {fuel : Nat}
    (rest : List UInt8) (hfuel : 2 * (Json.obj fields).canonicalBytes.length ≤ fuel) :
    readValue hook fuel ((Json.obj fields).canonicalBytes ++ rest) = some (.obj fields, rest) := by
  have hbytes : (Json.obj fields).canonicalBytes =
      123 :: (joinComma ((encoded fields).map renderField) ++ [125]) := by
    rw [canonicalBytes, sortedFields_inOrder horder]
  rw [hbytes, List.length_cons, List.length_append, List.length_singleton] at hfuel
  obtain ⟨n, rfl⟩ : ∃ n, fuel = n + 1 := ⟨fuel - 1, by omega⟩
  rw [hbytes, List.cons_append, List.append_assoc, List.singleton_append]
  cases hfields : fields with
  | nil => rfl
  | cons kv more =>
    have hread := @readFields_join _ (by simp [hfields]) h hook n rest (by omega)
    obtain ⟨tail, htail⟩ : ∃ tail, joinComma ((encoded fields).map renderField) = 34 :: tail := by
      rw [hfields]
      cases more <;> exact ⟨_, rfl⟩
    rw [htail] at hread
    rw [← hfields, htail]
    show (readFields hook n (34 :: tail ++ 125 :: rest)).bind _ = _
    rw [hread]
    show (hook.run fields).map _ = _
    rw [hook.keeps fields hkeys]
    rfl

theorem nodup_sortFields {fields : List (String × Json)} (h : (fields.map Prod.fst).Nodup) :
    ((sortFields fields).map Prod.fst).Nodup := by
  have hmap := ((sortFields_perm fields).map Prod.fst).nodup_iff
  rw [List.map_map] at hmap
  exact hmap.mpr h

/-- A value with its fields in order is read back from its canonical bytes. -/
theorem reads_sorted (v : Json) (h : v.wellFormed = true) : Reads v.sorted := by
  induction v using induct with
  | hnull => exact reads_word (b := 110) rfl fun hook n bytes => rfl
  | hbool b =>
    cases b with
    | true => exact reads_word (b := 116) rfl fun hook n bytes => rfl
    | false => exact reads_word (b := 102) rfl fun hook n bytes => rfl
  | hint n =>
    have hne : utf8 (toString n) ≠ [] := by
      intro hnil
      have hnone := (numberOf_int n).1
      rw [hnil] at hnone
      cases hnone
    exact reads_number rfl hne (numberOf_int n).1 (numberOf_int n).2
  | hreal literal =>
    have hreal : isReal (utf8 literal) = true := h
    have hne : utf8 literal ≠ [] := by
      intro hnil
      rw [hnil] at hreal
      cases hreal
    exact reads_number rfl hne (numberOf_real hreal).1 (numberOf_real hreal).2
  | hstr s => exact reads_str s
  | harr items ih =>
    have hitems := wellFormed_arr.mp h
    rw [sorted, sortedItems_eq]
    refine reads_arr fun w hw => ?_
    obtain ⟨v, hv, rfl⟩ := List.mem_map.mp hw
    exact ih v hv (hitems v hv)
  | hobj fields ih =>
    obtain ⟨hkeys, hvalues⟩ := wellFormed_obj.mp h
    intro hook fuel rest hfuel _
    refine readValue_obj (inOrder_sortFields fields) (nodup_sortFields hkeys) ?_ rest hfuel
    intro kw hkw
    obtain ⟨kv, hkv, rfl⟩ := List.mem_map.mp ((sortFields_perm fields).mem_iff.mp hkw)
    exact ih kv hkv (hvalues kv hkv)

/-- The canonical bytes of a value are read back as the value with its fields in order. -/
theorem loadsWith_canonicalBytes {v : Json} (h : v.wellFormed = true) (hook : ObjectHook) :
    loadsWith hook v.canonicalBytes = some v.sorted := by
  have hread := reads_sorted v h hook (2 * v.canonicalBytes.length + 1) []
    (by rw [canonicalBytes_sorted]; omega) (fun b hb => by cases hb)
  rw [canonicalBytes_sorted, List.append_nil] at hread
  rw [loadsWith, hread]
  rfl

theorem loads_canonicalBytes {v : Json} (h : v.wellFormed = true) :
    loads v.canonicalBytes = some v.sorted :=
  loadsWith_canonicalBytes h .last

/-- Values with the same canonical bytes are the same up to the order of fields. -/
theorem canonicalBytes_injective {v w : Json} (hv : v.wellFormed = true) (hw : w.wellFormed = true)
    (h : v.canonicalBytes = w.canonicalBytes) : v.sorted = w.sorted := by
  have hread := loads_canonicalBytes hv
  rw [h, loads_canonicalBytes hw] at hread
  exact (Option.some.inj hread).symm

theorem sorted_wellFormed {v : Json} (h : v.wellFormed = true) : v.sorted.wellFormed = true := by
  induction v using induct with
  | hnull => rfl
  | hbool b => rfl
  | hint n => rfl
  | hreal literal => exact h
  | hstr s => rfl
  | harr items ih =>
    have hitems := wellFormed_arr.mp h
    rw [sorted, sortedItems_eq, wellFormed_arr]
    intro w hw
    obtain ⟨v, hv, rfl⟩ := List.mem_map.mp hw
    exact ih v hv (hitems v hv)
  | hobj fields ih =>
    obtain ⟨hkeys, hvalues⟩ := wellFormed_obj.mp h
    have hperm := sortFields_perm fields
    rw [sorted, wellFormed_obj]
    refine ⟨nodup_sortFields hkeys, ?_⟩
    · intro kw hkw
      obtain ⟨kv, hkv, rfl⟩ := List.mem_map.mp (hperm.mem_iff.mp hkw)
      exact ih kv hkv (hvalues kv hkv)

/-! ### What is read -/

theorem utf8_of_fromUTF8? {bytes : List UInt8} {s : String}
    (h : String.fromUTF8? ⟨bytes.toArray⟩ = some s) : utf8 s = bytes := by
  rw [String.fromUTF8?] at h
  split at h
  · cases h
    rfl
  · cases h

theorem wellFormed_numberOf {token : List UInt8} {v : Json} (h : numberOf token = some v) :
    v.wellFormed = true := by
  rw [numberOf] at h
  split_ifs at h with hwhole hminus hreal
  · cases h
    rfl
  · cases h
    rfl
  · obtain ⟨literal, hliteral, rfl⟩ := Option.map_eq_some_iff.mp h
    rw [wellFormed, utf8_of_fromUTF8? hliteral]
    exact hreal

theorem wellFormed_readWord {word bytes rest : List UInt8} {v w : Json}
    (hv : v.wellFormed = true) (h : readWord word v bytes = some (w, rest)) :
    w.wellFormed = true := by
  rw [readWord] at h
  split_ifs at h
  cases h
  exact hv

/-- What each reader returns, by induction on its fuel. -/
theorem wellFormed_read (hook : ObjectHook) (fuel : Nat) :
    (∀ bytes v rest, readValue hook fuel bytes = some (v, rest) → v.wellFormed = true) ∧
    (∀ bytes vs rest, readItems hook fuel bytes = some (vs, rest) → ∀ v ∈ vs, v.wellFormed = true) ∧
    ∀ bytes fields rest, readFields hook fuel bytes = some (fields, rest) →
      ∀ kv ∈ fields, kv.2.wellFormed = true := by
  induction fuel with
  | zero =>
    refine ⟨?_, ?_, ?_⟩
    · intro bytes v rest h
      rw [readValue] at h
      cases h
    · intro bytes vs rest h
      rw [readItems] at h
      cases h
    · intro bytes fields rest h
      rw [readFields] at h
      cases h
  | succ n ih =>
    obtain ⟨ihvalue, ihitems, ihfields⟩ := ih
    refine ⟨?_, ?_, ?_⟩
    · intro bytes v rest h
      rw [readValue] at h
      split at h
      · cases h
      · split_ifs at h
        · obtain ⟨r, -, hr⟩ := Option.map_eq_some_iff.mp h
          cases hr
          rfl
        · cases h
          rfl
        · obtain ⟨r, hread, hr⟩ := Option.map_eq_some_iff.mp h
          cases hr
          exact wellFormed_arr.mpr (ihitems _ _ _ hread)
        · cases h
          rfl
        · obtain ⟨r, hread, h⟩ := Option.bind_eq_some_iff.mp h
          obtain ⟨held, hheld, hr⟩ := Option.map_eq_some_iff.mp h
          cases hr
          obtain ⟨hkeys, hmem⟩ := hook.sound r.1 held hheld
          exact wellFormed_obj.mpr ⟨hkeys, fun kv hkv => ihfields _ _ _ hread kv (hmem kv hkv)⟩
        · exact wellFormed_readWord (by rfl) h
        · exact wellFormed_readWord (by rfl) h
        · exact wellFormed_readWord (by rfl) h
        · rw [readNumber] at h
          obtain ⟨w, hw, hr⟩ := Option.map_eq_some_iff.mp h
          cases hr
          exact wellFormed_numberOf hw
    · intro bytes vs rest h
      rw [readItems] at h
      obtain ⟨⟨v, after⟩, hv, h⟩ := Option.bind_eq_some_iff.mp h
      have hvalue := ihvalue _ _ _ hv
      dsimp only at h
      split at h
      · cases h
      · split_ifs at h
        · cases h
          exact List.forall_mem_singleton.mpr hvalue
        · obtain ⟨⟨ws, last⟩, hws, h⟩ := Option.bind_eq_some_iff.mp h
          cases h
          exact List.forall_mem_cons.mpr ⟨hvalue, ihitems _ _ _ hws⟩
    · intro bytes fields rest h
      rw [readFields] at h
      split at h
      · cases h
      · split_ifs at h
        obtain ⟨⟨key, afterKey⟩, -, h⟩ := Option.bind_eq_some_iff.mp h
        dsimp only at h
        split at h
        · cases h
        · split_ifs at h
          obtain ⟨⟨v, after⟩, hv, h⟩ := Option.bind_eq_some_iff.mp h
          have hvalue := ihvalue _ _ _ hv
          dsimp only at h
          split at h
          · cases h
          · split_ifs at h
            · cases h
              exact List.forall_mem_singleton.mpr hvalue
            · obtain ⟨⟨ws, last⟩, hws, h⟩ := Option.bind_eq_some_iff.mp h
              cases h
              exact List.forall_mem_cons.mpr ⟨hvalue, ihfields _ _ _ hws⟩

/-- What is read is a value that Python can hold. -/
theorem wellFormed_loadsWith {hook : ObjectHook} {bytes : List UInt8} {v : Json}
    (h : loadsWith hook bytes = some v) : v.wellFormed = true := by
  rw [loadsWith] at h
  split at h
  · rename_i w rest hread
    split_ifs at h
    cases h
    exact (wellFormed_read hook _).1 _ _ _ hread
  · cases h

theorem wellFormed_loads {bytes : List UInt8} {v : Json} (h : loads bytes = some v) :
    v.wellFormed = true :=
  wellFormed_loadsWith h

theorem field?_eq_some {fields : List (String × Json)} (hkeys : (fields.map Prod.fst).Nodup)
    {key : String} {v : Json} : (Json.obj fields).field? key = some v ↔ (key, v) ∈ fields := by
  show ((fields.find? fun kv => kv.1 == key).map Prod.snd) = some v ↔ _
  constructor
  · intro h
    obtain ⟨kv, hfind, rfl⟩ := Option.map_eq_some_iff.mp h
    have hkey : kv.1 = key := by simpa using List.find?_some hfind
    rw [← hkey]
    exact List.mem_of_find?_eq_some hfind
  · intro hmem
    induction fields with
    | nil => cases hmem
    | cons kv rest ih =>
      obtain ⟨k, w⟩ := kv
      obtain ⟨hk, hrest⟩ := List.nodup_cons.mp hkeys
      rcases List.mem_cons.mp hmem with heq | hmem
      · cases heq
        rw [List.find?_cons_of_pos (by simp)]
        rfl
      · have hne : ¬ k = key := by
          rintro rfl
          exact hk (List.mem_map.mpr ⟨(k, v), hmem, rfl⟩)
        rw [List.find?_cons_of_neg (by simpa using hne)]
        exact ih hrest hmem

/-- A field of a value in order is the field of the value, in order. -/
theorem field?_sorted {v : Json} (h : v.wellFormed = true) (key : String) :
    v.sorted.field? key = (v.field? key).map sorted := by
  cases v with
  | obj fields =>
    have hkeys := (wellFormed_obj.mp h).1
    have hperm := sortFields_perm fields
    have hkeys' := nodup_sortFields hkeys
    ext w
    rw [sorted, field?_eq_some hkeys', hperm.mem_iff, List.mem_map, Option.map_eq_some_iff]
    constructor
    · rintro ⟨⟨k, u⟩, hmem, heq⟩
      cases heq
      exact ⟨u, (field?_eq_some hkeys).mpr hmem, rfl⟩
    · rintro ⟨u, hu, rfl⟩
      exact ⟨(key, u), (field?_eq_some hkeys).mp hu, rfl⟩
  | null => rfl
  | bool b => rfl
  | int n => rfl
  | real literal => rfl
  | str s => rfl
  | arr items => rfl

theorem get_sorted {v : Json} (h : v.wellFormed = true) (key : String) :
    v.sorted.get key = (v.get key).sorted := by
  rw [get, get, field?_sorted h]
  cases v.field? key <;> rfl

/-- Fields in order stay where they are. -/
theorem sorted_sorted {v : Json} (h : v.wellFormed = true) : v.sorted.sorted = v.sorted := by
  have hread := loads_canonicalBytes (sorted_wellFormed h)
  rw [canonicalBytes_sorted, loads_canonicalBytes h] at hread
  exact (Option.some.inj hread).symm

/-- The keys of a dict do not depend on their order. -/
theorem hasKeys_sorted (v : Json) (keys : List String) : v.sorted.hasKeys keys = v.hasKeys keys := by
  cases v with
  | obj fields =>
    have hkeys : ∀ key, (key ∈ (sortFields fields).map Prod.fst ↔ key ∈ fields.map Prod.fst) := by
      intro key
      rw [((sortFields_perm fields).map Prod.fst).mem_iff, List.map_map]
      rfl
    rw [Bool.eq_iff_iff, sorted, hasKeys, hasKeys]
    simp only [List.mem_map] at hkeys
    simp only [Bool.and_eq_true, List.all_eq_true, List.any_eq_true, beq_iff_eq,
      List.contains_iff_mem, Prod.forall]
    constructor
    · rintro ⟨hall, hany⟩
      refine ⟨fun k v hmem => ?_, fun key hkey => (hkeys key).mp (hany key hkey)⟩
      obtain ⟨kv, hkv, rfl⟩ := (hkeys k).mpr ⟨(k, v), hmem, rfl⟩
      exact hall _ _ hkv
    · rintro ⟨hall, hany⟩
      refine ⟨fun k v hmem => ?_, fun key hkey => (hkeys key).mpr (hany key hkey)⟩
      obtain ⟨kv, hkv, rfl⟩ := (hkeys k).mp ⟨(k, v), hmem, rfl⟩
      exact hall _ _ hkv
  | null => rfl
  | bool b => rfl
  | int n => rfl
  | real literal => rfl
  | str s => rfl
  | arr items => rfl

/-- Without the key that was added last, the canonical bytes are what they were. -/
theorem canonicalBytes_without {fields : List (String × Json)} {key : String} {v : Json}
    (h : (Json.obj (fields ++ [(key, v)])).wellFormed = true) :
    ((Json.obj (fields ++ [(key, v)])).sorted.without key).canonicalBytes =
      (Json.obj fields).canonicalBytes := by
  have hkeys := (wellFormed_obj.mp h).1
  rw [List.map_append, List.nodup_append] at hkeys
  obtain ⟨hnodup, -, hfresh⟩ := hkeys
  have hne : ∀ kv ∈ fields, kv.1 ≠ key := fun kv hkv heq =>
    hfresh kv.1 (List.mem_map.mpr ⟨kv, hkv, rfl⟩) key (by simp) heq
  have hfilter : ((fields ++ [(key, v)]).map fun kv => (kv.1, kv.2.sorted)).filter
      (fun kv => kv.1 != key) = fields.map fun kv => (kv.1, kv.2.sorted) := by
    rw [List.map_append, List.filter_append, List.filter_eq_self.mpr, List.map_singleton,
      List.filter_cons_of_neg (by simp), List.filter_nil, List.append_nil]
    intro kw hkw
    obtain ⟨kv, hkv, rfl⟩ := List.mem_map.mp hkw
    simpa using hne kv hkv
  have hperm : ((sortFields (fields ++ [(key, v)])).filter fun kv => kv.1 != key).Perm
      (sortFields fields) := by
    have hleft := (sortFields_perm (fields ++ [(key, v)])).filter fun kv => kv.1 != key
    rw [hfilter] at hleft
    exact hleft.trans (sortFields_perm fields).symm
  rw [sorted, without, canonicalBytes_obj_perm hperm]
  · exact canonicalBytes_sorted (.obj fields)
  · exact (hperm.map Prod.fst).nodup_iff.mpr (nodup_sortFields hnodup)

/-- Fields of the same names and the same bytes are written alike. -/
theorem sortedFields_congr {fields other : List (String × Json)} (h : List.Forall₂
    (fun kv kw => kv.1 = kw.1 ∧ kv.2.canonicalBytes = kw.2.canonicalBytes) fields other) :
    sortedFields fields = sortedFields other := by
  induction h with
  | nil => rfl
  | @cons kv kw _ _ hR _ ih =>
    obtain ⟨k, v⟩ := kv
    obtain ⟨k', w⟩ := kw
    have hkey : k = k' := hR.1
    have hbytes : v.canonicalBytes = w.canonicalBytes := hR.2
    rw [sortedFields, sortedFields, ih, hkey, hbytes]

/-- An object with exactly these fields is written as they are. -/
theorem canonicalBytes_of_hasKeys {v : Json} {fields : List (String × Json)}
    (hv : v.wellFormed = true) (hnodup : (fields.map Prod.fst).Nodup)
    (hkeys : v.hasKeys (fields.map Prod.fst) = true)
    (hget : ∀ kv ∈ fields, (v.get kv.1).canonicalBytes = kv.2.canonicalBytes) :
    v.canonicalBytes = (Json.obj fields).canonicalBytes := by
  cases v with
  | obj held =>
    have hdistinct := (wellFormed_obj.mp hv).1
    let named := fields.map fun kv => (kv.1, (Json.obj held).get kv.1)
    have hnamed : named.map Prod.fst = fields.map Prod.fst := by
      rw [List.map_map]
      rfl
    simp only [hasKeys, Bool.and_eq_true, List.all_eq_true, List.contains_iff_mem, List.any_eq_true,
      beq_iff_eq] at hkeys
    have hperm : held.Perm named := by
      rw [List.perm_ext_iff_of_nodup hdistinct.of_map (hnamed ▸ hnodup).of_map]
      rintro ⟨k, w⟩
      constructor
      · intro hmem
        obtain ⟨kv, hkv, hk⟩ := List.mem_map.mp (hkeys.1 (k, w) hmem)
        refine List.mem_map.mpr ⟨kv, hkv, ?_⟩
        have hfield := (field?_eq_some hdistinct).mpr hmem
        rw [hk, get, hfield]
        rfl
      · intro hmem
        obtain ⟨kv, hkv, heq⟩ := List.mem_map.mp hmem
        cases heq
        obtain ⟨kw, hkw, hk⟩ := hkeys.2 kv.1 (List.mem_map_of_mem hkv)
        have hfield := (field?_eq_some (v := kw.2) hdistinct).mpr hkw
        rw [hk] at hfield
        rw [get, hfield]
        show (kv.1, kw.2) ∈ held
        rw [← hk]
        exact hkw
    rw [canonicalBytes_obj_perm hperm hdistinct, canonicalBytes, canonicalBytes,
      @sortedFields_congr named fields]
    rw [List.forall₂_map_left_iff, List.forall₂_same]
    exact fun kv hkv => ⟨rfl, hget kv hkv⟩
  | _ => cases hkeys

end EsscherMarket.Lib.Json
