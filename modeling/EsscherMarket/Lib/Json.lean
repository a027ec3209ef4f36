import Mathlib.Data.String.Basic
import EsscherMarket.Lib.PyTypes
import EsscherMarket.Lib.Sha256

/-!
# JSON values and their canonical bytes

A JSON value, the canonical text of it (as `json.dumps(…, sort_keys=True, separators=(",", ":"),
ensure_ascii=False)` writes it), and its SHA-256 digest.
-/

namespace EsscherMarket.Lib

/-! ### Values and their canonical bytes -/

/-- A JSON value.  `real` keeps the literal of a number that is not an integer. -/
inductive Json where
  | null
  | bool (b : Bool)
  | int (n : Int)
  | real (literal : String)
  | str (s : String)
  | arr (items : List Json)
  | obj (fields : List (String × Json))
  deriving Repr

namespace Json

def utf8 (s : String) : List UInt8 := s.toUTF8.data.toList

/-- A UTF-8 byte as it stands inside a JSON string literal: only ASCII bytes are escaped. -/
def escapeByte (b : UInt8) : List UInt8 :=
  if b = 34 then [92, 34]
  else if b = 92 then [92, 92]
  else if b = 10 then [92, 110]
  else if b = 13 then [92, 114]
  else if b = 9 then [92, 116]
  else if b = 8 then [92, 98]
  else if b = 12 then [92, 102]
  else if b < 32 then
    utf8 "\\u00" ++ utf8 (String.ofList (Sha256.hexBytes [b.toNat]))
  else [b]

def renderString (s : String) : List UInt8 := 34 :: ((utf8 s).flatMap escapeByte ++ [34])

def insertField (key : String) (text : List UInt8) :
    List (String × List UInt8) → List (String × List UInt8)
  | [] => [(key, text)]
  | (k, t) :: rest =>
    if k < key then (k, t) :: insertField key text rest else (key, text) :: (k, t) :: rest

def joinComma : List (List UInt8) → List UInt8
  | [] => []
  | [x] => x
  | x :: y :: rest => x ++ 44 :: joinComma (y :: rest)

def renderField (kt : String × List UInt8) : List UInt8 := renderString kt.1 ++ 58 :: kt.2

mutual

def canonicalBytes : Json → List UInt8
  | .null => utf8 "null"
  | .bool true => utf8 "true"
  | .bool false => utf8 "false"
  | .int n => utf8 (toString n)
  | .real literal => utf8 literal
  | .str s => renderString s
  | .arr items => 91 :: (joinComma (renderItems items) ++ [93])
  | .obj fields => 123 :: (joinComma ((sortedFields fields).map renderField) ++ [125])

def renderItems : List Json → List (List UInt8)
  | [] => []
  | v :: rest => canonicalBytes v :: renderItems rest

/-- The fields with their rendered values, in key order. -/
def sortedFields : List (String × Json) → List (String × List UInt8)
  | [] => []
  | (k, v) :: rest => insertField k (canonicalBytes v) (sortedFields rest)

end

def sha256 (v : Json) : String := Sha256.hexdigest v.canonicalBytes

def isObject : Json → Bool
  | .obj _ => true
  | _ => false

def field? : Json → String → Option Json
  | .obj fields, key => (fields.find? fun kv => kv.1 == key).map Prod.snd
  | _, _ => none

/-- `value.get(key)`, with `None` for a field that is absent. -/
def get (v : Json) (key : String) : Json := (v.field? key).getD .null

/-- `bool(value)`. -/
def truthy : Json → Bool
  | .null => false
  | .bool b => b
  | .int n => n != 0
  | .real literal => literal != "0.0" && literal != "-0.0"
  | .str s => s != ""
  | .arr items => !items.isEmpty
  | .obj fields => !fields.isEmpty

/-- `value == text`. -/
def isText (v : Json) (text : String) : Bool :=
  match v with
  | .str s => s == text
  | _ => false

/-- `value == 1`. -/
def isOne : Json → Bool
  | .int n => n == 1
  | .bool b => b
  | .real literal => literal == "1.0"
  | _ => false

/-- `set(value) == keys` of a dict. -/
def hasKeys (v : Json) (keys : List String) : Bool :=
  match v with
  | .obj fields => (fields.all fun kv => keys.contains kv.1) &&
      keys.all fun key => fields.any fun kv => kv.1 == key
  | _ => false

def without (v : Json) (key : String) : Json :=
  match v with
  | .obj fields => .obj (fields.filter fun kv => kv.1 != key)
  | v => v

/-- A character inside a `repr`; beyond ASCII every character counts as printable. -/
def reprChar (quote c : Char) : List Char :=
  if c = quote ∨ c = Char.ofNat 92 then [Char.ofNat 92, c]
  else if c.toNat = 10 then [Char.ofNat 92, 'n']
  else if c.toNat = 13 then [Char.ofNat 92, 'r']
  else if c.toNat = 9 then [Char.ofNat 92, 't']
  else if c.toNat < 32 ∨ c.toNat = 127 then Char.ofNat 92 :: 'x' :: Sha256.hexBytes [c.toNat]
  else [c]

/-- `repr(text)`: in single quotes, unless only those occur in it. -/
def reprText (text : String) : List Char :=
  let single := Char.ofNat 39
  let double := Char.ofNat 34
  let quote := if text.toList.contains single && !text.toList.contains double then double else single
  quote :: (text.toList.flatMap (reprChar quote) ++ [quote])

mutual

/-- `repr(value)`. -/
def pyRepr : Json → List Char
  | .null => "None".toList
  | .bool true => "True".toList
  | .bool false => "False".toList
  | .int n => (toString n).toList
  | .real literal => literal.toList
  | .str s => reprText s
  | .arr items => '[' :: (reprItems items ++ [']'])
  | .obj fields => Char.ofNat 123 :: (reprFields fields ++ [Char.ofNat 125])

def reprItems : List Json → List Char
  | [] => []
  | [v] => pyRepr v
  | v :: w :: rest => pyRepr v ++ ", ".toList ++ reprItems (w :: rest)

def reprFields : List (String × Json) → List Char
  | [] => []
  | [(k, v)] => reprText k ++ ": ".toList ++ pyRepr v
  | (k, v) :: kw :: rest => reprText k ++ ": ".toList ++ pyRepr v ++ ", ".toList ++
      reprFields (kw :: rest)

end

/-- `str(value)`. -/
def pyStr (v : Json) : String :=
  match v with
  | .str s => s
  | v => String.ofList v.pyRepr

example : (Json.obj [("a", .arr [.int 1, .null, .str "it's"])]).pyStr =
    "\x7b'a': [1, None, \"it's\"]\x7d" := by decide

example : (Json.obj [("b", .int (-2)), ("a", .arr [.null, .str "x\"\n\x01"])]).canonicalBytes =
    utf8 "\x7b\"a\":[null,\"x\\\"\\n\\u0001\"],\"b\":-2\x7d" := by
  decide

/-! ### The order of fields -/

theorem insertField_comm_of_lt {key key' : String} (h : key < key') (text text' : List UInt8)
    (fields : List (String × List UInt8)) :
    insertField key text (insertField key' text' fields) =
      insertField key' text' (insertField key text fields) := by
  induction fields with
  | nil => simp [insertField, h, not_lt_of_gt h]
  | cons field rest ih =>
    obtain ⟨k, t⟩ := field
    by_cases hk : k < key
    · have hk' : k < key' := lt_trans hk h
      simp [insertField, hk, hk', ih]
    · by_cases hk' : k < key'
      · simp [insertField, hk, hk', h]
      · simp [insertField, hk, hk', h, not_lt_of_gt h]

/-- Two fields with different keys may be inserted in either order. -/
theorem insertField_comm {key key' : String} (h : key ≠ key') (text text' : List UInt8)
    (fields : List (String × List UInt8)) :
    insertField key text (insertField key' text' fields) =
      insertField key' text' (insertField key text fields) := by
  rcases lt_or_gt_of_ne h with hlt | hlt
  · exact insertField_comm_of_lt hlt text text' fields
  · exact (insertField_comm_of_lt hlt text' text fields).symm

theorem sortedFields_perm {fields fields' : List (String × Json)} (h : fields.Perm fields')
    (hkeys : (fields.map Prod.fst).Nodup) : sortedFields fields = sortedFields fields' := by
  induction h with
  | nil => rfl
  | cons field _ ih => rw [sortedFields, sortedFields, ih (List.nodup_cons.mp hkeys).2]
  | swap field field' rest =>
    have hne : field'.1 ≠ field.1 := by
      have hmem := (List.nodup_cons.mp hkeys).1
      intro heq
      exact hmem (List.mem_cons.mpr (.inl heq))
    simp only [sortedFields]
    exact insertField_comm hne _ _ _
  | trans hfirst _ ih ih' =>
    rw [ih hkeys]
    exact ih' ((hfirst.map Prod.fst).nodup_iff.mp hkeys)

/-- The canonical bytes of an object do not depend on the order of its fields. -/
theorem canonicalBytes_obj_perm {fields fields' : List (String × Json)} (h : fields.Perm fields')
    (hkeys : (fields.map Prod.fst).Nodup) :
    (Json.obj fields).canonicalBytes = (Json.obj fields').canonicalBytes := by
  rw [canonicalBytes, canonicalBytes, sortedFields_perm h hkeys]

end Json

/-! ### Digests -/

section Digests

open Sha256

theorem utf8EncodeChar_hexDigit : ∀ n : Fin 16, ∃ b, String.utf8EncodeChar (hexDigit n) = [b] ∧
    isHexByte b = true := by
  intro n
  refine ⟨UInt8.ofNat (hexDigit n).val.toNat, ?_⟩
  revert n
  decide

theorem utf8_hexBytes {bytes : List Nat} (h : ∀ b ∈ bytes, b < 256) :
    ((hexBytes bytes).flatMap String.utf8EncodeChar).length = 2 * bytes.length ∧
    ∀ b ∈ (hexBytes bytes).flatMap String.utf8EncodeChar, isHexByte b = true := by
  induction bytes with
  | nil => simp [hexBytes]
  | cons b rest ih =>
    have hb : b < 256 := h b List.mem_cons_self
    obtain ⟨hlen, hall⟩ := ih fun b' hb' => h b' (List.mem_cons_of_mem b hb')
    obtain ⟨c, hc, hcx⟩ := utf8EncodeChar_hexDigit ⟨b / 16, by omega⟩
    obtain ⟨d, hd, hdx⟩ := utf8EncodeChar_hexDigit ⟨b % 16, by omega⟩
    have hcons : (hexBytes (b :: rest)).flatMap String.utf8EncodeChar =
        c :: d :: (hexBytes rest).flatMap String.utf8EncodeChar := by
      change (hexDigit (b / 16) :: hexDigit (b % 16) :: hexBytes rest).flatMap _ = _
      rw [List.flatMap_cons, List.flatMap_cons, hc, hd]
      rfl
    rw [hcons]
    refine ⟨?_, ?_⟩
    · rw [List.length_cons, List.length_cons, hlen, List.length_cons]
      omega
    · intro x hx
      rcases List.mem_cons.mp hx with rfl | hx
      · exact hcx
      · rcases List.mem_cons.mp hx with rfl | hx
        · exact hdx
        · exact hall x hx

theorem length_bytesBE (n x : Nat) : (bytesBE n x).length = n := by
  induction n with
  | zero => rfl
  | succ n ih => rw [bytesBE, List.length_cons, ih]

theorem bytesBE_lt (n x : Nat) : ∀ b ∈ bytesBE n x, b < 256 := by
  induction n with
  | zero => simp [bytesBE]
  | succ n ih =>
    intro b hb
    rcases List.mem_cons.mp hb with rfl | hb
    · exact Nat.mod_lt _ (by decide)
    · exact ih b hb

/-- Every digest is lowercase hexadecimal text of 64 characters. -/
theorem Sha256.isLowerHex_hexdigest (message : List UInt8) : isLowerHex 64 (hexdigest message) = true := by
  have hlt : ∀ b ∈ digestBytes (message.map UInt8.toNat), b < 256 := by
    intro b hb
    obtain ⟨w, -, hw⟩ := List.mem_flatMap.mp hb
    exact bytesBE_lt 4 w b hw
  have hlen : (digestBytes (message.map UInt8.toNat)).length = 32 := by
    simp [digestBytes, length_bytesBE]
  obtain ⟨h1, h2⟩ := utf8_hexBytes hlt
  have hbytes : (hexdigest message).toUTF8.data.toList =
      (hexBytes (digestBytes (message.map UInt8.toNat))).flatMap String.utf8EncodeChar := by
    rw [hexdigest, String.toUTF8, String.toByteArray_ofList, List.utf8Encode]
    simp
  rw [isLowerHex, hbytes, Bool.and_eq_true, beq_iff_eq, h1, hlen, List.all_eq_true]
  exact ⟨rfl, h2⟩

theorem Json.isLowerHex_sha256 (v : Json) : isLowerHex 64 v.sha256 = true :=
  isLowerHex_hexdigest _

theorem length_hexBytes (bytes : List Nat) : (hexBytes bytes).length = 2 * bytes.length := by
  induction bytes with
  | nil => rfl
  | cons b rest ih =>
    change (hexDigit (b / 16) :: hexDigit (b % 16) :: hexBytes rest).length = _
    rw [List.length_cons, List.length_cons, ih, List.length_cons]
    omega

@[simp] theorem Json.length_sha256 (v : Json) : v.sha256.length = 64 := by
  simp [Json.sha256, hexdigest, length_hexBytes, digestBytes, length_bytesBE]

/-- A tag and the first digits of a digest are exact text. -/
theorem Json.isExactText_tagged {tag : String} {c : Char} {l : List Char}
    (htag : tag.toList = c :: l) (hc : isSpace c = false) (v : Json) (n : Nat) :
    isExactText (tag ++ String.ofList (v.sha256.toList.take (n + 1))) = true := by
  have hlen : v.sha256.toList.length = 64 := by rw [String.length_toList, length_sha256]
  refine isExactText_append htag hc ?_ ?_
  · intro hempty
    have hnil := congrArg (fun s => s.toList.length) hempty
    simp only [String.toList_ofList, List.length_take, hlen, String.toList_empty,
      List.length_nil] at hnil
    omega
  · intro d hd
    rw [String.toList_ofList] at hd
    exact isSpace_of_isLowerHex v.isLowerHex_sha256 d (List.mem_of_mem_take hd)

end Digests

end EsscherMarket.Lib
