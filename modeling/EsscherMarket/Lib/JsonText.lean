import EsscherMarket.Lib.Json

/-!
# Reading JSON text

`json.loads` on the bytes of a text: `Json.loads`, where an object's last field of a name counts, and
`Json.loadsUnique`, where a second field of a name is refused (`object_pairs_hook=_unique_object`).

A number with a fraction or an exponent keeps its literal, which is the one Python writes again where
Python wrote it.  What Python's reader lets through and its canonical writer refuses (`NaN`,
`Infinity`, a lone surrogate) is refused here already.
-/

namespace EsscherMarket.Lib.Json

/-! ### The reader -/

/-- White space between tokens. -/
def isBlank (b : UInt8) : Bool := b == 32 || b == 9 || b == 10 || b == 13

def skipBlank (bytes : List UInt8) : List UInt8 := bytes.dropWhile isBlank

def hexValue (b : UInt8) : Option Nat :=
  if 48 ≤ b ∧ b ≤ 57 then some (b.toNat - 48)
  else if 97 ≤ b ∧ b ≤ 102 then some (b.toNat - 87)
  else if 65 ≤ b ∧ b ≤ 70 then some (b.toNat - 55)
  else none

/-- The four digits of a `\u` escape. -/
def codeUnit : List UInt8 → Option (Nat × List UInt8)
  | a :: b :: c :: d :: rest => do
    let a ← hexValue a
    let b ← hexValue b
    let c ← hexValue c
    let d ← hexValue d
    return (a * 4096 + b * 256 + c * 16 + d, rest)
  | _ => none

def lowSurrogate : List UInt8 → Option (Nat × List UInt8)
  | 92 :: 117 :: rest => do
    let (low, rest) ← codeUnit rest
    if 0xdc00 ≤ low ∧ low ≤ 0xdfff then some (low, rest) else none
  | _ => none

/-- A `\u` escape, after its `u`: the bytes of its character. -/
def readUnicode (bytes : List UInt8) : Option (List UInt8 × List UInt8) := do
  let (code, rest) ← codeUnit bytes
  if 0xd800 ≤ code ∧ code ≤ 0xdbff then
    let (low, rest) ← lowSurrogate rest
    return (String.utf8EncodeChar (.ofNat (0x10000 + (code - 0xd800) * 1024 + (low - 0xdc00))), rest)
  else if 0xdc00 ≤ code ∧ code ≤ 0xdfff then none
  else return (String.utf8EncodeChar (.ofNat code), rest)

def readEscape : List UInt8 → Option (List UInt8 × List UInt8)
  | [] => none
  | b :: rest =>
    if b = 34 ∨ b = 92 ∨ b = 47 then some ([b], rest)
    else if b = 110 then some ([10], rest)
    else if b = 114 then some ([13], rest)
    else if b = 116 then some ([9], rest)
    else if b = 98 then some ([8], rest)
    else if b = 102 then some ([12], rest)
    else if b = 117 then readUnicode rest
    else none

/-- The bytes of a string, after its opening quote. -/
def readChars : Nat → List UInt8 → Option (List UInt8 × List UInt8)
  | 0, _ => none
  | _ + 1, [] => none
  | fuel + 1, b :: rest =>
    if b = 34 then some ([], rest)
    else if b < 32 then none
    else if b = 92 then do
      let (c, rest) ← readEscape rest
      let (cs, rest) ← readChars fuel rest
      return (c ++ cs, rest)
    else do
      let (cs, rest) ← readChars fuel rest
      return (b :: cs, rest)

def readString (fuel : Nat) (bytes : List UInt8) : Option (String × List UInt8) := do
  let (cs, rest) ← readChars fuel bytes
  let text ← String.fromUTF8? ⟨cs.toArray⟩
  return (text, rest)

def isDigitByte (b : UInt8) : Bool := 48 ≤ b && b ≤ 57

def isNumberByte (b : UInt8) : Bool :=
  isDigitByte b || b == 43 || b == 45 || b == 46 || b == 69 || b == 101

/-- `0`, or digits that do not start with it. -/
def isWhole (digits : List UInt8) : Bool :=
  !digits.isEmpty && digits.all isDigitByte && (digits == [48] || digits.head? != some 48)

/-- Nothing, or `e`, a sign, and digits. -/
def isExponent : List UInt8 → Bool
  | [] => true
  | b :: rest =>
    let digits := if rest.head? = some 43 ∨ rest.head? = some 45 then rest.tail else rest
    (b == 101 || b == 69) && !digits.isEmpty && digits.all isDigitByte

def isFraction : List UInt8 → Bool
  | [] => false
  | b :: rest =>
    if b = 46 then !(rest.takeWhile isDigitByte).isEmpty && isExponent (rest.dropWhile isDigitByte)
    else isExponent (b :: rest)

def unsigned (token : List UInt8) : List UInt8 :=
  if token.head? = some 45 then token.tail else token

def isReal (token : List UInt8) : Bool :=
  isWhole ((unsigned token).takeWhile isDigitByte) &&
    isFraction ((unsigned token).dropWhile isDigitByte)

def bytesValue (digits : List UInt8) : Nat := digits.foldl (fun n b => n * 10 + (b.toNat - 48)) 0

def numberOf (token : List UInt8) : Option Json :=
  if isWhole (unsigned token) then
    some (.int (if token.head? = some 45 then -(bytesValue token.tail : Int) else bytesValue token))
  else if isReal token then (String.fromUTF8? ⟨token.toArray⟩).map .real
  else none

def readNumber (bytes : List UInt8) : Option (Json × List UInt8) :=
  (numberOf (bytes.takeWhile isNumberByte)).map fun v => (v, bytes.dropWhile isNumberByte)

def readWord (word : List UInt8) (v : Json) (bytes : List UInt8) : Option (Json × List UInt8) :=
  if word.isPrefixOf bytes then some (v, bytes.drop word.length) else none

/-- The fields of a dict built from these: the last one of a name counts. -/
def lastFields : List (String × Json) → List (String × Json)
  | [] => []
  | (k, v) :: rest => if rest.any fun kv => kv.1 == k then lastFields rest else (k, v) :: lastFields rest

theorem lastFields_eq {fields : List (String × Json)} (h : (fields.map Prod.fst).Nodup) :
    lastFields fields = fields := by
  induction fields with
  | nil => rfl
  | cons kv rest ih =>
    obtain ⟨k, v⟩ := kv
    obtain ⟨hk, hrest⟩ := List.nodup_cons.mp h
    have hnone : (rest.any fun kv => kv.1 == k) = false := by
      rw [List.any_eq_false]
      intro kv hkv heq
      exact hk (List.mem_map.mpr ⟨kv, hkv, by simpa using heq⟩)
    rw [lastFields, hnone, ih hrest]
    rfl

theorem nodup_lastFields (fields : List (String × Json)) :
    ((lastFields fields).map Prod.fst).Nodup ∧ ∀ kv ∈ lastFields fields, kv ∈ fields := by
  induction fields with
  | nil => exact ⟨List.nodup_nil, fun kv hkv => by cases hkv⟩
  | cons kv rest ih =>
    obtain ⟨k, v⟩ := kv
    rw [lastFields]
    split_ifs with hlater
    · exact ⟨ih.1, fun kv hkv => List.mem_cons_of_mem _ (ih.2 kv hkv)⟩
    · refine ⟨?_, ?_⟩
      · refine List.nodup_cons.mpr ⟨?_, ih.1⟩
        intro hk
        obtain ⟨kv, hkv, hkey⟩ := List.mem_map.mp hk
        exact hlater (List.any_eq_true.mpr ⟨kv, ih.2 kv hkv, by simpa using hkey⟩)
      · intro kv hkv
        rcases List.mem_cons.mp hkv with rfl | hkv
        · exact List.mem_cons_self
        · exact List.mem_cons_of_mem _ (ih.2 kv hkv)

/-- What a reader makes of the fields of an object (`object_pairs_hook`): a dict of some of them, of
all where they are distinct. -/
structure ObjectHook where
  run : List (String × Json) → Option (List (String × Json))
  keeps : ∀ fields, (fields.map Prod.fst).Nodup → run fields = some fields
  sound : ∀ fields held, run fields = some held →
    (held.map Prod.fst).Nodup ∧ ∀ kv ∈ held, kv ∈ fields

/-- `dict(pairs)`. -/
def ObjectHook.last : ObjectHook where
  run fields := some (lastFields fields)
  keeps _ h := congrArg some (lastFields_eq h)
  sound fields _ h := Option.some.inj h ▸ nodup_lastFields fields

/-- `_unique_object`: a field may stand once. -/
def ObjectHook.unique : ObjectHook where
  run fields := if (fields.map Prod.fst).Nodup then some fields else none
  keeps _ h := if_pos h
  sound fields held h := by
    split_ifs at h with hkeys
    cases h
    exact ⟨hkeys, fun _ hkv => hkv⟩

mutual

def readValue (hook : ObjectHook) : Nat → List UInt8 → Option (Json × List UInt8)
  | 0, _ => none
  | fuel + 1, bytes =>
    match skipBlank bytes with
    | [] => none
    | b :: rest =>
      if b = 34 then (readString fuel rest).map fun r => (.str r.1, r.2)
      else if b = 91 then
        if (skipBlank rest).head? = some 93 then some (.arr [], (skipBlank rest).tail)
        else (readItems hook fuel rest).map fun r => (.arr r.1, r.2)
      else if b = 123 then
        if (skipBlank rest).head? = some 125 then some (.obj [], (skipBlank rest).tail)
        else (readFields hook fuel rest).bind fun r => (hook.run r.1).map fun held => (.obj held, r.2)
      else if b = 110 then readWord (utf8 "null") .null (b :: rest)
      else if b = 116 then readWord (utf8 "true") (.bool true) (b :: rest)
      else if b = 102 then readWord (utf8 "false") (.bool false) (b :: rest)
      else readNumber (b :: rest)

def readItems (hook : ObjectHook) : Nat → List UInt8 → Option (List Json × List UInt8)
  | 0, _ => none
  | fuel + 1, bytes => do
    let (v, rest) ← readValue hook fuel bytes
    match skipBlank rest with
    | [] => none
    | b :: rest =>
      if b = 93 then some ([v], rest)
      else if b = 44 then do
        let (vs, rest) ← readItems hook fuel rest
        return (v :: vs, rest)
      else none

def readFields (hook : ObjectHook) : Nat → List UInt8 → Option (List (String × Json) × List UInt8)
  | 0, _ => none
  | fuel + 1, bytes =>
    match skipBlank bytes with
    | [] => none
    | q :: rest => if q ≠ 34 then none else do
      let (key, rest) ← readString fuel rest
      match skipBlank rest with
      | [] => none
      | c :: rest => if c ≠ 58 then none else do
        let (v, rest) ← readValue hook fuel rest
        match skipBlank rest with
        | [] => none
        | b :: rest =>
          if b = 125 then some ([(key, v)], rest)
          else if b = 44 then do
            let (fields, rest) ← readFields hook fuel rest
            return ((key, v) :: fields, rest)
          else none

end

def loadsWith (hook : ObjectHook) (bytes : List UInt8) : Option Json :=
  match readValue hook (2 * bytes.length + 1) bytes with
  | some (v, rest) => if (skipBlank rest).isEmpty then some v else none
  | none => none

/-- `json.loads`. -/
def loads (bytes : List UInt8) : Option Json := loadsWith .last bytes

/-- `json.loads(…, object_pairs_hook=_unique_object)`. -/
def loadsUnique (bytes : List UInt8) : Option Json := loadsWith .unique bytes

end EsscherMarket.Lib.Json
