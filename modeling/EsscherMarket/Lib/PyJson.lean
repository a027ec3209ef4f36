import EsscherMarket.Lib.JsonFloat
import EsscherMarket.Lib.Txn

/-!
# Everything that Python reads of a JSON text

`Lib.JsonText` refuses what the canonical writer cannot write again.  Here is the reader as Python
has it, for untrusted texts: lone surrogates, `NaN` and the infinities are values, and the reasons
for which a text is refused are kept apart, since callers catch some of them and not others.
-/

namespace EsscherMarket.Lib

/-- A text as its code points; a lone surrogate may be one. -/
abbrev PyText : Type := List Nat

def PyText.of (s : String) : PyText := s.toList.map Char.toNat

/-- The text of code points without a lone surrogate. -/
def PyText.toString? (t : PyText) : Option String :=
  if t.all Nat.isValidChar then some (String.ofList (t.map Char.ofNat)) else none

/-- A value that `json.loads` returns; a float is its literal. -/
inductive PyJson where
  | null
  | bool (b : Bool)
  | int (n : Int)
  | float (literal : String)
  | str (t : PyText)
  | arr (items : List PyJson)
  | obj (fields : List (PyText × PyJson))

/-- Why a text is refused. -/
inductive LoadError where
  /-- `JSONDecodeError`, or a text that is not UTF-8. -/
  | malformed
  /-- A plain `ValueError`: an integer of too many digits. -/
  | tooManyDigits
  /-- The hook for objects refuses a second field of a name. -/
  | duplicateField
  /-- The hook for constants refuses `NaN` or an infinity. -/
  | constant
  deriving DecidableEq, Repr

structure LoadHooks where
  unique : Bool
  constants : Bool

namespace PyJson

/-! ### The reader -/

def isBlank (c : Char) : Bool := c == ' ' || c == '\n' || c == '\r' || c == '\t'

def skipBlank (cs : List Char) : List Char := cs.dropWhile isBlank

def hexValue (c : Char) : Option Nat :=
  if c.isDigit then some (c.toNat - 48)
  else if 'a' ≤ c ∧ c ≤ 'f' then some (c.toNat - 87)
  else if 'A' ≤ c ∧ c ≤ 'F' then some (c.toNat - 55)
  else none

/-- The four digits of a `\u` escape. -/
def codeUnit : List Char → Option (Nat × List Char)
  | a :: b :: c :: d :: rest => do
    let a ← hexValue a
    let b ← hexValue b
    let c ← hexValue c
    let d ← hexValue d
    return (a * 4096 + b * 256 + c * 16 + d, rest)
  | _ => none

def lowSurrogate (cs : List Char) : Option (Nat × List Char) :=
  match cs with
  | c :: 'u' :: rest =>
    if c = Char.ofNat 92 then
      (codeUnit rest).filter fun unit => decide (0xdc00 ≤ unit.1 ∧ unit.1 ≤ 0xdfff)
    else none
  | _ => none

/-- A `\u` escape, after its `u`; a surrogate without its other half stands for itself. -/
def readUnicode (cs : List Char) : Option (Nat × List Char) := do
  let (code, rest) ← codeUnit cs
  match (if 0xd800 ≤ code ∧ code ≤ 0xdbff then lowSurrogate rest else none) with
  | some (low, rest) => return (0x10000 + (code - 0xd800) * 1024 + (low - 0xdc00), rest)
  | none => return (code, rest)

def readEscape : List Char → Option (Nat × List Char)
  | [] => none
  | c :: rest =>
    if c = Char.ofNat 34 ∨ c = Char.ofNat 92 ∨ c = '/' then some (c.toNat, rest)
    else if c = 'n' then some (10, rest)
    else if c = 'r' then some (13, rest)
    else if c = 't' then some (9, rest)
    else if c = 'b' then some (8, rest)
    else if c = 'f' then some (12, rest)
    else if c = 'u' then readUnicode rest
    else none

def readString : Nat → List Char → Option (PyText × List Char)
  | 0, _ => none
  | _ + 1, [] => none
  | fuel + 1, c :: rest =>
    if c = Char.ofNat 34 then some ([], rest)
    else if c.toNat < 32 then none
    else if c = Char.ofNat 92 then do
      let (code, rest) ← readEscape rest
      let (text, rest) ← readString fuel rest
      return (code :: text, rest)
    else do
      let (text, rest) ← readString fuel rest
      return (c.toNat :: text, rest)

def spanDigits (cs : List Char) : List Char × List Char := cs.span Char.isDigit

def spanFraction : List Char → List Char × List Char
  | '.' :: rest =>
    let (digits, after) := spanDigits rest
    if digits.isEmpty then ([], '.' :: rest) else ('.' :: digits, after)
  | cs => ([], cs)

/-- An `e`, a sign, and digits. -/
def spanExponent : List Char → List Char × List Char
  | [] => ([], [])
  | e :: rest =>
    let (sign, unsigned) := match rest with
      | '+' :: rest => (['+'], rest)
      | '-' :: rest => (['-'], rest)
      | rest => ([], rest)
    let (digits, after) := spanDigits unsigned
    if (e = 'e' ∨ e = 'E') ∧ digits.isEmpty = false then (e :: (sign ++ digits), after)
    else ([], e :: rest)

/-- The longest text of an integer from which a number without a sign may start. -/
def spanWhole : List Char → List Char × List Char
  | '0' :: rest => (['0'], rest)
  | cs => spanDigits cs

/-- The number of digits up to which a text is converted to an integer. -/
def maxDigits : Nat := 4300

def readNumber (cs : List Char) : Except LoadError (PyJson × List Char) :=
  let (sign, unsigned) := match cs with
    | '-' :: rest => (['-'], rest)
    | cs => ([], cs)
  let (whole, rest) := spanWhole unsigned
  let (fraction, rest) := spanFraction rest
  let (exponent, rest) := spanExponent rest
  if whole.isEmpty then .error .malformed
  else if fraction.isEmpty && exponent.isEmpty then
    if maxDigits < whole.length then .error .tooManyDigits
    else .ok (.int (if sign.isEmpty then (digitsValue whole : Int) else -(digitsValue whole : Int)),
      rest)
  else .ok (.float (String.ofList (sign ++ whole ++ fraction ++ exponent)), rest)

def readWord (word : String) (v : PyJson) (cs : List Char) :
    Except LoadError (PyJson × List Char) :=
  if word.toList.isPrefixOf cs then .ok (v, cs.drop word.length) else .error .malformed

/-- `NaN` or an infinity at the start of the text. -/
def readConstant (hooks : LoadHooks) (word : String) (cs : List Char) :
    Except LoadError (PyJson × List Char) :=
  if word.toList.isPrefixOf cs then
    if hooks.constants then .ok (.float word, cs.drop word.length) else .error .constant
  else .error .malformed

/-- The fields of a dict built from these: the last value of a name, at its first place. -/
def dictOf (fields : List (PyText × PyJson)) : List (PyText × PyJson) :=
  fields.foldl (fun held kv =>
    if held.any fun item => item.1 == kv.1 then
      held.map fun item => if item.1 == kv.1 then kv else item
    else held ++ [kv]) []

def objectOf (hooks : LoadHooks) (fields : List (PyText × PyJson)) : Except LoadError PyJson :=
  if hooks.unique then
    if (fields.map Prod.fst).Nodup then .ok (.obj fields) else .error .duplicateField
  else .ok (.obj (dictOf fields))

def orMalformed {α : Type} : Option α → Except LoadError α
  | some a => .ok a
  | none => .error .malformed

mutual

def readValue (hooks : LoadHooks) : Nat → List Char → Except LoadError (PyJson × List Char)
  | 0, _ => .error .malformed
  | fuel + 1, cs =>
    match cs with
    | [] => .error .malformed
    | c :: rest =>
      if c = Char.ofNat 34 then
        (orMalformed (readString fuel rest)).map fun r => (.str r.1, r.2)
      else if c = '[' then
        match skipBlank rest with
        | ']' :: after => .ok (.arr [], after)
        | items => (readItems hooks fuel items).map fun r => (.arr r.1, r.2)
      else if c = Char.ofNat 123 then
        match skipBlank rest with
        | [] => .error .malformed
        | d :: after =>
          if d = Char.ofNat 125 then (objectOf hooks []).map fun v => (v, after)
          else (readFields hooks fuel (d :: after)).bind fun r =>
            (objectOf hooks r.1).map fun v => (v, r.2)
      else if c = 'n' then readWord "null" .null cs
      else if c = 't' then readWord "true" (.bool true) cs
      else if c = 'f' then readWord "false" (.bool false) cs
      else if c = 'N' then readConstant hooks "NaN" cs
      else if c = 'I' then readConstant hooks "Infinity" cs
      else if "-Infinity".toList.isPrefixOf cs then readConstant hooks "-Infinity" cs
      else readNumber cs

def readItems (hooks : LoadHooks) : Nat → List Char → Except LoadError (List PyJson × List Char)
  | 0, _ => .error .malformed
  | fuel + 1, cs => do
    let (v, rest) ← readValue hooks fuel cs
    match skipBlank rest with
    | ']' :: after => return ([v], after)
    | ',' :: after =>
      let (vs, rest) ← readItems hooks fuel (skipBlank after)
      return (v :: vs, rest)
    | _ => .error .malformed

def readFields (hooks : LoadHooks) :
    Nat → List Char → Except LoadError (List (PyText × PyJson) × List Char)
  | 0, _ => .error .malformed
  | _ + 1, [] => .error .malformed
  | fuel + 1, quote :: rest =>
    if quote ≠ Char.ofNat 34 then .error .malformed else do
      let (key, rest) ← orMalformed (readString fuel rest)
      match skipBlank rest with
      | ':' :: rest =>
        let (v, rest) ← readValue hooks fuel (skipBlank rest)
        match skipBlank rest with
        | [] => .error .malformed
        | c :: after =>
          if c = Char.ofNat 125 then return ([(key, v)], after)
          else if c = ',' then
            let (fields, rest) ← readFields hooks fuel (skipBlank after)
            return ((key, v) :: fields, rest)
          else .error .malformed
      | _ => .error .malformed

end

/-- `json.loads(raw.decode("utf-8"), …)`. -/
def loads (hooks : LoadHooks) (raw : List UInt8) : Except LoadError PyJson := do
  let text ← orMalformed (String.fromUTF8? ⟨raw.toArray⟩)
  let cs := text.toList
  -- a byte order mark is refused
  throwIf (cs.head? = some (Char.ofNat 0xfeff)) .malformed
  let (v, rest) ← readValue hooks (2 * cs.length + 1) (skipBlank cs)
  throwIf ((skipBlank rest).isEmpty = false) .malformed
  return v

/-! ### Values -/

def isObject : PyJson → Bool
  | .obj _ => true
  | _ => false

def field? : PyJson → String → Option PyJson
  | .obj fields, key => (fields.find? fun kv => kv.1 == PyText.of key).map Prod.snd
  | _, _ => none

/-- `value.get(key)`, with `None` for a field that is absent. -/
def get (v : PyJson) (key : String) : PyJson := (v.field? key).getD .null

/-- `value == text`. -/
def isText (v : PyJson) (text : String) : Bool :=
  match v with
  | .str t => t == PyText.of text
  | _ => false

/-- The text of a value that is one; `none` where it holds a lone surrogate. -/
def text? : PyJson → Option String
  | .str t => t.toString?
  | _ => none

def without (v : PyJson) (key : String) : PyJson :=
  match v with
  | .obj fields => .obj (fields.filter fun kv => kv.1 != PyText.of key)
  | v => v

/-- `set(value) == keys` of a dict. -/
def hasKeys (v : PyJson) (keys : List String) : Bool :=
  match v with
  | .obj fields => (fields.all fun kv => keys.any fun key => kv.1 == PyText.of key) &&
      keys.all fun key => (v.field? key).isSome
  | _ => false

/-- A list or a dict: a value without a hash. -/
def isContainer : PyJson → Bool
  | .arr _ => true
  | .obj _ => true
  | _ => false

variable (f : Json.FloatRepr)

mutual

/-- The value as the canonical writer takes it; it refuses lone surrogates and floats that are not
finite. -/
def toJson : PyJson → Option Json
  | .null => some .null
  | .bool b => some (.bool b)
  | .int n => some (.int n)
  | .float literal =>
    if Json.isReal (Json.utf8 literal) && f.isFinite literal then some (.real (f.repr literal))
    else none
  | .str t => t.toString?.map .str
  | .arr items => (toJsonItems items).map .arr
  | .obj fields => (toJsonFields fields).map .obj

def toJsonItems : List PyJson → Option (List Json)
  | [] => some []
  | v :: rest => (toJson v).bind fun w => (toJsonItems rest).map (w :: ·)

def toJsonFields : List (PyText × PyJson) → Option (List (String × Json))
  | [] => some []
  | (k, v) :: rest => k.toString?.bind fun key => (toJson v).bind fun w =>
      (toJsonFields rest).map ((key, w) :: ·)

end

/-- `value == 1`. -/
def isOne (v : PyJson) : Bool := (v.toJson f).any Json.isOne

/-- A code point inside a `repr`; beyond ASCII all but the surrogates count as printable. -/
def reprCode (quote code : Nat) : List Char :=
  if 0xd800 ≤ code ∧ code ≤ 0xdfff then
    Char.ofNat 92 :: 'u' :: Sha256.hexBytes [code / 256, code % 256]
  else Json.reprChar (Char.ofNat quote) (Char.ofNat code)

/-- `repr(text)`: in single quotes, unless only those occur in it. -/
def reprText (t : PyText) : List Char :=
  let quote := if t.contains 39 && !t.contains 34 then 34 else 39
  Char.ofNat quote :: (t.flatMap (reprCode quote) ++ [Char.ofNat quote])

mutual

/-- `repr(value)`. -/
def pyRepr : PyJson → List Char
  | .null => "None".toList
  | .bool true => "True".toList
  | .bool false => "False".toList
  | .int n => (toString n).toList
  | .float literal =>
    if Json.isReal (Json.utf8 literal) && f.isFinite literal then (f.repr literal).toList
    else if literal = "NaN" then "nan".toList
    else if literal.toList.head? = some '-' then "-inf".toList
    else "inf".toList
  | .str t => reprText t
  | .arr items => '[' :: (reprItems items ++ [']'])
  | .obj fields => Char.ofNat 123 :: (reprFields fields ++ [Char.ofNat 125])

def reprItems : List PyJson → List Char
  | [] => []
  | [v] => pyRepr v
  | v :: w :: rest => pyRepr v ++ ", ".toList ++ reprItems (w :: rest)

def reprFields : List (PyText × PyJson) → List Char
  | [] => []
  | [(k, v)] => reprText k ++ ": ".toList ++ pyRepr v
  | (k, v) :: kw :: rest => reprText k ++ ": ".toList ++ pyRepr v ++ ", ".toList ++
      reprFields (kw :: rest)

end

/-- `str(value)`; `none` where it holds a lone surrogate. -/
def pyStr : PyJson → Option String
  | .str t => t.toString?
  | v => some (String.ofList (v.pyRepr f))

end PyJson

end EsscherMarket.Lib
