import Mathlib.Algebra.Order.Field.Basic
import Mathlib.Data.List.TakeWhile
import Mathlib.Data.Rat.Defs
import Mathlib.Tactic.FieldSimp
import Mathlib.Tactic.Linarith
import Mathlib.Tactic.Positivity
import Mathlib.Tactic.Ring

/-!
# Python's texts, datetimes and decimals

The parts of Python's standard types that the modelled program computes with.
-/

namespace EsscherMarket.Lib

/-! ### Texts -/

/-- `str.isspace` of one character. -/
def isSpace (c : Char) : Bool :=
  let n := c.toNat
  (9 ≤ n && n ≤ 13) || (28 ≤ n && n ≤ 32) || n == 0x85 || n == 0xa0 || n == 0x1680 ||
    (0x2000 ≤ n && n ≤ 0x200a) || n == 0x2028 || n == 0x2029 || n == 0x202f || n == 0x205f ||
    n == 0x3000

/-- `str.strip`. -/
def strip (s : String) : String :=
  String.ofList ((s.toList.dropWhile isSpace).reverse.dropWhile isSpace).reverse

/-- Text with a character that is no space does not strip to nothing. -/
theorem strip_ne_empty_of_mem {s : String} {c : Char} (hc : c ∈ s.toList)
    (hspace : isSpace c = false) : strip s ≠ "" := by
  have hkeep : ∀ l : List Char, c ∈ l → c ∈ l.dropWhile isSpace := by
    intro l hl
    induction l with
    | nil => cases hl
    | cons d rest ih =>
      by_cases hd : isSpace d
      · rcases List.mem_cons.mp hl with rfl | hl
        · rw [hspace] at hd
          cases hd
        · simpa [hd] using ih hl
      · simpa [hd] using hl
  intro h
  have hmem : c ∈ (strip s).toList := by
    rw [strip, String.toList_ofList, List.mem_reverse]
    exact hkeep _ (List.mem_reverse.mpr (hkeep _ hc))
  rw [h] at hmem
  simp at hmem

/-- Non-empty text that `strip` leaves as it is. -/
def isExactText (s : String) : Bool := s != "" && s == strip s

theorem strip_ne_empty_of_isExactText {s : String} (h : isExactText s = true) : strip s ≠ "" := by
  simp only [isExactText, Bool.and_eq_true, bne_iff_ne, beq_iff_eq] at h
  rw [← h.2]
  exact h.1

/-- The first byte of a character is the character itself, or no ASCII byte. -/
theorem head_utf8EncodeChar (c : Char) : ∃ b ∈ String.utf8EncodeChar c,
    b.toNat < 128 → b.toNat = c.toNat := by
  have hc : c.toNat = c.val.toNat := rfl
  unfold String.utf8EncodeChar
  simp only []
  split
  · rename_i hv
    refine ⟨_, List.mem_cons_self, fun _ => ?_⟩
    rw [UInt8.toNat_ofNat', hc]
    omega
  · split
    · refine ⟨_, List.mem_cons_self, fun hb => ?_⟩
      rw [UInt8.toNat_ofNat'] at hb
      omega
    · split
      · refine ⟨_, List.mem_cons_self, fun hb => ?_⟩
        rw [UInt8.toNat_ofNat'] at hb
        omega
      · refine ⟨_, List.mem_cons_self, fun hb => ?_⟩
        rw [UInt8.toNat_ofNat'] at hb
        omega

theorem toUTF8_toList (s : String) :
    s.toUTF8.data.toList = s.toList.flatMap String.utf8EncodeChar := by
  rw [String.toUTF8_eq_toByteArray, ← String.utf8Encode_toList, List.utf8Encode,
    List.data_toByteArray]

theorem dropWhile_isSpace_of_none {l : List Char} (h : ∀ c ∈ l, isSpace c = false) :
    l.dropWhile isSpace = l := by
  cases l with
  | nil => rfl
  | cons c rest => rw [List.dropWhile_cons_of_neg (by simp [h c List.mem_cons_self])]

/-- Text of printable ASCII bytes without a space has no space. -/
theorem isSpace_of_bytes {s : String}
    (h : ∀ b ∈ s.toUTF8.data.toList, 32 < b.toNat ∧ b.toNat < 128) :
    ∀ c ∈ s.toList, isSpace c = false := by
  intro c hc
  obtain ⟨b, hb, hascii⟩ := head_utf8EncodeChar c
  have hbyte := h b (by rw [toUTF8_toList]; exact List.mem_flatMap.mpr ⟨c, hc, hb⟩)
  have hsame := hascii hbyte.2
  simp only [isSpace, Bool.or_eq_false_iff, Bool.and_eq_false_iff, decide_eq_false_iff_not,
    beq_eq_false_iff_ne]
  omega

theorem isExactText_of_ends {s : String} {c d : Char} {l : List Char}
    (hhead : s.toList = c :: l) (hlast : s.toList.getLast? = some d) (hc : isSpace c = false)
    (hd : isSpace d = false) : isExactText s = true := by
  have hfront : s.toList.dropWhile isSpace = s.toList := by
    rw [hhead, List.dropWhile_cons_of_neg (by simp [hc])]
  have hback : s.toList.reverse.dropWhile isSpace = s.toList.reverse := by
    have hrev : s.toList.reverse.head? = some d := by rw [List.head?_reverse, hlast]
    cases hr : s.toList.reverse with
    | nil => rfl
    | cons d' tail =>
      rw [hr] at hrev
      cases hrev
      rw [List.dropWhile_cons_of_neg (by simp [hd])]
  have hne : s ≠ "" := by
    rintro rfl
    cases hhead
  have hstrip : strip s = s := by
    rw [strip, hfront, hback, List.reverse_reverse, String.ofList_toList]
  simp [isExactText, hne, hstrip]

/-- A first text that starts without a space, and a second one without any space. -/
theorem isExactText_append {a b : String} {c : Char} {l : List Char}
    (ha : a.toList = c :: l) (hc : isSpace c = false) (hb : b ≠ "")
    (hspace : ∀ d ∈ b.toList, isSpace d = false) : isExactText (a ++ b) = true := by
  have hbl : b.toList ≠ [] := by simpa using hb
  have hlast : (a ++ b).toList.getLast? = some (b.toList.getLast hbl) := by
    rw [String.toList_append, List.getLast?_append_of_ne_nil _ hbl, List.getLast?_eq_some_getLast]
  refine isExactText_of_ends (l := l ++ b.toList) ?_ hlast hc
    (hspace _ (List.getLast_mem hbl))
  rw [String.toList_append, ha, List.cons_append]

/-- `strip` keeps a text without spaces. -/
theorem strip_eq_self {s : String} (h : ∀ c ∈ s.toList, isSpace c = false) : strip s = s := by
  rw [strip, dropWhile_isSpace_of_none h,
    dropWhile_isSpace_of_none fun c hc => h c (List.mem_reverse.mp hc), List.reverse_reverse,
    String.ofList_toList]

/-- Non-empty text of printable ASCII bytes without a space is exact. -/
theorem isExactText_of_bytes {s : String} (hne : s ≠ "")
    (h : ∀ b ∈ s.toUTF8.data.toList, 32 < b.toNat ∧ b.toNat < 128) : isExactText s = true := by
  simp [isExactText, hne, strip_eq_self (isSpace_of_bytes h)]

/-- `s == s.upper()` for the ASCII letters. -/
def isUpper (s : String) : Bool := s.toList.all fun c => !(c.isLower)

def isHexByte (b : UInt8) : Bool := (48 ≤ b && b ≤ 57) || (97 ≤ b && b ≤ 102)

/-- Lowercase hexadecimal text of length `n`, read off its UTF-8 bytes. -/
def isLowerHex (n : Nat) (s : String) : Bool :=
  let bytes := s.toUTF8.data.toList
  bytes.length == n && bytes.all isHexByte

theorem isSpace_of_isLowerHex {n : Nat} {s : String} (h : isLowerHex n s = true) :
    ∀ c ∈ s.toList, isSpace c = false := by
  refine isSpace_of_bytes fun b hb => ?_
  simp only [isLowerHex, Bool.and_eq_true, beq_iff_eq, List.all_eq_true] at h
  have hhex := h.2 b hb
  simp only [isHexByte, Bool.or_eq_true, Bool.and_eq_true, decide_eq_true_eq,
    UInt8.le_iff_toNat_le] at hhex
  simp at hhex
  omega

def digitsValue (cs : List Char) : Nat := cs.foldl (fun n c => n * 10 + (c.toNat - 48)) 0

/-- Decimal digits of `n`, padded with zeros on the left to at least `width` characters. -/
def zeroPad (width n : Nat) : List Char :=
  let digits := (toString n).toList
  List.replicate (width - digits.length) '0' ++ digits

theorem digitsValue_eq (cs : List Char) : digitsValue cs = Nat.ofDigitChars 10 cs 0 := by
  rw [Nat.ofDigitChars_eq_foldl, digitsValue]
  congr 1
  funext n c
  rw [Nat.mul_comm]
  rfl

theorem zeroPad_eq (width n : Nat) : zeroPad width n =
    List.replicate (width - (Nat.toDigits 10 n).length) '0' ++ Nat.toDigits 10 n := by
  simp [zeroPad, ← Nat.toList_repr]

/-- The digits of a number are read back. -/
theorem digitsValue_zeroPad (width n : Nat) : digitsValue (zeroPad width n) = n := by
  rw [digitsValue_eq, zeroPad_eq, Nat.ofDigitChars_append, Nat.ofDigitChars_replicate_zero,
    Nat.mul_zero, Nat.ofDigitChars_ten_toDigits]

theorem isDigit_zeroPad {width n : Nat} {c : Char} (h : c ∈ zeroPad width n) :
    c.isDigit = true := by
  rw [zeroPad_eq] at h
  rcases List.mem_append.mp h with h | h
  · rw [List.eq_of_mem_replicate h]
    rfl
  · exact Nat.isDigit_of_mem_toDigits (by decide) (by decide) h

theorem le_length_zeroPad (width n : Nat) : width ≤ (zeroPad width n).length := by
  rw [zeroPad_eq, List.length_append, List.length_replicate]
  omega

theorem toNat_of_isDigit {c : Char} (h : c.isDigit = true) : 48 ≤ c.toNat ∧ c.toNat ≤ 57 := by
  simp only [Char.isDigit, Bool.and_eq_true, decide_eq_true_eq, ge_iff_le,
    UInt32.le_iff_toNat_le] at h
  exact h

/-! ### Datetimes -/

/-- The `tzinfo` of a datetime: absent, the `UTC` singleton, or another fixed offset in minutes. -/
inductive TzInfo where
  | naive
  | utc
  | offset (minutes : Int)
  deriving DecidableEq, Repr

/-- A datetime: microseconds since 1970-01-01T00:00:00Z, and how it is written. -/
structure DateTime where
  micros : Int
  tzinfo : TzInfo
  deriving DecidableEq, Repr

namespace DateTime

def microsPerSecond : Int := 1000000

def microsPerDay : Int := 86400 * microsPerSecond

/-- A datetime in `UTC`. -/
def utc (micros : Int) : DateTime := ⟨micros, .utc⟩

/-- Timezone-aware: the datetime denotes an instant. -/
def isAware (t : DateTime) : Bool := t.tzinfo != .naive

def utcDay (t : DateTime) : Int := t.micros / microsPerDay

/-- Year, month and day of a day number (proleptic Gregorian calendar). -/
def civil (day : Int) : Int × Nat × Nat :=
  let z := day + 719468
  let era := z / 146097
  let doe := (z - era * 146097).toNat
  let yoe := (doe - doe / 1460 + doe / 36524 - doe / 146096) / 365
  let doy := doe - (365 * yoe + yoe / 4 - yoe / 100)
  let mp := (5 * doy + 2) / 153
  let d := doy - (153 * mp + 2) / 5 + 1
  let m := if mp < 10 then mp + 3 else mp - 9
  (era * 400 + yoe + (if m ≤ 2 then 1 else 0), m, d)

def offsetMinutes : TzInfo → Int
  | .naive => 0
  | .utc => 0
  | .offset m => m

def offsetText : TzInfo → List Char
  | .naive => []
  | .utc => "+00:00".toList
  | .offset m =>
    let a := m.natAbs
    (if m < 0 then '-' else '+') :: (zeroPad 2 (a / 60) ++ ':' :: zeroPad 2 (a % 60))

/-- `datetime.isoformat`. -/
def isoformat (t : DateTime) : String :=
  let wall := t.micros + offsetMinutes t.tzinfo * 60 * microsPerSecond
  let day := wall / microsPerDay
  let (y, m, d) := civil day
  let rest := (wall - day * microsPerDay).toNat
  let secs := rest / 1000000
  let frac := rest % 1000000
  String.ofList (zeroPad 4 y.toNat ++ '-' :: zeroPad 2 m ++ '-' :: zeroPad 2 d ++
    'T' :: zeroPad 2 (secs / 3600) ++ ':' :: zeroPad 2 (secs / 60 % 60) ++
    ':' :: zeroPad 2 (secs % 60) ++ (if frac = 0 then [] else '.' :: zeroPad 6 frac) ++
    offsetText t.tzinfo)

/-- `isoformat` of a UTC datetime with `Z` for `+00:00`. -/
def isoformatZ (t : DateTime) : String :=
  let text := (isoformat t).toList
  String.ofList (text.take (text.length - 6) ++ ['Z'])

example : (utc 1767225599500000).isoformatZ = "2025-12-31T23:59:59.500000Z" := by decide

end DateTime

/-! ### Dates -/

/-- A `datetime.date`. -/
structure Date where
  year : Nat
  month : Nat
  day : Nat
  deriving DecidableEq, Repr

namespace Date

def isLeap (year : Nat) : Bool := year % 4 == 0 && (year % 100 != 0 || year % 400 == 0)

def daysInMonth (year month : Nat) : Nat :=
  if month = 2 then (if isLeap year then 29 else 28)
  else if month = 4 ∨ month = 6 ∨ month = 9 ∨ month = 11 then 30
  else 31

def isCalendar (d : Date) : Bool :=
  1 ≤ d.month && d.month ≤ 12 && 1 ≤ d.day && d.day ≤ daysInMonth d.year d.month

/-- `date.isoformat`. -/
def isoformat (d : Date) : String :=
  String.ofList (zeroPad 4 d.year ++ '-' :: zeroPad 2 d.month ++ '-' :: zeroPad 2 d.day)

end Date

/-! ### Decimals -/

/-- A `decimal.Decimal`. -/
inductive Decimal where
  | finite (negative : Bool) (coefficient : Nat) (exponent : Int)
  | infinite (negative : Bool)
  | nan
  deriving DecidableEq, Repr

namespace Decimal

/-- `Decimal.is_finite`. -/
def isFinite : Decimal → Bool
  | finite _ _ _ => true
  | _ => false

/-- `10 ^ e` as a rational number. -/
def pow10 : Int → ℚ
  | .ofNat k => ((10 ^ k : Nat) : ℚ)
  | .negSucc k => mkRat 1 (10 ^ (k + 1))

/-- The exact value; non-finite decimals, which every caller rejects first, count as zero. -/
def toRat : Decimal → ℚ
  | finite negative c e => (if negative then -1 else 1) * (c : ℚ) * pow10 e
  | _ => 0

/-- `Decimal(n)` for a natural number. -/
def ofNat (n : Nat) : Decimal := finite false n 0

/-- `Decimal(n)` for an integer. -/
def ofInt (n : Int) : Decimal := finite (n < 0) n.natAbs 0

/-- A decimal written with two places: `cents n` is `n / 100`. -/
def cents (n : Nat) : Decimal := finite false n (-2)

def mul : Decimal → Decimal → Decimal
  | finite n c e, finite n' c' e' => finite (n ^^ n') (c * c') (e + e')
  | _, _ => nan

/-- The number of decimal digits of a coefficient (`0` has one). -/
def digitCount (c : Nat) : Nat := (toString c).toList.length

/-- `str(d)` of a finite decimal: plain notation while the adjusted exponent is at least `-6`. -/
def toText : Decimal → String
  | finite negative c e =>
    let digits := (toString c).toList
    let left : Int := e + digits.length
    let sign := if negative then ['-'] else []
    let dot : Int := if e ≤ 0 ∧ left > -6 then left else 1
    let intPart := if dot ≤ 0 then ['0'] else
      digits.take dot.toNat ++ List.replicate (dot.toNat - digits.length) '0'
    let fracPart := if dot ≤ 0 then '.' :: (List.replicate (-dot).toNat '0' ++ digits)
      else if (digits.length : Int) ≤ dot then [] else '.' :: digits.drop dot.toNat
    let expPart := if left = dot then [] else
      'E' :: (if left - dot < 0 then '-' else '+') :: (toString (left - dot).natAbs).toList
    String.ofList (sign ++ intPart ++ fracPart ++ expPart)
  | infinite negative => if negative then "-Infinity" else "Infinity"
  | nan => "NaN"

/-- Strip `k` trailing zeros at most from a coefficient, raising the exponent. -/
def stripZeros : Nat → Nat → Int → Nat × Int
  | 0, c, e => (c, e)
  | k + 1, c, e => if c % 10 = 0 ∧ c ≠ 0 then stripZeros k (c / 10) (e + 1) else (c, e)

/-- `Decimal.normalize`. -/
def normalize : Decimal → Decimal
  | finite negative c e =>
    if c = 0 then finite negative 0 0
    else
      let (c', e') := stripZeros (digitCount c) c e
      finite negative c' e'
  | d => d

/-- The representation whose `str` is `format(d.normalize(), "f")`: no exponent above zero. -/
def expand : Decimal → Decimal
  | finite negative c (.ofNat k) => finite negative (c * 10 ^ k) 0
  | d => d

/-- `format(d, "f")` of a finite decimal without positive exponent. -/
def fixedText : Decimal → String
  | finite negative c e =>
    let places := (-e).toNat
    let digits := zeroPad (places + 1) c
    let sign := if negative then ['-'] else []
    let cut := digits.length - places
    String.ofList (sign ++ digits.take cut ++
      (if places = 0 then [] else '.' :: digits.drop cut))
  | d => d.toText

/-- `format(d.normalize(), "f")`. -/
def plainText (d : Decimal) : String := d.normalize.expand.fixedText

/-- A signed text of digits, as an exponent is written. -/
def parseExponent : List Char → Option Int
  | '-' :: ds => if ds ≠ [] ∧ ds.all Char.isDigit then some (-digitsValue ds) else none
  | '+' :: ds => if ds ≠ [] ∧ ds.all Char.isDigit then some (digitsValue ds) else none
  | ds => if ds ≠ [] ∧ ds.all Char.isDigit then some (digitsValue ds) else none

/-- A number without sign: digits, a point and digits, an exponent; or a special value. -/
def parseUnsigned (negative : Bool) (cs : List Char) : Option Decimal :=
  let whole := cs.takeWhile Char.isDigit
  let (fraction, rest) := match cs.dropWhile Char.isDigit with
    | '.' :: r => (r.takeWhile Char.isDigit, r.dropWhile Char.isDigit)
    | r => ([], r)
  if whole ++ fraction = [] then
    let word := cs.map Char.toLower
    if word = "inf".toList ∨ word = "infinity".toList then some (infinite negative)
    else if word.take 3 = "nan".toList ∧ (word.drop 3).all Char.isDigit ∨
        word.take 4 = "snan".toList ∧ (word.drop 4).all Char.isDigit then some nan
    else none
  else
    let exponent := match rest with
      | [] => some 0
      | c :: r => if c = 'e' ∨ c = 'E' then parseExponent r else none
    exponent.map fun e => finite negative (digitsValue (whole ++ fraction)) (e - fraction.length)

/-- `str(error)` of the error that `Decimal(text)` raises. -/
def syntaxError : String := "[<class 'decimal.ConversionSyntax'>]"

/-- `Decimal(text)` for texts of ASCII digits; `none` where it raises. -/
def parse (text : String) : Option Decimal :=
  match (strip text).toList.filter (· != '_') with
  | '-' :: cs => parseUnsigned true cs
  | '+' :: cs => parseUnsigned false cs
  | cs => parseUnsigned false cs

theorem pow10_eq_zpow (e : Int) : pow10 e = (10 : ℚ) ^ e := by
  cases e with
  | ofNat k => simp [pow10]
  | negSucc k =>
    rw [pow10, zpow_negSucc, Rat.mkRat_eq_div]
    simp

theorem toRat_finite (n : Bool) (c : Nat) (e : Int) :
    (finite n c e).toRat = (if n then -1 else 1) * (c : ℚ) * (10 : ℚ) ^ e := by
  rw [toRat, pow10_eq_zpow]

theorem toRat_cents (n : Nat) : (cents n).toRat = n / 100 := by
  rw [cents, toRat_finite, if_neg (by decide), one_mul, zpow_neg, div_eq_mul_inv]
  norm_num

theorem toRat_mul {x y : Decimal} (hx : x.isFinite) (hy : y.isFinite) :
    (x.mul y).toRat = x.toRat * y.toRat := by
  cases x with
  | finite n c e =>
    cases y with
    | finite n' c' e' =>
      simp only [mul, toRat, pow10_eq_zpow, zpow_add₀ (by norm_num : (10 : ℚ) ≠ 0)]
      cases n <;> cases n' <;> push_cast <;> simp <;> ring
    | infinite n' => cases hy
    | nan => cases hy
  | infinite n => cases hx
  | nan => cases hx

theorem isFinite_mul {x y : Decimal} (hx : x.isFinite) (hy : y.isFinite) :
    (x.mul y).isFinite = true := by
  cases x with
  | finite n c e =>
    cases y with
    | finite n' c' e' => rfl
    | infinite n' => cases hy
    | nan => cases hy
  | infinite n => cases hx
  | nan => cases hx

theorem stripZeros_value (k c : Nat) (e : Int) :
    ((stripZeros k c e).1 : ℚ) * pow10 (stripZeros k c e).2 = (c : ℚ) * pow10 e := by
  induction k generalizing c e with
  | zero => rfl
  | succ k ih =>
    unfold stripZeros
    split
    · rename_i h
      have hc : ((c / 10 : Nat) : ℚ) * 10 = c := by
        exact_mod_cast Nat.div_mul_cancel (Nat.dvd_of_mod_eq_zero h.1)
      rw [ih, pow10_eq_zpow, pow10_eq_zpow, zpow_add_one₀ (by norm_num), ← hc]
      ring
    · rfl

/-- `normalize` keeps the value. -/
theorem toRat_normalize (d : Decimal) : d.normalize.toRat = d.toRat := by
  cases d with
  | finite n c e =>
    by_cases hc : c = 0
    · simp [normalize, toRat, hc]
    · simp only [normalize, if_neg hc, toRat, mul_assoc, stripZeros_value]
  | infinite n => rfl
  | nan => rfl

/-- `expand` keeps the value. -/
theorem toRat_expand (d : Decimal) : d.expand.toRat = d.toRat := by
  cases d with
  | finite n c e =>
    cases e with
    | ofNat k => simp [expand, toRat, pow10]
    | negSucc k => rfl
  | infinite n => rfl
  | nan => rfl

theorem parseUnsigned_digits (negative : Bool) {whole fraction tail : List Char}
    (hwhole : ∀ c ∈ whole, c.isDigit = true) (hfraction : ∀ c ∈ fraction, c.isDigit = true)
    (hne : whole ≠ []) (htail : tail = '.' :: fraction ∨ tail = [] ∧ fraction = []) :
    parseUnsigned negative (whole ++ tail) =
      some (finite negative (digitsValue (whole ++ fraction)) (-fraction.length)) := by
  have hhead : ∀ c ∈ tail.head?, c.isDigit = false := by
    rcases htail with rfl | ⟨rfl, -⟩
    · intro c hc
      cases hc
      rfl
    · simp
  have htake : (whole ++ tail).takeWhile Char.isDigit = whole := by
    rw [List.takeWhile_append_of_pos hwhole]
    cases tail with
    | nil => simp
    | cons c rest => simp [hhead c rfl]
  have hdrop : (whole ++ tail).dropWhile Char.isDigit = tail := by
    rw [List.dropWhile_append_of_pos hwhole]
    cases tail with
    | nil => simp
    | cons c rest => simp [hhead c rfl]
  have hnone : whole ++ fraction ≠ [] := by simp [hne]
  have hall : fraction.takeWhile Char.isDigit = fraction := by
    rw [List.takeWhile_eq_self_iff]
    exact hfraction
  have hrest : fraction.dropWhile Char.isDigit = [] := by
    rw [List.dropWhile_eq_nil_iff]
    exact hfraction
  unfold parseUnsigned
  rw [htake, hdrop]
  rcases htail with rfl | ⟨rfl, rfl⟩
  · simp only [hall, hrest]
    rw [if_neg hnone]
    simp
  · simp only
    rw [if_neg hnone]
    simp

/-- The text of a signed number without an exponent. -/
theorem parse_digits (negative : Bool) {whole fraction tail : List Char}
    (hwhole : ∀ c ∈ whole, c.isDigit = true) (hfraction : ∀ c ∈ fraction, c.isDigit = true)
    (hne : whole ≠ []) (htail : tail = '.' :: fraction ∨ tail = [] ∧ fraction = []) :
    parse (String.ofList ((if negative then ['-'] else []) ++ (whole ++ tail))) =
      some (finite negative (digitsValue (whole ++ fraction)) (-fraction.length)) := by
  have hparse := parseUnsigned_digits negative hwhole hfraction hne htail
  have hchars : ∀ c ∈ whole ++ tail, c.isDigit = true ∨ c = '.' := by
    intro c hc
    rcases List.mem_append.mp hc with hc | hc
    · exact .inl (hwhole c hc)
    · rcases htail with rfl | ⟨rfl, -⟩
      · exact (List.mem_cons.mp hc).symm.imp (hfraction c) id
      · cases hc
  have hplain : ∀ c ∈ whole ++ tail, isSpace c = false ∧ c ≠ '_' ∧ c ≠ '-' ∧ c ≠ '+' := by
    intro c hc
    rcases hchars c hc with hc | rfl
    · have hrange := toNat_of_isDigit hc
      refine ⟨?_, ?_, ?_, ?_⟩
      · simp [isSpace]
        omega
      all_goals
        rintro rfl
        cases hc
    · decide
  have hsign : ∀ c ∈ (if negative then ['-'] else [] : List Char), c = '-' := by
    cases negative <;> simp
  have hstrip : strip (String.ofList ((if negative then ['-'] else []) ++ (whole ++ tail))) =
      String.ofList ((if negative then ['-'] else []) ++ (whole ++ tail)) := by
    refine strip_eq_self fun c hc => ?_
    rw [String.toList_ofList] at hc
    rcases List.mem_append.mp hc with hc | hc
    · rw [hsign c hc]
      rfl
    · exact (hplain c hc).1
  have hfilter : ((if negative then ['-'] else []) ++ (whole ++ tail)).filter (· != '_') =
      (if negative then ['-'] else []) ++ (whole ++ tail) := by
    rw [List.filter_eq_self]
    intro c hc
    rcases List.mem_append.mp hc with hc | hc
    · rw [hsign c hc]
      rfl
    · simpa using (hplain c hc).2.1
  rw [parse, hstrip, String.toList_ofList, hfilter]
  cases negative with
  | true => exact hparse
  | false =>
    -- the first character is a digit, so no sign is read
    obtain ⟨c, rest, rfl⟩ := List.exists_cons_of_ne_nil hne
    have hc := hplain c (by simp)
    simp only [Bool.false_eq_true, if_false, List.nil_append, List.cons_append] at hparse ⊢
    split
    · rename_i cs hcs
      exact absurd (List.cons.inj hcs).1 hc.2.2.1
    · rename_i cs hcs
      exact absurd (List.cons.inj hcs).1 hc.2.2.2
    · exact hparse

/-- A decimal without a positive exponent is read back from its text. -/
theorem parse_fixedText (negative : Bool) (c k : Nat) :
    parse (fixedText (finite negative c (-k))) = some (finite negative c (-k)) := by
  have hlen := le_length_zeroPad (k + 1) c
  have hdigit : ∀ d ∈ zeroPad (k + 1) c, d.isDigit = true := fun d hd => isDigit_zeroPad hd
  have hcount : ((zeroPad (k + 1) c).drop ((zeroPad (k + 1) c).length - k)).length = k := by
    rw [List.length_drop]
    omega
  have hne : (zeroPad (k + 1) c).take ((zeroPad (k + 1) c).length - k) ≠ [] := by
    rw [Ne, List.take_eq_nil_iff, ← List.length_eq_zero_iff]
    omega
  have htail : (if k = 0 then [] else '.' ::
      (zeroPad (k + 1) c).drop ((zeroPad (k + 1) c).length - k)) =
        '.' :: (zeroPad (k + 1) c).drop ((zeroPad (k + 1) c).length - k) ∨
      (if k = 0 then [] else '.' ::
        (zeroPad (k + 1) c).drop ((zeroPad (k + 1) c).length - k)) = [] ∧
        (zeroPad (k + 1) c).drop ((zeroPad (k + 1) c).length - k) = [] := by
    by_cases hk : k = 0
    · exact .inr ⟨if_pos hk, List.length_eq_zero_iff.mp (hcount.trans hk)⟩
    · exact .inl (if_neg hk)
  have hparse := parse_digits negative (fun d hd => hdigit d (List.mem_of_mem_take hd))
    (fun d hd => hdigit d (List.mem_of_mem_drop hd)) hne htail
  rw [List.take_append_drop, digitsValue_zeroPad, hcount] at hparse
  rw [← hparse]
  simp [fixedText]

theorem exists_expand (d : Decimal) (h : d.isFinite) :
    ∃ negative c k, d.expand = finite negative c (-(k : Nat)) := by
  cases d with
  | finite n c e =>
    cases e with
    | ofNat k => exact ⟨n, c * 10 ^ k, 0, rfl⟩
    | negSucc k => exact ⟨n, c, k + 1, rfl⟩
  | _ => cases h

theorem isFinite_normalize {d : Decimal} (h : d.isFinite) : d.normalize.isFinite = true := by
  cases d with
  | finite n c e =>
    by_cases hc : c = 0
    · simp [normalize, hc, isFinite]
    · simp [normalize, hc, isFinite]
  | _ => cases h

theorem lt_pow_digitCount (c : Nat) : c < 10 ^ digitCount c := by
  have htext : (toString c).toList = Nat.toDigits 10 c := by
    rw [Nat.toString_eq_ofList_toDigits, String.toList_ofList]
  rw [digitCount, htext]
  have hpos : 0 < (Nat.toDigits 10 c).length := Nat.length_toDigits_pos
  exact (Nat.length_toDigits_le_iff (by decide) hpos).mp le_rfl

/-- A coefficient without trailing zeros, and the zeros that follow it. -/
theorem stripZeros_pow {c : Nat} (hc : c % 10 ≠ 0) (k : Nat) {n : Nat} (h : k ≤ n) (e : Int) :
    stripZeros n (c * 10 ^ k) e = (c, e + k) := by
  induction n generalizing k e with
  | zero =>
    have hk : k = 0 := by omega
    simp [hk, stripZeros]
  | succ n ih =>
    cases k with
    | zero => simp [stripZeros, hc]
    | succ k =>
      have hmod : c * 10 ^ (k + 1) % 10 = 0 := by
        rw [pow_succ, ← mul_assoc]
        exact Nat.mul_mod_left _ _
      have hdiv : c * 10 ^ (k + 1) / 10 = c * 10 ^ k := by
        rw [pow_succ, ← mul_assoc]
        exact Nat.mul_div_cancel _ (by decide)
      have hne : c * 10 ^ (k + 1) ≠ 0 := by
        have hc0 : c ≠ 0 := by
          rintro rfl
          exact hc rfl
        positivity
      rw [stripZeros, if_pos ⟨hmod, hne⟩, hdiv, ih k (by omega)]
      push_cast
      rw [Prod.mk.injEq]
      exact ⟨rfl, by ring⟩

theorem stripZeros_stripped {n c : Nat} (hc : c ≠ 0) (h : c < 10 ^ n) (e : Int) :
    (stripZeros n c e).1 % 10 ≠ 0 := by
  induction n generalizing c e with
  | zero =>
    rw [pow_zero] at h
    omega
  | succ n ih =>
    rw [stripZeros]
    by_cases hmod : c % 10 = 0 ∧ c ≠ 0
    · rw [if_pos hmod]
      refine ih (by omega) ?_ _
      rw [pow_succ] at h
      omega
    · rw [if_neg hmod]
      dsimp only
      tauto

/-- A normalized decimal is written and normalized as it is. -/
theorem normalize_expand (d : Decimal) : d.normalize.expand.normalize = d.normalize := by
  cases d with
  | infinite n => rfl
  | nan => rfl
  | finite negative c e =>
    by_cases hc : c = 0
    · simp [normalize, expand, hc]
    · have hstripped := stripZeros_stripped hc (lt_pow_digitCount c) e
      have hnormal : (finite negative c e).normalize =
          finite negative (stripZeros (digitCount c) c e).1 (stripZeros (digitCount c) c e).2 := by
        rw [normalize, if_neg hc]
      rw [hnormal]
      generalize stripZeros (digitCount c) c e = r at hstripped
      obtain ⟨c', e'⟩ := r
      dsimp only at hstripped ⊢
      have hc' : c' ≠ 0 := by
        rintro rfl
        exact hstripped rfl
      cases e' with
      | ofNat k =>
        have hne : c' * 10 ^ k ≠ 0 := by positivity
        have hlen : k ≤ digitCount (c' * 10 ^ k) := by
          by_contra hlt
          have hbound := lt_pow_digitCount (c' * 10 ^ k)
          have hpow : 10 ^ digitCount (c' * 10 ^ k) ≤ 10 ^ k :=
            Nat.pow_le_pow_right (by decide) (by omega)
          have hle : 10 ^ k ≤ c' * 10 ^ k := Nat.le_mul_of_pos_left _ (Nat.pos_of_ne_zero hc')
          omega
        rw [expand, normalize, if_neg hne, stripZeros_pow hstripped k hlen, Int.zero_add]
        rfl
      | negSucc k =>
        have hzero := stripZeros_pow hstripped 0 (Nat.zero_le (digitCount c')) (Int.negSucc k)
        rw [pow_zero, Nat.mul_one] at hzero
        have hexpand : (finite negative c' (.negSucc k)).expand = finite negative c' (.negSucc k) :=
          rfl
        rw [hexpand, normalize, if_neg hc', hzero]
        rfl

theorem plainText_normalize_expand (d : Decimal) : d.normalize.expand.plainText = d.plainText := by
  rw [plainText, normalize_expand, plainText]

theorem toRat_normalize_expand (d : Decimal) : d.normalize.expand.toRat = d.toRat := by
  rw [toRat_expand, toRat_normalize]

theorem parse_plainText_eq {d : Decimal} (h : d.isFinite) :
    parse d.plainText = some d.normalize.expand := by
  obtain ⟨n, c, k, hexpand⟩ := exists_expand d.normalize (isFinite_normalize h)
  rw [plainText, hexpand, parse_fixedText]

/-- The plain text of a finite decimal is read back with its value. -/
theorem parse_plainText {d : Decimal} (h : d.isFinite) :
    ∃ d', parse d.plainText = some d' ∧ d'.isFinite ∧ d'.toRat = d.toRat := by
  obtain ⟨n, c, k, hexpand⟩ := exists_expand d.normalize (isFinite_normalize h)
  refine ⟨_, parse_plainText_eq h, ?_, toRat_normalize_expand d⟩
  rw [hexpand]
  rfl

/-- The text of an integer is read back. -/
theorem parse_toString (n : Int) : parse (toString n) = some (ofInt n) := by
  have hdigit : ∀ k : Nat, ∀ c ∈ Nat.toDigits 10 k, c.isDigit = true := fun k c hc =>
    Nat.isDigit_of_mem_toDigits (by decide) (by decide) hc
  have hdigits : ∀ (negative : Bool) (k : Nat),
      parse (String.ofList ((if negative then ['-'] else []) ++ (Nat.toDigits 10 k ++ []))) =
        some (finite negative k 0) := by
    intro negative k
    have htail : ([] : List Char) = '.' :: [] ∨ ([] : List Char) = [] ∧ ([] : List Char) = [] :=
      .inr ⟨rfl, rfl⟩
    have hparse := parse_digits negative (hdigit k) (by simp) Nat.toDigits_ne_nil htail
    rw [List.append_nil, digitsValue_eq, Nat.ofDigitChars_ten_toDigits] at hparse
    simpa using hparse
  cases n with
  | ofNat k =>
    have htext : toString (Int.ofNat k) = String.ofList (Nat.toDigits 10 k) :=
      Nat.toString_eq_ofList_toDigits
    have hsign : ¬ Int.ofNat k < 0 := not_lt.mpr (Int.natCast_nonneg k)
    rw [htext, ofInt, decide_eq_false hsign]
    simpa using hdigits false k
  | negSucc k =>
    have htext : toString (Int.negSucc k) = String.ofList ('-' :: Nat.toDigits 10 (k + 1)) := by
      show "-" ++ Nat.repr (k + 1) = _
      rw [Nat.repr_eq_ofList_toDigits]
      simp
    rw [htext]
    simpa [ofInt, Int.negSucc_lt_zero] using hdigits true (k + 1)
@[simp] theorem toRat_ofNat (n : Nat) : (ofNat n).toRat = n := by
  simp [ofNat, toRat, pow10]

@[simp] theorem toRat_ofInt (n : Int) : (ofInt n).toRat = n := by
  cases n with
  | ofNat k => simp [ofInt, toRat, pow10]
  | negSucc k =>
    have hneg : Int.negSucc k < 0 := Int.negSucc_lt_zero k
    simp only [ofInt, toRat, pow10, hneg, decide_true, if_true, Int.natAbs_negSucc]
    push_cast
    ring

example : (finite false 12300 (-2)).plainText = "123" ∧ (finite false 1230 (-3)).plainText = "1.23" ∧
    (finite false 5 3).plainText = "5000" ∧ (finite false 5 3).toText = "5E+3" ∧
    (finite false 12300 (-2)).toText = "123.00" ∧ (cents 5).toText = "0.05" := by
  decide

example : parse " -1_0.50e+2" = some (finite true 1050 0) ∧ parse "1e" = none ∧
    parse ".5" = some (finite false 5 (-1)) ∧ parse "-Infinity" = some (infinite true) := by
  decide

end Decimal

end EsscherMarket.Lib
