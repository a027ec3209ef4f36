import EsscherMarket.Lib.PyTypes

/-!
# Reading dates and datetimes

`date.fromisoformat` and `datetime.fromisoformat` on the texts that `isoformat` writes.  Python's
parsers accept further spellings; a caller that writes the value again and compares the texts rejects
those, as it rejects here a text that is not read.
-/

namespace EsscherMarket.Lib

/-! ### Fields of fixed width -/

/-- A number of `width` digits, and the characters after it. -/
def readDigits (width : Nat) (cs : List Char) : Option (Nat × List Char) :=
  if (cs.take width).length = width ∧ (cs.take width).all Char.isDigit then
    some (digitsValue (cs.take width), cs.drop width)
  else none

def readChar (c : Char) : List Char → Option (List Char)
  | [] => none
  | d :: rest => if d = c then some rest else none

theorem digitsValue_lt {cs : List Char} (h : ∀ c ∈ cs, c.isDigit = true) :
    digitsValue cs < 10 ^ cs.length := by
  induction cs using List.reverseRecOn with
  | nil => decide
  | append_singleton cs c ih =>
    have hc := h c (by simp)
    simp only [Char.isDigit, Bool.and_eq_true, decide_eq_true_eq] at hc
    have hvalue : c.toNat ≤ 57 := hc.2
    have hcs := ih fun d hd => h d (by simp [hd])
    have hstep : digitsValue (cs ++ [c]) = digitsValue cs * 10 + (c.toNat - 48) := by
      rw [digitsValue, List.foldl_append]
      rfl
    rw [hstep, List.length_append, List.length_singleton, pow_succ]
    omega

theorem length_zeroPad {width n : Nat} (h : n < 10 ^ width) (hwidth : 0 < width) :
    (zeroPad width n).length = width := by
  rw [zeroPad_eq, List.length_append, List.length_replicate]
  have hlen : (Nat.toDigits 10 n).length ≤ width :=
    Nat.length_toDigits_le_iff (by decide) hwidth |>.mpr h
  omega

theorem readDigits_zeroPad {width n : Nat} (h : n < 10 ^ width) (hwidth : 0 < width)
    (rest : List Char) : readDigits width (zeroPad width n ++ rest) = some (n, rest) := by
  have hlen := length_zeroPad h hwidth
  have htake : (zeroPad width n ++ rest).take width = zeroPad width n := by
    rw [List.take_append_of_le_length (by omega), List.take_of_length_le (by omega)]
  have hdrop : (zeroPad width n ++ rest).drop width = rest := by
    rw [List.drop_append_of_le_length (by omega), List.drop_of_length_le (by omega),
      List.nil_append]
  have hall : (zeroPad width n).all Char.isDigit = true :=
    List.all_eq_true.mpr fun c hc => isDigit_zeroPad hc
  rw [readDigits, htake, hdrop, if_pos ⟨hlen, hall⟩, digitsValue_zeroPad]

theorem readChar_cons (c : Char) (rest : List Char) : readChar c (c :: rest) = some rest :=
  if_pos rfl

/-! ### Days and calendar dates -/

namespace DateTime

def daysBefore (yoe : Nat) : Nat := 365 * yoe + yoe / 4 - yoe / 100

def yearOfEra (doe : Nat) : Nat := (doe - doe / 1460 + doe / 36524 - doe / 146096) / 365

def civilDay (y : Int) (m d : Nat) : Int :=
  let y' := y - (if m ≤ 2 then 1 else 0)
  let era := y' / 400
  let mp := if m ≤ 2 then m + 9 else m - 3
  era * 146097 + daysBefore (y' - era * 400).toNat + (((153 * mp + 2) / 5 + d - 1 : Nat) : Int)
    - 719468

theorem yearOfEra_spec {doe : Nat} (h : doe < 146097) : yearOfEra doe ≤ 399 ∧
    daysBefore (yearOfEra doe) ≤ doe ∧ doe - daysBefore (yearOfEra doe) ≤ 365 := by
  -- within a century the leap years are every fourth
  have hcentury : ∀ k, k ≤ 3 → doe / 36524 = k → yearOfEra doe ≤ 399 ∧
      daysBefore (yearOfEra doe) ≤ doe ∧ doe - daysBefore (yearOfEra doe) ≤ 365 := by
    intro k hk hdoe
    have hlast : doe / 146096 = 0 := by omega
    have hyear : yearOfEra doe = (doe - doe / 1460 + k) / 365 := by
      rw [yearOfEra, hdoe, hlast, Nat.sub_zero]
    have hk100 : yearOfEra doe / 100 = k := by
      rw [hyear]
      omega
    rw [daysBefore, hk100, hyear]
    omega
  rcases Nat.lt_or_ge doe 146096 with hlt | hge
  · exact hcentury (doe / 36524) (by omega) rfl
  · have hdoe : doe = 146096 := by omega
    subst hdoe
    decide

theorem month_spec {doy : Nat} (h : doy ≤ 365) :
    (5 * doy + 2) / 153 ≤ 11 ∧ (153 * ((5 * doy + 2) / 153) + 2) / 5 ≤ doy := by omega

/-- A day number is read back from its year, month and day. -/
theorem civilDay_civil (day : Int) :
    civilDay (civil day).1 (civil day).2.1 (civil day).2.2 = day := by
  obtain ⟨era, doe, hdoe, hera, hday⟩ : ∃ era : Int, ∃ doe : Nat, doe < 146097 ∧
      (day + 719468) / 146097 = era ∧ day + 719468 - era * 146097 = doe :=
    ⟨(day + 719468) / 146097, (day + 719468 - (day + 719468) / 146097 * 146097).toNat,
      by omega, rfl, by omega⟩
  obtain ⟨hyear, hbefore, hdoy⟩ := yearOfEra_spec hdoe
  generalize hy : yearOfEra doe = yoe at hyear hbefore hdoy
  obtain ⟨hmonth, hstart⟩ := month_spec hdoy
  generalize hdoyEq : doe - daysBefore yoe = doy at hdoy hmonth hstart
  generalize hmp : (5 * doy + 2) / 153 = mp at hmonth hstart
  have hcivil : civil day = (era * 400 + yoe + (if (if mp < 10 then mp + 3 else mp - 9) ≤ 2
      then 1 else 0), if mp < 10 then mp + 3 else mp - 9, doy - (153 * mp + 2) / 5 + 1) := by
    rw [← hmp, ← hdoyEq, ← hy, civil, hera, hday]
    rfl
  rw [hcivil]
  have hshift : era * 400 + (yoe : Int) + (if (if mp < 10 then mp + 3 else mp - 9) ≤ 2 then 1 else 0)
      - (if (if mp < 10 then mp + 3 else mp - 9) ≤ 2 then 1 else 0) = era * 400 + yoe := by omega
  have hquot : (era * 400 + (yoe : Int)) / 400 = era := by omega
  have hrem : (era * 400 + (yoe : Int) - era * 400).toNat = yoe := by omega
  have hback : (if (if mp < 10 then mp + 3 else mp - 9) ≤ 2 then
      (if mp < 10 then mp + 3 else mp - 9) + 9
      else (if mp < 10 then mp + 3 else mp - 9) - 3) = mp := by
    split_ifs <;> omega
  simp only [civilDay, hshift, hquot, hrem, hback]
  omega

theorem civil_lt (day : Int) : (civil day).2.1 < 100 ∧ (civil day).2.2 < 100 := by
  have hdoe : (day + 719468 - (day + 719468) / 146097 * 146097).toNat < 146097 := by omega
  obtain ⟨-, -, hdoy⟩ := yearOfEra_spec hdoe
  obtain ⟨hmonth, hstart⟩ := month_spec hdoy
  generalize hdoyEq : (day + 719468 - (day + 719468) / 146097 * 146097).toNat -
    daysBefore (yearOfEra (day + 719468 - (day + 719468) / 146097 * 146097).toNat) = doy
    at hdoy hmonth hstart
  have hcivil : (civil day).2 = (if (5 * doy + 2) / 153 < 10 then (5 * doy + 2) / 153 + 3
      else (5 * doy + 2) / 153 - 9, doy - (153 * ((5 * doy + 2) / 153) + 2) / 5 + 1) := by
    rw [← hdoyEq]
    rfl
  rw [hcivil]
  constructor
  · dsimp only
    split_ifs <;> omega
  · dsimp only
    omega

end DateTime

/-! ### The parts of a text -/

def readDate (cs : List Char) : Option ((Nat × Nat × Nat) × List Char) := do
  let (year, cs) ← readDigits 4 cs
  let cs ← readChar '-' cs
  let (month, cs) ← readDigits 2 cs
  let cs ← readChar '-' cs
  let (day, cs) ← readDigits 2 cs
  return ((year, month, day), cs)

def readClock (cs : List Char) : Option ((Nat × Nat × Nat) × List Char) := do
  let (hour, cs) ← readDigits 2 cs
  let cs ← readChar ':' cs
  let (minute, cs) ← readDigits 2 cs
  let cs ← readChar ':' cs
  let (second, cs) ← readDigits 2 cs
  return ((hour, minute, second), cs)

theorem readDate_text {year month day : Nat} (hyear : year < 10000) (hmonth : month < 100)
    (hday : day < 100) (rest : List Char) :
    readDate (zeroPad 4 year ++ '-' :: (zeroPad 2 month ++ '-' :: (zeroPad 2 day ++ rest))) =
      some ((year, month, day), rest) := by
  rw [readDate, readDigits_zeroPad (show year < 10 ^ 4 by omega) (by decide)]
  simp only [Option.bind_eq_bind, Option.bind_some, readChar_cons,
    readDigits_zeroPad (show month < 10 ^ 2 by omega) (by decide),
    readDigits_zeroPad (show day < 10 ^ 2 by omega) (by decide)]
  rfl

theorem readClock_text {hour minute second : Nat} (hhour : hour < 100) (hminute : minute < 100)
    (hsecond : second < 100) (rest : List Char) :
    readClock (zeroPad 2 hour ++ ':' :: (zeroPad 2 minute ++ ':' :: (zeroPad 2 second ++ rest))) =
      some ((hour, minute, second), rest) := by
  rw [readClock, readDigits_zeroPad (show hour < 10 ^ 2 by omega) (by decide)]
  simp only [Option.bind_eq_bind, Option.bind_some, readChar_cons,
    readDigits_zeroPad (show minute < 10 ^ 2 by omega) (by decide),
    readDigits_zeroPad (show second < 10 ^ 2 by omega) (by decide)]
  rfl

namespace Date

/-- `date.fromisoformat`. -/
def fromIsoformat (text : String) : Option Date := do
  let ((year, month, day), cs) ← readDate text.toList
  let date : Date := ⟨year, month, day⟩
  if cs = [] ∧ 1 ≤ year ∧ date.isCalendar = true then some date else none

theorem daysInMonth_le (year month : Nat) : daysInMonth year month ≤ 31 := by
  unfold daysInMonth
  split_ifs <;> decide

/-- A date of the calendar is read back. -/
theorem fromIsoformat_isoformat {d : Date} (hyear : 1 ≤ d.year ∧ d.year ≤ 9999)
    (hd : d.isCalendar = true) : fromIsoformat d.isoformat = some d := by
  have hparts : d.month < 100 ∧ d.day < 100 := by
    have hdays := daysInMonth_le d.year d.month
    have hcalendar := hd
    simp only [isCalendar, Bool.and_eq_true, decide_eq_true_eq] at hcalendar
    omega
  have hread := readDate_text (show d.year < 10000 by omega) hparts.1 hparts.2 []
  rw [List.append_nil] at hread
  rw [fromIsoformat, isoformat, String.toList_ofList, List.append_assoc, List.cons_append, hread]
  exact if_pos ⟨rfl, hyear.1, hd⟩

end Date

/-! ### Datetimes -/

namespace DateTime

def readOffset : List Char → Option TzInfo
  | [] => some .naive
  | sign :: cs => do
    let (hours, cs) ← readDigits 2 cs
    let cs ← readChar ':' cs
    let (minutes, cs) ← readDigits 2 cs
    let n : Int := hours * 60 + minutes
    if (sign = '+' ∨ sign = '-') ∧ cs = [] ∧ hours < 24 ∧ minutes < 60 then
      some (if n = 0 then .utc else .offset (if sign = '-' then -n else n))
    else none

def readFraction : List Char → Option (Nat × List Char)
  | [] => some (0, [])
  | c :: cs => if c = '.' then readDigits 6 cs else some (0, c :: cs)

/-- `datetime.fromisoformat`. -/
def fromIsoformat (text : String) : Option DateTime := do
  let ((year, month, day), cs) ← readDate text.toList
  let cs ← readChar 'T' cs
  let ((hour, minute, second), cs) ← readClock cs
  let (micro, cs) ← readFraction cs
  let tzinfo ← readOffset cs
  let number := civilDay year month day
  if 1 ≤ year ∧ civil number = ((year : Int), month, day) ∧ hour < 24 ∧ minute < 60 ∧ second < 60 then
    let seconds : Int := hour * 3600 + minute * 60 + second
    some ⟨number * microsPerDay + seconds * microsPerSecond + micro
      - offsetMinutes tzinfo * 60 * microsPerSecond, tzinfo⟩
  else none

def wall (t : DateTime) : Int := t.micros + offsetMinutes t.tzinfo * 60 * microsPerSecond

/-- A datetime that Python can hold: its year has four digits, its offset is less than a day. -/
structure InRange (t : DateTime) : Prop where
  year : 1 ≤ (civil (t.wall / microsPerDay)).1 ∧ (civil (t.wall / microsPerDay)).1 ≤ 9999
  offset : (offsetMinutes t.tzinfo).natAbs < 1440

theorem inRange_iff {t : DateTime} : t.InRange ↔
    (1 ≤ (civil (t.wall / microsPerDay)).1 ∧ (civil (t.wall / microsPerDay)).1 ≤ 9999) ∧
      (offsetMinutes t.tzinfo).natAbs < 1440 :=
  ⟨fun h => ⟨h.year, h.offset⟩, fun h => ⟨h.1, h.2⟩⟩

instance (t : DateTime) : Decidable t.InRange := decidable_of_iff _ inRange_iff.symm

/-- An offset of no minutes is `UTC`. -/
def TzInfo.canonical : TzInfo → TzInfo
  | .naive => .naive
  | .utc => .utc
  | .offset m => if m = 0 then .utc else .offset m

/-- The datetime as it is read back: the same instant. -/
def canonical (t : DateTime) : DateTime := ⟨t.micros, TzInfo.canonical t.tzinfo⟩

theorem offsetMinutes_canonical (z : TzInfo) : offsetMinutes (TzInfo.canonical z) = offsetMinutes z := by
  cases z with
  | offset m =>
    by_cases hm : m = 0
    · simp [TzInfo.canonical, offsetMinutes, hm]
    · simp [TzInfo.canonical, offsetMinutes, hm]
  | _ => rfl

theorem readOffset_offsetText {z : TzInfo} (h : (offsetMinutes z).natAbs < 1440) :
    readOffset (offsetText z) = some (TzInfo.canonical z) := by
  cases z with
  | naive => rfl
  | utc => decide
  | offset m =>
    have hm : m.natAbs < 1440 := h
    have hhours : m.natAbs / 60 < 10 ^ 2 := by omega
    have hminutes : m.natAbs % 60 < 10 ^ 2 := by omega
    have hlast : readDigits 2 (zeroPad 2 (m.natAbs % 60)) = some (m.natAbs % 60, []) := by
      have hread := readDigits_zeroPad hminutes (by decide) []
      rwa [List.append_nil] at hread
    simp only [offsetText, readOffset, readDigits_zeroPad hhours (by decide), readChar_cons, hlast,
      Option.bind_eq_bind, Option.bind_some]
    have hsum : ((m.natAbs / 60 : Nat) : Int) * 60 + (m.natAbs % 60 : Nat) = m.natAbs := by omega
    rw [hsum]
    have hrange : m.natAbs / 60 < 24 ∧ m.natAbs % 60 < 60 := by omega
    by_cases hneg : m < 0
    · have hne : m ≠ 0 := by omega
      have habs : -|m| = m := by rw [abs_of_neg hneg, neg_neg]
      simp [hneg, hrange, TzInfo.canonical, habs, hne]
    · have habs : |m| = m := abs_of_nonneg (by omega)
      simp [hneg, hrange, TzInfo.canonical, habs]

def fractionText (frac : Nat) : List Char := if frac = 0 then [] else '.' :: zeroPad 6 frac

theorem readFraction_text {frac : Nat} (hfrac : frac < 1000000) (z : TzInfo) :
    readFraction (fractionText frac ++ offsetText z) = some (frac, offsetText z) := by
  by_cases hzero : frac = 0
  · rw [fractionText, if_pos hzero, List.nil_append, hzero]
    cases z with
    | naive => rfl
    | utc => rfl
    | offset m =>
      by_cases hm : m < 0
      · simp [readFraction, offsetText, hm]
      · simp [readFraction, offsetText, hm]
  · rw [fractionText, if_neg hzero, List.cons_append, readFraction, if_pos rfl]
    exact readDigits_zeroPad hfrac (by decide) _

/-- The text of a wall clock: its date, the microseconds of its day, and what ends it. -/
def isoText (ymd : Int × Nat × Nat) (rest : Nat) (ending : List Char) : List Char :=
  zeroPad 4 ymd.1.toNat ++ '-' :: (zeroPad 2 ymd.2.1 ++ '-' :: (zeroPad 2 ymd.2.2 ++ 'T' ::
    (zeroPad 2 (rest / 1000000 / 3600) ++ ':' :: (zeroPad 2 (rest / 1000000 / 60 % 60) ++ ':' ::
      (zeroPad 2 (rest / 1000000 % 60) ++ ending)))))

def dayMicros (t : DateTime) : Nat := (t.wall - t.wall / microsPerDay * microsPerDay).toNat

theorem isoformat_eq (t : DateTime) : t.isoformat = String.ofList (isoText
    (civil (t.wall / microsPerDay)) t.dayMicros
    (fractionText (t.dayMicros % 1000000) ++ offsetText t.tzinfo)) := by
  rw [isoformat, isoText]
  simp only [List.append_assoc, List.cons_append]
  rfl

/-- A datetime is read back from its date, its clock and an ending that tells its microseconds
and its offset. -/
theorem fromIsoformat_isoText {t : DateTime} (h : t.InRange) {ending : List Char}
    (hending : readFraction ending = some (t.dayMicros % 1000000, offsetText t.tzinfo)) :
    fromIsoformat (String.ofList (isoText (civil (t.wall / microsPerDay)) t.dayMicros ending)) =
      some t.canonical := by
  obtain ⟨hyear, hoffset⟩ := h
  obtain ⟨hmonth, hday⟩ := civil_lt (t.wall / microsPerDay)
  have hnumber := civilDay_civil (t.wall / microsPerDay)
  have hrest : t.dayMicros < 86400000000 := by
    simp only [dayMicros, microsPerDay, microsPerSecond]
    omega
  have hwall : t.wall = t.wall / microsPerDay * microsPerDay + (t.dayMicros : Int) := by
    simp only [dayMicros, microsPerDay, microsPerSecond]
    omega
  generalize t.dayMicros = rest at hrest hwall hending ⊢
  generalize t.wall / microsPerDay = number at hyear hmonth hday hnumber hwall ⊢
  generalize hcivil : civil number = ymd at hyear hmonth hday hnumber ⊢
  obtain ⟨y, m, d⟩ := ymd
  dsimp only at hyear hmonth hday hnumber
  have hy : ((y.toNat : Nat) : Int) = y := by omega
  rw [fromIsoformat, String.toList_ofList, isoText,
    readDate_text (show y.toNat < 10000 by omega) hmonth hday]
  simp only [Option.bind_eq_bind, Option.bind_some, readChar_cons,
    readClock_text (show rest / 1000000 / 3600 < 100 by omega)
      (show rest / 1000000 / 60 % 60 < 100 by omega) (show rest / 1000000 % 60 < 100 by omega),
    hending, readOffset_offsetText hoffset, hy, hnumber, hcivil, offsetMinutes_canonical]
  rw [if_pos ⟨by omega, trivial, by omega, by omega, by omega⟩, canonical, Option.some.injEq,
    DateTime.mk.injEq]
  refine ⟨?_, rfl⟩
  have hmicros : t.micros = t.wall - offsetMinutes t.tzinfo * 60 * microsPerSecond := by
    rw [wall]
    omega
  rw [hmicros, hwall]
  simp only [microsPerDay, microsPerSecond]
  omega

/-- A datetime is read back from its text, as the same instant. -/
theorem fromIsoformat_isoformat {t : DateTime} (h : t.InRange) :
    fromIsoformat t.isoformat = some t.canonical := by
  rw [isoformat_eq]
  exact fromIsoformat_isoText h (readFraction_text (Nat.mod_lt _ (by decide)) t.tzinfo)

theorem isoformat_canonical (t : DateTime) : t.canonical.isoformat = t.isoformat := by
  have hwall : t.canonical.wall = t.wall := by
    rw [wall, wall, canonical, offsetMinutes_canonical]
  have hoffset : offsetText (TzInfo.canonical t.tzinfo) = offsetText t.tzinfo := by
    cases t.tzinfo with
    | offset m =>
      by_cases hm : m = 0
      · rw [hm]
        decide
      · rw [TzInfo.canonical, if_neg hm]
    | _ => rfl
  have hday : t.canonical.dayMicros = t.dayMicros := by
    rw [dayMicros, dayMicros, hwall]
  rw [isoformat_eq, isoformat_eq, hwall, hday]
  show String.ofList (isoText _ _ (_ ++ offsetText (TzInfo.canonical t.tzinfo))) = _
  rw [hoffset]

/-! ### Texts in UTC -/

/-- `text.replace("Z", "+00:00")`. -/
def replaceZ (text : String) : String :=
  String.ofList (text.toList.flatMap fun c => if c = 'Z' then "+00:00".toList else [c])

theorem flatMap_of_not_mem {cs : List Char} (h : 'Z' ∉ cs) :
    (cs.flatMap fun c => if c = 'Z' then "+00:00".toList else [c]) = cs := by
  induction cs with
  | nil => rfl
  | cons c rest ih =>
    have hc : c ≠ 'Z' := fun heq => h (heq ▸ List.mem_cons_self)
    rw [List.flatMap_cons, if_neg hc, ih fun hmem => h (List.mem_cons_of_mem c hmem)]
    rfl

theorem not_mem_zeroPad {width n : Nat} : 'Z' ∉ zeroPad width n :=
  fun hmem => absurd (isDigit_zeroPad hmem) (by decide)

theorem isoText_append (ymd : Int × Nat × Nat) (rest : Nat) (ending : List Char) :
    isoText ymd rest ending = isoText ymd rest [] ++ ending := by
  simp [isoText]

theorem not_mem_isoText (ymd : Int × Nat × Nat) (rest : Nat) : 'Z' ∉ isoText ymd rest [] := by
  simp [isoText, not_mem_zeroPad]

theorem not_mem_fractionText (frac : Nat) : 'Z' ∉ fractionText frac := by
  rw [fractionText]
  split_ifs
  · exact List.not_mem_nil
  · simp [not_mem_zeroPad]

/-- The `Z` at the end of a text is its only one. -/
theorem replaceZ_isoText (ymd : Int × Nat × Nat) (rest : Nat) {fraction : List Char}
    (h : 'Z' ∉ fraction) : replaceZ (String.ofList (isoText ymd rest (fraction ++ ['Z']))) =
      String.ofList (isoText ymd rest (fraction ++ "+00:00".toList)) := by
  have htext : (String.ofList (isoText ymd rest [] ++ (fraction ++ ['Z']))).toList =
      isoText ymd rest [] ++ (fraction ++ ['Z']) := String.toList_ofList
  rw [isoText_append, replaceZ, htext, List.flatMap_append, List.flatMap_append,
    flatMap_of_not_mem (not_mem_isoText ymd rest), flatMap_of_not_mem h,
    isoText_append ymd rest (fraction ++ "+00:00".toList)]
  rfl

theorem isoformatZ_eq {t : DateTime} (h : offsetText t.tzinfo = "+00:00".toList) :
    t.isoformatZ = String.ofList (isoText (civil (t.wall / microsPerDay)) t.dayMicros
      (fractionText (t.dayMicros % 1000000) ++ ['Z'])) := by
  have htake : ∀ cs : List Char,
      (cs ++ "+00:00".toList).take ((cs ++ "+00:00".toList).length - 6) = cs := by
    intro cs
    have hsix : "+00:00".toList.length = 6 := by decide
    rw [List.length_append, hsix, Nat.add_sub_cancel, List.take_left]
  rw [isoformatZ, isoformat_eq, String.toList_ofList, h, isoText_append, ← List.append_assoc, htake, isoText_append _ _ (_ ++ ['Z']), List.append_assoc]

/-- A datetime in UTC is read back from its text with `Z`. -/
theorem fromIsoformat_isoformatZ {t : DateTime} (hrange : t.InRange)
    (h : offsetText t.tzinfo = "+00:00".toList) :
    fromIsoformat (replaceZ t.isoformatZ) = some t.canonical := by
  rw [isoformatZ_eq h, replaceZ_isoText _ _ (not_mem_fractionText _), ← h]
  exact fromIsoformat_isoText hrange (readFraction_text (Nat.mod_lt _ (by decide)) t.tzinfo)

end DateTime

end EsscherMarket.Lib
