import EsscherMarket.Lib.IsoFormat

/-!
# Readers of ISO timestamps

`datetime.fromisoformat` reads more notations than `isoformat` writes.  `IsoReader` is what a round
trip needs of it; `IsoReader.plain` reads the texts of `isoformat`, and those with `Z`.
-/

namespace EsscherMarket.Lib

/-- `datetime.fromisoformat(text.replace("Z", "+00:00"))`: among others it reads what `isoformat`
writes. -/
structure IsoReader where
  read : String → Option DateTime
  inRange : ∀ text t, read text = some t → t.InRange
  reads : ∀ t : DateTime, t.InRange → read t.isoformat = some t.canonical

namespace DateTime

theorem not_mem_offsetText (z : TzInfo) : 'Z' ∉ offsetText z := by
  cases z with
  | naive => exact List.not_mem_nil
  | utc => decide
  | offset m =>
    rw [offsetText]
    split_ifs <;> simp [not_mem_zeroPad]

theorem replaceZ_isoformat (t : DateTime) : replaceZ t.isoformat = t.isoformat := by
  have hnone : 'Z' ∉ t.isoformat.toList := by
    rw [isoformat_eq, String.toList_ofList, isoText_append, List.mem_append, List.mem_append]
    rintro (h | h | h)
    · exact not_mem_isoText _ _ h
    · exact not_mem_fractionText _ h
    · exact not_mem_offsetText _ h
  rw [replaceZ, flatMap_of_not_mem hnone, String.ofList_toList]

theorem wall_canonical (t : DateTime) : t.canonical.wall = t.wall := by
  rw [wall, wall, canonical, offsetMinutes_canonical]

theorem InRange.canonical {t : DateTime} (h : t.InRange) : t.canonical.InRange := by
  constructor
  · rw [wall_canonical]
    exact h.year
  · show (offsetMinutes (TzInfo.canonical t.tzinfo)).natAbs < 1440
    rw [offsetMinutes_canonical]
    exact h.offset

theorem isAware_canonical (t : DateTime) : t.canonical.isAware = t.isAware := by
  obtain ⟨micros, z⟩ := t
  cases z with
  | offset m =>
    by_cases hm : m = 0
    · rw [hm]
      rfl
    · simp [DateTime.canonical, TzInfo.canonical, isAware, hm]
  | _ => rfl

/-- The text of a datetime is short. -/
theorem length_isoformat {t : DateTime} (h : t.InRange) :
    1 ≤ t.isoformat.length ∧ t.isoformat.length ≤ 64 := by
  have hyear : (civil (t.wall / microsPerDay)).1.toNat < 10 ^ 4 := by
    have := h.year
    omega
  obtain ⟨hmonth, hday⟩ := civil_lt (t.wall / microsPerDay)
  have hlt : t.dayMicros < 86400 * 1000000 := by
    simp only [dayMicros, microsPerDay, microsPerSecond]
    omega
  have hoffset : (offsetText t.tzinfo).length ≤ 6 := by
    have hrange := h.offset
    cases hz : t.tzinfo with
    | naive => decide
    | utc => decide
    | offset m =>
      rw [hz] at hrange
      have hm : m.natAbs < 1440 := hrange
      have hhours : (zeroPad 2 (m.natAbs / 60)).length = 2 := length_zeroPad (by omega) (by decide)
      have hminutes : (zeroPad 2 (m.natAbs % 60)).length = 2 := length_zeroPad (by omega) (by decide)
      rw [offsetText, List.length_cons, List.length_append, List.length_cons, hhours, hminutes]
  have hfraction : (fractionText (t.dayMicros % 1000000)).length ≤ 7 := by
    rw [fractionText]
    split_ifs
    · exact Nat.zero_le 7
    · have hlength : (zeroPad 6 (t.dayMicros % 1000000)).length = 6 :=
        length_zeroPad (Nat.mod_lt _ (by decide)) (by decide)
      rw [List.length_cons, hlength]
  have hpad : ∀ {width n : Nat}, n < 10 ^ width → 0 < width → (zeroPad width n).length = width :=
    length_zeroPad
  have hmonth' : (civil (t.wall / microsPerDay)).2.1 < 10 ^ 2 := hmonth
  have hday' : (civil (t.wall / microsPerDay)).2.2 < 10 ^ 2 := hday
  have hhour : t.dayMicros / 1000000 / 3600 < 10 ^ 2 := by omega
  have hminute : t.dayMicros / 1000000 / 60 % 60 < 10 ^ 2 := by omega
  have hsecond : t.dayMicros / 1000000 % 60 < 10 ^ 2 := by omega
  have hlength : t.isoformat.length =
      19 + (fractionText (t.dayMicros % 1000000)).length + (offsetText t.tzinfo).length := by
    rw [isoformat_eq, String.length_ofList, isoText_append, isoText]
    simp only [List.length_append, List.length_cons, List.append_nil, hpad hyear (by decide),
      hpad hmonth' (by decide), hpad hday' (by decide), hpad hhour (by decide),
      hpad hminute (by decide), hpad hsecond (by decide)]
    omega
  omega

end DateTime

/-- The reader of the texts of `isoformat`, and of those that end in `Z`. -/
def IsoReader.plain : IsoReader where
  read text := (DateTime.fromIsoformat (DateTime.replaceZ text)).bind fun t =>
    if t.InRange then some t else none
  inRange text t h := by
    obtain ⟨d, -, h⟩ := Option.bind_eq_some_iff.mp h
    split_ifs at h with hrange
    cases h
    exact hrange
  reads t h := by
    rw [DateTime.replaceZ_isoformat, DateTime.fromIsoformat_isoformat h]
    exact if_pos h.canonical

end EsscherMarket.Lib
