import EsscherMarket.Lib.IsoFormat

/-!
# Reading instants that are written with `Z`

`parseUtc` reads `datetime.fromisoformat(text[:-1] + "+00:00")` where that is written as the text
again.  `parseUtc_isoformatZ`: every instant in UTC that Python can hold is read back.
-/

namespace EsscherMarket.Lib.DateTime

/-- A text with `Z` that an instant in UTC is written as. -/
def parseUtc (text : String) : Option DateTime :=
  if text.toList.getLast? = some 'Z' then do
    let parsed ← fromIsoformat (String.ofList (text.toList.dropLast ++ "+00:00".toList))
    if (utc parsed.micros).isoformatZ = text then some (utc parsed.micros) else none
  else none

/-- An instant in UTC is read back. -/
theorem parseUtc_isoformatZ {n : Int} (h : (utc n).InRange) :
    parseUtc (utc n).isoformatZ = some (utc n) := by
  have hoffset : offsetText (utc n).tzinfo = "+00:00".toList := rfl
  have htext := isoformatZ_eq hoffset
  have hlist : (utc n).isoformatZ.toList = isoText (civil ((utc n).wall / microsPerDay))
      (utc n).dayMicros (fractionText ((utc n).dayMicros % 1000000)) ++ ['Z'] := by
    rw [htext, String.toList_ofList, isoText_append _ _ (_ ++ ['Z']), ← List.append_assoc,
      ← isoText_append]
  have hlast : (utc n).isoformatZ.toList.getLast? = some 'Z' := by
    rw [hlist, List.getLast?_concat]
  have hplain : String.ofList ((utc n).isoformatZ.toList.dropLast ++ "+00:00".toList) =
      String.ofList (isoText (civil ((utc n).wall / microsPerDay)) (utc n).dayMicros
        (fractionText ((utc n).dayMicros % 1000000) ++ offsetText (utc n).tzinfo)) := by
    rw [hlist, List.dropLast_concat, hoffset, isoText_append _ _ (fractionText _),
      isoText_append _ _ (_ ++ _), List.append_assoc]
  have hread : fromIsoformat (String.ofList ((utc n).isoformatZ.toList.dropLast ++
      "+00:00".toList)) = some (utc n).canonical := by
    rw [hplain]
    exact fromIsoformat_isoText h (readFraction_text (Nat.mod_lt _ (by decide)) (utc n).tzinfo)
  have hmicros : (utc n).canonical.micros = n := rfl
  rw [parseUtc, if_pos hlast, hread]
  simp only [Option.bind_eq_bind, Option.bind_some, hmicros, if_true]

end EsscherMarket.Lib.DateTime
