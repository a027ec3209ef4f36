import EsscherMarket.Lifecycle.Broker
import EsscherMarket.Runtime.Arm

/-!
# What the sidecar writes

Texts of `runtime/host_persistence.py` and the bytes of exit-plan clocks (`lifecycle/clocks.py`).
-/

namespace EsscherMarket.Runtime

open Lib Risk Lifecycle

/-- `isoformat(timespec="microseconds")` in UTC, with `Z` for the offset. -/
def timestampText (t : DateTime) : String :=
  let text := (DateTime.utc t.micros).isoformat.toList
  let fraction := if t.micros % 1000000 = 0 then ".000000Z".toList else ['Z']
  String.ofList (text.take (text.length - 6) ++ fraction)

example : timestampText (.utc 1767225599000000) = "2025-12-31T23:59:59.000000Z" := by decide

/-- `_timestamp_text` of the exit-plan clocks. -/
def clockText (t : DateTime) : Except LifecycleError String :=
  if isUtc t then .ok t.isoformatZ else .error (reject .unsupportedInput "clock" "clock must be UTC")

def lifecycleClocksBytes (c : LifecycleClocks) : Except LifecycleError (List UInt8) := do
  let _ ← clockText c.observationWindowStartAt
  let _ ← clockText c.observationWindowEndAt
  let _ ← clockText c.entryDeadlineAt
  let _ ← clockText c.timeExitAt
  let _ ← clockText c.flatteningDeadlineAt
  return (lifecycleClocksPayload c).canonicalBytes

def clockFields : List String :=
  ["schema", "schema_version", "event_run_id", "cohort_id", "policy_sha256", "source_sha256",
    "observation_window_start_at", "observation_window_end_at", "entry_deadline_at", "time_exit_at",
    "flattening_deadline_at"]

end EsscherMarket.Runtime
