import EsscherMarket.Execution.Expression.PolicyDocument
import EsscherMarket.Scheduled.Agreement

/-!
# The store of scheduled event states

`runtime/scheduled.py`: `FileScheduledEventStore`, over everything that a state file can hold.

`_verified_state_payload` writes the record canonically before it knows what the record holds, and
looks for the failure code in a set.  Both can raise other exceptions than
`ScheduledManifestRejected`.
-/

namespace EsscherMarket.Scheduled

open Lib Execution PaperDemo

/-! ### Reading -/

/-- `json.loads` of bytes, with the hooks against duplicate fields and constants.  It looks for the
encoding itself; the canonical bytes of an object, and a newline, it reads as they are meant. -/
structure JsonLoader where
  load : List UInt8 → Except LoadError PyJson
  reads : ∀ fields, (Json.obj fields).Readable →
    load ((Json.obj fields).canonicalBytes ++ [10]) = .ok (PyJson.ofJson (Json.obj fields).sorted)

def JsonLoader.utf8 : JsonLoader where
  load := PyJson.loads ⟨true, true⟩
  reads fields h := by
    have hbytes : (Json.obj fields).canonicalBytes ++ [10] =
        Json.utf8 (String.ofList ((Json.obj fields).sorted.chars ++ ['\n'])) := by
      rw [Json.utf8_eq, String.toList_ofList, Json.canonicalBytes_eq, ← Json.encode, Json.encode_append]
      rfl
    have hread := PyJson.reads_of_readable h.sorted ⟨true, true⟩
      (2 * ((Json.obj fields).sorted.chars ++ ['\n']).length + 1) ['\n']
      (by rw [List.length_append]; omega) (PyJson.stops_cons (by decide))
    have hskip := PyJson.skipBlank_of_starts (PyJson.starts_of_readable h.sorted) ['\n']
    have hbom : ((Json.obj fields).sorted.chars ++ ['\n']).head? ≠ some (Char.ofNat 0xfeff) := by
      rw [Json.sorted, Json.chars, List.cons_append, List.head?_cons]
      decide
    rw [PyJson.loads, hbytes, Json.fromUTF8?_utf8]
    show (throwIf ((String.ofList ((Json.obj fields).sorted.chars ++ ['\n'])).toList.head? = _)
      LoadError.malformed >>= fun _ => _) = _
    rw [String.toList_ofList, throwIf, if_neg hbom]
    show ((PyJson.readValue ⟨true, true⟩
      (2 * ((Json.obj fields).sorted.chars ++ ['\n']).length + 1)
      (PyJson.skipBlank ((Json.obj fields).sorted.chars ++ ['\n']))).bind _) = _
    rw [hskip, hread]
    rfl

/-- What reading a state raises: `ScheduledManifestRejected`, or another exception. -/
inductive StateError where
  | rejected
  | other
  deriving DecidableEq, Repr

/-- A check whose failure is a `ScheduledManifestRejected`. -/
def verified {α : Type} (x : Verified α) : Except StateError α := x.mapError fun _ => .rejected

/-- `value == [item, ...]` for texts. -/
def listsTexts (v : PyJson) (items : List String) : Bool :=
  match v with
  | .arr values => values.length == items.length &&
      (values.zip items).all fun pair => pair.1.isText pair.2
  | _ => false

/-- The checks before the digest: the fields, the boundary and the lifecycle. -/
def admitsState (f : Json.FloatRepr) (payload : PyJson) : Bool :=
  payload.hasKeys stateKeys &&
  ((payload.get "schema").isText "ringdown.scheduled_event_state" &&
    (payload.get "schema_version").isOne f && (payload.get "run_mode").isText "PAPER" &&
    (payload.get "data_class").isText "INDICATIVE_DATA" &&
    listsTexts (payload.get "claims") resultClaims) &&
  stateLifecycles.any (payload.get "lifecycle").isText

/-- The record without its digest, as the canonical writer takes it; that refuses lone surrogates
and infinite floats. -/
def unsignedState (f : Json.FloatRepr) (payload : PyJson) : Option Json :=
  (payload.without "state_sha256").toJson f

/-- The checks after the digest, up to the failure code. -/
def settledState (iso : IsoReader) (record : Json) : Verified Unit := do
  let _ ← awareDatetime iso (record.get "updated_at") "state updated_at"
  stateReceipt iso record

/-- The failure code; a list or a dict cannot be looked for in a set. -/
def verifiedFailureCode (record : Json) : Except StateError Unit :=
  let code := record.get "failure_code"
  if (record.get "lifecycle").isText "MANUAL_RECONCILIATION" then do
    throwIf (isArray code || code.isObject) .other
    throwIf (¬ isAmong code manualFailureCodes) .rejected
  else throwIf (¬ isNull code) .rejected
where
  isArray : Json → Bool
    | .arr _ => true
    | _ => false

/-- `_verified_state_payload` of what was read. -/
def verifiedState (iso : IsoReader) (f : Json.FloatRepr) (payload : PyJson) :
    Except StateError PyJson := do
  throwIf (admitsState f payload = false) .rejected
  match unsignedState f payload with
  | none => .error .other
  | some record => do
    throwIf ((payload.get "state_sha256").isText record.sha256 = false) .rejected
    verified (settledState iso record)
    verifiedFailureCode record
    return payload

/-- `FileScheduledEventStore.read` of the bytes of the file. -/
def readState (json : JsonLoader) (iso : IsoReader) (f : Json.FloatRepr) (raw : List UInt8) :
    Except StateError PyJson :=
  match json.load raw with
  | .error _ => .error .rejected
  | .ok payload => verifiedState iso f payload

/-! ### The command -/

/-- What the command raises for a stored state. -/
inductive CommandError where
  | manual (errorCode : String)
  | other
  deriving DecidableEq, Repr

/-- What `_existing_state_result` makes of the state of the event itself; `none` where it goes on to
the other events. -/
def existingState (json : JsonLoader) (iso : IsoReader) (f : Json.FloatRepr)
    (m : ScheduledEventManifest) (raw : List UInt8) : Except CommandError (Option PyJson) :=
  match readState json iso f raw with
  | .error .rejected => .error (.manual "DURABLE_STATE_INVALID")
  | .error .other => .error .other
  | .ok state =>
    if ¬ ((state.get "event_run_id").isText m.eventRunId ∧
        (state.get "manifest_sha256").isText m.manifestSha256 ∧
        (state.get "open_permit_id").isText m.openPermitId ∧
        (state.get "close_permit_id").isText m.closePermitId ∧
        (state.get "capability_sha256").isText m.capabilitySha256) then
      .error (.manual "DURABLE_STATE_IDENTITY_MISMATCH")
    else if (state.get "lifecycle").isText "MANUAL_RECONCILIATION" then
      .error (.manual ((state.get "failure_code").text?.getD ""))
    else if terminalLifecycles.any (state.get "lifecycle").isText then .ok (some state)
    else .ok none

/-! ### Writing -/

/-- `FileScheduledEventStore.write`: the bytes of the file. -/
def writeState (iso : IsoReader) (m : ScheduledEventManifest) (lifecycle : String)
    (updatedAt : DateTime) (receipt failureCode : Json) : Verified (List UInt8) := do
  verifiedStatePayload iso (statePayload m lifecycle updatedAt receipt failureCode)
  return (statePayload m lifecycle updatedAt receipt failureCode).canonicalBytes ++ [10]

/-! ### What is raised -/

section Raised

variable {α β : Type} {json : JsonLoader} {iso : IsoReader} {f : Json.FloatRepr}

def Settles (x : Except StateError α) : Prop := x ≠ .error .other

theorem settles_ok {a : α} : Settles (.ok a) := by
  intro h
  cases h

theorem settles_rejected : Settles (.error .rejected : Except StateError α) := by
  intro h
  cases h

theorem settles_bind {x : Except StateError α} {g : α → Except StateError β} :
    Settles (x >>= g) ↔ Settles x ∧ ∀ a, x = .ok a → Settles (g a) := by
  cases x with
  | ok a => simp [Settles, Bind.bind, Except.bind]
  | error e => simp [Settles, Bind.bind, Except.bind]

theorem settles_reject {c : Prop} [Decidable c] : Settles (throwIf c StateError.rejected) := by
  by_cases h : c
  · simpa [throwIf, h] using settles_rejected
  · simpa [throwIf, h] using settles_ok

theorem settles_reject_bind {c : Prop} [Decidable c] {k : Unit → Except StateError β} :
    Settles (throwIf c .rejected >>= k) ↔ (¬ c → Settles (k ())) := by
  rw [settles_bind, and_iff_right settles_reject]
  exact ⟨fun h hc => h () (throwIf_eq_ok.mpr hc), fun h _ hc => h (throwIf_eq_ok.mp hc)⟩

theorem settles_verified_bind {x : Verified α} {g : α → Except StateError β} :
    Settles (verified x >>= g) ↔ ∀ a, x = .ok a → Settles (g a) := by
  cases x with
  | ok a =>
    show Settles (g a) ↔ _
    simp
  | error message => exact iff_of_true settles_rejected fun a h => by cases h

theorem settles_failureCode {record : Json} : Settles (verifiedFailureCode record) ↔
    ((record.get "lifecycle").isText "MANUAL_RECONCILIATION" = true →
      (verifiedFailureCode.isArray (record.get "failure_code") ||
        (record.get "failure_code").isObject) = false) := by
  unfold verifiedFailureCode
  by_cases hmanual : (record.get "lifecycle").isText "MANUAL_RECONCILIATION" = true
  · simp only [hmanual, if_true, forall_true_left]
    cases verifiedFailureCode.isArray (record.get "failure_code") ||
        (record.get "failure_code").isObject with
    | true => exact iff_of_false (fun h => h rfl) (by decide)
    | false =>
      rw [throwIf, if_neg (by decide)]
      exact iff_of_true settles_reject rfl
  · rw [if_neg hmanual]
    exact iff_of_true settles_reject fun h => absurd h hmanual

/-- A record that passed every check up to its failure code has a text or null there, or another
value that can be looked for in a set. -/
def CodeIsHashable (iso : IsoReader) (payload : PyJson) (record : Json) : Prop :=
  (payload.get "state_sha256").isText record.sha256 = true →
    settledState iso record = .ok () →
      (record.get "lifecycle").isText "MANUAL_RECONCILIATION" = true →
        (verifiedFailureCode.isArray (record.get "failure_code") ||
          (record.get "failure_code").isObject) = false

/-- The record can be written canonically, and its failure code can be looked for. -/
def Examinable (json : JsonLoader) (iso : IsoReader) (f : Json.FloatRepr) (raw : List UInt8) :
    Prop :=
  ∀ payload, json.load raw = .ok payload → admitsState f payload = true →
    ∃ record, unsignedState f payload = some record ∧ CodeIsHashable iso payload record

theorem settles_verifiedState {payload : PyJson} : Settles (verifiedState iso f payload) ↔
    (admitsState f payload = true →
      ∃ record, unsignedState f payload = some record ∧ CodeIsHashable iso payload record) := by
  unfold verifiedState
  rw [settles_reject_bind, Bool.not_eq_false]
  refine imp_congr_right fun _ => ?_
  cases unsignedState f payload with
  | none =>
    refine iff_of_false (fun h => h rfl) ?_
    rintro ⟨record, hnone, -⟩
    cases hnone
  | some record =>
    simp only [Option.some.injEq, exists_eq_left']
    rw [settles_reject_bind, Bool.not_eq_false]
    unfold CodeIsHashable
    refine imp_congr_right fun _ => ?_
    rw [settles_verified_bind]
    constructor
    · intro h hsettled
      exact settles_failureCode.mp (settles_bind.mp (h () hsettled)).1
    · intro h _ hsettled
      exact settles_bind.mpr ⟨settles_failureCode.mpr (h hsettled), fun _ _ => settles_ok⟩

theorem settles_readState {raw : List UInt8} : Settles (readState json iso f raw) ↔
    Examinable json iso f raw := by
  unfold readState Examinable
  cases json.load raw with
  | error e => exact iff_of_true settles_rejected fun payload h => by cases h
  | ok payload =>
    simp only [Except.ok.injEq, forall_eq']
    exact settles_verifiedState

end Raised

/-! ### Records in another order -/

section Sorted

variable {iso : IsoReader} {v w r s : Json} {text field : String}

@[simp] theorem isText_sorted : v.sorted.isText text = v.isText text := by cases v <;> rfl

@[simp] theorem isNull_sorted : isNull v.sorted = isNull v := by cases v <;> rfl

@[simp] theorem isInt1_sorted : isInt1 v.sorted = isInt1 v := by cases v <;> rfl

@[simp] theorem isAmong_sorted {items : List String} : isAmong v.sorted items = isAmong v items := by
  cases v <;> rfl

@[simp] theorem isTexts_sorted {items : List String} : isTexts v.sorted items = isTexts v items := by
  cases v with
  | arr values =>
    rw [Json.sorted, Json.sortedItems_eq, isTexts, isTexts, List.length_map, List.zip_map_left,
      List.all_map]
    congr 1
    refine congrArg (List.all _) (funext fun pair => ?_)
    exact isText_sorted
  | _ => rfl

@[simp] theorem requireSha256_sorted : requireSha256 v.sorted field = requireSha256 v field := by
  cases v <;> rfl

@[simp] theorem canonicalDecimalText_sorted :
    canonicalDecimalText v.sorted field = canonicalDecimalText v field := by
  cases v <;> rfl

@[simp] theorem optionalDecimalText_sorted :
    optionalDecimalText v.sorted field = optionalDecimalText v field := by
  cases v <;> rfl

@[simp] theorem awareDatetime_sorted :
    awareDatetime iso v.sorted field = awareDatetime iso v field := by
  cases v <;> rfl

@[simp] theorem canonicalReceiptDatetime_sorted :
    canonicalReceiptDatetime iso v.sorted field = canonicalReceiptDatetime iso v field := by
  cases v <;> rfl

@[simp] theorem same_sorted : same v.sorted w.sorted = same v w := by
  have hbytes : ∀ v w : Json, (v.sorted.canonicalBytes == w.sorted.canonicalBytes) =
      (v.canonicalBytes == w.canonicalBytes) := by
    intro v w
    rw [Json.canonicalBytes_sorted, Json.canonicalBytes_sorted]
  cases v with
  | str text =>
    cases w with
    | str _ => rfl
    | null => exact hbytes (.str text) .null
    | bool b => exact hbytes (.str text) (.bool b)
    | int n => exact hbytes (.str text) (.int n)
    | real literal => exact hbytes (.str text) (.real literal)
    | arr items => exact hbytes (.str text) (.arr items)
    | obj fields => exact hbytes (.str text) (.obj fields)
  | null => exact hbytes .null w
  | bool b => exact hbytes (.bool b) w
  | int n => exact hbytes (.int n) w
  | real literal => exact hbytes (.real literal) w
  | arr items => exact hbytes (.arr items) w
  | obj fields => exact hbytes (.obj fields) w

/-- A record without one of its keys is written alike in any order. -/
theorem canonicalBytes_sorted_without (h : v.wellFormed = true) (key : String) :
    (v.sorted.without key).canonicalBytes = (v.without key).canonicalBytes := by
  cases v with
  | obj fields =>
    have hnodup := (Json.wellFormed_obj.mp h).1
    have hfilter : ((fields.map fun kv => (kv.1, kv.2.sorted)).filter fun kv => kv.1 != key) =
        (fields.filter fun kv => kv.1 != key).map fun kv => (kv.1, kv.2.sorted) := by
      rw [List.filter_map]
      rfl
    have hperm : ((Json.sortFields fields).filter fun kv => kv.1 != key).Perm
        (Json.sortFields (fields.filter fun kv => kv.1 != key)) := by
      have hleft := (Json.sortFields_perm fields).filter fun kv => kv.1 != key
      rw [hfilter] at hleft
      exact hleft.trans (Json.sortFields_perm _).symm
    have hkept : ((fields.filter fun kv => kv.1 != key).map Prod.fst).Nodup :=
      hnodup.sublist (List.filter_sublist.map Prod.fst)
    rw [Json.sorted, Json.without, Json.canonicalBytes_obj_perm hperm]
    · exact Json.canonicalBytes_sorted (.obj (fields.filter fun kv => kv.1 != key))
    · exact (hperm.map Prod.fst).nodup_iff.mpr (Json.nodup_sortFields hkept)
  | arr items => exact Json.canonicalBytes_sorted (.arr items)
  | _ => rfl

theorem sha256_sorted_without (h : v.wellFormed = true) (key : String) :
    (v.sorted.without key).sha256 = (v.without key).sha256 := by
  rw [Json.sha256, canonicalBytes_sorted_without h, ← Json.sha256]

theorem wellFormed_get (h : v.wellFormed = true) (key : String) : (v.get key).wellFormed = true := by
  rw [Json.get]
  cases hfield : v.field? key with
  | none => rfl
  | some w =>
    cases v with
    | obj fields =>
      obtain ⟨hkeys, hvalues⟩ := Json.wellFormed_obj.mp h
      exact hvalues _ ((Json.field?_eq_some hkeys).mp hfield)
    | _ => cases hfield

/-- A P&L is judged alike in any order. -/
theorem validateTerminalPaperPnl_sorted {lifecycle : Json} {flatAt : DateTime}
    (h : v.wellFormed = true) :
    validateTerminalPaperPnl iso v.sorted lifecycle.sorted flatAt =
      validateTerminalPaperPnl iso v lifecycle flatAt := by
  simp only [validateTerminalPaperPnl, validateZeroNoFill, validateRealized, validateUnavailable,
    Json.hasKeys_sorted, Json.get_sorted h, isText_sorted, isNull_sorted, isAmong_sorted,
    optionalDecimalText_sorted, canonicalDecimalText_sorted, canonicalReceiptDatetime_sorted]

/-- A receipt is judged alike in any order, beside a state with the same fields. -/
theorem verifiedTerminalReceipt_sorted (hr : r.wellFormed = true)
    (hs : ∀ key, key ≠ "state_sha256" → s.get key = (w.get key).sorted) :
    verifiedTerminalReceipt iso r.sorted s = verifiedTerminalReceipt iso r w := by
  simp only [verifiedTerminalReceipt, closingDigests, Json.hasKeys_sorted, Json.get_sorted hr,
    isText_sorted, isNull_sorted, isInt1_sorted, isTexts_sorted, requireSha256_sorted,
    sha256_sorted_without hr, hs "event_run_id" (by decide), hs "open_permit_id" (by decide),
    hs "close_permit_id" (by decide), hs "capability_sha256" (by decide),
    hs "lifecycle" (by decide), same_sorted, canonicalReceiptDatetime_sorted,
    validateTerminalPaperPnl_sorted (wellFormed_get hr "paper_pnl")]

end Sorted

/-! ### Records that are read back -/

section Readable

variable {iso : IsoReader} {v s : Json} {text field : String}

theorem readable_of_isText (h : v.isText text = true) : v.Readable := by
  cases v with
  | str s => exact .str s
  | _ => cases h

theorem readable_of_isNull (h : isNull v = true) : v.Readable := by
  cases v with
  | null => exact .null
  | _ => cases h

theorem readable_of_isAmong {items : List String} (h : isAmong v items = true) : v.Readable := by
  cases v with
  | str s => exact .str s
  | _ => cases h

theorem readable_of_isInt1 (h : isInt1 v = true) : v.Readable := by
  cases v with
  | int n =>
    rw [isInt1, beq_iff_eq] at h
    rw [h]
    exact .int 1 (by decide)
  | _ => cases h

theorem readable_of_requireSha256 (h : requireSha256 v field = .ok ()) : v.Readable := by
  cases v with
  | str s => exact .str s
  | _ => cases h

theorem readable_of_canonicalDecimalText {d : Decimal} (h : canonicalDecimalText v field = .ok d) :
    v.Readable := by
  cases v with
  | str s => exact .str s
  | _ => cases h

theorem readable_of_optionalDecimalText {d : Option Decimal}
    (h : optionalDecimalText v field = .ok d) : v.Readable := by
  cases v with
  | null => exact .null
  | str s => exact .str s
  | _ => cases h

theorem readable_of_canonicalReceiptDatetime {t : DateTime}
    (h : canonicalReceiptDatetime iso v field = .ok t) : v.Readable := by
  cases v with
  | str s => exact .str s
  | _ => cases h

theorem readable_of_isTexts {items : List String} (h : isTexts v items = true) : v.Readable := by
  cases v with
  | arr values =>
    rw [isTexts, Bool.and_eq_true, beq_iff_eq, List.all_eq_true] at h
    refine .arr values fun w hw => ?_
    obtain ⟨i, hi, rfl⟩ := List.getElem_of_mem hw
    have hi' : i < (values.zip items).length := by
      rw [List.length_zip, h.1, min_self, ← h.1]
      exact hi
    have hpair := h.2 _ (List.getElem_mem hi')
    rw [List.getElem_zip] at hpair
    exact readable_of_isText hpair
  | _ => cases h

theorem readable_of_same (hv : v.wellFormed = true) (h : same v (.str text) = true) :
    v.Readable := by
  have hbytes : ∀ {w : Json}, w.wellFormed = true →
      (w.canonicalBytes == (Json.str text).canonicalBytes) = true → w.sorted = .str text := by
    intro w hw heq
    exact Json.canonicalBytes_injective hw rfl (beq_iff_eq.mp heq)
  cases v with
  | str s => exact .str s
  | null => exact .null
  | bool b => exact .bool b
  | int n => cases hbytes hv h
  | real literal => cases hbytes hv h
  | arr items => cases hbytes hv h
  | obj fields => cases hbytes hv h

/-- A dict with known keys is read back if its fields are. -/
theorem readable_of_hasKeys {keys : List String} (hv : v.wellFormed = true)
    (hkeys : v.hasKeys keys = true) (h : ∀ key ∈ keys, (v.get key).Readable) : v.Readable := by
  cases v with
  | obj fields =>
    have hnodup := (Json.wellFormed_obj.mp hv).1
    rw [Json.hasKeys, Bool.and_eq_true, List.all_eq_true] at hkeys
    refine .obj fields hnodup fun kv hkv => ?_
    have hfield := h kv.1 (List.contains_iff_mem.mp (hkeys.1 kv hkv))
    rw [Json.get, (Json.field?_eq_some hnodup).mpr hkv] at hfield
    exact hfield
  | _ => cases hkeys

theorem readable_without (h : v.Readable) (key : String) : (v.without key).Readable := by
  cases h with
  | obj fields hkeys hvalues =>
    exact .obj _ (hkeys.sublist (List.filter_sublist.map Prod.fst)) fun kv hkv =>
      hvalues kv (List.mem_of_mem_filter hkv)
  | null => exact .null
  | bool b => exact .bool b
  | int n hn => exact .int n hn
  | str s => exact .str s
  | arr items hitems => exact .arr items hitems

/-- A P&L that passes its checks is read back. -/
theorem readable_pnl {lifecycle : Json} {flatAt : DateTime} (hv : v.wellFormed = true)
    (h : validateTerminalPaperPnl iso v lifecycle flatAt = .ok ()) : v.Readable := by
  simp only [validateTerminalPaperPnl, except_bind_eq_ok, throwIf_eq_ok, not_not, exists_const] at h
  obtain ⟨hkeys, h⟩ := h
  refine readable_of_hasKeys hv hkeys ?_
  simp only [pnlKeys, List.forall_mem_cons]
  split_ifs at h with hzero hrealized hunavailable
  · simp only [validateZeroNoFill, except_bind_eq_ok, throwIf_eq_ok, not_or, not_not] at h
    obtain ⟨fees, hfees, -, hgross, -, hnet, hopened, hclosed, hreason⟩ := h
    exact ⟨readable_of_isText hzero, readable_of_isText hgross, readable_of_optionalDecimalText hfees,
      readable_of_isNull hnet, readable_of_isNull hopened, readable_of_isNull hclosed,
      readable_of_isNull hreason, fun _ hmem => by cases hmem⟩
  · simp only [validateRealized, except_bind_eq_ok, throwIf_eq_ok, not_or, not_not,
      exists_const] at h
    obtain ⟨⟨-, hreason⟩, gross, hgross, fees, hfees, net, hnet, -, -, opened, hopened, closed,
      hclosed, -⟩ := h
    exact ⟨readable_of_isText hrealized, readable_of_canonicalDecimalText hgross,
      readable_of_optionalDecimalText hfees, readable_of_optionalDecimalText hnet,
      readable_of_canonicalReceiptDatetime hopened, readable_of_canonicalReceiptDatetime hclosed,
      readable_of_isNull hreason, fun _ hmem => by cases hmem⟩
  · simp only [validateUnavailable, except_bind_eq_ok, throwIf_eq_ok, not_not, exists_const,
      List.all_cons, List.all_nil, Bool.and_true, Bool.and_eq_true] at h
    obtain ⟨⟨hgross, hfees, hnet, hopened, hclosed⟩, hreason⟩ := h
    exact ⟨readable_of_isText hunavailable, readable_of_isNull hgross, readable_of_isNull hfees,
      readable_of_isNull hnet, readable_of_isNull hopened, readable_of_isNull hclosed,
      readable_of_isAmong hreason, fun _ hmem => by cases hmem⟩

/-- A receipt that passes its checks beside a state with these texts is read back. -/
theorem readable_receipt {eventRunId openPermitId closePermitId : String} (hv : v.wellFormed = true)
    (hrun : s.get "event_run_id" = .str eventRunId)
    (hopen : s.get "open_permit_id" = .str openPermitId)
    (hclose : s.get "close_permit_id" = .str closePermitId)
    (h : verifiedTerminalReceipt iso v s = .ok ()) : v.Readable := by
  simp only [verifiedTerminalReceipt, except_bind_eq_ok, throwIf_eq_ok, not_not, exists_const] at h
  obtain ⟨hkeys, ⟨hschema, hversion, hmode, hclass, hclaims⟩, _, hcapability, _, hopenRequest, _,
    hopenOrder, _, hclosing, _, hdigest, -, hsame, flatAt, hflat, hpnl⟩ := h
  rw [hrun, hopen, hclose] at hsame
  obtain ⟨hsameRun, hsameOpen, hsameClose, -, -⟩ := hsame
  have hwell := wellFormed_get hv
  have hends : (v.get "lifecycle_outcome").Readable ∧ (v.get "close_request_sha256").Readable ∧
      (v.get "close_order_sha256").Readable := by
    simp only [closingDigests] at hclosing
    split_ifs at hclosing with hcanceled hclosed
    · rw [throwIf_eq_ok, not_or, not_not, not_not] at hclosing
      exact ⟨readable_of_isText hcanceled, readable_of_isNull hclosing.1,
        readable_of_isNull hclosing.2⟩
    · obtain ⟨_, hrequest, horder⟩ := except_bind_eq_ok.mp hclosing
      exact ⟨readable_of_isText hclosed, readable_of_requireSha256 hrequest,
        readable_of_requireSha256 horder⟩
  refine readable_of_hasKeys hv hkeys ?_
  simp only [receiptKeys, List.forall_mem_cons]
  exact ⟨readable_of_isText hschema, readable_of_isInt1 hversion, readable_of_isText hmode,
    readable_of_isText hclass, readable_of_isTexts hclaims, readable_of_same (hwell _) hsameRun,
    readable_of_same (hwell _) hsameOpen, readable_of_same (hwell _) hsameClose,
    readable_of_requireSha256 hcapability, readable_of_requireSha256 hopenRequest, hends.2.1,
    readable_of_requireSha256 hopenOrder, hends.2.2, hends.1,
    readable_of_canonicalReceiptDatetime hflat, readable_pnl (hwell _) hpnl,
    readable_of_requireSha256 hdigest, fun _ hmem => by cases hmem⟩

end Readable

/-! ### A state that was written -/

section Written

variable {iso : IsoReader} {f : Json.FloatRepr} {m : ScheduledEventManifest} {lifecycle : String}
  {updatedAt : DateTime} {receipt failureCode : Json}

theorem readable_statePayload_of (hreceipt : receipt.Readable) (hcode : failureCode.Readable) :
    (statePayload m lifecycle updatedAt receipt failureCode).Readable := by
  have hclaims : (texts resultClaims).Readable := by
    refine .arr _ fun w hw => ?_
    obtain ⟨s, -, rfl⟩ := List.mem_map.mp hw
    exact .str s
  refine .obj _ ?_ ?_
  · have hkeys : (stateFields m lifecycle updatedAt receipt failureCode ++ [("state_sha256",
        Json.str (Json.obj (stateFields m lifecycle updatedAt receipt failureCode)).sha256)]).map
          Prod.fst = stateKeys := rfl
    rw [hkeys]
    decide
  · simp only [stateFields, List.cons_append, List.nil_append, List.forall_mem_cons]
    exact ⟨.str _, .int 1 (by decide), .str _, .str _, hclaims, .str _, .str _, .str _, .str _,
      .str _, .str _, .str _, hcode, hreceipt, .str _, fun _ hmem => by cases hmem⟩

/-- What is written has passed its checks, and is read back. -/
theorem readable_statePayload (hreceipt : receipt.wellFormed = true)
    (h : verifiedStatePayload iso (statePayload m lifecycle updatedAt receipt failureCode) =
      .ok ()) : (statePayload m lifecycle updatedAt receipt failureCode).Readable := by
  simp only [verifiedStatePayload, except_bind_eq_ok, throwIf_eq_ok, not_not, exists_const] at h
  obtain ⟨-, -, -, -, t, -, _, hstored, hcode⟩ := h
  have hreadableCode : failureCode.Readable := by
    split_ifs at hcode with hmanual
    · rw [throwIf_eq_ok, not_not] at hcode
      exact readable_of_isAmong hcode
    · rw [throwIf_eq_ok, not_not] at hcode
      exact readable_of_isNull hcode
  have hreadableReceipt : receipt.Readable := by
    unfold stateReceipt at hstored
    split_ifs at hstored with hterminal
    · exact readable_receipt hreceipt rfl rfl rfl hstored
    · rw [throwIf_eq_ok, not_not] at hstored
      exact readable_of_isNull hstored
  exact readable_statePayload_of hreadableReceipt hreadableCode

theorem get_without {v : Json} {key dropped : String} (h : key ≠ dropped) :
    (v.without dropped).get key = v.get key := by
  cases v with
  | obj fields =>
    have hfind : (fields.filter fun kv => kv.1 != dropped).find? (fun kv => kv.1 == key) =
        fields.find? fun kv => kv.1 == key := by
      rw [List.find?_filter]
      refine congrArg (fun p => fields.find? p) (funext fun kv => ?_)
      by_cases hk : kv.1 = key
      · simp [hk, h]
      · simp [hk]
    rw [Json.get, Json.get, Json.without, Json.field?, hfind, ← Json.field?]
  | _ => rfl

theorem verifiedState_eq {payload : PyJson} {record : Json} (hadmits : admitsState f payload = true)
    (hrecord : unsignedState f payload = some record)
    (hsigned : (payload.get "state_sha256").isText record.sha256 = true)
    (hsettled : settledState iso record = .ok ()) :
    verifiedState iso f payload = (verifiedFailureCode record).map fun _ => payload := by
  rw [verifiedState, throwIf, if_neg (by simp [hadmits]), hrecord]
  show (throwIf (_ = false) StateError.rejected >>= fun _ => _) = _
  rw [throwIf, if_neg (by simp [hsigned])]
  show (verified (settledState iso record) >>= fun _ => _) = _
  rw [hsettled]
  cases verifiedFailureCode record <;> rfl

theorem hasKeys_statePayload :
    (statePayload m lifecycle updatedAt receipt failureCode).hasKeys stateKeys = true :=
  PyJson.hasKeys_of_mem_iff fun _ => Iff.rfl

theorem without_statePayload : (statePayload m lifecycle updatedAt receipt failureCode).without
    "state_sha256" = .obj (stateFields m lifecycle updatedAt receipt failureCode) := rfl

/-- The fields of the record that is read. -/
theorem get_statePayload
    (hwell : (statePayload m lifecycle updatedAt receipt failureCode).wellFormed = true)
    (key : String) (hkey : key ≠ "state_sha256") :
    ((statePayload m lifecycle updatedAt receipt failureCode).sorted.without "state_sha256").get key =
      ((statePayload m lifecycle updatedAt receipt failureCode).get key).sorted := by
  rw [get_without hkey, Json.get_sorted hwell]

/-- A record with the manifest's fields is read, up to its failure code. -/
theorem readState_statePayload {json : JsonLoader} {t : DateTime}
    (hreadable : (statePayload m lifecycle updatedAt receipt failureCode).Readable)
    (hlifecycle : stateLifecycles.contains lifecycle = true)
    (hupdated : awareDatetime iso (.str updatedAt.isoformat) "state updated_at" = .ok t)
    (hstored : stateReceipt iso (statePayload m lifecycle updatedAt receipt failureCode) =
      .ok ()) :
    readState json iso f
        ((statePayload m lifecycle updatedAt receipt failureCode).canonicalBytes ++ [10]) =
      (verifiedFailureCode ((statePayload m lifecycle updatedAt receipt
        failureCode).sorted.without "state_sha256")).map fun _ =>
          .ofJson (statePayload m lifecycle updatedAt receipt failureCode).sorted := by
  have hwell := hreadable.wellFormed
  have hloads : json.load ((statePayload m lifecycle updatedAt receipt failureCode).canonicalBytes ++
      [10]) = .ok (.ofJson (statePayload m lifecycle updatedAt receipt failureCode).sorted) :=
    json.reads _ hreadable
  have hrecord : unsignedState f (.ofJson (statePayload m lifecycle updatedAt receipt
      failureCode).sorted) = some ((statePayload m lifecycle updatedAt receipt
        failureCode).sorted.without "state_sha256") := by
    rw [unsignedState, PyJson.without_ofJson,
      PyJson.toJson_ofJson f (readable_without hreadable.sorted _)]
  have hdigest : ((statePayload m lifecycle updatedAt receipt failureCode).sorted.without
      "state_sha256").sha256 =
        (Json.obj (stateFields m lifecycle updatedAt receipt failureCode)).sha256 := by
    rw [sha256_sorted_without hwell, without_statePayload]
  have hread : ∀ key w, (key, w) ∈ stateFields m lifecycle updatedAt receipt failureCode ++
      [("state_sha256", Json.str (Json.obj (stateFields m lifecycle updatedAt receipt
        failureCode)).sha256)] →
      (PyJson.ofJson (statePayload m lifecycle updatedAt receipt failureCode).sorted).get key =
        .ofJson w.sorted :=
    fun key w hmem => PyJson.get_ofJson_sorted hreadable hmem
  have htexts : ∀ text : String, (PyJson.ofJson (Json.str text).sorted).isText text = true :=
    fun text => (PyJson.isText_ofJson text text).trans (beq_self_eq_true text)
  have hadmits : admitsState f (.ofJson (statePayload m lifecycle updatedAt receipt
      failureCode).sorted) = true := by
    rw [admitsState, PyJson.hasKeys_ofJson, Json.hasKeys_sorted, hasKeys_statePayload,
      hread "schema" (.str "ringdown.scheduled_event_state") (by simp [stateFields]),
      hread "schema_version" (.int 1) (by simp [stateFields]),
      hread "run_mode" (.str "PAPER") (by simp [stateFields]),
      hread "data_class" (.str "INDICATIVE_DATA") (by simp [stateFields]),
      hread "claims" (texts resultClaims) (by simp [stateFields]),
      hread "lifecycle" (.str lifecycle) (by simp [stateFields])]
    have hmember : stateLifecycles.any (PyJson.ofJson (Json.str lifecycle).sorted).isText = true :=
      List.any_eq_true.mpr ⟨lifecycle, List.contains_iff_mem.mp hlifecycle, htexts lifecycle⟩
    have hclaims : listsTexts (.ofJson (texts resultClaims).sorted) resultClaims = true := by
      decide
    rw [htexts, htexts, htexts, hmember, hclaims]
    rfl
  have hsettled : settledState iso ((statePayload m lifecycle updatedAt receipt
      failureCode).sorted.without "state_sha256") = .ok () := by
    refine except_bind_eq_ok.mpr ⟨t, ?_, ?_⟩
    · rw [get_statePayload hwell "updated_at" (by decide), awareDatetime_sorted]
      exact hupdated
    · rw [stateReceipt, get_statePayload hwell "lifecycle" (by decide),
        get_statePayload hwell "receipt" (by decide), isAmong_sorted, isNull_sorted,
        verifiedTerminalReceipt_sorted (wellFormed_get hwell "receipt")
          (get_statePayload hwell)]
      exact hstored
  have hsigned : ((PyJson.ofJson (statePayload m lifecycle updatedAt receipt
      failureCode).sorted).get "state_sha256").isText
        (Json.obj (stateFields m lifecycle updatedAt receipt failureCode)).sha256 = true := by
    rw [hread "state_sha256" (.str (Json.obj (stateFields m lifecycle updatedAt receipt
      failureCode)).sha256) (by simp)]
    exact htexts _
  rw [readState, hloads]
  exact verifiedState_eq hadmits hrecord (by rw [hdigest, hsigned]) hsettled

/-- A state that was written is read. -/
theorem readState_written {json : JsonLoader} {raw : List UInt8} (hreceipt : receipt.wellFormed = true)
    (h : writeState iso m lifecycle updatedAt receipt failureCode = .ok raw) :
    readState json iso f raw =
      .ok (.ofJson (statePayload m lifecycle updatedAt receipt failureCode).sorted) := by
  obtain ⟨_, hverified, hraw⟩ := except_bind_eq_ok.mp h
  have hreadable := readable_statePayload hreceipt hverified
  obtain rfl := except_pure_eq_ok.mp hraw
  simp only [verifiedStatePayload, except_bind_eq_ok, throwIf_eq_ok, not_not,
    exists_const] at hverified
  obtain ⟨-, -, hlifecycle, -, t, hupdated, _, hstored, hcode⟩ := hverified
  have hfailure : verifiedFailureCode ((statePayload m lifecycle updatedAt receipt
      failureCode).sorted.without "state_sha256") = .ok () := by
    simp only [verifiedFailureCode]
    rw [get_statePayload hreadable.wellFormed "lifecycle" (by decide),
      get_statePayload hreadable.wellFormed "failure_code" (by decide), isText_sorted,
      isAmong_sorted, isNull_sorted]
    split_ifs at hcode ⊢ with hmanual
    · rw [throwIf_eq_ok, not_not] at hcode
      refine except_bind_eq_ok.mpr ⟨(), throwIf_eq_ok.mpr ?_, throwIf_eq_ok.mpr (not_not.mpr hcode)⟩
      cases hv : (statePayload m lifecycle updatedAt receipt failureCode).get "failure_code" with
      | str s => exact Bool.false_ne_true
      | _ =>
        rw [hv] at hcode
        cases hcode
    · rw [throwIf_eq_ok, not_not] at hcode
      exact throwIf_eq_ok.mpr (not_not.mpr hcode)
  rw [readState_statePayload hreadable hlifecycle hupdated hstored, hfailure]
  rfl

/-- What the command makes of a state that is not settled, and of one that is rejected. -/
theorem existingState_eq {json : JsonLoader} {raw : List UInt8} :
    (existingState json iso f m raw = .error .other ↔ readState json iso f raw = .error .other) ∧
    (readState json iso f raw = .error .rejected →
      existingState json iso f m raw = .error (.manual "DURABLE_STATE_INVALID")) := by
  unfold existingState
  cases readState json iso f raw with
  | error e => cases e <;> simp
  | ok state =>
    refine ⟨iff_of_false ?_ (by simp), by simp⟩
    dsimp only
    split_ifs <;> simp

end Written

end EsscherMarket.Scheduled
