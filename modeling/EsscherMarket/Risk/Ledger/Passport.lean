import EsscherMarket.Risk.Ledger.Calls
import EsscherMarket.Risk.Passport

/-!
# The passport that the ledger stores

Every method of the ledger appends to `passport_events` at its end, each row made for the one before
it.  The payload column is the canonical text of the payload; `passport_events()` reads it back.
-/

namespace EsscherMarket.Risk

open Lib Execution Txn

/-! ### A call that raises -/

theorem atomic_txn (c : LedgerCall) : Atomic c.txn := by
  cases c with
  | recordCandidate a => exact atomic_recordCandidate a
  | freezeCandidate a => exact atomic_freezeCandidate a
  | recordNotRun eventId reason now => exact atomic_recordNotRunWith false eventId reason now
  | markNotRun eventId reason now => exact atomic_recordNotRunWith true eventId reason now
  | reserve eventId amount underlying now => exact atomic_reserve eventId amount underlying now
  | consumeReservation eventId now =>
    exact atomic_transitionReservation eventId .reserved .consumed now
  | releaseReservation eventId now =>
    exact atomic_transitionReservation eventId .reserved .released now
  | recordPermit permitId eventId reservationId permitSha256 now =>
    exact atomic_recordPermit permitId eventId reservationId permitSha256 now
  | updatePermitState permitId toState now => exact atomic_updatePermitState permitId toState now
  | recordLifecycleIntent a => exact atomic_recordLifecycleIntent a
  | bindLifecycleIntent permitId phase brokerOrderId now =>
    exact atomic_bindLifecycleIntent permitId phase brokerOrderId now
  | markLifecycleIntentReconciled permitId now =>
    exact atomic_markLifecycleIntentReconciled permitId now
  | recordSubmission a => exact atomic_recordSubmission a
  | recordFill a => exact atomic_recordFill a
  | reconcileObservedOrder a => exact atomic_reconcileObservedOrder a
  | releaseConsumedAfterFlat eventId permitId now =>
    exact atomic_releaseConsumedAfterFlat eventId permitId now
  | reserveAndIssuePermit a => exact atomic_reserveAndIssuePermit a
  | reserveV2AndIssuePermit a => exact atomic_reserveV2AndIssuePermit a
  | recordAccountSnapshot equity now => exact atomic_recordAccountSnapshot equity now
  | setControlState state reason now => exact atomic_setControlState state reason now
  | setControlStateWithPassport state reason payload now =>
    exact atomic_setControlStateWithPassport state reason payload now

def previousOf (rows : List PassportRow) : String :=
  match rows.getLast? with
  | some row => row.eventSha256
  | none => genesisSha256

def rowAfter (rows : List PassportRow) (eventType : String) (payload : Json) (created : DateTime) :
    PassportRow :=
  ⟨eventType, payload, previousOf rows,
    passportEventSha256 eventType payload (previousOf rows) created.isoformatZ, created⟩

/-- A payload that a method may be handed: a mapping with distinct texts as keys, at any depth. -/
def IsMapping (payload : Json) : Prop := payload.isObject = true ∧ payload.wellFormed = true

/-- Further rows at the end, each made for its place. -/
inductive Extends (rows : List PassportRow) : List PassportRow → Prop where
  | refl : Extends rows rows
  | append {rows' : List PassportRow} (h : Extends rows rows') (eventType : String)
      {payload : Json} (hpayload : IsMapping payload) (created : DateTime) :
      Extends rows (rows' ++ [rowAfter rows' eventType payload created])

theorem Extends.trans {rows rows' rows'' : List PassportRow} (h : Extends rows rows')
    (h' : Extends rows' rows'') : Extends rows rows'' := by
  induction h' with
  | refl => exact h
  | append _ eventType hpayload created ih => exact ih.append eventType hpayload created

def IntentsOk (s : Ledger) : Prop := ∀ i ∈ s.lifecycleIntents, IsMapping i.requestJson

/-- What a method has done to the passport since `rows` were stored. -/
structure Grown (rows : List PassportRow) (s : Ledger) : Prop where
  intents : IntentsOk s
  passport : Extends rows s.passportEvents

variable {rows : List PassportRow}

/-- A write to another table. -/
theorem Grown.frame {s s' : Ledger} (h : Grown rows s)
    (hintents : s'.lifecycleIntents = s.lifecycleIntents)
    (hpassport : s'.passportEvents = s.passportEvents) : Grown rows s' := by
  refine ⟨?_, ?_⟩
  · rw [IntentsOk, hintents]
    exact h.intents
  · rw [hpassport]
    exact h.passport

/-- The method keeps `Grown`, for every list of rows to start from. -/
def Grows {α : Type} (x : LedgerTxn α) : Prop := ∀ rows, Triple (Grown rows) x fun _ => Grown rows

section Grows

variable {α β : Type} {x : LedgerTxn α} {f : α → LedgerTxn β} {e : LedgerError}

theorem grows_pure (a : α) : Grows (pure a : LedgerTxn α) := fun _ => triple_pure fun _ h => h

theorem Grows.bind (hx : Grows x) (hf : ∀ a, Grows (f a)) : Grows (x >>= f) :=
  fun rows => (hx rows).bind fun a => hf a rows

theorem grows_select_bind {g : Ledger → α} (h : ∀ a, Grows (f a)) :
    Grows ((select g : LedgerTxn α) >>= f) :=
  fun rows => triple_select_bind fun a s b s' hs hok => h a rows s b s' hs.1 hok

theorem grows_raiseIf_bind {c : Prop} [Decidable c] {k : Unit → LedgerTxn β} (h : Grows (k ())) :
    Grows ((raiseIf c e : LedgerTxn Unit) >>= k) :=
  fun rows => triple_raiseIf_bind fun _ => h rows

theorem grows_raiseIf (c : Prop) [Decidable c] : Grows (raiseIf c e : LedgerTxn Unit) :=
  fun _ => triple_raiseIf fun _ h => h

theorem grows_orRaise_bind {o : Option α} (h : ∀ a, Grows (f a)) :
    Grows ((orRaise o e : LedgerTxn α) >>= f) :=
  fun rows => triple_orRaise_bind fun a _ => h a rows

theorem grows_lift_bind {y : Except LedgerError α} (h : ∀ a, y = .ok a → Grows (f a)) :
    Grows ((lift y : LedgerTxn α) >>= f) :=
  fun rows => triple_lift_bind fun a ha => h a ha rows

theorem grows_lift (y : Except LedgerError α) : Grows (lift y : LedgerTxn α) :=
  fun _ => triple_lift fun _ _ h => h

theorem grows_write {g : Ledger → Ledger} (hintents : ∀ s, (g s).lifecycleIntents = s.lifecycleIntents)
    (hpassport : ∀ s, (g s).passportEvents = s.passportEvents) :
    Grows (write g : LedgerTxn Unit) :=
  fun _ => triple_write fun s h => h.frame (hintents s) (hpassport s)

theorem Grows.immediate (h : Grows x) : Grows (immediate x) := fun rows => (h rows).immediate

theorem Grows.immediateOr {onIntegrity : String → LedgerError} (h : Grows x) :
    Grows (immediateOr onIntegrity x) :=
  fun rows => (h rows).mapError.immediate

theorem grows_insertInto {ρ : Type} {constraints : List (UniqueConstraint ρ)}
    {get : Ledger → List ρ} {set : Ledger → List ρ → Ledger} {row : ρ}
    (hintents : ∀ s l, (set s l).lifecycleIntents = s.lifecycleIntents)
    (hpassport : ∀ s l, (set s l).passportEvents = s.passportEvents) :
    Grows (insertInto constraints get set row) := by
  intro rows s u s' h hok
  obtain ⟨-, rfl⟩ := insertInto_eq_ok.mp hok
  exact h.frame (hintents _ _) (hpassport _ _)

theorem grows_insertNotRun (row : NotRunRow) : Grows (insertNotRun row) :=
  grows_insertInto (fun _ _ => rfl) fun _ _ => rfl

theorem grows_insertReservation (row : ReservationRow) : Grows (insertReservation row) :=
  grows_insertInto (fun _ _ => rfl) fun _ _ => rfl

theorem grows_insertPermit (row : PermitRow) : Grows (insertPermit row) :=
  grows_insertInto (fun _ _ => rfl) fun _ _ => rfl

theorem grows_insertFill (row : FillRow) : Grows (insertFill row) :=
  grows_insertInto (fun _ _ => rfl) fun _ _ => rfl

theorem grows_insertSubmission (row : SubmissionRow) : Grows (insertSubmission row) := by
  have hrow : Grows (insertSubmissionRow row) := grows_insertInto (fun _ _ => rfl) fun _ _ => rfl
  exact hrow.bind fun _ => grows_select_bind fun _ => grows_raiseIf _

theorem grows_insertV2Reservation (row : V2ReservationRow) : Grows (insertV2Reservation row) := by
  have hrow : Grows (insertV2ReservationRow row) :=
    grows_insertInto (fun _ _ => rfl) fun _ _ => rfl
  exact hrow.bind fun _ => grows_select_bind fun _ => grows_raiseIf _

theorem grows_setReservationState (event : String) (state : ReservationState) (now : DateTime) :
    Grows (setReservationState event state now) :=
  grows_write (fun _ => rfl) fun _ => rfl

/-- A receipt is a row made for the end. -/
theorem grows_appendPassport (t : PassportEventType) {payload : Json} (hpayload : IsMapping payload)
    (now : DateTime) : Grows (appendPassport t payload now) := by
  intro rows s u s' h hok
  obtain ⟨-, rfl⟩ := appendPassport_eq_ok.mp hok
  exact ⟨h.intents, h.passport.append t.value hpayload now⟩

end Grows

/-! ### What each method appends -/

/-- An object of scalars with distinct keys. -/
theorem isMapping_obj {fields : List (String × Json)} (hkeys : (fields.map Prod.fst).Nodup)
    (hvalues : ∀ kv ∈ fields, kv.2.wellFormed = true) : IsMapping (.obj fields) :=
  ⟨rfl, Json.wellFormed_obj.mpr ⟨hkeys, hvalues⟩⟩

theorem isMapping_withFields {payload : Json} {extra : List (String × Json)}
    (hpayload : IsMapping payload) (hkeys : (extra.map Prod.fst).Nodup)
    (hvalues : ∀ kv ∈ extra, kv.2.wellFormed = true) : IsMapping (withFields payload extra) := by
  cases payload with
  | obj fields =>
    obtain ⟨hfields, hwell⟩ := Json.wellFormed_obj.mp hpayload.2
    refine isMapping_obj ?_ ?_
    · rw [List.map_append, List.nodup_append']
      refine ⟨hfields.sublist (List.filter_sublist.map _), hkeys, ?_⟩
      intro key hkey hextra
      obtain ⟨kv, hkv, rfl⟩ := List.mem_map.mp hkey
      obtain ⟨kw, hkw, hsame⟩ := List.mem_map.mp hextra
      have hnot := (List.mem_filter.mp hkv).2
      rw [Bool.not_eq_true', List.any_eq_false] at hnot
      exact hnot kw hkw (by simpa using hsame)
    · intro kv hkv
      rcases List.mem_append.mp hkv with hkv | hkv
      · exact hwell kv (List.mem_of_mem_filter hkv)
      · exact hvalues kv hkv
  | null => exact absurd hpayload.1 (by decide)
  | bool b => exact absurd hpayload.1 (by simp [Json.isObject])
  | int n => exact absurd hpayload.1 (by simp [Json.isObject])
  | real literal => exact absurd hpayload.1 (by simp [Json.isObject])
  | str s => exact absurd hpayload.1 (by simp [Json.isObject])
  | arr items => exact absurd hpayload.1 (by simp [Json.isObject])

/-- The JSON values that a call is handed are mappings. -/
def LedgerCall.WellTyped : LedgerCall → Prop
  | recordLifecycleIntent a => IsMapping a.requestJson
  | setControlStateWithPassport _ _ payload _ => IsMapping payload
  | _ => True

theorem grows_storeCandidate (row : CandidateRow) : Grows (storeCandidate row) :=
  grows_select_bind fun _ => grows_raiseIf_bind (grows_raiseIf_bind
    (grows_insertInto (fun _ _ => rfl) fun _ _ => rfl))

theorem grows_recordNotRunWith (passport : Bool) (eventId reason : String) (now : DateTime) :
    Grows (recordNotRunWith passport eventId reason now) := by
  refine grows_lift_bind fun event _ => grows_lift_bind fun detail _ => grows_lift_bind
    fun created _ => Grows.immediate ?_
  refine grows_select_bind fun _ => grows_raiseIf_bind (grows_raiseIf_bind ?_)
  refine (grows_insertNotRun _).bind fun _ => ?_
  cases passport with
  | true => exact grows_appendPassport _ (isMapping_obj (by simp) (by simp [Json.wellFormed])) _
  | false => exact grows_pure ()

theorem grows_transitionReservation (eventId : String) (fromState toState : ReservationState)
    (now : DateTime) : Grows (transitionReservation eventId fromState toState now) :=
  grows_lift_bind fun _ _ => grows_lift_bind fun _ _ => Grows.immediate <|
    grows_select_bind fun _ => grows_raiseIf_bind (grows_write (fun _ => rfl) fun _ => rfl)

theorem grows_transitionPermit (permitId : String) (expected target : PermitState)
    (now : DateTime) : Grows (transitionPermit permitId expected target now) :=
  grows_select_bind fun _ => grows_orRaise_bind fun _ => grows_raiseIf_bind <|
    grows_lift_bind fun _ _ => grows_write (fun _ => rfl) fun _ => rfl

theorem grows_requireFrozen (detail event candidate policy decision expression : String) :
    Grows (requireFrozen detail event candidate policy decision expression) :=
  grows_select_bind fun _ => grows_orRaise_bind fun _ => grows_raiseIf_bind <|
    grows_raiseIf_bind <| grows_raiseIf_bind (grows_raiseIf _)

theorem grows_insertLifecycleIntent {row : LifecycleIntentRow} (hrow : IsMapping row.requestJson) :
    Grows (insertLifecycleIntent row) := by
  intro rows s u s' h hok
  obtain ⟨-, rfl⟩ := insertInto_eq_ok.mp hok
  refine ⟨?_, h.passport⟩
  intro i hi
  rcases List.mem_append.mp hi with hi | hi
  · exact h.intents i hi
  · rw [List.mem_singleton.mp hi]
    exact hrow

theorem grown_setIntents {s : Ledger} {q : LifecycleIntentRow → Bool}
    {g : LifecycleIntentRow → LifecycleIntentRow} (hg : ∀ i, (g i).requestJson = i.requestJson)
    (h : Grown rows s) :
    Grown rows (s.withLifecycleIntents (Table.setWhere q g s.lifecycleIntents)) := by
  refine ⟨?_, h.passport⟩
  intro i hi
  obtain ⟨j, hj, rfl⟩ := List.mem_map.mp hi
  have hold := h.intents j hj
  split
  · rw [hg]
    exact hold
  · exact hold

theorem grows_recordLifecycleIntent {a : LifecycleIntentArgs} (ha : IsMapping a.requestJson) :
    Grows (recordLifecycleIntent a) := by
  refine grows_lift_bind fun row hrow => Grows.immediateOr ?_
  have hrequest : row.requestJson = a.requestJson := by
    simp only [validatedIntent, except_bind_eq_ok, except_pure_eq_ok] at hrow
    obtain ⟨_, -, _, -, _, -, _, -, _, -, _, -, _, -, _, -, _, -, _, -, _, -, _, -, _, -, _, -, _, -,
      rfl⟩ := hrow
    rfl
  have hmapping : IsMapping row.requestJson := hrequest ▸ ha
  refine (grows_insertLifecycleIntent hmapping).bind fun _ => grows_appendPassport _ ?_ _
  exact isMapping_withFields hmapping (by simp) (by simp [Json.wellFormed])

theorem grows_bindLifecycleIntent (permitId : String) (phase : IntentPhase) (brokerOrderId : String)
    (now : DateTime) : Grows (bindLifecycleIntent permitId phase brokerOrderId now) := by
  refine grows_lift_bind fun permit _ => grows_lift_bind fun order _ => grows_lift_bind
    fun updated _ => Grows.immediateOr ?_
  intro rows
  refine triple_select_bind fun found => triple_orRaise_bind fun intent hintent => ?_
  -- the payload is the stored request of an intent, so the invariant says that it is a mapping
  refine triple_select_bind fun _ => triple_raiseIf_bind fun _ => ?_
  intro s u s' hs hok
  obtain ⟨⟨h, hfound⟩, -⟩ := hs
  have hmem : intent ∈ s.lifecycleIntents := by
    rw [Option.filter_eq_some_iff] at hintent
    rw [hintent.1] at hfound
    exact List.mem_of_find?_eq_some hfound
  have hmapping : IsMapping (withFields intent.requestJson [
      ("request_sha256", .str intent.requestSha256), ("broker_order_id", .str order)]) :=
    isMapping_withFields (h.intents intent hmem) (by simp) (by simp [Json.wellFormed])
  have hreceipt := write_bind_eq_ok.mp hok
  refine grows_appendPassport _ hmapping updated rows _ u s' ?_ hreceipt
  exact grown_setIntents (fun _ => rfl) h

theorem grows_settle (fill : FillRow) (terminal : PermitState × ReservationState × PassportEventType)
    (current : DateTime) : Grows (settle fill terminal current) := by
  refine (grows_transitionPermit _ _ _ _).bind fun _ => ?_
  refine (grows_setReservationState _ _ _).bind fun _ => ?_
  refine (grows_insertFill _).bind fun _ => ?_
  refine (grows_appendPassport _ (isMapping_obj (by simp) (by simp [Json.wellFormed])) _).bind
    fun _ => ?_
  exact grows_appendPassport _ (isMapping_obj (by simp) (by simp [Json.wellFormed])) _

theorem grows_reserveAndIssuePermit (a : ReserveArgs) : Grows (reserveAndIssuePermit a) := by
  have hpayload : IsMapping (reservePayload a) := isMapping_obj (by simp) (by simp [Json.wellFormed])
  have hbudgets : Grows (recheckBudgets a) :=
    grows_select_bind fun _ => grows_raiseIf_bind <| grows_raiseIf_bind <|
      grows_lift_bind fun _ _ => grows_raiseIf _
  refine grows_lift_bind fun _ _ => Grows.immediateOr ?_
  refine grows_select_bind fun _ => grows_raiseIf_bind ?_
  refine (grows_requireFrozen _ _ _ _ _ _).bind fun _ => grows_raiseIf_bind ?_
  refine hbudgets.bind fun _ => ?_
  refine (grows_insertReservation _).bind fun _ => ?_
  refine (grows_insertPermit _).bind fun _ => ?_
  refine (grows_appendPassport _ hpayload _).bind fun _ => ?_
  exact (grows_appendPassport _ hpayload _).bind fun _ => grows_pure _

theorem grows_reserveV2AndIssuePermit (a : ReserveV2Args) : Grows (reserveV2AndIssuePermit a) := by
  refine grows_lift_bind fun tier _ => Grows.immediateOr ?_
  refine grows_select_bind fun s => grows_raiseIf_bind ?_
  refine (grows_requireFrozen _ _ _ _ _ _).bind fun _ => ?_
  have hpayload : IsMapping (reserveV2Payload a tier) :=
    isMapping_obj (by simp) (by simp [Json.wellFormed])
  cases v2Existing s a with
  | some row =>
    exact grows_select_bind fun _ => grows_raiseIf_bind <| grows_raiseIf_bind <|
      grows_raiseIf_bind (grows_lift _)
  | none =>
    refine grows_raiseIf_bind <| grows_lift_bind fun totals _ => ?_
    have hcapacity : Grows (v2CapacityChecks a tier totals) :=
      grows_raiseIf_bind <| grows_raiseIf_bind <| grows_raiseIf_bind (grows_raiseIf _)
    refine hcapacity.bind fun _ => ?_
    refine (grows_insertReservation _).bind fun _ => ?_
    refine (grows_insertPermit _).bind fun _ => ?_
    refine (grows_insertV2Reservation _).bind fun _ => ?_
    refine (grows_appendPassport _ hpayload _).bind fun _ => ?_
    exact (grows_appendPassport _ hpayload _).bind fun _ => grows_pure _

/-- What a call appends. -/
theorem grows_txn {c : LedgerCall} (hc : c.WellTyped) : Grows c.txn := by
  cases c with
  | recordCandidate a => exact grows_lift_bind fun _ _ => (grows_storeCandidate _).immediate
  | freezeCandidate a =>
    refine grows_lift_bind fun _ _ => ((grows_storeCandidate _).bind fun _ => ?_).immediate
    exact grows_appendPassport _ (isMapping_obj (by simp) (by simp [Json.wellFormed])) _
  | recordNotRun eventId reason now => exact grows_recordNotRunWith _ _ _ _
  | markNotRun eventId reason now => exact grows_recordNotRunWith _ _ _ _
  | reserve eventId amount underlying now =>
    refine grows_lift_bind fun _ _ => grows_lift_bind fun _ _ => grows_lift_bind fun _ _ =>
      grows_lift_bind fun _ _ => Grows.immediate ?_
    refine grows_select_bind fun _ => grows_raiseIf_bind (grows_raiseIf_bind ?_)
    exact (grows_insertReservation _).bind fun _ => grows_pure _
  | consumeReservation eventId now => exact grows_transitionReservation _ _ _ _
  | releaseReservation eventId now => exact grows_transitionReservation _ _ _ _
  | recordPermit permitId eventId reservationId permitSha256 now =>
    refine grows_lift_bind fun _ _ => grows_lift_bind fun _ _ => grows_lift_bind fun _ _ =>
      grows_lift_bind fun _ _ => grows_lift_bind fun _ _ => Grows.immediate ?_
    exact grows_select_bind fun _ => grows_orRaise_bind fun _ =>
      grows_insertInto (fun _ _ => rfl) fun _ _ => rfl
  | updatePermitState permitId toState now =>
    exact grows_lift_bind fun _ _ => grows_lift_bind fun _ _ => Grows.immediate <|
      grows_select_bind fun _ => grows_raiseIf_bind (grows_transitionPermit _ _ _ _)
  | recordLifecycleIntent a => exact grows_recordLifecycleIntent hc
  | bindLifecycleIntent permitId phase brokerOrderId now =>
    exact grows_bindLifecycleIntent permitId phase brokerOrderId now
  | markLifecycleIntentReconciled permitId now =>
    refine grows_lift_bind fun _ _ => grows_lift_bind fun _ _ => Grows.immediate ?_
    refine grows_select_bind fun _ => grows_raiseIf_bind fun rows => ?_
    exact triple_write fun _ h => grown_setIntents (fun _ => rfl) h
  | recordSubmission a =>
    refine grows_lift_bind fun _ _ => grows_lift_bind fun _ _ => grows_lift_bind fun _ _ =>
      grows_lift_bind fun _ _ => Grows.immediateOr ?_
    refine grows_select_bind fun _ => grows_orRaise_bind fun _ => grows_orRaise_bind fun _ => ?_
    refine (grows_transitionPermit _ _ _ _).bind fun _ => ?_
    refine (grows_insertSubmission _).bind fun _ => ?_
    cases a.appendPassport with
    | true => exact grows_appendPassport _ (isMapping_obj (by simp) (by simp [Json.wellFormed])) _
    | false => exact grows_pure ()
  | recordFill a =>
    refine grows_lift_bind fun _ _ => grows_lift_bind fun _ _ => grows_lift_bind fun _ _ =>
      grows_lift_bind fun _ _ => grows_lift_bind fun _ _ => grows_lift_bind fun _ _ =>
        Grows.immediateOr ?_
    exact grows_select_bind fun _ => grows_orRaise_bind fun _ =>
      grows_insertInto (fun _ _ => rfl) fun _ _ => rfl
  | reconcileObservedOrder a =>
    refine grows_lift_bind fun _ _ => grows_lift_bind fun _ _ => grows_lift_bind fun _ _ =>
      grows_lift_bind fun _ _ => grows_lift_bind fun _ _ => grows_lift_bind fun _ _ =>
        grows_lift_bind fun _ _ => Grows.immediateOr ?_
    refine grows_select_bind fun _ => grows_orRaise_bind fun _ => grows_orRaise_bind fun _ =>
      grows_raiseIf_bind <| grows_orRaise_bind fun _ => grows_lift_bind fun _ _ => ?_
    exact grows_settle _ _ _
  | releaseConsumedAfterFlat eventId permitId now =>
    refine grows_lift_bind fun _ _ => grows_lift_bind fun _ _ => grows_lift_bind fun _ _ =>
      Grows.immediate ?_
    refine grows_select_bind fun _ => grows_orRaise_bind fun _ => grows_orRaise_bind fun _ => ?_
    refine (grows_setReservationState _ _ _).bind fun _ => ?_
    exact grows_appendPassport _ (isMapping_obj (by simp) (by simp [Json.wellFormed])) _
  | reserveAndIssuePermit a => exact grows_reserveAndIssuePermit a
  | reserveV2AndIssuePermit a => exact grows_reserveV2AndIssuePermit a
  | recordAccountSnapshot equity now =>
    exact grows_lift_bind fun _ _ => grows_lift_bind fun _ _ =>
      grows_write (fun _ => rfl) fun _ => rfl
  | setControlState state reason now =>
    exact grows_lift_bind fun _ _ => grows_write (fun _ => rfl) fun _ => rfl
  | setControlStateWithPassport state reason payload now =>
    refine Grows.immediate (Grows.bind ?_ fun _ => grows_appendPassport _ hc _)
    exact grows_lift_bind fun _ _ => grows_write (fun _ => rfl) fun _ => rfl

theorem grown_exec {s : Ledger} {c : LedgerCall} (hc : c.WellTyped) (h : Grown rows s) :
    Grown rows (c.exec s) :=
  (grows_txn hc rows).after (atomic_txn c) h

theorem Extends.prefix {rows' : List PassportRow} (h : Extends rows rows') : rows <+: rows' := by
  induction h with
  | refl => exact List.prefix_refl rows
  | append _ eventType hpayload created ih => exact ih.trans (List.prefix_append _ _)

/-! ### Reading the rows back -/

def PassportRow.link (row : PassportRow) : Link PassportBody :=
  ⟨⟨row.eventType, row.payload.sorted, row.createdAt.isoformatZ⟩, row.prevSha256, row.eventSha256⟩

/-- The columns of a row.  The payload column holds the canonical text of the payload, which is
parsed; what the parser's error says is left out of the detail. -/
def PassportRow.event (seq : Nat) (row : PassportRow) : Except RiskRejected PassportEvent :=
  match h : Json.loads row.payload.canonicalBytes with
  | none => .error ⟨.passportVerificationFailed, "passport.payload", "stored payload is malformed"⟩
  | some payload => .ok {
      fields := [
        ("seq", .int seq),
        ("event_type", .str row.eventType),
        ("payload", payload),
        ("prev_sha256", .str row.prevSha256),
        ("event_sha256", .str row.eventSha256),
        ("created_at", .str row.createdAt.isoformatZ)]
      wellFormed := by
        refine Json.wellFormed_obj.mpr ⟨by simp, ?_⟩
        simp [Json.wellFormed, Json.wellFormed_loads h] }

def passportEventsFrom : Nat → List PassportRow → Except RiskRejected (List PassportEvent)
  | _, [] => .ok []
  | seq, row :: rest => do
    let event ← row.event seq
    let events ← passportEventsFrom (seq + 1) rest
    return event :: events

/-- `passport_events`: the rows in the order of `seq`. -/
def Ledger.storedEvents (s : Ledger) : Except RiskRejected (List PassportEvent) :=
  passportEventsFrom 1 s.passportEvents

/-- `verify_passport` accepts the stored events and returns their number. -/
def Ledger.PassportVerifies (s : Ledger) : Prop :=
  ∃ events, s.storedEvents = .ok events ∧
    verifyPassport Sha256.hexdigest events = .ok s.passportEvents.length

theorem event_eq_ok {row : PassportRow} (h : IsMapping row.payload) (seq : Nat) :
    ∃ event, row.event seq = .ok event ∧ event.link = some row.link := by
  have hloads := Json.loads_canonicalBytes h.2
  unfold PassportRow.event
  split
  · rename_i hnone
    rw [hloads] at hnone
    cases hnone
  · rename_i payload hsome
    rw [hloads] at hsome
    cases hsome
    refine ⟨_, rfl, PassportEvent.link_eq_some.mpr ⟨rfl, ?_, rfl, rfl, rfl⟩⟩
    show (mappingOf row.payload.sorted).sorted = row.payload.sorted
    have hmapping : mappingOf row.payload.sorted = row.payload.sorted := by
      cases hpayload : row.payload with
      | obj fields => rfl
      | _ =>
        rw [hpayload] at h
        exact absurd h.1 (by simp [Json.isObject])
    rw [hmapping, Json.sorted_sorted h.2]

theorem passportEventsFrom_eq_ok {rows : List PassportRow}
    (h : ∀ row ∈ rows, IsMapping row.payload) (seq : Nat) :
    ∃ events, passportEventsFrom seq rows = .ok events ∧
      events.map PassportEvent.link = (rows.map PassportRow.link).map some := by
  induction rows generalizing seq with
  | nil => exact ⟨[], rfl, rfl⟩
  | cons row rest ih =>
    obtain ⟨event, hevent, hlink⟩ := event_eq_ok (h row List.mem_cons_self) seq
    obtain ⟨events, hevents, hlinks⟩ := ih (fun r hr => h r (List.mem_cons_of_mem _ hr)) (seq + 1)
    refine ⟨event :: events, ?_, ?_⟩
    · rw [passportEventsFrom]
      exact except_bind_eq_ok.mpr ⟨event, hevent, except_bind_eq_ok.mpr ⟨events, hevents, rfl⟩⟩
    · rw [List.map_cons, hlink, hlinks]
      rfl

def Reads (rows : List PassportRow) : Prop :=
  ∃ last, (passportChain Sha256.hexdigest).replay (rows.map PassportRow.link) = .ok (last, ())

/-- Rows whose payloads are mappings are read back, and the verifier accepts the events exactly if
the rows are a hash chain that reads. -/
theorem passportVerifies_iff {s : Ledger} (h : ∀ row ∈ s.passportEvents, IsMapping row.payload) :
    s.PassportVerifies ↔ Reads s.passportEvents := by
  obtain ⟨events, hevents, hlinks⟩ := passportEventsFrom_eq_ok h 1
  have hlength : s.passportEvents.length = events.length := by
    have hlen := congrArg List.length hlinks
    simpa using hlen.symm
  constructor
  · rintro ⟨events', hevents', hverify⟩
    have hsame : events' = events := Except.ok.inj (hevents'.symm.trans hevents)
    obtain ⟨-, links, last, hmap, hreplay⟩ := verifyPassport_eq_ok.mp hverify
    rw [hsame, hlinks] at hmap
    have heq : s.passportEvents.map PassportRow.link = links :=
      List.map_injective_iff.mpr (Option.some_injective _) hmap
    exact ⟨last, heq ▸ hreplay⟩
  · rintro ⟨last, hreplay⟩
    exact ⟨events, hevents, verifyPassport_eq_ok.mpr ⟨hlength, _, last, hlinks, hreplay⟩⟩

theorem previousOf_eq (rows : List PassportRow) :
    previousOf rows = (passportChain Sha256.hexdigest).tip (rows.map PassportRow.link) := by
  rw [previousOf, HashChain.tip, List.getLast?_map]
  cases rows.getLast? <;> rfl

def SelfHashed (row : PassportRow) : Prop :=
  row.eventSha256 = passportEventSha256 row.eventType row.payload row.prevSha256
    row.createdAt.isoformatZ

theorem digestOf_link {row : PassportRow} (h : SelfHashed row) :
    (passportChain Sha256.hexdigest).digestOf row.link.prior row.link.body = row.link.digest := by
  have hbytes := passportLinkBytes_sorted row.eventType row.payload row.prevSha256
    row.createdAt.isoformatZ
  have hown : Sha256.hexdigest (passportLinkBytes row.eventType row.payload.sorted row.prevSha256
      row.createdAt.isoformatZ) = row.eventSha256 := by
    rw [hbytes, h]
    rfl
  exact hown

/-- A further row is read exactly if it links to the row before it. -/
theorem reads_concat {row : PassportRow} (hrow : SelfHashed row) (h : Reads rows) :
    Reads (rows ++ [row]) ↔ row.prevSha256 = previousOf rows := by
  obtain ⟨last, hreplay⟩ := h
  have htip : last = previousOf rows := (HashChain.tip_eq hreplay).trans (previousOf_eq rows).symm
  rw [Reads, List.map_append, List.map_singleton]
  constructor
  · rintro ⟨last', hreplay'⟩
    obtain ⟨next, hnext, hread⟩ := HashChain.replay_concat_eq_ok.mp hreplay'
    rw [hreplay] at hnext
    cases hnext
    exact (HashChain.read_eq_ok.mp hread).1.trans htip
  · intro hprev
    refine ⟨row.eventSha256, HashChain.replay_concat_eq_ok.mpr ⟨_, hreplay, ?_⟩⟩
    exact HashChain.read_eq_ok.mpr ⟨hprev.trans htip.symm, digestOf_link hrow, rfl, rfl⟩

theorem Reads.of_prefix {rows' : List PassportRow} (h : Reads rows') (hinit : rows <+: rows') :
    Reads rows := by
  obtain ⟨more, rfl⟩ := hinit
  obtain ⟨last, hreplay⟩ := h
  rw [List.map_append] at hreplay
  obtain ⟨⟨last', u⟩, hrows⟩ := HashChain.replay_of_append hreplay
  exact ⟨last', hrows⟩

theorem Extends.payloads {rows' : List PassportRow} (h : Extends rows rows')
    (hrows : ∀ row ∈ rows, IsMapping row.payload) : ∀ row ∈ rows', IsMapping row.payload := by
  induction h with
  | refl => exact hrows
  | append _ eventType hpayload created ih =>
    intro row hrow
    rcases List.mem_append.mp hrow with hrow | hrow
    · exact ih row hrow
    · rw [List.mem_singleton.mp hrow]
      exact hpayload

theorem selfHashed_rowAfter (rows : List PassportRow) (eventType : String) (payload : Json)
    (created : DateTime) : SelfHashed (rowAfter rows eventType payload created) := rfl

theorem Extends.reads {rows' : List PassportRow} (h : Extends rows rows') (hrows : Reads rows) :
    Reads rows' := by
  induction h with
  | refl => exact hrows
  | append _ eventType hpayload created ih =>
    exact (reads_concat (selfHashed_rowAfter _ eventType _ created) ih).mpr rfl

theorem reads_nil : Reads [] := ⟨genesisSha256, rfl⟩

/-- What a method appends to an empty passport is verified. -/
theorem Grown.verifies {s : Ledger} (h : Grown [] s) : s.PassportVerifies :=
  (passportVerifies_iff (h.passport.payloads fun _ hrow => (List.not_mem_nil hrow).elim)).mpr
    (h.passport.reads reads_nil)

end EsscherMarket.Risk
