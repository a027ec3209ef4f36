import EsscherMarket.Lib.DecimalBounds
import EsscherMarket.Lib.JsonRoundTrip
import EsscherMarket.Lifecycle.Interleaving

/-!
# Requests that are read back

`lifecycle/broker.py` and `lifecycle/worker.py`: the payload of an order, the intent that keeps it,
and the request that the recovery restores from it.
-/

namespace EsscherMarket.Lifecycle

open Lib Execution Risk Prog MonitoredPaperLifecycle

/-! ### The payload of an order -/

/-- The request with its limit price in plain spelling. -/
def BrokerOrderRequest.restored (r : BrokerOrderRequest) : BrokerOrderRequest :=
  { r with limitPrice := r.limitPrice.normalize.expand }

/-- The legs of an order that is read back. -/
structure LegTexts (leg : BrokerOptionLeg) : Prop where
  quantity : 0 < leg.quantity
  symbol : isExactText leg.symbol
  side : isExactText leg.side
  positionIntent : isExactText leg.positionIntent

section Payload

variable {r : BrokerOrderRequest} {qty : Int} {v : Json} {name text : String}

theorem isExactText_digest {digest : String} (h : isLowerHex 64 digest = true) :
    isExactText digest = true := by
  have hne : digest ≠ "" := by
    rintro rfl
    exact absurd h (by decide)
  rw [isExactText, strip_eq_self (isSpace_of_isLowerHex h)]
  simp [hne]

theorem isSpace_of_isDigit {c : Char} (h : c.isDigit = true) : isSpace c = false := by
  have hrange : 48 ≤ c.toNat ∧ c.toNat ≤ 57 := by
    simp only [Char.isDigit, Bool.and_eq_true, decide_eq_true_eq, ge_iff_le,
      UInt32.le_iff_toNat_le] at h
    exact h
  simp only [isSpace, Bool.or_eq_false_iff, Bool.and_eq_false_iff, decide_eq_false_iff_not,
    beq_eq_false_iff_ne]
  omega

theorem isExactText_plainText {d : Decimal} (h : d.isFinite) : isExactText d.plainText = true := by
  obtain ⟨n, c, k, hexpand⟩ := Decimal.exists_expand d.normalize (Decimal.isFinite_normalize h)
  obtain ⟨whole, fraction, htext, hne, hwhole, hfraction, -⟩ := Decimal.fixedText_shape n c k
  rw [Decimal.plainText, hexpand]
  have hspace : ∀ ch ∈ (Decimal.finite n c (-k)).fixedText.toList, isSpace ch = false := by
    intro ch hch
    rw [htext] at hch
    rcases List.mem_append.mp hch with hch | hch
    · rcases List.mem_append.mp hch with hch | hch
      · cases n with
        | true =>
          rw [List.mem_singleton.mp hch]
          decide
        | false => cases hch
      · exact isSpace_of_isDigit (hwhole ch hch)
    · split_ifs at hch with hk
      · cases hch
      · rcases List.mem_cons.mp hch with rfl | hch
        · decide
        · exact isSpace_of_isDigit (hfraction ch hch)
  have hnonempty : (Decimal.finite n c (-k)).fixedText ≠ "" := by
    intro hempty
    rw [hempty] at htext
    have hlength := congrArg List.length htext
    have hpos := List.length_pos_iff.mpr hne
    simp only [String.toList_empty, List.length_nil, List.length_append] at hlength
    omega
  rw [isExactText, strip_eq_self hspace]
  simp [hnonempty]

theorem exactText_of (hfield : v.field? name = some (.str text)) (h : isExactText text) :
    exactText v name = .ok text := by
  simp only [exactText, hfield]
  exact if_pos h

theorem parseLeg_payload {leg : BrokerOptionLeg} (h : LegTexts leg) :
    parseLeg leg.payload = .ok leg := by
  have hquantity : positiveInteger "leg quantity must be a positive integer"
      (leg.payload.field? "quantity") = .ok leg.quantity := if_pos h.quantity
  simp only [parseLeg, except_bind_eq_ok, throwIf_eq_ok, except_mapError_eq_ok]
  exact ⟨(), not_not.mpr rfl, _, hquantity, _, exactText_of rfl h.symbol, _,
    exactText_of rfl h.side, _, exactText_of rfl h.positionIntent, rfl⟩

theorem rawLegs_payload (h : r.legs ≠ []) :
    rawLegs ((brokerOrderRequestPayload r qty).field? "legs") =
      .ok (r.legs.map BrokerOptionLeg.payload) := by
  have hfield : (brokerOrderRequestPayload r qty).field? "legs" =
      some (.arr (r.legs.map BrokerOptionLeg.payload)) := rfl
  rw [hfield]
  cases hlegs : r.legs with
  | nil => exact absurd hlegs h
  | cons leg rest => rfl

theorem mapM_parseLeg (legs : List BrokerOptionLeg) (h : ∀ leg ∈ legs, LegTexts leg) :
    (legs.map BrokerOptionLeg.payload).mapM parseLeg = .ok legs := by
  induction legs with
  | nil => rfl
  | cons leg rest ih =>
    rw [List.map_cons, List.mapM_cons, parseLeg_payload (h leg List.mem_cons_self)]
    show (((rest.map BrokerOptionLeg.payload).mapM parseLeg) >>= fun legs => _) = _
    rw [ih fun leg' hleg => h leg' (List.mem_cons_of_mem _ hleg)]
    rfl

theorem parsePhase_value (phase : IntentPhase) : parsePhase phase.value = .ok phase := by
  cases phase <;> rfl

theorem isExactText_value (phase : IntentPhase) : isExactText phase.value = true := by
  cases phase <;> decide

/-- The payload of an order is read back. -/
theorem parse_brokerOrderRequestPayload (htexts : OrderTexts r) (hlegs : r.legs ≠ [])
    (heach : ∀ leg ∈ r.legs, LegTexts leg) (hprice : r.limitPrice.isFinite) (hqty : 0 < qty) :
    parseBrokerOrderRequestPayload (brokerOrderRequestPayload r qty) = .ok (r.restored, qty) := by
  have hexact : isExactText r.limitPrice.plainText = true := isExactText_plainText hprice
  have hlimit : parseLimitPrice r.limitPrice.plainText = .ok r.restored.limitPrice := by
    rw [parseLimitPrice, Decimal.parse_plainText_eq hprice]
    obtain ⟨n, c, k, hexpand⟩ := Decimal.exists_expand r.limitPrice.normalize
      (Decimal.isFinite_normalize hprice)
    show (if r.limitPrice.normalize.expand.isFinite then _ else _) = _
    rw [if_pos (by rw [hexpand]; rfl)]
    rfl
  have hquantity : positiveInteger "expected_quantity must be a positive integer"
      ((brokerOrderRequestPayload r qty).field? "expected_quantity") = .ok qty := if_pos hqty
  simp only [parseBrokerOrderRequestPayload, except_bind_eq_ok, throwIf_eq_ok,
    except_mapError_eq_ok]
  exact ⟨(), not_not.mpr rfl, _, exactText_of rfl (isExactText_value r.phase), _,
    parsePhase_value r.phase, _, hquantity, _, exactText_of rfl hexact, _, hlimit, _,
    rawLegs_payload hlegs, _, mapM_parseLeg r.legs heach, _, exactText_of rfl htexts.clientOrderId,
    _, exactText_of rfl htexts.permitId, _, exactText_of rfl htexts.openPermitId, _,
    exactText_of rfl htexts.eventRunId, _, exactText_of rfl htexts.reservationId, _,
    exactText_of rfl (isExactText_digest htexts.correlation), _,
    exactText_of rfl (isExactText_digest htexts.policy), _,
    exactText_of rfl (isExactText_digest htexts.snapshot), _,
    exactText_of rfl htexts.accountId, _, exactText_of rfl htexts.accountClass, _,
    exactText_of rfl htexts.orderClass, rfl⟩

/-! ### The stored text -/

theorem exactText_sorted (h : v.wellFormed = true) : exactText v.sorted name = exactText v name := by
  rw [exactText, exactText, Json.field?_sorted h]
  cases v.field? name with
  | none => rfl
  | some w => cases w <;> rfl

theorem positiveInteger_sorted (message : String) (w : Option Json) :
    positiveInteger message (w.map Json.sorted) = positiveInteger message w := by
  cases w with
  | none => rfl
  | some w => cases w <;> rfl

theorem parseLeg_sorted (h : v.wellFormed = true) : parseLeg v.sorted = parseLeg v := by
  have hobject : v.sorted.isObject = v.isObject := by cases v <;> rfl
  simp only [parseLeg, hobject, Json.field?_sorted h, positiveInteger_sorted, exactText_sorted h]

theorem mapM_parseLeg_sorted (items : List Json) (h : ∀ item ∈ items, item.wellFormed = true) :
    (items.map Json.sorted).mapM parseLeg = items.mapM parseLeg := by
  induction items with
  | nil => rfl
  | cons item rest ih =>
    rw [List.map_cons, List.mapM_cons, List.mapM_cons, parseLeg_sorted (h item List.mem_cons_self),
      ih fun item' hitem => h item' (List.mem_cons_of_mem _ hitem)]

theorem rawLegs_sorted {w : Option Json} (hw : ∀ u, w = some u → u.wellFormed = true) {β : Type}
    (k : List BrokerOptionLeg → Except String β) :
    (rawLegs (w.map Json.sorted) >>= fun items => items.mapM parseLeg >>= k) =
      rawLegs w >>= fun items => items.mapM parseLeg >>= k := by
  cases w with
  | none => rfl
  | some u =>
    cases u with
    | arr items =>
      rw [Option.map_some, Json.sorted, Json.sortedItems_eq]
      cases items with
      | nil => rfl
      | cons item rest =>
        show ((item :: rest).map Json.sorted).mapM parseLeg >>= k =
          (item :: rest).mapM parseLeg >>= k
        rw [mapM_parseLeg_sorted _ (Json.wellFormed_arr.mp (hw _ rfl))]
    | _ => rfl

/-- What is stored and loaded is parsed alike. -/
theorem parseBrokerOrderRequestPayload_sorted (h : v.wellFormed = true) :
    parseBrokerOrderRequestPayload v.sorted = parseBrokerOrderRequestPayload v := by
  have hschema : isOrderRequestSchema v.sorted = isOrderRequestSchema v := by
    rw [isOrderRequestSchema, isOrderRequestSchema, Json.field?_sorted h, Json.field?_sorted h]
    congr 1
    · cases v.field? "schema" with
      | none => rfl
      | some w => cases w <;> rfl
    · cases v.field? "schema_version" with
      | none => rfl
      | some w => cases w <;> rfl
  have hlegs : ∀ u, v.field? "legs" = some u → u.wellFormed = true := by
    intro u hu
    cases v with
    | obj fields =>
      obtain ⟨hkeys, hvalues⟩ := Json.wellFormed_obj.mp h
      exact hvalues _ ((Json.field?_eq_some hkeys).mp hu)
    | _ => cases hu
  simp only [parseBrokerOrderRequestPayload, hschema, exactText_sorted h, Json.field?_sorted h,
    positiveInteger_sorted, rawLegs_sorted hlegs]

theorem wellFormed_brokerOrderRequestPayload (r : BrokerOrderRequest) (qty : Int) :
    (brokerOrderRequestPayload r qty).wellFormed = true := by
  have hleg : ∀ leg : BrokerOptionLeg, leg.payload.wellFormed = true := by
    intro leg
    rw [BrokerOptionLeg.payload, Json.wellFormed_obj]
    simp only [List.map_cons, List.map_nil, List.forall_mem_cons]
    exact ⟨by decide, rfl, rfl, rfl, rfl, fun _ h => by cases h⟩
  have hlegs : (Json.arr (r.legs.map BrokerOptionLeg.payload)).wellFormed = true := by
    rw [Json.wellFormed_arr]
    intro v hv
    obtain ⟨leg, -, rfl⟩ := List.mem_map.mp hv
    exact hleg leg
  rw [brokerOrderRequestPayload, Json.wellFormed_obj]
  simp only [List.map_cons, List.map_nil, List.forall_mem_cons]
  exact ⟨by decide, rfl, rfl, rfl, rfl, rfl, rfl, rfl, rfl, rfl, rfl, rfl, rfl, rfl, rfl, rfl, rfl,
    hlegs, fun _ h => by cases h⟩

/-- The price is spelled differently, and nothing else changes. -/
theorem payload_restored (r : BrokerOrderRequest) (qty : Int) :
    brokerOrderRequestPayload r.restored qty = brokerOrderRequestPayload r qty := by
  have hprice : r.restored.limitPrice.plainText = r.limitPrice.plainText :=
    Decimal.plainText_normalize_expand r.limitPrice
  rw [brokerOrderRequestPayload, hprice]
  rfl

end Payload

/-! ### What the ledger keeps of an intent -/

section Ledger

variable {s s' : Ledger} {a : LifecycleIntentArgs}

/-- A row that was recorded with these arguments; once it is submitted, it has an order. -/
structure Kept (a : LifecycleIntentArgs) (i : LifecycleIntentRow) : Prop where
  permitId : i.permitId = a.permitId
  phase : i.phase = a.phase
  eventId : i.eventId = a.eventId
  requestSha256 : i.requestSha256 = a.requestSha256
  requestJson : i.requestJson = a.requestJson
  order : i.state ≠ .intended → ∃ orderId, i.brokerOrderId = some orderId ∧ isExactText orderId

/-- The ledger has one row for the permit, and it is such a row. -/
structure KeptIn (a : LifecycleIntentArgs) (rows : List LifecycleIntentRow) : Prop where
  found : ∃ i ∈ rows, i.permitId = a.permitId
  kept : ∀ i ∈ rows, i.permitId = a.permitId → Kept a i
  unique : ∀ i ∈ rows, ∀ j ∈ rows, i.permitId = a.permitId → j.permitId = a.permitId → i = j

theorem KeptIn.append {rows : List LifecycleIntentRow} {row : LifecycleIntentRow}
    (h : KeptIn a rows) (hfree : ∀ i ∈ rows, i.permitId ≠ row.permitId) :
    KeptIn a (rows ++ [row]) := by
  have hother : row.permitId ≠ a.permitId := by
    obtain ⟨i, hi, hpermit⟩ := h.found
    rw [← hpermit]
    exact (hfree i hi).symm
  have hold : ∀ i ∈ rows ++ [row], i.permitId = a.permitId → i ∈ rows := by
    intro i hi hpermit
    rcases List.mem_append.mp hi with hi | hi
    · exact hi
    · rw [List.mem_singleton.mp hi] at hpermit
      exact absurd hpermit hother
  refine ⟨?_, fun i hi hp => h.kept i (hold i hi hp) hp, fun i hi j hj hp hq =>
    h.unique i (hold i hi hp) j (hold j hj hq) hp hq⟩
  obtain ⟨i, hi, hpermit⟩ := h.found
  exact ⟨i, List.mem_append_left _ hi, hpermit⟩

/-- An update in place keeps the rows for a permit, if it does so where there is one. -/
theorem KeptIn.map {rows : List LifecycleIntentRow} {f : LifecycleIntentRow → LifecycleIntentRow}
    (h : KeptIn a rows) (hpermit : ∀ i, (f i).permitId = i.permitId)
    (hf : ∀ i ∈ rows, Kept a i → Kept a (f i)) : KeptIn a (rows.map f) := by
  refine ⟨?_, ?_, ?_⟩
  · obtain ⟨i, hi, hp⟩ := h.found
    exact ⟨f i, List.mem_map_of_mem hi, (hpermit i).trans hp⟩
  · intro j hj hp
    obtain ⟨i, hi, rfl⟩ := List.mem_map.mp hj
    exact hf i hi (h.kept i hi ((hpermit i).symm.trans hp))
  · intro j hj k hk hp hq
    obtain ⟨i, hi, rfl⟩ := List.mem_map.mp hj
    obtain ⟨i', hi', rfl⟩ := List.mem_map.mp hk
    rw [h.unique i hi i' hi' ((hpermit i).symm.trans hp) ((hpermit i').symm.trans hq)]

theorem KeptIn.lookup (h : KeptIn a s.lifecycleIntents) {i j : LifecycleIntentRow}
    (hi : i ∈ s.lifecycleIntents) (hp : i.permitId = a.permitId)
    (hj : s.lifecycleIntentForPermit a.permitId = some j) : i = j := by
  have hmem := List.mem_of_find?_eq_some hj
  have hpermit := List.find?_some hj
  exact h.unique i hi j hmem hp (of_decide_eq_true hpermit)

/-- No call of the ledger changes what the row of an intent holds, and none makes it submitted
without an order. -/
theorem KeptIn.exec (h : KeptIn a s.lifecycleIntents) (c : LedgerCall) :
    KeptIn a (c.exec s).lifecycleIntents := by
  have hstep := intentStep_exec s c
  generalize (c.exec s).lifecycleIntents = rows at hstep
  cases hstep with
  | same => exact h
  | record row hfree => exact h.append hfree
  | bind permitId orderId now horder =>
    refine h.map (fun i => ?_) fun i _ hkept => ?_
    · split <;> rfl
    · split
      · exact { hkept with order := fun _ => ⟨orderId, rfl, horder⟩ }
      · exact hkept
  | reconcile permitId now hsubmitted =>
    obtain ⟨j, hj, hstate⟩ := hsubmitted
    refine h.map (fun i => ?_) fun i hi hkept => ?_
    · split <;> rfl
    · split_ifs with hpermit
      · -- the row that is reconciled was submitted
        have hsame : permitId = a.permitId := (of_decide_eq_true hpermit).symm.trans hkept.permitId
        have hij := h.lookup hi hkept.permitId (hsame ▸ hj)
        refine { hkept with order := fun _ => hkept.order ?_ }
        rw [hij, hstate]
        decide
      · exact hkept

/-- A new intent has the only row of its permit. -/
theorem keptIn_recorded (h : recordLifecycleIntent a s = .ok () s') :
    KeptIn a s'.lifecycleIntents := by
  obtain ⟨row, events, hrow, hfree, -, rfl⟩ := recordLifecycleIntent_ok h
  obtain ⟨-, hcolumns⟩ := validatedIntent_ok hrow
  have hnew : row = a.row := hcolumns
  have honly : ∀ i ∈ s.lifecycleIntents ++ [row], i.permitId = a.permitId → i = a.row := by
    intro i hi hp
    rcases List.mem_append.mp hi with hi | hi
    · exact absurd hp (hfree i hi)
    · exact (List.mem_singleton.mp hi).trans hnew
  refine ⟨⟨row, List.mem_append_right _ (List.mem_singleton_self _), by rw [hnew]; rfl⟩, ?_, ?_⟩
  · intro i hi hp
    rw [honly i hi hp]
    exact ⟨rfl, rfl, rfl, rfl, rfl, fun hstate => absurd rfl hstate⟩
  · intro i hi j hj hp hq
    exact (honly i hi hp).trans (honly j hj hq).symm

theorem KeptIn.run (calls : List LedgerCall) {s : Ledger} (h : KeptIn a s.lifecycleIntents) :
    KeptIn a (calls.foldl LedgerCall.exec s).lifecycleIntents := by
  induction calls generalizing s with
  | nil => exact h
  | cons c rest ih => exact ih (h.exec c)

end Ledger

/-! ### What a worker submits -/

section Worker

variable {w : MonitoredPaperLifecycle} {r : BrokerOrderRequest} {qty : Int}

/-- The orders of a worker whose permits have passed its checks, with their quantities. -/
inductive Submits (w : MonitoredPaperLifecycle) : BrokerOrderRequest → Int → Prop
  | opening {p : DebitVerticalPermit} (h : w.requireOpenIdentity p = .ok ()) :
    Submits w (w.openRequest p) p.quantity
  | closing {p : DebitVerticalPermit} {c : ClosePermit} {correlation : CorrelationIdentity}
    {legs : List BrokerOptionLeg} (h : w.requireClosePermit p c = .ok ())
    (hcorrelation : w.correlation.withClosePermit c.permitId = .ok correlation)
    (hlegs : closeLegs p = .ok legs) : Submits w (w.closeRequest p c correlation legs) p.quantity

/-- Only intents of such orders are recorded. -/
def submitsMonitor (w : MonitoredPaperLifecycle) : Monitor lifecycleSig Unit where
  next _ _ _ := ()
  ok _ op := ∀ a, op = .ledger (.recordLifecycleIntent a) →
    ∃ r qty t, Submits w r qty ∧ a = intentArgs r qty t

theorem safe_of_plain {α : Type} {x : LifecycleProg α} (hx : Uses (S := lifecycleSig) Plain x) :
    Safe (submitsMonitor w) () x fun _ _ => True := by
  refine (hx.safe fun op hop => ⟨?_, fun _ => rfl⟩).mono fun _ _ _ => trivial
  rintro a rfl
  exact hop.elim

theorem safe_guard {α : Type} {x : LifecycleProg α} (hx : Uses (S := lifecycleSig) Guard x) :
    Safe (submitsMonitor w) () x fun _ _ => True :=
  safe_of_plain (plain_of_guard hx)

theorem safe_claim (h : Submits w r qty) :
    Safe (submitsMonitor w) () (w.claimPermit r qty) fun _ _ => True := by
  have hrecord : Safe (submitsMonitor w) () (recordIntent r qty) fun _ _ => True := by
    refine (safe_guard guard_now).bind fun _ t _ => ?_
    refine safe_perform_bind ?_ fun _ => safe_ofExcept fun _ _ => trivial
    rintro a ha
    cases ha
    exact ⟨r, qty, t, h, rfl⟩
  have hremember : Plain (.remember w.worker r.phase r.permitId) := trivial
  exact hrecord.bind fun _ _ _ => safe_of_plain (uses_perform (S := lifecycleSig) hremember)

/-- An opening goes on only with a permit of the worker's correlation. -/
theorem safe_requireOpening (p : DebitVerticalPermit) : Safe (submitsMonitor w) ()
    (w.requireOpening p) fun _ _ => w.requireOpenIdentity p = .ok () := by
  have hbinding : Safe (submitsMonitor w) () (w.requireOpenBinding p) fun _ _ =>
      w.requireOpenIdentity p = .ok () := by
    refine safe_ofExcept_bind fun _ hid => ?_
    refine (safe_guard (guard_readLedger _ _ _)).bind fun _ _ _ => ?_
    refine (safe_guard (guard_readLedger _ _ _)).bind fun _ _ _ => ?_
    exact (safe_guard (uses_raiseIf _ _)).mono fun _ _ _ => hid
  unfold requireOpening
  refine safe_ofExcept_bind fun _ _ => ?_
  refine safe_ofExcept_bind fun _ _ => ?_
  refine safe_ofExcept_bind fun _ _ => ?_
  refine (safe_guard (guard_requireActiveWindow _ _ _ _)).bind fun _ _ _ => ?_
  refine (safe_guard (guard_readLedger _ _ _)).bind fun _ _ _ => ?_
  refine safe_raiseIf_bind fun _ => ?_
  refine (safe_guard guard_now).bind fun _ _ _ => ?_
  refine safe_ofExcept_bind fun _ _ => ?_
  refine safe_raiseIf_bind fun _ => ?_
  refine (safe_guard guard_requireMutation).bind fun _ _ _ => ?_
  refine hbinding.bind fun _ _ hid => ?_
  exact (safe_guard (guard_remembered fun _ => uses_raiseIf _ _)).mono fun _ _ _ => hid

/-- A close goes on only with a closing permit of the worker's opening. -/
theorem safe_requireClosing (p : DebitVerticalPermit) (c : ClosePermit) (openOrderId : String) :
    Safe (submitsMonitor w) () (w.requireClosing p c openOrderId) fun _ correlation =>
      w.requireClosePermit p c = .ok () ∧
        w.correlation.withClosePermit c.permitId = .ok correlation := by
  have hbinding : Safe (submitsMonitor w) () (w.requireCloseBinding p c openOrderId)
      fun _ correlation => w.requireClosePermit p c = .ok () ∧
        w.correlation.withClosePermit c.permitId = .ok correlation := by
    refine safe_ofExcept_bind fun _ hpermit => ?_
    refine (safe_guard (guard_readLedger _ _ _)).bind fun _ _ _ => ?_
    refine (safe_guard (guard_readLedger _ _ _)).bind fun _ _ _ => ?_
    refine safe_raiseIf_bind fun _ => ?_
    refine (safe_guard (guard_readLedger _ _ _)).bind fun _ _ _ => ?_
    refine safe_raiseIf_bind fun _ => ?_
    exact safe_ofExcept fun _ hcorrelation => ⟨hpermit, hcorrelation⟩
  unfold requireClosing
  refine safe_ofExcept_bind fun _ _ => ?_
  refine safe_ofExcept_bind fun _ _ => ?_
  refine safe_ofExcept_bind fun _ _ => ?_
  refine (safe_guard guard_requireMutation).bind fun _ _ _ => ?_
  refine (safe_guard guard_now).bind fun _ _ _ => ?_
  refine safe_ofExcept_bind fun _ _ => ?_
  refine safe_raiseIf_bind fun _ => ?_
  refine hbinding.bind fun _ correlation hbound => ?_
  refine safe_ofExcept_bind fun _ _ => ?_
  refine safe_raiseIf_bind fun _ => ?_
  refine (safe_guard (guard_requireActiveWindow _ _ _ _)).bind fun _ _ _ => ?_
  refine (safe_guard (guard_readLedger _ _ _)).bind fun _ _ _ => ?_
  refine safe_raiseIf_bind fun _ => ?_
  refine safe_perform_bind (fun _ h => by cases h) fun (submitted : Bool) => ?_
  exact safe_raiseIf_bind fun _ => safe_pure hbound

/-- Every intent that a call of a worker records is of such an order. -/
theorem openPosition_submits (p : DebitVerticalPermit) :
    Safe (submitsMonitor w) () (w.openPosition p) fun _ _ => True := by
  have hsubmit : Safe (submitsMonitor w) () (w.submitOpening p) fun _ _ => True := by
    refine (safe_requireOpening p).bind fun _ _ hid => ?_
    refine (safe_claim (.opening hid)).bind fun _ _ _ => ?_
    refine safe_perform_bind (fun _ h => by cases h) fun answer => safe_of_plain ?_
    refine (uses_ofExcept _).bind fun ack => plain_bindAck.bind fun _ => ?_
    exact plain_now.bind fun _ => (plain_transact (by trivial)).bind fun _ => uses_pure _
  refine hsubmit.bind fun _ ack _ => safe_of_plain ?_
  exact plain_freshBoundTruth.bind fun ⟨truth, _⟩ =>
    (plain_recordOpenTransition _ _).bind fun _ => uses_pure _

theorem closePosition_submits (p : DebitVerticalPermit) (c : ClosePermit) (openOrderId : String) :
    Safe (submitsMonitor w) () (w.closePosition p c openOrderId) fun _ _ => True := by
  have hsubmit : Safe (submitsMonitor w) () (w.submitClosing p c openOrderId) fun _ _ => True := by
    refine (safe_requireClosing p c openOrderId).bind fun _ correlation hbound => ?_
    refine safe_ofExcept_bind fun legs hlegs => ?_
    refine (safe_claim (.closing hbound.1 hbound.2 hlegs)).bind fun _ _ _ => ?_
    refine safe_perform_bind (fun _ h => by cases h) fun answer => safe_of_plain ?_
    exact (uses_ofExcept _).bind fun ack => plain_bindAck.bind fun _ => uses_pure _
  refine hsubmit.bind ?_
  rintro _ ⟨r, ack⟩ -
  refine safe_of_plain (plain_freshBoundTruth.bind ?_)
  rintro ⟨truth, positions⟩
  exact (uses_ofExcept _).bind fun _ => (uses_ofExcept _).bind fun _ =>
    plain_recordFlat.bind fun _ => uses_pure _

/-! ### Its texts and its price -/

theorem orderTexts_recorded {t : DateTime} {s s' : Ledger}
    (h : recordLifecycleIntent (intentArgs r qty t) s = .ok () s') : OrderTexts r := by
  obtain ⟨row, -, hrow, -⟩ := recordLifecycleIntent_ok h
  simp only [validatedIntent, except_bind_eq_ok, identifier_eq_ok, sha256Text_eq_ok] at hrow
  obtain ⟨_, ⟨hpermit, -⟩, _, ⟨hevent, -⟩, _, ⟨hopen, -⟩, _, ⟨hreservation, -⟩, _,
    ⟨hcorrelation, -⟩, _, ⟨hpolicy, -⟩, _, ⟨hsnapshot, -⟩, _, ⟨haccount, -⟩, _, ⟨hclass, -⟩, _,
    ⟨horder, -⟩, _, ⟨hclient, -⟩, -⟩ := hrow
  exact ⟨hpermit, hevent, hopen, hreservation, hcorrelation, hpolicy, hsnapshot, haccount, hclass,
    horder, hclient⟩

theorem legTexts_of {p : DebitVerticalPermit} {leg : OptionLeg} {side : OptionSide}
    {intent : PositionIntent} :
    LegTexts ⟨leg.symbol, p.quantity * leg.ratioQty, side.value, intent.value⟩ := by
  have hleg := leg.accepted
  simp only [OptionLegFields.check, Bool.and_eq_true, beq_iff_eq] at hleg
  obtain ⟨⟨⟨⟨⟨⟨⟨hsymbol, -⟩, -⟩, -⟩, hratio⟩, -⟩, -⟩, hparts⟩ := hleg
  have hne : leg.symbol ≠ "" := by
    intro hempty
    have hnone : parseOcc "" = none := by decide
    rw [hempty, hnone] at hparts
    cases hparts
  refine ⟨?_, ?_, ?_, ?_⟩
  · show 0 < p.quantity * leg.ratioQty
    rw [p.quantity_eq_one, hratio]
    decide
  · show isExactText leg.symbol = true
    rw [isExactText, ← hsymbol]
    simp [hne]
  · show isExactText side.value = true
    cases side <;> decide
  · show isExactText intent.value = true
    cases intent <;> decide

/-- Both legs of such an order are read back. -/
theorem Submits.legs (h : Submits w r qty) : r.legs ≠ [] ∧ ∀ leg ∈ r.legs, LegTexts leg := by
  cases h with
  | @opening p _ =>
    refine ⟨by simp [openRequest, request, openLegs], ?_⟩
    intro leg hleg
    obtain ⟨x, -, rfl⟩ := List.mem_map.mp hleg
    exact legTexts_of
  | @closing p c correlation legs _ _ hlegs =>
    obtain ⟨-, hlong, -, hshort⟩ := p.sides
    simp only [closeLegs, List.mapM_cons, List.mapM_nil, hlong, hshort, inverseIntent] at hlegs
    cases hlegs
    refine ⟨by simp [closeRequest, request], ?_⟩
    intro leg hleg
    rcases List.mem_cons.mp hleg with rfl | hleg
    · exact legTexts_of
    · rw [List.mem_singleton.mp hleg]
      exact legTexts_of

theorem Submits.quantity (h : Submits w r qty) : 0 < qty := by
  cases h with
  | @opening p _ =>
    rw [p.quantity_eq_one]
    decide
  | @closing p c correlation legs _ _ _ =>
    rw [p.quantity_eq_one]
    decide

/-- A price in cents below the largest strike has few digits. -/
theorem fix_of_cents {d : Decimal} (hcents : atMostCents d = true)
    (h : |d.toRat| ≤ 100000) : d.fix = d := by
  cases d with
  | finite n c e =>
    have he : -2 ≤ e := of_decide_eq_true hcents
    refine Decimal.fix_of_lt ?_
    rw [Decimal.abs_toRat_finite, Decimal.pow10_eq_zpow] at h
    have hpow : (10 : ℚ) ^ (-2 : Int) ≤ 10 ^ e := zpow_le_zpow_right₀ (by norm_num) he
    have hcast : (0 : ℚ) ≤ c := Nat.cast_nonneg c
    have hle : (c : ℚ) * (10 : ℚ) ^ (-2 : Int) ≤ 100000 :=
      (mul_le_mul_of_nonneg_left hpow hcast).trans h
    have hbound : (c : ℚ) ≤ 10000000 := by
      norm_num at hle
      linarith
    have hnat : c ≤ 10000000 := by exact_mod_cast hbound
    exact lt_of_le_of_lt hnat (by decide)
  | _ => cases hcents

theorem width_le (p : DebitVerticalPermit) :
    |p.shortLeg.strike.toRat - p.longLeg.strike.toRat| ≤ 100000 := by
  obtain ⟨k, hk, hlong⟩ := p.longLeg.strike_spec
  obtain ⟨l, hl, hshort⟩ := p.shortLeg.strike_spec
  have hk' : (k : ℚ) < 10 ^ 8 := by exact_mod_cast hk
  have hl' : (l : ℚ) < 10 ^ 8 := by exact_mod_cast hl
  have hk₀ : (0 : ℚ) ≤ k := Nat.cast_nonneg k
  have hl₀ : (0 : ℚ) ≤ l := Nat.cast_nonneg l
  rw [hlong, hshort, abs_le]
  constructor <;> linarith

/-- The price is not rounded when it is written. -/
theorem Submits.price (h : Submits w r qty) :
    r.limitPrice.isFinite = true ∧ r.limitPrice.fix = r.limitPrice := by
  cases h with
  | @opening p _ =>
    have hp := p.accepted
    simp only [DebitVerticalPermitFields.check, DebitVerticalPermitFields.checkTerms,
      Bool.and_eq_true, decide_eq_true_eq] at hp
    obtain ⟨-, ⟨⟨-, hmoney⟩, -⟩, hwidth⟩ := hp
    show p.limitPrice.isFinite = true ∧ p.limitPrice.fix = p.limitPrice
    cases hprice : p.limitPrice with
    | finite n c e =>
      rw [hprice] at hmoney hwidth
      simp only [requireMoney, Bool.and_eq_true, Bool.not_eq_true', decide_eq_true_eq] at hmoney
      obtain ⟨⟨hsign, -⟩, he⟩ := hmoney
      refine ⟨rfl, fix_of_cents (decide_eq_true he) ?_⟩
      have hnonneg : 0 ≤ (Decimal.finite n c e).toRat := by
        rw [hsign, Decimal.toRat_finite]
        have hcast : (0 : ℚ) ≤ c := Nat.cast_nonneg c
        have hpow : (0 : ℚ) ≤ 10 ^ e := (zpow_pos (by norm_num) e).le
        have hproduct := mul_nonneg hcast hpow
        simpa using hproduct
      rw [abs_of_nonneg hnonneg]
      exact hwidth.le.trans (width_le p)
    | _ =>
      rw [hprice] at hmoney
      cases hmoney
  | @closing p c correlation legs hpermit _ _ =>
    have hc := c.accepted
    simp only [ClosePermitFields.validate, except_bind_eq_ok, throwIf_eq_ok, not_not] at hc
    obtain ⟨_, -, _, -, _, -, _, -, _, -, _, -, _, -, hcents⟩ := hc
    simp only [requireClosePermit, except_bind_eq_ok, throwIf_eq_ok, not_not] at hpermit
    obtain ⟨_, -, _, -, _, hcredit, -⟩ := hpermit
    simp only [closeCreditWithinVerticalWidth, Bool.and_eq_true, decide_eq_true_eq] at hcredit
    exact ⟨c.isFinite_limitPrice, fix_of_cents hcents (hcredit.2.trans (width_le p))⟩

/-! ### Its recovery -/

def expectedCorrelation (w : MonitoredPaperLifecycle) (phase : IntentPhase) (permitId : String) :
    Except LifecycleError CorrelationIdentity :=
  match phase with
  | .opening => .ok w.correlation
  | .closing => w.correlation.withClosePermit permitId

/-- The identity of such an order is the worker's. -/
theorem Submits.identity (h : Submits w r qty) : r.eventRunId = w.correlation.eventRunId ∧
    r.openPermitId = w.correlation.openPermitId ∧
    ∃ expected, expectedCorrelation w r.phase r.permitId = .ok expected ∧
      r.correlationSha256 = correlationSha256 expected := by
  cases h with
  | @opening p hid =>
    have hsame := throwIf_eq_ok.mp hid
    push Not at hsame
    exact ⟨rfl, hsame.1, w.correlation, rfl, rfl⟩
  | @closing p c correlation legs hpermit hcorrelation _ =>
    obtain ⟨_, hid, -⟩ := except_bind_eq_ok.mp hpermit
    have hsame := throwIf_eq_ok.mp hid
    push Not at hsame
    have hfields := withClosePermit_ok hcorrelation
    have hevent : correlation.eventRunId = w.correlation.eventRunId := by rw [hfields]
    exact ⟨hevent, hsame.1, correlation, hcorrelation, rfl⟩

theorem storedRequest_of {i : LifecycleIntentRow} {phase : IntentPhase} {r' : BrokerOrderRequest}
    {expected : CorrelationIdentity}
    (hexpected : expectedCorrelation w phase i.permitId = .ok expected)
    (hparse : parseBrokerOrderRequestPayload i.requestJson = .ok (r', qty))
    (hsame : brokerOrderRequestSha256 r' qty = i.requestSha256 ∧ r'.permitId = i.permitId ∧
      r'.phase = phase ∧ r'.eventRunId = w.correlation.eventRunId ∧
      r'.openPermitId = w.correlation.openPermitId ∧
      r'.correlationSha256 = correlationSha256 expected) :
    w.storedRequest i phase = .ok (r', qty) := by
  have hmatch : ¬ (brokerOrderRequestSha256 r' qty ≠ i.requestSha256 ∨ r'.permitId ≠ i.permitId ∨
      r'.phase ≠ phase ∨ r'.eventRunId ≠ w.correlation.eventRunId ∨
      r'.openPermitId ≠ w.correlation.openPermitId ∨
      r'.correlationSha256 ≠ correlationSha256 expected) := by
    push Not
    exact hsame
  cases phase with
  | opening =>
    cases hexpected
    simp only [storedRequest, except_bind_eq_ok, throwIf_eq_ok]
    exact ⟨_, rfl, (r', qty), except_mapError_eq_ok.mpr hparse, (), hmatch, rfl⟩
  | closing =>
    simp only [storedRequest, except_bind_eq_ok, throwIf_eq_ok]
    exact ⟨_, hexpected, (r', qty), except_mapError_eq_ok.mpr hparse, (), hmatch, rfl⟩

/-- A submitted row of such an order is accepted. -/
theorem durableSubmittedRequest_kept {t : DateTime} {i : LifecycleIntentRow} (h : Submits w r qty)
    (htexts : OrderTexts r) (hkept : Kept (intentArgs r qty t) i) (hstate : i.state ≠ .intended) :
    ∃ orderId, i.brokerOrderId = some orderId ∧
      w.durableSubmittedRequest i r.phase = .ok (r.restored, qty, orderId) := by
  obtain ⟨orderId, horder, hexact⟩ := hkept.order hstate
  obtain ⟨hevent, hopen, expected, hexpected, hcorrelation⟩ := h.identity
  obtain ⟨hlegs, heach⟩ := h.legs
  have hparse : parseBrokerOrderRequestPayload i.requestJson = .ok (r.restored, qty) := by
    rw [hkept.requestJson]
    exact parse_brokerOrderRequestPayload htexts hlegs heach h.price.1 h.quantity
  have hsha : brokerOrderRequestSha256 r.restored qty = i.requestSha256 := by
    rw [hkept.requestSha256, brokerOrderRequestSha256, payload_restored]
    rfl
  have hstored : w.storedRequest i r.phase = .ok (r.restored, qty) := by
    have hpermit : i.permitId = r.permitId := hkept.permitId
    rw [← hpermit] at hexpected
    exact storedRequest_of hexpected hparse
      ⟨hsha, hkept.permitId.symm, rfl, hevent, hopen, hcorrelation⟩
  have hrow : ¬ (i.phase ≠ r.phase ∨ i.eventId ≠ w.correlation.eventRunId ∨ strip orderId = "" ∨
      i.state = .intended) := by
    push Not
    exact ⟨hkept.phase, hkept.eventId.trans hevent, strip_ne_empty_of_isExactText hexact, hstate⟩
  refine ⟨orderId, horder, ?_⟩
  rw [durableSubmittedRequest, horder]
  simp only [except_bind_eq_ok, throwIf_eq_ok]
  exact ⟨_, rfl, (), hrow, (r.restored, qty), hstored, rfl⟩

end Worker

/-- What a worker submitted is restored: every intent that its calls record is that of an order with
checked permits; its price is written without rounding, its payload is parsed to the same order
before and after it is stored, and the recovery of a submitted row restores that request. -/
theorem stored_requests (w : MonitoredPaperLifecycle) :
    (∀ p, Safe (submitsMonitor w) () (w.openPosition p) fun _ _ => True) ∧
    (∀ p c openOrderId,
      Safe (submitsMonitor w) () (w.closePosition p c openOrderId) fun _ _ => True) ∧
    ∀ r qty t s s', Submits w r qty → recordLifecycleIntent (intentArgs r qty t) s = .ok () s' →
      r.limitPrice.fix = r.limitPrice ∧ r.restored.limitPrice.toRat = r.limitPrice.toRat ∧
      parseBrokerOrderRequestPayload (brokerOrderRequestPayload r qty) = .ok (r.restored, qty) ∧
      (∃ v, Json.loads (brokerOrderRequestPayload r qty).canonicalBytes = some v ∧
        parseBrokerOrderRequestPayload v = .ok (r.restored, qty)) ∧
      ∀ calls : List LedgerCall, ∀ i ∈ (calls.foldl LedgerCall.exec s').lifecycleIntents,
        i.permitId = r.permitId → i.state ≠ .intended → ∃ orderId, i.brokerOrderId = some orderId ∧
          w.durableSubmittedRequest i r.phase = .ok (r.restored, qty, orderId) := by
  refine ⟨fun p => openPosition_submits p, fun p c openOrderId =>
    closePosition_submits p c openOrderId, fun r qty t s s' h hrecorded => ?_⟩
  have htexts := orderTexts_recorded hrecorded
  obtain ⟨hlegs, heach⟩ := h.legs
  have hparse := parse_brokerOrderRequestPayload htexts hlegs heach h.price.1 h.quantity
  have hwell := wellFormed_brokerOrderRequestPayload r qty
  have hloads := Json.loads_canonicalBytes hwell
  refine ⟨h.price.2, Decimal.toRat_normalize_expand _, hparse, ⟨_, hloads, ?_⟩,
    fun calls i hi hpermit hstate => ?_⟩
  · rw [parseBrokerOrderRequestPayload_sorted hwell]
    exact hparse
  · have hkept := ((keptIn_recorded hrecorded).run calls).kept i hi hpermit
    exact durableSubmittedRequest_kept h htexts hkept hstate

theorem boundRow_mem {r : BrokerOrderRequest} {qty : Int} {t : DateTime} {s : Ledger}
    {orderId : String} (htexts : OrderTexts r) (ht : t.tzinfo = .utc) (hfree : Unclaimed r s)
    (horder : isExactText orderId)
    (hids : ∀ i ∈ s.lifecycleIntents, i.brokerOrderId ≠ some orderId) :
    ∃ s', recordLifecycleIntent (intentArgs r qty t) s = .ok () s' ∧
      boundRow r qty t orderId ∈ ([LedgerCall.bindLifecycleIntent r.permitId r.phase orderId
        t].foldl LedgerCall.exec s').lifecycleIntents := by
  obtain ⟨s', hrecorded, hrow⟩ := recordLifecycleIntent_claims qty htexts ht hfree
  obtain ⟨s'', hbound, events, hrows⟩ := bindLifecycleIntent_binds htexts ht hfree horder hids hrow
  have hexec : [LedgerCall.bindLifecycleIntent r.permitId r.phase orderId t].foldl
      LedgerCall.exec s' = s'' := Txn.after_of_ok hbound
  refine ⟨s', hrecorded, ?_⟩
  rw [hexec, hrows]
  exact List.mem_append_right _ (List.mem_singleton_self _)

/-- The opening of the concrete lifecycle, recorded and bound to the order `order-1`. -/
theorem stored_requests_scene : ∃ i : LifecycleIntentRow, i.state = .submitted ∧
    sceneWorker.durableSubmittedRequest i .opening =
      .ok ((sceneWorker.openRequest scenePermit).restored, 1, "order-1") := by
  have hsubmits : Submits sceneWorker (sceneWorker.openRequest scenePermit) 1 :=
    .opening canOpen_scene.identity
  have horder : isExactText "order-1" = true := by decide
  obtain ⟨s', hrecorded, hmem⟩ := @boundRow_mem (sceneWorker.openRequest scenePermit) 1 (.utc 1200)
    sceneLedger "order-1" canOpen_scene.texts rfl canOpen_scene.unclaimed horder
    (by simp [sceneLedger, Ledger.empty])
  obtain ⟨-, -, -, -, hrestored⟩ := (stored_requests sceneWorker).2.2 _ _ _ _ _ hsubmits hrecorded
  obtain ⟨orderId, hbound, hdurable⟩ := hrestored _ _ hmem rfl (fun h => by cases h)
  cases hbound
  exact ⟨_, rfl, hdurable⟩

end EsscherMarket.Lifecycle
