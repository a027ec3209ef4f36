import EsscherMarket.Lib.HashChain
import EsscherMarket.Lib.JsonRoundTrip
import EsscherMarket.Risk.Ledger.Schema

/-!
# The verifier of the Trade Passport

`risk/passport.py`.  The verifier recomputes every link of a list of events, which it receives as
mappings; the hash of a link's bytes is a parameter of it.  A payload that is no mapping is replaced
by an empty one before it is hashed.
-/

namespace EsscherMarket.Risk

open Lib

/-- An event as the verifier receives it: a mapping, so its keys are distinct. -/
structure PassportEvent where
  fields : List (String × Json)
  wellFormed : (Json.obj fields).wellFormed = true

namespace PassportEvent

/-- `event.get(key)`. -/
def get (event : PassportEvent) (key : String) : Json := (Json.obj event.fields).get key

def text (event : PassportEvent) (key : String) : Option String :=
  match event.get key with
  | .str s => some s
  | _ => none

end PassportEvent

/-- `payload if isinstance(payload, Mapping) else {}`. -/
def mappingOf (payload : Json) : Json :=
  match payload with
  | .obj fields => .obj fields
  | _ => .obj []

def passportLinkValue (eventType : String) (payload : Json) (prevSha256 createdAt : String) : Json :=
  .obj [
    ("event_type", .str eventType),
    ("payload", payload),
    ("prev_sha256", .str prevSha256),
    ("created_at", .str createdAt)]

def passportLinkBytes (eventType : String) (payload : Json) (prevSha256 createdAt : String) :
    List UInt8 :=
  (passportLinkValue eventType payload prevSha256 createdAt).canonicalBytes

def verifyLink (sha : List UInt8 → String) (index : Nat) (expectedPrev : String)
    (event : PassportEvent) : Except RiskRejected String :=
  match event.text "event_type", event.text "prev_sha256", event.text "event_sha256",
    event.text "created_at" with
  | some eventType, some prevSha256, some eventSha256, some createdAt => do
    throwIf (prevSha256 ≠ expectedPrev)
      ⟨.passportVerificationFailed, s!"passport[{index}].prev_sha256",
        "passport chain is broken (previous hash mismatch)"⟩
    throwIf (sha (passportLinkBytes eventType (mappingOf (event.get "payload")) prevSha256
        createdAt) ≠ eventSha256)
      ⟨.passportVerificationFailed, s!"passport[{index}].event_sha256",
        "passport link hash mismatch (tamper detected)"⟩
    return eventSha256
  | _, _, _, _ =>
    .error ⟨.passportVerificationFailed, s!"passport[{index}]",
      "passport event fields are malformed"⟩

/-- The loop of `verify_passport`, from an index and an expected hash. -/
def verifyFrom (sha : List UInt8 → String) : Nat → String → List PassportEvent →
    Except RiskRejected String
  | _, expectedPrev, [] => .ok expectedPrev
  | index, expectedPrev, event :: rest => do
    let eventSha256 ← verifyLink sha index expectedPrev event
    verifyFrom sha (index + 1) eventSha256 rest

/-- `verify_passport`: the number of events, all of them verified. -/
def verifyPassport (sha : List UInt8 → String) (events : List PassportEvent) :
    Except RiskRejected Nat := do
  let _ ← verifyFrom sha 0 genesisSha256 events
  return events.length

/-! ### The events as a hash chain -/

/-- What a link holds beside its hashes. -/
structure PassportBody where
  eventType : String
  payload : Json
  createdAt : String

def passportChain (sha : List UInt8 → String) : HashChain PassportBody Unit RiskRejected where
  digestOf prior body := sha (passportLinkBytes body.eventType body.payload prior body.createdAt)
  genesis := genesisSha256
  start := ()
  accept _ _ _ := .ok ()
  broken index := ⟨.passportVerificationFailed, s!"passport[{index}].prev_sha256",
    "passport chain is broken (previous hash mismatch)"⟩
  forged index := ⟨.passportVerificationFailed, s!"passport[{index}].event_sha256",
    "passport link hash mismatch (tamper detected)"⟩

def PassportEvent.link (event : PassportEvent) : Option (Link PassportBody) := do
  let eventType ← event.text "event_type"
  let prevSha256 ← event.text "prev_sha256"
  let eventSha256 ← event.text "event_sha256"
  let createdAt ← event.text "created_at"
  return ⟨⟨eventType, (mappingOf (event.get "payload")).sorted, createdAt⟩, prevSha256, eventSha256⟩

/-- The bytes of a link do not show the order of the payload's fields. -/
theorem passportLinkBytes_sorted (eventType : String) (payload : Json) (prev created : String) :
    passportLinkBytes eventType payload.sorted prev created =
      passportLinkBytes eventType payload prev created := by
  simp only [passportLinkBytes, passportLinkValue, Json.canonicalBytes, Json.sortedFields,
    Json.canonicalBytes_sorted]

variable {sha : List UInt8 → String} {index : Nat} {prev last : String}
  {event : PassportEvent} {events : List PassportEvent}

theorem verifyLink_eq_ok : verifyLink sha index prev event = .ok last ↔
    ∃ link, event.link = some link ∧
      (passportChain sha).read index (prev, ()) link = .ok (last, ()) := by
  unfold verifyLink PassportEvent.link
  cases event.text "event_type" with
  | none => simp
  | some eventType =>
    cases event.text "prev_sha256" with
    | none => simp
    | some prevSha256 =>
      cases event.text "event_sha256" with
      | none => simp
      | some eventSha256 =>
        cases event.text "created_at" with
        | none => simp
        | some createdAt =>
          simp only [except_bind_eq_ok, throwIf_eq_ok, not_not, except_pure_eq_ok,
            Option.bind_eq_bind, Option.bind_some, Option.pure_def, Option.some.injEq,
            exists_eq_left', HashChain.read_eq_ok]
          have hsorted := passportLinkBytes_sorted eventType (mappingOf (event.get "payload"))
            prevSha256 createdAt
          constructor
          · rintro ⟨_, hprev, _, hsha, rfl⟩
            refine ⟨hprev, ?_, rfl, rfl⟩
            show sha (passportLinkBytes _ _ _ _) = _
            rw [hsorted, hsha]
          · rintro ⟨hprev, hsha, hlast, -⟩
            have hlink : sha (passportLinkBytes eventType
                (mappingOf (event.get "payload")).sorted prevSha256 createdAt) = eventSha256 := hsha
            rw [hsorted] at hlink
            exact ⟨(), hprev, (), hlink, hlast.symm⟩

theorem verifyFrom_eq_ok : verifyFrom sha index prev events = .ok last ↔
    ∃ links, events.map PassportEvent.link = links.map some ∧
      (passportChain sha).replayFrom index (prev, ()) links = .ok (last, ()) := by
  induction events generalizing index prev with
  | nil =>
    constructor
    · rintro h
      cases h
      exact ⟨[], rfl, rfl⟩
    · rintro ⟨links, hlinks, h⟩
      rw [List.map_nil, eq_comm, List.map_eq_nil_iff] at hlinks
      subst hlinks
      cases h
      rfl
  | cons event rest ih =>
    rw [verifyFrom, except_bind_eq_ok]
    constructor
    · rintro ⟨middle, hlink, hrest⟩
      obtain ⟨link, hlink, hread⟩ := verifyLink_eq_ok.mp hlink
      obtain ⟨links, hlinks, hreplay⟩ := ih.mp hrest
      refine ⟨link :: links, by rw [List.map_cons, List.map_cons, hlink, hlinks], ?_⟩
      exact except_bind_eq_ok.mpr ⟨(middle, ()), hread, hreplay⟩
    · rintro ⟨links, hlinks, hreplay⟩
      cases links with
      | nil => cases hlinks
      | cons link links =>
        obtain ⟨hlink, hmore⟩ := List.cons.inj hlinks
        obtain ⟨⟨middle, u⟩, hread, hrest⟩ := except_bind_eq_ok.mp hreplay
        exact ⟨middle, verifyLink_eq_ok.mpr ⟨link, hlink, hread⟩, ih.mpr ⟨links, hmore, hrest⟩⟩

/-- The events that the verifier accepts are a hash chain that reads. -/
theorem verifyPassport_eq_ok {n : Nat} : verifyPassport sha events = .ok n ↔ n = events.length ∧
    ∃ links last, events.map PassportEvent.link = links.map some ∧
      (passportChain sha).replay links = .ok (last, ()) := by
  rw [verifyPassport, except_bind_eq_ok]
  constructor
  · rintro ⟨last, hlast, hn⟩
    obtain ⟨links, hlinks, hreplay⟩ := verifyFrom_eq_ok.mp hlast
    exact ⟨(except_pure_eq_ok.mp hn).symm, links, last, hlinks, hreplay⟩
  · rintro ⟨rfl, links, last, hlinks, hreplay⟩
    exact ⟨last, verifyFrom_eq_ok.mpr ⟨links, hlinks, hreplay⟩, rfl⟩

/-! ### What the last hash determines -/

def lastEventSha256 (events : List PassportEvent) : Option Json :=
  events.getLast?.map fun event => event.get "event_sha256"

/-- The two events agree on type, payload, previous hash and time; the fields of a payload are
compared as a mapping's. -/
structure PassportEvent.Agrees (event event' : PassportEvent) : Prop where
  eventType : event.get "event_type" = event'.get "event_type"
  payload : (event.get "payload").sorted = (event'.get "payload").sorted
  prevSha256 : event.get "prev_sha256" = event'.get "prev_sha256"
  createdAt : event.get "created_at" = event'.get "created_at"

def PassportEvent.HasPayload (event : PassportEvent) : Prop :=
  ∃ field rest, event.get "payload" = .obj (field :: rest)

theorem PassportEvent.text_eq_some {key s : String} :
    event.text key = some s ↔ event.get key = .str s := by
  unfold PassportEvent.text
  cases event.get key <;> simp

theorem PassportEvent.link_eq_some {link : Link PassportBody} : event.link = some link ↔
    event.get "event_type" = .str link.body.eventType ∧
      (mappingOf (event.get "payload")).sorted = link.body.payload ∧
      event.get "prev_sha256" = .str link.prior ∧ event.get "event_sha256" = .str link.digest ∧
      event.get "created_at" = .str link.body.createdAt := by
  simp only [PassportEvent.link, Option.bind_eq_bind, Option.bind_eq_some_iff, text_eq_some,
    Option.pure_def, Option.some.injEq]
  constructor
  · rintro ⟨eventType, htype, prev, hprev, digest, hdigest, created, hcreated, rfl⟩
    exact ⟨htype, rfl, hprev, hdigest, hcreated⟩
  · rintro ⟨htype, hpayload, hprev, hdigest, hcreated⟩
    refine ⟨_, htype, _, hprev, _, hdigest, _, hcreated, ?_⟩
    rw [hpayload]

theorem PassportEvent.wellFormed_get (event : PassportEvent) (key : String) :
    (event.get key).wellFormed = true := by
  have hkeys := (Json.wellFormed_obj.mp event.wellFormed).1
  unfold PassportEvent.get Json.get
  cases h : (Json.obj event.fields).field? key with
  | none => rfl
  | some v =>
    exact (Json.wellFormed_obj.mp event.wellFormed).2 (key, v) ((Json.field?_eq_some hkeys).mp h)

theorem wellFormed_mappingOf {payload : Json} (h : payload.wellFormed = true) :
    (mappingOf payload).wellFormed = true := by
  cases payload with
  | obj fields => exact h
  | _ => rfl

def PassportBody.Hashed (body : PassportBody) : Prop :=
  body.payload.wellFormed = true ∧ body.payload.sorted = body.payload

theorem hashed_of_link {link : Link PassportBody} (h : event.link = some link) :
    link.body.Hashed := by
  obtain ⟨-, hpayload, -⟩ := PassportEvent.link_eq_some.mp h
  have hwell := wellFormed_mappingOf (event.wellFormed_get "payload")
  rw [PassportBody.Hashed, ← hpayload]
  exact ⟨Json.sorted_wellFormed hwell, Json.sorted_sorted hwell⟩

theorem wellFormed_linkValue {eventType prev created : String} {payload : Json}
    (h : payload.wellFormed = true) :
    (passportLinkValue eventType payload prev created).wellFormed = true := by
  refine Json.wellFormed_obj.mpr ⟨by simp, ?_⟩
  simp [h, Json.wellFormed]

/-- The bytes of a link determine what it holds. -/
theorem passportLinkBytes_injective {body body' : PassportBody} {prior prior' : String}
    (h : body.Hashed) (h' : body'.Hashed)
    (hbytes : passportLinkBytes body.eventType body.payload prior body.createdAt =
      passportLinkBytes body'.eventType body'.payload prior' body'.createdAt) :
    prior = prior' ∧ body = body' := by
  have hv := @wellFormed_linkValue body.eventType prior body.createdAt _ h.1
  have hw := @wellFormed_linkValue body'.eventType prior' body'.createdAt _ h'.1
  have hget : ∀ key,
      ((passportLinkValue body.eventType body.payload prior body.createdAt).get key).sorted =
        ((passportLinkValue body'.eventType body'.payload prior' body'.createdAt).get key).sorted := by
    intro key
    rw [← Json.get_sorted hv, ← Json.get_sorted hw, Json.canonicalBytes_injective hv hw hbytes]
  have htype : Json.str body.eventType = .str body'.eventType := hget "event_type"
  have hpayload : body.payload.sorted = body'.payload.sorted := hget "payload"
  have hprior : Json.str prior = .str prior' := hget "prev_sha256"
  have hcreated : Json.str body.createdAt = .str body'.createdAt := hget "created_at"
  rw [h.2, h'.2] at hpayload
  refine ⟨Json.str.inj hprior, ?_⟩
  cases body
  cases body'
  simp only [PassportBody.mk.injEq]
  exact ⟨Json.str.inj htype, hpayload, Json.str.inj hcreated⟩

theorem tip_of_lastEventSha256 {links : List (Link PassportBody)}
    (h : events.map PassportEvent.link = links.map some) :
    lastEventSha256 events = links.getLast?.map fun link => .str link.digest := by
  have hlast := congrArg List.getLast? h
  rw [List.getLast?_map, List.getLast?_map] at hlast
  unfold lastEventSha256
  cases hevents : events.getLast? with
  | none =>
    rw [hevents] at hlast
    cases hlinks : links.getLast? with
    | none => rfl
    | some link =>
      rw [hlinks] at hlast
      cases hlast
  | some event =>
    rw [hevents] at hlast
    cases hlinks : links.getLast? with
    | none =>
      rw [hlinks] at hlast
      cases hlast
    | some link =>
      rw [hlinks] at hlast
      have hlink := (PassportEvent.link_eq_some.mp (Option.some.inj hlast)).2.2.2.1
      rw [Option.map_some, Option.map_some, hlink]

/-- A payload with a field is hashed as it is: what is hashed alike is the same payload. -/
theorem sorted_payload {event' : PassportEvent} (h : event.HasPayload)
    (heq : (mappingOf (event.get "payload")).sorted = (mappingOf (event'.get "payload")).sorted) :
    (event.get "payload").sorted = (event'.get "payload").sorted := by
  obtain ⟨field, rest, hpayload⟩ := h
  have hlength : ∀ fields, (Json.sortFields fields).length = fields.length := fun fields => by
    rw [(Json.sortFields_perm fields).length_eq, List.length_map]
  rw [hpayload] at heq ⊢
  cases hother : event'.get "payload" with
  | obj fields =>
    rw [hother] at heq
    exact heq
  | _ =>
    -- the other payload is hashed as an empty mapping
    rw [hother] at heq
    have hempty : Json.sortFields (field :: rest) = [] := Json.obj.inj heq
    have hzero := hlength (field :: rest)
    rw [hempty] at hzero
    cases hzero

theorem agrees_of_links {events' : List PassportEvent} (hpayload : ∀ e ∈ events, e.HasPayload)
    {links : List (Link PassportBody)} (h : events.map PassportEvent.link = links.map some)
    (h' : events'.map PassportEvent.link = links.map some) :
    List.Forall₂ PassportEvent.Agrees events events' := by
  induction links generalizing events events' with
  | nil =>
    rw [List.map_nil, List.map_eq_nil_iff] at h h'
    subst h h'
    exact .nil
  | cons link links ih =>
    cases events with
    | nil => cases h
    | cons event rest =>
      cases events' with
      | nil => cases h'
      | cons event' rest' =>
        obtain ⟨hlink, hrest⟩ := List.cons.inj h
        obtain ⟨hlink', hrest'⟩ := List.cons.inj h'
        obtain ⟨htype, hbody, hprev, -, hcreated⟩ := PassportEvent.link_eq_some.mp hlink
        obtain ⟨htype', hbody', hprev', -, hcreated'⟩ := PassportEvent.link_eq_some.mp hlink'
        refine .cons ⟨htype.trans htype'.symm, ?_, hprev.trans hprev'.symm,
          hcreated.trans hcreated'.symm⟩ (ih (fun e he => hpayload e (List.mem_cons_of_mem _ he))
            hrest hrest')
        exact sorted_payload (hpayload event List.mem_cons_self) (hbody.trans hbody'.symm)

/-! ### A payload that is not hashed as it is -/

def PassportEvent.withPayload (event : PassportEvent) (payload : Json)
    (h : payload.wellFormed = true) : PassportEvent where
  fields := ("payload", payload) :: event.fields.filter fun kv => kv.1 != "payload"
  wellFormed := by
    obtain ⟨hkeys, hvalues⟩ := Json.wellFormed_obj.mp event.wellFormed
    refine Json.wellFormed_obj.mpr ⟨List.nodup_cons.mpr ⟨?_, ?_⟩, ?_⟩
    · intro hmem
      obtain ⟨kv, hkv, hkey⟩ := List.mem_map.mp hmem
      simp [hkey] at hkv
    · exact hkeys.sublist (List.filter_sublist.map _)
    · exact List.forall_mem_cons.mpr ⟨h, fun kv hkv => hvalues kv (List.mem_of_mem_filter hkv)⟩

theorem PassportEvent.get_withPayload {payload : Json} {h : payload.wellFormed = true} :
    (event.withPayload payload h).get "payload" = payload := rfl

theorem PassportEvent.get_withPayload_of_ne {payload : Json} {h : payload.wellFormed = true}
    {key : String} (hkey : key ≠ "payload") :
    (event.withPayload payload h).get key = event.get key := by
  have hfind : (("payload", payload) :: event.fields.filter fun kv => kv.1 != "payload").find?
      (fun kv => kv.1 == key) = event.fields.find? fun kv => kv.1 == key := by
    rw [List.find?_cons_of_neg (by simpa using hkey.symm), List.find?_filter]
    congr 1
    funext kv
    by_cases hkv : kv.1 = key
    · simp [hkv, hkey]
    · simp [hkv]
  show Option.getD (((("payload", payload) :: _).find? _).map Prod.snd) _ = _
  rw [hfind]
  rfl

/-- A payload that is hashed as another one may be replaced by it. -/
theorem PassportEvent.link_withPayload {payload : Json} {h : payload.wellFormed = true}
    (heq : mappingOf payload = mappingOf (event.get "payload")) :
    (event.withPayload payload h).link = event.link := by
  unfold PassportEvent.link PassportEvent.text
  rw [get_withPayload_of_ne (by decide), get_withPayload_of_ne (by decide),
    get_withPayload_of_ne (by decide), get_withPayload_of_ne (by decide), get_withPayload, heq]

/-- A payload without a field has another one that is hashed alike. -/
theorem PassportEvent.exists_other (h : ¬ event.HasPayload) : ∃ event' : PassportEvent,
    event'.link = event.link ∧ event'.get "event_sha256" = event.get "event_sha256" ∧
      ¬ event.Agrees event' := by
  have hempty : mappingOf (event.get "payload") = .obj [] := by
    cases hpayload : event.get "payload" with
    | obj fields =>
      cases fields with
      | nil => rfl
      | cons field rest => exact absurd ⟨field, rest, hpayload⟩ h
    | _ => rfl
  by_cases hobj : event.get "payload" = .obj []
  · refine ⟨event.withPayload .null rfl, link_withPayload hempty.symm,
      get_withPayload_of_ne (by decide), fun hagree => ?_⟩
    have hpayload := hagree.payload
    have hnull : (event.withPayload .null rfl).get "payload" = .null := get_withPayload
    rw [hobj, hnull] at hpayload
    cases hpayload
  · refine ⟨event.withPayload (.obj []) rfl, link_withPayload hempty.symm,
      get_withPayload_of_ne (by decide), fun hagree => ?_⟩
    have hpayload := hagree.payload
    have hblank : (event.withPayload (.obj []) rfl).get "payload" = .obj [] := get_withPayload
    rw [hblank] at hpayload
    cases hold : event.get "payload" with
    | obj fields =>
      rw [hold] at hempty
      exact hobj (hold.trans hempty)
    | null => rw [hold] at hpayload; cases hpayload
    | bool b => rw [hold] at hpayload; cases hpayload
    | int n => rw [hold] at hpayload; cases hpayload
    | real literal => rw [hold] at hpayload; cases hpayload
    | str s => rw [hold] at hpayload; cases hpayload
    | arr items => rw [hold] at hpayload; cases hpayload

/-- The last hash determines the events exactly if every payload is an object with a field, where
the hash determines the canonical bytes. -/
theorem passport_tamper_evident
    (hsha : ∀ v w : Json, v.wellFormed = true → w.wellFormed = true →
      sha v.canonicalBytes = sha w.canonicalBytes → v.canonicalBytes = w.canonicalBytes)
    {n : Nat} (h : verifyPassport sha events = .ok n) :
    (∀ events' n', verifyPassport sha events' = .ok n' → events'.length = events.length →
      lastEventSha256 events' = lastEventSha256 events →
        List.Forall₂ PassportEvent.Agrees events events') ↔
      ∀ event ∈ events, event.HasPayload := by
  obtain ⟨hn, links, last, hlinks, hreplay⟩ := verifyPassport_eq_ok.mp h
  constructor
  · intro hdetermined event hevent
    by_contra hpayload
    obtain ⟨event', hlink, hdigest, hdiffers⟩ := PassportEvent.exists_other hpayload
    obtain ⟨before, after, rfl⟩ := List.append_of_mem hevent
    have hmap : (before ++ event' :: after).map PassportEvent.link = links.map some := by
      rw [← hlinks, List.map_append, List.map_cons, List.map_append, List.map_cons, hlink]
    have hlast : lastEventSha256 (before ++ event' :: after) =
        lastEventSha256 (before ++ event :: after) := by
      rw [tip_of_lastEventSha256 hmap, tip_of_lastEventSha256 hlinks]
    have hlength : (before ++ event' :: after).length = (before ++ event :: after).length := by
      simp
    have hagrees := hdetermined (before ++ event' :: after) _
      (verifyPassport_eq_ok.mpr ⟨rfl, links, last, hmap, hreplay⟩) hlength hlast
    have htail := List.forall₂_drop before.length hagrees
    rw [List.drop_left, List.drop_left] at htail
    cases htail with
    | cons hhead _ => exact hdiffers hhead
  · intro hpayload events' n' h' hlength hlast
    obtain ⟨-, links', last', hlinks', hreplay'⟩ := verifyPassport_eq_ok.mp h'
    have hhashed : ∀ {es : List PassportEvent} {ls : List (Link PassportBody)},
        es.map PassportEvent.link = ls.map some → ∀ link ∈ ls, link.body.Hashed := by
      intro es ls hmap link hlink
      have hmem : some link ∈ ls.map some := List.mem_map.mpr ⟨link, hlink, rfl⟩
      rw [← hmap] at hmem
      obtain ⟨event, -, hevent⟩ := List.mem_map.mp hmem
      exact hashed_of_link hevent
    have hlen : links.length = links'.length := by
      have hl := congrArg List.length hlinks
      have hl' := congrArg List.length hlinks'
      simp only [List.length_map] at hl hl'
      omega
    have htip : (passportChain sha).tip links = (passportChain sha).tip links' := by
      rw [tip_of_lastEventSha256 hlinks, tip_of_lastEventSha256 hlinks'] at hlast
      unfold HashChain.tip
      cases hl : links.getLast? with
      | none =>
        cases hl' : links'.getLast? with
        | none => rfl
        | some link => rw [hl, hl'] at hlast; cases hlast
      | some link =>
        cases hl' : links'.getLast? with
        | none => rw [hl, hl'] at hlast; cases hlast
        | some link' =>
          rw [hl, hl'] at hlast
          exact (Json.str.inj (Option.some.inj hlast)).symm
    have hsame : links = links' := by
      refine HashChain.replay_unique (P := PassportBody.Hashed) ?_ hreplay hreplay' hlen
        (hhashed hlinks) (hhashed hlinks') htip
      intro prior body prior' body' hbody hbody' hdigest
      exact passportLinkBytes_injective hbody hbody' (hsha _ _ (wellFormed_linkValue hbody.1)
        (wellFormed_linkValue hbody'.1) hdigest)
    exact agrees_of_links hpayload hlinks (hsame ▸ hlinks')

/-! One event, hashed by a function that is SHA-256 on it and is injective. -/

namespace July

/-- SHA-256 on some bytes; everywhere else the bytes themselves, marked. -/
def shaAt (bytes : List UInt8) : List UInt8 → String := fun other =>
  if other = bytes then Sha256.hexdigest bytes
  else "x" ++ String.ofList (other.map fun b => Char.ofNat b.toNat)

theorem shaAt_injective {bytes : List UInt8}
    (h : (Sha256.hexdigest bytes).toList.head? ≠ some 'x') : (shaAt bytes).Injective := by
  have hchar : Function.Injective fun b : UInt8 => Char.ofNat b.toNat := by
    intro b c hbc
    have hnat : ∀ n ∈ List.range 256, (Char.ofNat n).toNat = n := by decide +kernel
    have hb := hnat b.toNat (List.mem_range.mpr b.toNat_lt)
    have hc := hnat c.toNat (List.mem_range.mpr c.toNat_lt)
    exact UInt8.toNat_inj.mp (hb.symm.trans ((congrArg Char.toNat hbc).trans hc))
  have hmarked : ∀ l : List Char, ("x" ++ String.ofList l).toList = 'x' :: l := fun l => by
    rw [String.toList_append, String.toList_ofList, String.toList_ofList, List.singleton_append]
  intro v w hvw
  unfold shaAt at hvw
  split_ifs at hvw with hv hw hw
  · rw [hv, hw]
  · rw [hvw, hmarked] at h
    exact absurd rfl h
  · rw [← hvw, hmarked] at h
    exact absurd rfl h
  · have hlist := congrArg String.toList hvw
    rw [hmarked, hmarked] at hlist
    exact List.map_injective_iff.mpr hchar (List.cons.inj hlist).2

/-- The first event of a ledger, with this payload hashed as `hashed`. -/
def firstEvent (payload hashed : Json) (h : payload.wellFormed = true) : PassportEvent where
  fields := [
    ("seq", .int 1),
    ("event_type", .str "ABSTAINED"),
    ("payload", payload),
    ("prev_sha256", .str genesisSha256),
    ("event_sha256", .str (Sha256.hexdigest
      (passportLinkBytes "ABSTAINED" hashed genesisSha256 "2026-07-01T15:00:00Z"))),
    ("created_at", .str "2026-07-01T15:00:00Z")]
  wellFormed := by
    refine Json.wellFormed_obj.mpr ⟨by simp, ?_⟩
    simp [h, Json.wellFormed]

def firstBytes (hashed : Json) : List UInt8 :=
  passportLinkBytes "ABSTAINED" hashed genesisSha256 "2026-07-01T15:00:00Z"

theorem verifyPassport_firstEvent {payload hashed : Json} {h : payload.wellFormed = true}
    (heq : mappingOf payload = hashed) :
    verifyPassport (shaAt (firstBytes hashed)) [firstEvent payload hashed h] = .ok 1 := by
  have hsha : shaAt (firstBytes hashed) (firstBytes hashed) = Sha256.hexdigest (firstBytes hashed) :=
    if_pos rfl
  have hlink : verifyLink (shaAt (firstBytes hashed)) 0 genesisSha256 (firstEvent payload hashed h) =
      .ok (Sha256.hexdigest (firstBytes hashed)) := by
    show (do
      throwIf (genesisSha256 ≠ genesisSha256) _
      throwIf (shaAt (firstBytes hashed) (passportLinkBytes "ABSTAINED" (mappingOf payload)
        genesisSha256 "2026-07-01T15:00:00Z") ≠ Sha256.hexdigest (firstBytes hashed)) _
      pure (Sha256.hexdigest (firstBytes hashed)) : Except RiskRejected String) = _
    rw [heq]
    refine except_bind_eq_ok.mpr ⟨(), throwIf_eq_ok.mpr (not_not.mpr rfl), ?_⟩
    exact except_bind_eq_ok.mpr ⟨(), throwIf_eq_ok.mpr (not_not.mpr hsha), rfl⟩
  rw [verifyPassport, verifyFrom, hlink]
  rfl

def reasonPayload : Json := .obj [("reason", .str "no edge")]

theorem passport_tamper_evident_reason :
    verifyPassport (shaAt (firstBytes reasonPayload))
      [firstEvent reasonPayload reasonPayload (by decide)] = .ok 1 ∧
    ∀ events' n', verifyPassport (shaAt (firstBytes reasonPayload)) events' = .ok n' →
      events'.length = [firstEvent reasonPayload reasonPayload (by decide)].length →
      lastEventSha256 events' =
        lastEventSha256 [firstEvent reasonPayload reasonPayload (by decide)] →
      List.Forall₂ PassportEvent.Agrees [firstEvent reasonPayload reasonPayload (by decide)]
        events' :=
  ⟨verifyPassport_firstEvent rfl, (passport_tamper_evident
    (fun _ _ _ _ h => @shaAt_injective (firstBytes reasonPayload) (by decide +kernel) _ _ h)
    (verifyPassport_firstEvent rfl)).mpr fun event hevent => by
      rw [List.mem_singleton.mp hevent]
      exact ⟨("reason", .str "no edge"), [], rfl⟩⟩

/-- The payload `null` in the place of an empty object is accepted too. -/
theorem passport_tamper_blank : ∃ sha : List UInt8 → String, sha.Injective ∧
    ∃ events events', verifyPassport sha events = .ok 1 ∧ verifyPassport sha events' = .ok 1 ∧
      events.length = events'.length ∧ lastEventSha256 events = lastEventSha256 events' ∧
      ¬ List.Forall₂ PassportEvent.Agrees events events' := by
  refine ⟨shaAt (firstBytes (.obj [])), shaAt_injective (by decide +kernel),
    [firstEvent (.obj []) (.obj []) rfl], [firstEvent .null (.obj []) rfl],
    verifyPassport_firstEvent rfl, verifyPassport_firstEvent rfl, rfl, rfl, ?_⟩
  intro hagrees
  cases hagrees with
  | cons hhead _ =>
    have hpayload : (Json.obj []).sorted = Json.null.sorted := hhead.payload
    cases hpayload

end July

end EsscherMarket.Risk
