import Mathlib.Data.List.Forall2
import EsscherMarket.Contracts.SecurityLineage

/-!
# Ticker identity

What an accepted lineage says of tickers and of listing periods.
-/

namespace EsscherMarket.Contracts

open Lib

/-! ### When a document is accepted -/

/-- The cross checks of a lineage pass. -/
structure LineageFields.Accepted (l : LineageFields) : Prop where
  issuers : checkIssuers l.issuers = .ok ()
  securities : checkSecurities l.issuers l.securities = .ok ()
  listings : checkListings l.securities l.listings = .ok ()
  actions : checkActions l.issuers l.actions = .ok ()
  chains : checkChains l.issuers l.securities l.listings l.chains = .ok ()

/-- The parts of a document have their shape and hold these values. -/
structure Reads (f : Json.FloatRepr) (doc : PyJson) (l : LineageFields) : Prop where
  header : checkHeader f doc = .ok ()
  issuers : someItems parseIssuer (doc.get "issuers") = some l.issuers
  securities : someItems parseSecurity (doc.get "securities") = some l.securities
  listings : someItems parseListing (doc.get "listings") = some l.listings
  actions : itemsOf parseAction (doc.get "actions") = some l.actions
  chains : someItems parseChain (doc.get "chains") = some l.chains
  lineageVersion : text (doc.get "lineage_version") = some l.lineageVersion
  decidedAt : timestamp (doc.get "decided_at") = some l.decidedAt
  policySha256 : sha256Text (doc.get "policy_sha256") = some l.policySha256
  sourceMatrixSha256 : sha256Text (doc.get "source_matrix_sha256") = some l.sourceMatrixSha256
  adjustmentPolicy : checkAdjustmentPolicy (doc.get "adjustment_policy") = some ()

theorem orMalformed_eq_ok {α : Type} {o : Option α} {a : α} : orMalformed o = .ok a ↔ o = some a := by
  cases o <;> simp [orMalformed]

theorem forM_eq_ok {α ε : Type} {check : α → Except ε Unit} : ∀ {as : List α},
    as.forM check = .ok () ↔ ∀ a ∈ as, check a = .ok ()
  | [] => by simp [except_pure_eq_ok]
  | a :: as => by
    show (check a >>= fun _ => as.forM check) = .ok () ↔ _
    rw [except_bind_eq_ok, List.forall_mem_cons, ← forM_eq_ok, Unique.exists_iff]

theorem parseDocument_eq_ok {f : Json.FloatRepr} {doc : PyJson} {l : LineageFields} :
    parseDocument f doc = .ok l ↔ Reads f doc l ∧ l.Accepted := by
  simp only [parseDocument, except_bind_eq_ok, except_pure_eq_ok, orMalformed_eq_ok,
    Unique.exists_iff]
  constructor
  · rintro ⟨h₁, issuers, h₂, h₃, securities, h₄, h₅, listings, h₆, h₇, actions, h₈, h₉, chains, h₁₀,
      h₁₁, version, h₁₂, decidedAt, h₁₃, policy, h₁₄, matrix, h₁₅, h₁₆, rfl⟩
    exact ⟨⟨h₁, h₂, h₄, h₆, h₈, h₁₀, h₁₂, h₁₃, h₁₄, h₁₅, h₁₆⟩, h₃, h₅, h₇, h₉, h₁₁⟩
  · rintro ⟨hr, ha⟩
    exact ⟨hr.header, _, hr.issuers, ha.issuers, _, hr.securities, ha.securities, _, hr.listings,
      ha.listings, _, hr.actions, ha.actions, _, hr.chains, ha.chains, _, hr.lineageVersion, _,
      hr.decidedAt, _, hr.policySha256, _, hr.sourceMatrixSha256, hr.adjustmentPolicy, rfl⟩

/-! ### Listing periods -/

def ListingRecord.EndsBefore (a b : ListingRecord) : Prop :=
  ∃ t, a.listedTo = some t ∧ t ≤ b.listedFrom

theorem pairwise_of_not_overlapping : ∀ {ls : List ListingRecord}, overlapping ls = false →
    ls.Pairwise ListingRecord.EndsBefore
  | [], _ => .nil
  | [a], _ => List.pairwise_singleton _ a
  | a :: b :: rest, h => by
    rw [overlapping, Bool.or_eq_false_iff] at h
    obtain ⟨hends, hrest⟩ := h
    have ih := pairwise_of_not_overlapping hrest
    obtain ⟨t, hto, hle⟩ : a.EndsBefore b := by
      rw [Bool.not_eq_false', Option.any_eq_true] at hends
      obtain ⟨t, hto, hle⟩ := hends
      exact ⟨t, hto, of_decide_eq_true hle⟩
    refine List.pairwise_cons.mpr ⟨?_, ih⟩
    intro c hc
    rcases List.mem_cons.mp hc with rfl | hc
    · exact ⟨t, hto, hle⟩
    · obtain ⟨u, hu, hlater⟩ := (List.pairwise_cons.mp ih).1 c hc
      have horder := b.ordered u hu
      exact ⟨t, hto, by omega⟩

theorem length_filter_activeOn {ls : List ListingRecord}
    (h : ls.Pairwise ListingRecord.EndsBefore) (day : Int) :
    (ls.filter fun l => l.activeOn day).length ≤ 1 := by
  have hactive : ∀ l ∈ ls.filter fun l => l.activeOn day, l.activeOn day = true := fun l hl =>
    (List.mem_filter.mp hl).2
  have hpairs := h.filter fun l => l.activeOn day
  cases hfilter : ls.filter fun l => l.activeOn day with
  | nil => exact Nat.zero_le 1
  | cons a rest =>
    cases rest with
    | nil => exact Nat.le_refl 1
    | cons b rest =>
      rw [hfilter] at hactive hpairs
      obtain ⟨t, hto, hle⟩ := (List.pairwise_cons.mp hpairs).1 b List.mem_cons_self
      have ha := hactive a List.mem_cons_self
      have hb := hactive b (List.mem_cons_of_mem _ List.mem_cons_self)
      simp only [ListingRecord.activeOn, hto, Option.all_some, Bool.and_eq_true,
        decide_eq_true_eq] at ha hb
      omega

theorem length_active_le_one {l : LineageFields} (h : l.Accepted) (id : String) (day : Int) :
    (l.listings.filter fun r => r.securityId == id && r.activeOn day).length ≤ 1 := by
  have hperiods := h.listings
  simp only [checkListings, validateListingPeriods, except_bind_eq_ok, throwIf_eq_ok,
    List.any_eq_true, not_exists, not_and, Bool.not_eq_true] at hperiods
  obtain ⟨-, -, -, -, hperiods⟩ := hperiods
  have hsplit : (l.listings.filter fun r => r.securityId == id && r.activeOn day) =
      (l.listings.filter fun r => r.securityId == id).filter fun r => r.activeOn day := by
    rw [List.filter_filter]
    exact List.filter_congr fun r _ => Bool.and_comm _ _
  rw [hsplit]
  by_cases hid : id ∈ l.listings.map (·.securityId)
  · have hpairs := pairwise_of_not_overlapping (hperiods id hid)
    have hperm := List.mergeSort_perm (l.listings.filter fun r => r.securityId == id) listedBefore
    have hle := length_filter_activeOn hpairs day
    rwa [(hperm.filter fun r => r.activeOn day).length_eq] at hle
  · have hnone : (l.listings.filter fun r => r.securityId == id) = [] := by
      rw [List.filter_eq_nil_iff]
      intro r hr heq
      exact hid (List.mem_map.mpr ⟨r, hr, beq_iff_eq.mp heq⟩)
    rw [hnone]
    exact Nat.zero_le 1

/-! ### Chains -/

/-- The issuer and the security of a ticker entry that is valid for the chain's ticker on its
day. -/
def Bound (l : LineageFields) (chain : LineageChain) (issuerId securityId : String) : Prop :=
  ∃ issuer ∈ l.issuers, ∃ entry ∈ issuer.tickers,
    entry.covers chain.tickerAtCutoff chain.cutoffDate = true ∧
      issuer.issuerId = issuerId ∧ entry.securityId = securityId

/-- Another issuer has the chain's ticker on its day, or the chain's issuer has it for another
security. -/
def Contested (l : LineageFields) (chain : LineageChain) : Prop :=
  ∃ issuer ∈ l.issuers, ∃ entry ∈ issuer.tickers,
    entry.covers chain.tickerAtCutoff chain.cutoffDate = true ∧
      (issuer.issuerId ≠ chain.issuerId ∨ entry.securityId ≠ chain.securityId)

instance (l : LineageFields) (chain : LineageChain) : Decidable (Contested l chain) :=
  inferInstanceAs (Decidable (∃ issuer ∈ l.issuers, ∃ entry ∈ issuer.tickers,
    entry.covers chain.tickerAtCutoff chain.cutoffDate = true ∧
      (issuer.issuerId ≠ chain.issuerId ∨ entry.securityId ≠ chain.securityId)))

def Unambiguous (l : LineageFields) (chain : LineageChain) : Prop :=
  ∀ issuerId securityId, Bound l chain issuerId securityId ↔
    issuerId = chain.issuerId ∧ securityId = chain.securityId

section Chain

variable {issuers : List IssuerIdentity} {securities : List SecurityIdentity}
  {listings : List ListingRecord} {chain : LineageChain}

theorem validateChain_eq_ok : validateChain issuers securities listings chain = .ok () ↔
    ∃ issuer entry, (issuers.find? fun i => i.issuerId == chain.issuerId) = some issuer ∧
      ((securities.find? fun s => s.securityId == chain.securityId).any fun s =>
        s.issuerId == chain.issuerId) = true ∧
      ((listings.find? fun l => l.listingId == chain.listingId).any fun l =>
        l.securityId == chain.securityId) = true ∧
      (issuer.tickers.find? fun e => e.covers chain.tickerAtCutoff chain.cutoffDate) = some entry ∧
      entry.securityId = chain.securityId := by
  rw [validateChain]
  cases issuers.find? fun i => i.issuerId == chain.issuerId with
  | none => simp
  | some issuer =>
    simp only [except_bind_eq_ok, throwIf_eq_ok, not_not, Unique.exists_iff]
    cases hentry : issuer.tickers.find? fun e => e.covers chain.tickerAtCutoff chain.cutoffDate with
    | none => simp [hentry, except_bind_eq_ok]
    | some entry => simp [hentry, throwIf_eq_ok]

end Chain

theorem LineageFields.Accepted.validated {l : LineageFields} (h : l.Accepted) {chain : LineageChain}
    (hchain : chain ∈ l.chains) :
    validateChain l.issuers l.securities l.listings chain = .ok () := by
  have hchains := h.chains
  rw [checkChains, except_bind_eq_ok] at hchains
  obtain ⟨-, -, hchains⟩ := hchains
  exact (forM_eq_ok.mp hchains) chain hchain

/-- A validated chain has its own identity. -/
theorem LineageFields.Accepted.bound {l : LineageFields} (h : l.Accepted) {chain : LineageChain}
    (hchain : chain ∈ l.chains) : Bound l chain chain.issuerId chain.securityId := by
  obtain ⟨issuer, entry, hissuer, -, -, hentry, hsecurity⟩ :=
    validateChain_eq_ok.mp (h.validated hchain)
  have hid := List.find?_some hissuer
  have hcovers := List.find?_some hentry
  exact ⟨issuer, List.mem_of_find?_eq_some hissuer, entry, List.mem_of_find?_eq_some hentry,
    hcovers, beq_iff_eq.mp hid, hsecurity⟩

theorem unambiguous_iff {l : LineageFields} (h : l.Accepted) {chain : LineageChain}
    (hchain : chain ∈ l.chains) : Unambiguous l chain ↔ ¬Contested l chain := by
  constructor
  · rintro hunique ⟨issuer, hissuer, entry, hentry, hcovers, hother⟩
    have hown := (hunique issuer.issuerId entry.securityId).mp
      ⟨issuer, hissuer, entry, hentry, hcovers, rfl, rfl⟩
    exact hother.elim (fun hne => hne hown.1) fun hne => hne hown.2
  · intro hfree issuerId securityId
    constructor
    · rintro ⟨issuer, hissuer, entry, hentry, hcovers, rfl, rfl⟩
      by_contra hne
      refine hfree ⟨issuer, hissuer, entry, hentry, hcovers, ?_⟩
      rwa [not_and_or] at hne
    · rintro ⟨rfl, rfl⟩
      exact h.bound hchain

/-! ### Another order -/

/-- The same issuer with its ticker entries in another order. -/
structure SameIssuer (i j : IssuerIdentity) : Prop where
  issuerId : i.issuerId = j.issuerId
  names : i.names = j.names
  tickers : i.tickers.Perm j.tickers

/-- The same issuers in another order, with their ticker entries in another order. -/
def Reordered (issuers issuers' : List IssuerIdentity) : Prop :=
  ∃ between, List.Forall₂ SameIssuer issuers between ∧ between.Perm issuers'

section Order

variable {issuers issuers' : List IssuerIdentity}

theorem Reordered.ids (h : Reordered issuers issuers') :
    (issuers.map (·.issuerId)).Perm (issuers'.map (·.issuerId)) := by
  obtain ⟨between, hsame, hperm⟩ := h
  have hids : issuers.map (·.issuerId) = between.map (·.issuerId) := by
    clear hperm
    induction hsame with
    | nil => rfl
    | cons hfirst hrest ih => rw [List.map_cons, List.map_cons, hfirst.issuerId, ih]
  rw [hids]
  exact hperm.map _

theorem Reordered.exists_same (h : Reordered issuers issuers') {i : IssuerIdentity}
    (hi : i ∈ issuers) : ∃ j ∈ issuers', SameIssuer i j := by
  obtain ⟨between, hsame, hperm⟩ := h
  induction hsame generalizing issuers' with
  | nil => cases hi
  | @cons a b as bs hfirst hrest ih =>
    rcases List.mem_cons.mp hi with rfl | hi
    · exact ⟨b, hperm.subset List.mem_cons_self, hfirst⟩
    · obtain ⟨j, hj, hij⟩ := ih hi (List.Perm.refl _)
      exact ⟨j, hperm.subset (List.mem_cons_of_mem _ hj), hij⟩

theorem Reordered.any (h : Reordered issuers issuers') (id : String) :
    (issuers.any fun i => i.issuerId == id) = issuers'.any fun i => i.issuerId == id := by
  have hmem := h.ids.mem_iff (a := id)
  rw [Bool.eq_iff_iff, List.any_eq_true, List.any_eq_true]
  simp only [beq_iff_eq]
  rw [List.mem_map, List.mem_map] at hmem
  exact hmem

theorem find?_issuer {i : IssuerIdentity} (hnodup : (issuers.map (·.issuerId)).Nodup)
    (hi : i ∈ issuers) : (issuers.find? fun j => j.issuerId == i.issuerId) = some i := by
  cases hfind : issuers.find? fun j => j.issuerId == i.issuerId with
  | none => exact absurd (beq_self_eq_true i.issuerId) (by simpa using List.find?_eq_none.mp hfind i hi)
  | some j =>
    have hid := List.find?_some hfind
    rw [List.inj_on_of_nodup_map hnodup (List.mem_of_find?_eq_some hfind) hi (beq_iff_eq.mp hid)]

end Order

theorem accepted_reordered {l : LineageFields} (h : l.Accepted)
    (hfree : ∀ chain ∈ l.chains, ¬Contested l chain) {issuers' : List IssuerIdentity}
    (horder : Reordered l.issuers issuers') :
    LineageFields.Accepted { l with issuers := issuers' } := by
  have hids := h.issuers
  rw [checkIssuers, throwIf_eq_ok, not_not] at hids
  have hids' : (issuers'.map (·.issuerId)).Nodup := horder.ids.nodup_iff.mp hids
  have hchains := h.chains
  rw [checkChains, except_bind_eq_ok] at hchains
  obtain ⟨⟨⟩, hevents, -⟩ := hchains
  refine ⟨?_, ?_, h.listings, ?_, ?_⟩
  · rw [checkIssuers, throwIf_eq_ok, not_not]
    exact hids'
  · have hsecurities := h.securities
    simp only [checkSecurities, horder.any] at hsecurities ⊢
    exact hsecurities
  · have hactions := h.actions
    simp only [checkActions, horder.any] at hactions ⊢
    exact hactions
  · rw [checkChains, except_bind_eq_ok]
    refine ⟨(), hevents, forM_eq_ok.mpr ?_⟩
    intro chain hchain
    obtain ⟨issuer, entry, hissuer, hsecurity, hlisting, hentry, -⟩ :=
      validateChain_eq_ok.mp (h.validated hchain)
    have hid := List.find?_some hissuer
    rw [beq_iff_eq] at hid
    have hcovers := List.find?_some hentry
    obtain ⟨issuer', hmem, hsame⟩ := horder.exists_same (List.mem_of_find?_eq_some hissuer)
    -- the entry that is found in the other order is one of the issuer's entries
    have hentry' : entry ∈ issuer'.tickers :=
      hsame.tickers.subset (List.mem_of_find?_eq_some hentry)
    obtain ⟨found, hfound⟩ : ∃ found, (issuer'.tickers.find? fun e =>
        e.covers chain.tickerAtCutoff chain.cutoffDate) = some found :=
      Option.isSome_iff_exists.mp (List.find?_isSome.mpr ⟨entry, hentry', hcovers⟩)
    have hfoundCovers := List.find?_some hfound
    refine validateChain_eq_ok.mpr ⟨issuer', found, ?_, hsecurity, hlisting, hfound, ?_⟩
    · rw [← hid, hsame.issuerId]
      exact find?_issuer hids' hmem
    · by_contra hne
      refine hfree chain hchain ⟨issuer, List.mem_of_find?_eq_some hissuer, found,
        hsame.tickers.symm.subset (List.mem_of_find?_eq_some hfound), hfoundCovers, .inr hne⟩

/-! ### Documents in another order -/

/-- The same issuer object with its tickers in another order. -/
structure ReordersTickers (v w : PyJson) : Prop where
  keys : ∀ fields, v.hasKeys fields = w.hasKeys fields
  fields : ∀ key, key ≠ "tickers" → v.get key = w.get key
  tickers : ∃ items items', v.get "tickers" = .arr items ∧ w.get "tickers" = .arr items' ∧
    items.Perm items'

/-- The same document with its issuers and their tickers in another order. -/
structure ReordersIssuers (doc doc' : PyJson) : Prop where
  keys : ∀ fields, doc.hasKeys fields = doc'.hasKeys fields
  fields : ∀ key, key ≠ "issuers" → doc.get key = doc'.get key
  issuers : ∃ items between items', doc.get "issuers" = .arr items ∧
    List.Forall₂ ReordersTickers items between ∧ between.Perm items' ∧
    doc'.get "issuers" = .arr items'

theorem mapM_eq_some {α β : Type} {f : α → Option β} : ∀ {as : List α} {bs : List β},
    as.mapM f = some bs ↔ List.Forall₂ (fun a b => f a = some b) as bs
  | [], bs => by simp [eq_comm]
  | a :: as, bs => by
    rw [List.mapM_cons, Option.bind_eq_bind, Option.bind_eq_some_iff]
    constructor
    · rintro ⟨b, hb, h⟩
      obtain ⟨rest, hrest, h⟩ := Option.bind_eq_some_iff.mp h
      cases h
      exact .cons hb (mapM_eq_some.mp hrest)
    · rintro (_ | ⟨hb, hrest⟩)
      exact ⟨_, hb, Option.bind_eq_some_iff.mpr ⟨_, mapM_eq_some.mpr hrest, rfl⟩⟩

/-- A reader that reads the items reads them in another order. -/
theorem mapM_perm {α β : Type} {f : α → Option β} {as as' : List α} {bs : List β}
    (hperm : as.Perm as') (h : as.mapM f = some bs) :
    ∃ bs', as'.mapM f = some bs' ∧ bs.Perm bs' := by
  obtain ⟨bs', hbs', hperm'⟩ := List.perm_comp_forall₂ hperm.symm (mapM_eq_some.mp h)
  exact ⟨bs', mapM_eq_some.mpr hbs', hperm'.symm⟩

theorem someItems_eq_some {α : Type} {reader : PyJson → Option α} {v : PyJson} {as : List α} :
    someItems reader v = some as ↔ ∃ items, v = .arr items ∧ items.mapM reader = some as ∧ as ≠ [] := by
  rw [someItems, Option.filter_eq_some_iff]
  cases v <;> simp [itemsOf]

theorem someItems_perm {α : Type} {reader : PyJson → Option α} {items items' : List PyJson}
    {as : List α} (hperm : items.Perm items') (h : someItems reader (.arr items) = some as) :
    ∃ as', someItems reader (.arr items') = some as' ∧ as.Perm as' := by
  obtain ⟨_, hitems, hread, hne⟩ := someItems_eq_some.mp h
  cases hitems
  obtain ⟨as', hread', hperm'⟩ := mapM_perm hperm hread
  refine ⟨as', someItems_eq_some.mpr ⟨items', rfl, hread', ?_⟩, hperm'⟩
  rintro rfl
  exact hne hperm'.eq_nil

/-- An issuer object with its tickers in another order is read as the same issuer. -/
theorem parseIssuer_reordered {v w : PyJson} (h : ReordersTickers v w) {i : IssuerIdentity}
    (hi : parseIssuer v = some i) : ∃ j, parseIssuer w = some j ∧ SameIssuer i j := by
  obtain ⟨items, items', hv, hw, hperm⟩ := h.tickers
  simp only [parseIssuer, Option.bind_eq_bind, Option.bind_eq_some_iff] at hi
  obtain ⟨u, hobject, issuerId, hissuerId, names, hnames, tickers, htickers, hi⟩ := hi
  cases hi
  rw [hv] at htickers
  obtain ⟨tickers', htickers', hperm'⟩ := someItems_perm hperm htickers
  refine ⟨⟨issuerId, names, tickers'⟩, ?_, rfl, rfl, hperm'⟩
  have hobject' : strictObject ["issuer_id", "names", "tickers"] w = some u := by
    rw [strictObject, ← h.keys]
    exact hobject
  simp only [parseIssuer, Option.bind_eq_bind, Option.bind_eq_some_iff]
  refine ⟨u, hobject', issuerId, ?_, names, ?_, tickers', ?_, rfl⟩
  · rw [← h.fields "issuer_id" (by decide), hissuerId]
  · rw [← h.fields "names" (by decide), hnames]
  · rw [hw, htickers']

theorem parseIssuers_reordered {items between : List PyJson} {issuers : List IssuerIdentity}
    (h : List.Forall₂ ReordersTickers items between) (hread : items.mapM parseIssuer = some issuers) :
    ∃ issuers', between.mapM parseIssuer = some issuers' ∧
      List.Forall₂ SameIssuer issuers issuers' := by
  have hparsed := mapM_eq_some.mp hread
  clear hread
  induction h generalizing issuers with
  | nil =>
    cases hparsed
    exact ⟨[], rfl, .nil⟩
  | @cons v w vs ws hfirst hrest ih =>
    cases hparsed with
    | cons hi hmore =>
      obtain ⟨j, hj, hsame⟩ := parseIssuer_reordered hfirst hi
      obtain ⟨js, hjs, hall⟩ := ih hmore
      exact ⟨j :: js, mapM_eq_some.mpr (.cons hj (mapM_eq_some.mp hjs)), .cons hsame hall⟩

theorem Reads.reordered {f : Json.FloatRepr} {doc doc' : PyJson} {l : LineageFields}
    (h : Reads f doc l) (horder : ReordersIssuers doc doc') :
    ∃ issuers', Reordered l.issuers issuers' ∧ Reads f doc' { l with issuers := issuers' } := by
  obtain ⟨items, between, items', hitems, hsame, hperm, hitems'⟩ := horder.issuers
  obtain ⟨_, hdoc, hread, hne⟩ := someItems_eq_some.mp (hitems ▸ h.issuers)
  cases hdoc
  obtain ⟨middle, hmiddle, hmates⟩ := parseIssuers_reordered hsame hread
  have hsome : someItems parseIssuer (.arr between) = some middle := by
    refine someItems_eq_some.mpr ⟨between, rfl, hmiddle, ?_⟩
    rintro rfl
    exact hne (List.forall₂_nil_right_iff.mp hmates)
  obtain ⟨issuers', hissuers', hperm'⟩ := someItems_perm hperm hsome
  refine ⟨issuers', ⟨middle, hmates, hperm'⟩, ?_⟩
  have hget : ∀ key, key ≠ "issuers" → doc'.get key = doc.get key := fun key hkey =>
    (horder.fields key hkey).symm
  have hheader : checkHeader f doc' = .ok () := by
    have hkeys : ∀ fields, strictObject fields doc' = strictObject fields doc := fun fields => by
      rw [strictObject, strictObject, horder.keys]
    rw [checkHeader, hkeys, hget _ (by decide), hget _ (by decide), hget _ (by decide),
      hget _ (by decide)]
    exact h.header
  refine ⟨hheader, hitems' ▸ hissuers', ?_, ?_, ?_, ?_, ?_, ?_, ?_, ?_, ?_⟩
  · rw [hget _ (by decide)]; exact h.securities
  · rw [hget _ (by decide)]; exact h.listings
  · rw [hget _ (by decide)]; exact h.actions
  · rw [hget _ (by decide)]; exact h.chains
  · rw [hget _ (by decide)]; exact h.lineageVersion
  · rw [hget _ (by decide)]; exact h.decidedAt
  · rw [hget _ (by decide)]; exact h.policySha256
  · rw [hget _ (by decide)]; exact h.sourceMatrixSha256
  · rw [hget _ (by decide)]; exact h.adjustmentPolicy

/-- On every day at most one listing of a security is active, and the tickers of an accepted
document are unambiguous exactly where no chain is contested. -/
theorem tickerIdentity_iff {f : Json.FloatRepr} {doc : PyJson} {l : LineageFields}
    (h : parseDocument f doc = .ok l) :
    ((∀ chain ∈ l.chains, Unambiguous l chain) ∧
      (∀ doc', ReordersIssuers doc doc' → ∃ l', parseDocument f doc' = .ok l') ∧
      ∀ id day, (l.listings.filter fun r => r.securityId == id && r.activeOn day).length ≤ 1) ↔
    ∀ chain ∈ l.chains, ¬Contested l chain := by
  obtain ⟨hreads, haccepted⟩ := parseDocument_eq_ok.mp h
  constructor
  · rintro ⟨hunique, -, -⟩ chain hchain
    exact (unambiguous_iff haccepted hchain).mp (hunique chain hchain)
  · intro hfree
    refine ⟨fun chain hchain => (unambiguous_iff haccepted hchain).mpr (hfree chain hchain), ?_,
      length_active_le_one haccepted⟩
    intro doc' horder
    obtain ⟨issuers', hissuers, hreads'⟩ := hreads.reordered horder
    exact ⟨_, parseDocument_eq_ok.mpr ⟨hreads', accepted_reordered haccepted hfree hissuers⟩⟩

/-! ### Two issuers with one ticker -/

/-- `repr` on literals as they are. -/
def literalRepr : Json.FloatRepr := .literals

/-- The values of a document, by name and as texts. -/
def objectOf (fields : List (String × PyJson)) : PyJson :=
  .obj (fields.map fun kv => (PyText.of kv.1, kv.2))

def textOf (s : String) : PyJson := .str (PyText.of s)

def sampleProvenance : PyJson :=
  objectOf [("source_class", textOf "SYNTHETIC_FIXTURE"), ("record_id", textOf "record"),
    ("retrieved_at", textOf "2026-01-01T00:00:00Z"), ("content_sha256", .null)]

/-- An issuer with the ticker `ABC` since 2020. -/
def sampleIssuer (issuerId securityId : String) : PyJson :=
  objectOf [("issuer_id", textOf issuerId),
    ("names", .arr [objectOf [("name", textOf "Name"),
      ("effective_from", textOf "2020-01-01T00:00:00Z"), ("provenance", sampleProvenance)]]),
    ("tickers", .arr [objectOf [("ticker", textOf "ABC"), ("security_id", textOf securityId),
      ("valid_from", textOf "2020-01-01"), ("valid_to", .null), ("provenance", sampleProvenance)]])]

def sampleLineage (listedOption : Bool) (issuers actions : List PyJson) : PyJson :=
  objectOf [("schema", textOf "esscher.security_lineage"), ("schema_version", .int 1),
    ("lineage_id", textOf "ESSCHER_SECURITY_LINEAGE_V1"), ("lineage_version", textOf "1"),
    ("decided_at", textOf "2026-01-01T00:00:00Z"),
    ("policy_sha256", textOf (String.ofList (List.replicate 64 'a'))),
    ("source_matrix_sha256", textOf (String.ofList (List.replicate 64 'a'))),
    ("identity_rule", textOf "CIK_ROOTED_IDENTITY"),
    ("adjustment_policy", objectOf [("price_adjusting_actions", .arr [textOf "SPLIT"]),
      ("record_only_actions", .arr [textOf "CASH_DIVIDEND"]),
      ("option_adjustment_authority", textOf "OCC_INFO_MEMO"),
      ("cross_series_rule", textOf "ISSUER_ACTIONS_NEVER_ADJUST_MARKET_OR_SECTOR_SERIES")]),
    ("issuers", .arr issuers),
    ("securities", .arr [objectOf [("security_id", textOf "SEC_A"),
      ("issuer_id", textOf "0000000001"), ("security_type", textOf "COMMON"),
      ("provenance", sampleProvenance)]]),
    ("listings", .arr [objectOf [("listing_id", textOf "LISTING_A"),
      ("security_id", textOf "SEC_A"), ("exchange_mic", textOf "XNYS"),
      ("listed_from", textOf "2020-01-01"), ("listed_to", .null), ("delisting_reason", .null),
      ("provenance", sampleProvenance)]]),
    ("actions", .arr actions),
    ("chains", .arr [objectOf [("event_id", textOf "EVENT_A"), ("issuer_id", textOf "0000000001"),
      ("security_id", textOf "SEC_A"), ("listing_id", textOf "LISTING_A"),
      ("ticker_at_cutoff", textOf "ABC"), ("listed_option_exists", .bool listedOption),
      ("asof", textOf "2026-01-02T12:00:00Z"), ("provenance_links", .arr [sampleProvenance])]])]

/-- Another issuer has the chain's ticker on its day. -/
def sharedTicker : PyJson :=
  sampleLineage false [sampleIssuer "0000000001" "SEC_A", sampleIssuer "0000000002" "SEC_B"] []

theorem exists_of_accepts {doc : PyJson} {p : LineageFields → Bool}
    (h : (parseDocument literalRepr doc).toOption.any p = true) :
    ∃ l, parseDocument literalRepr doc = .ok l ∧ p l = true := by
  cases hl : parseDocument literalRepr doc with
  | error e => rw [hl] at h; cases h
  | ok l => rw [hl] at h; exact ⟨l, rfl, h⟩

theorem sharedTicker_contested : ∃ l, parseDocument literalRepr sharedTicker = .ok l ∧
    ∃ chain ∈ l.chains, Contested l chain := by
  obtain ⟨l, hl, hcontested⟩ := @exists_of_accepts sharedTicker
    (fun l => decide (∃ chain ∈ l.chains, Contested l chain)) (by decide +kernel)
  exact ⟨l, hl, of_decide_eq_true hcontested⟩

theorem tickerIdentity_sharedTicker : ∃ l, parseDocument literalRepr sharedTicker = .ok l ∧
    (((∀ chain ∈ l.chains, Unambiguous l chain) ∧
      (∀ doc', ReordersIssuers sharedTicker doc' → ∃ l', parseDocument literalRepr doc' = .ok l') ∧
      ∀ id day, (l.listings.filter fun r => r.securityId == id && r.activeOn day).length ≤ 1) ↔
    ∀ chain ∈ l.chains, ¬Contested l chain) := by
  obtain ⟨l, hl, -⟩ := sharedTicker_contested
  exact ⟨l, hl, tickerIdentity_iff hl⟩

/-- The second issuer of a ticker is not looked at. -/
theorem shared_ticker_ambiguous :
    ¬∀ (f : Json.FloatRepr) (doc : PyJson) (l : LineageFields), parseDocument f doc = .ok l →
      (∀ chain ∈ l.chains, Unambiguous l chain) ∧
      (∀ doc', ReordersIssuers doc doc' → ∃ l', parseDocument f doc' = .ok l') ∧
      ∀ id day, (l.listings.filter fun r => r.securityId == id && r.activeOn day).length ≤ 1 := by
  intro h
  obtain ⟨l, hl, chain, hchain, issuer, hissuer, entry, hentry, hcovers, hother⟩ :=
    sharedTicker_contested
  have hown := ((h _ _ _ hl).1 chain hchain issuer.issuerId entry.securityId).mp
    ⟨issuer, hissuer, entry, hentry, hcovers, rfl, rfl⟩
  exact hother.elim (fun hne => hne hown.1) fun hne => hne hown.2

end EsscherMarket.Contracts
