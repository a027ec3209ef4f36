import EsscherMarket.Execution.Expression.Agreement

/-!
# The comparison receipt

What the summaries of a Gate D report say, set against the rows that the report itself holds, and
what its promotion says of the summaries.
-/

namespace EsscherMarket.Execution

open Lib
open Strategy (Direction isUtc)

/-! ### What the rows of a report add up to -/

def reportedRows (payloads : List EventPayload) (kind : ExpressionKind) : List EconomicsPayload :=
  payloads.flatMap fun payload => payload.economics.filter (·.expressionKind == kind.value)

def comparedRows (payloads : List EventPayload) (kind : ExpressionKind) : List EconomicsPayload :=
  (reportedRows payloads kind).filter (·.outcome == "COMPARED")

def rejectedRows (payloads : List EventPayload) (kind : ExpressionKind) : List EconomicsPayload :=
  (reportedRows payloads kind).filter (·.outcome != "COMPARED")

def reportedDrag (row : EconomicsPayload) : Option Decimal := do
  let cost ← row.entryCost.bind Decimal.parse
  let spread ← row.entrySpreadCost.bind Decimal.parse
  if 0 < cost.toRat then some (spread.div cost) else none

/-- The events of which the report says that the decision met the outcome, in a compared row. -/
def reportedHits (payloads : List EventPayload) (kind : ExpressionKind) : Nat :=
  payloads.countP fun payload => payload.outcomeDirection == some payload.decisionDirection &&
    payload.economics.any fun row => row.expressionKind == kind.value && row.outcome == "COMPARED"

def edgeBasisPoints (drags : List Decimal) (compared hits : Nat) : Option Decimal :=
  let meanDrag := if drags = [] then .ofNat 0 else (sumDecimals drags).div (.ofNat drags.length)
  let hitRate := (Decimal.ofNat hits).div (.ofNat compared)
  if compared = 0 then none
  else some (((hitRate.sub (.finite false 5 (-1))).times (.ofNat 10000)).sub
    (meanDrag.times (.ofNat 10000)))

def countOf (counts : List (String × Nat)) (reason : String) : Nat :=
  ((counts.find? (·.1 == reason)).map Prod.snd).getD 0

structure IsSummary (payloads : List EventPayload) (kind : ExpressionKind)
    (summary : ExpressionSummary) : Prop where
  named : summary.expressionKind = kind.value
  total : summary.eventsTotal = payloads.length
  compared : summary.eventsCompared = (comparedRows payloads kind).length
  rejected : summary.eventsRejected = (rejectedRows payloads kind).length
  reasonsSorted : summary.rejectionCounts.Pairwise fun a b => a.1 < b.1
  reasonsCounted : ∀ entry ∈ summary.rejectionCounts, 0 < entry.2
  reasons : ∀ reason, countOf summary.rejectionCounts reason =
    ((rejectedRows payloads kind).map fun row => row.reason.getD "UNKNOWN").count reason
  cost : summary.totalEntryCost =
    (sumDecimals ((comparedRows payloads kind).filterMap (·.entryCost.bind Decimal.parse))).toText
  loss : summary.worstMaxLoss =
    (maxDecimals ((comparedRows payloads kind).filterMap (·.maxLoss.bind Decimal.parse))).toText
  hits : summary.directionHits =
    if kind = .cashNoTrade then none else some (reportedHits payloads kind)
  edge : summary.afterCostEdgeBps = (edgeBasisPoints
    ((comparedRows payloads kind).filterMap reportedDrag) (comparedRows payloads kind).length
    (if kind = .cashNoTrade then 0 else reportedHits payloads kind)).map Decimal.toText

/-- An expression of enough compared events, with an edge at or above the threshold. -/
def Qualifies (policy : PromotedExpressionPolicy) (report : GateDReport) (kind : ExpressionKind)
    (edge : Decimal) : Prop :=
  ∃ summary ∈ report.summaries, summary.expressionKind = kind.value ∧
    policy.evidenceMinEvents ≤ summary.eventsCompared ∧
    summary.afterCostEdgeBps = some edge.toText ∧ edge.isFinite = true ∧
    policy.evidenceThreshold.toRat ≤ edge.toRat

/-- The promoted expression qualifies with the largest edge; there is none where none qualifies. -/
def PromotesLargest (policy : PromotedExpressionPolicy) (report : GateDReport) : Prop :=
  match report.promoted with
  | none => ∀ kind edge, ¬ Qualifies policy report kind edge
  | some kind => ∃ edge, Qualifies policy report kind edge ∧
      ∀ other otherEdge, Qualifies policy report other otherEdge → otherEdge.toRat ≤ edge.toRat

/-- The summaries of a report are those of its own rows, and the promotion is that of the summaries. -/
structure SelfConsistent (policy : PromotedExpressionPolicy) (report : GateDReport) : Prop where
  summaries : List.Forall₂ (IsSummary report.eventPayloads) expressionOrder report.summaries
  promoted : PromotesLargest policy report

/-! ### The table of economics -/

variable {policy : PromotedExpressionPolicy}

theorem find?_replace_self {table : EconomicsTable} {key : String} {value : List ExpressionEconomics}
    (h : table.any (·.1 == key) = true) :
    (table.map fun entry => if entry.1 == key then (key, value) else entry).find? (·.1 == key) =
      some (key, value) := by
  induction table with
  | nil => cases h
  | cons entry rest ih =>
    rw [List.map_cons]
    by_cases hkey : entry.1 = key
    · rw [if_pos (beq_iff_eq.mpr hkey), List.find?_cons_of_pos (by simp)]
    · have hrest : rest.any (·.1 == key) = true := by simpa [hkey] using h
      rw [if_neg (by simp [hkey]), List.find?_cons_of_neg (by simp [hkey]), ih hrest]

theorem find?_replace_ne {table : EconomicsTable} {key other : String}
    {value : List ExpressionEconomics} (h : key ≠ other) :
    (table.map fun entry => if entry.1 == key then (key, value) else entry).find? (·.1 == other) =
      table.find? (·.1 == other) := by
  induction table with
  | nil => rfl
  | cons entry rest ih =>
    rw [List.map_cons]
    by_cases hkey : entry.1 = key
    · rw [if_pos (beq_iff_eq.mpr hkey), List.find?_cons_of_neg (by simp [h]),
        List.find?_cons_of_neg (by simp [hkey, h]), ih]
    · rw [if_neg (by simp [hkey]), List.find?_cons, List.find?_cons, ih]

theorem getItem_setItem (table : EconomicsTable) (key other : String)
    (value : List ExpressionEconomics) :
    getItem (setItem table key value) other = if key = other then value else getItem table other := by
  rw [setItem, getItem, getItem]
  by_cases hpresent : table.any (·.1 == key) = true
  · rw [if_pos hpresent]
    by_cases h : key = other
    · subst h
      rw [find?_replace_self hpresent, if_pos rfl]
      rfl
    · rw [find?_replace_ne h, if_neg h]
  · rw [if_neg hpresent, List.find?_append]
    by_cases h : key = other
    · subst h
      have hnone : table.find? (·.1 == key) = none := by
        rw [List.find?_eq_none]
        intro entry hentry hkey
        exact hpresent (List.any_eq_true.mpr ⟨entry, hentry, hkey⟩)
      simp [hnone]
    · simp [h]

theorem getItem_foldl (events : List TournamentEvent) (table : EconomicsTable) (key : String) :
    getItem (events.foldl (fun table event =>
      setItem table event.eventId (eventEconomics policy event)) table) key =
      match events.reverse.find? (·.eventId == key) with
      | some event => eventEconomics policy event
      | none => getItem table key := by
  induction events generalizing table with
  | nil => rfl
  | cons event rest ih =>
    rw [List.foldl_cons, ih, List.reverse_cons, List.find?_append]
    cases rest.reverse.find? (·.eventId == key) with
    | some last => rfl
    | none =>
      rw [getItem_setItem]
      by_cases h : event.eventId = key <;> simp [h]

theorem getItem_allEconomics {events : List TournamentEvent}
    (hsame : ∀ a ∈ events, ∀ b ∈ events, a.eventId = b.eventId →
      eventEconomics policy a = eventEconomics policy b)
    {event : TournamentEvent} (hmem : event ∈ events) :
    getItem (allEconomics policy events) event.eventId = eventEconomics policy event := by
  rw [allEconomics, getItem_foldl]
  cases hfind : events.reverse.find? (·.eventId == event.eventId) with
  | none =>
    rw [List.find?_eq_none] at hfind
    exact absurd (beq_self_eq_true _) (hfind event (List.mem_reverse.mpr hmem))
  | some last =>
    have hid := List.find?_some hfind
    have hlast := List.mem_reverse.mp (List.mem_of_find?_eq_some hfind)
    exact hsame last hlast event hmem (beq_iff_eq.mp hid)

/-! ### Counted reasons -/

theorem key_of_mem_countReason {reason : String} {counts : List (String × Nat)}
    {entry : String × Nat} (h : entry ∈ countReason reason counts) :
    entry.1 = reason ∨ ∃ other ∈ counts, other.1 = entry.1 := by
  induction counts with
  | nil => exact .inl (congrArg Prod.fst (List.mem_singleton.mp h))
  | cons first rest ih =>
    rw [countReason] at h
    split at h
    · rcases List.mem_cons.mp h with rfl | h
      · exact .inr ⟨first, List.mem_cons_self, rfl⟩
      · exact .inr ⟨entry, List.mem_cons_of_mem _ h, rfl⟩
    · split at h
      · rcases List.mem_cons.mp h with rfl | h
        · exact .inl rfl
        · exact .inr ⟨entry, h, rfl⟩
      · rcases List.mem_cons.mp h with rfl | h
        · exact .inr ⟨first, List.mem_cons_self, rfl⟩
        · rcases ih h with h | ⟨other, hother, hkey⟩
          · exact .inl h
          · exact .inr ⟨other, List.mem_cons_of_mem _ hother, hkey⟩

theorem pairwise_countReason (reason : String) {counts : List (String × Nat)}
    (h : counts.Pairwise fun a b => a.1 < b.1) :
    (countReason reason counts).Pairwise fun a b => a.1 < b.1 := by
  induction counts with
  | nil => exact List.pairwise_singleton _ _
  | cons first rest ih =>
    obtain ⟨hfirst, hrest⟩ := List.pairwise_cons.mp h
    rw [countReason]
    split
    · exact List.pairwise_cons.mpr ⟨hfirst, hrest⟩
    · rename_i hne
      split
      · rename_i hlt
        refine List.pairwise_cons.mpr ⟨fun entry hentry => ?_, h⟩
        rcases List.mem_cons.mp hentry with rfl | hentry
        · exact hlt
        · exact hlt.trans (hfirst entry hentry)
      · rename_i hge
        refine List.pairwise_cons.mpr ⟨fun entry hentry => ?_, ih hrest⟩
        rcases key_of_mem_countReason hentry with hkey | ⟨other, hother, hkey⟩
        · rw [hkey]
          exact lt_of_le_of_ne (not_lt.mp hge) (Ne.symm hne)
        · rw [← hkey]
          exact hfirst other hother

theorem countReason_pos (reason : String) {counts : List (String × Nat)}
    (h : ∀ entry ∈ counts, 0 < entry.2) : ∀ entry ∈ countReason reason counts, 0 < entry.2 := by
  induction counts with
  | nil => simp [countReason]
  | cons first rest ih =>
    have hrest := ih fun entry hentry => h entry (List.mem_cons_of_mem _ hentry)
    rw [countReason]
    split
    · simpa using fun key count hentry => h (key, count) (List.mem_cons_of_mem _ hentry)
    · split
      · simpa using h
      · simpa using ⟨h first List.mem_cons_self, fun key count => hrest (key, count)⟩

theorem countOf_cons (first : String × Nat) (rest : List (String × Nat)) (reason : String) :
    countOf (first :: rest) reason = if first.1 = reason then first.2 else countOf rest reason := by
  by_cases h : first.1 = reason
  · rw [countOf, List.find?_cons_of_pos (by simp [h]), if_pos h]
    rfl
  · rw [countOf, List.find?_cons_of_neg (by simp [h]), if_neg h]
    rfl

theorem countOf_eq_zero {counts : List (String × Nat)} {reason : String}
    (h : ∀ entry ∈ counts, entry.1 ≠ reason) : countOf counts reason = 0 := by
  have hnone : counts.find? (·.1 == reason) = none := by
    rw [List.find?_eq_none]
    exact fun entry hentry => by simp [h entry hentry]
  rw [countOf, hnone]
  rfl

theorem countOf_countReason (reason other : String) {counts : List (String × Nat)}
    (h : counts.Pairwise fun a b => a.1 < b.1) :
    countOf (countReason reason counts) other =
      if reason = other then countOf counts other + 1 else countOf counts other := by
  induction counts with
  | nil =>
    rw [countReason, countOf_cons]
    rfl
  | cons first rest ih =>
    obtain ⟨hfirst, hrest⟩ := List.pairwise_cons.mp h
    rw [countReason]
    split
    · rename_i hkey
      rw [countOf_cons, countOf_cons, hkey]
      split <;> rfl
    · rename_i hne
      split
      · rename_i hlt
        rw [countOf_cons]
        split
        · rename_i hother
          have hzero : countOf (first :: rest) other = 0 := by
            refine countOf_eq_zero fun entry hentry => ?_
            rw [← hother]
            rcases List.mem_cons.mp hentry with rfl | hentry
            · exact hlt.ne'
            · exact (hlt.trans (hfirst entry hentry)).ne'
          rw [hzero]
        · rfl
      · rw [countOf_cons, countOf_cons, ih hrest]
        by_cases hother : reason = other
        · have hfirstNe : first.1 ≠ other := fun heq => hne (hother.trans heq.symm)
          rw [if_neg hfirstNe, if_neg hfirstNe]
        · rw [if_neg hother, if_neg hother]

theorem countReasons_spec (reasons : List String) :
    let counts := reasons.foldl (fun counts reason => countReason reason counts) []
    counts.Pairwise (fun a b => a.1 < b.1) ∧ (∀ entry ∈ counts, 0 < entry.2) ∧
      ∀ reason, countOf counts reason = reasons.count reason := by
  have hgeneral : ∀ (reasons : List String) (counts : List (String × Nat)),
      counts.Pairwise (fun a b => a.1 < b.1) → (∀ entry ∈ counts, 0 < entry.2) →
      let final := reasons.foldl (fun counts reason => countReason reason counts) counts
      final.Pairwise (fun a b => a.1 < b.1) ∧ (∀ entry ∈ final, 0 < entry.2) ∧
        ∀ reason, countOf final reason = countOf counts reason + reasons.count reason := by
    intro reasons
    induction reasons with
    | nil => exact fun counts hsorted hpos => ⟨hsorted, hpos, fun _ => rfl⟩
    | cons first rest ih =>
      intro counts hsorted hpos
      obtain ⟨hsorted', hpos', hcount⟩ := ih (countReason first counts)
        (pairwise_countReason first hsorted) (countReason_pos first hpos)
      refine ⟨hsorted', hpos', fun reason => ?_⟩
      rw [List.foldl_cons, hcount, countOf_countReason first reason hsorted, List.count_cons]
      by_cases hkey : first = reason
      · simp [hkey]
        omega
      · simp [hkey]
  obtain ⟨hsorted, hpos, hcount⟩ := hgeneral reasons [] List.Pairwise.nil (by simp)
  refine ⟨hsorted, hpos, fun reason => ?_⟩
  rw [hcount]
  exact Nat.zero_add _

/-! ### The amounts of a row -/

def FiniteOutcome : EconomicsOutcome → Prop
  | .compared cost loss spread =>
    cost.isFinite = true ∧ loss.isFinite = true ∧ spread.isFinite = true
  | .rejected _ => True

theorem isFinite_quote (quote : TwoSidedQuote) :
    quote.bid.isFinite = true ∧ quote.ask.isFinite = true := by
  have h := quote.money
  simp only [requireNonNegativeMoney, Bool.and_eq_true] at h
  exact ⟨h.1.1, h.2.1⟩

theorem finiteOutcome_ite {p : Prop} [Decidable p] {a b : EconomicsOutcome} (ha : FiniteOutcome a)
    (hb : FiniteOutcome b) : FiniteOutcome (if p then a else b) := by
  split
  · exact ha
  · exact hb

theorem finiteOutcome_shares {snapshot : ExpressionMarketSnapshot} {eventId : String}
    {directionIsUp : Bool} :
    FiniteOutcome (sharesEconomics snapshot policy eventId directionIsUp).outcome := by
  obtain ⟨hbid, hask⟩ := isFinite_quote snapshot.share.quote
  have hexposure : (if directionIsUp then snapshot.share.quote.ask
      else snapshot.share.quote.bid).isFinite = true := by
    split
    · exact hask
    · exact hbid
  refine finiteOutcome_ite trivial ?_
  split
  · trivial
  · exact finiteOutcome_ite trivial (finiteOutcome_ite trivial
      ⟨hexposure, hexposure, Decimal.isFinite_sub hask hbid⟩)

theorem finiteOutcome_option {eventId : String} {contract : OptionContractObservation} :
    FiniteOutcome (optionEconomics policy eventId contract).outcome := by
  obtain ⟨hbid, hask⟩ := isFinite_quote contract.quote
  have hpremium := Decimal.isFinite_times hask (rfl : contractMultiplier.isFinite = true)
  refine finiteOutcome_ite trivial ?_
  split
  · trivial
  · exact finiteOutcome_ite trivial
      ⟨hpremium, hpremium, Decimal.isFinite_times (Decimal.isFinite_sub hask hbid) rfl⟩

theorem finiteOutcome_vertical {eventId : String} {package : PackageObservation} {width : Decimal}
    (hwidth : width.isFinite = true) :
    FiniteOutcome (debitVerticalEconomics policy eventId package width).outcome := by
  have hask := isFinite_netAsk package
  have hbid : package.netBid.isFinite = true := by
    have h := package.accepted
    simp only [requireNonNegativeMoney, Bool.and_eq_true] at h
    tauto
  have hdebit := Decimal.isFinite_times hask (rfl : contractMultiplier.isFinite = true)
  have hvalue := Decimal.isFinite_times hwidth (rfl : contractMultiplier.isFinite = true)
  have hloss : (minDecimal (package.netAsk.times contractMultiplier)
      (width.times contractMultiplier)).isFinite = true := by
    rw [minDecimal]
    split
    · exact hvalue
    · exact hdebit
  exact finiteOutcome_ite trivial (finiteOutcome_ite trivial (finiteOutcome_ite trivial
    (finiteOutcome_ite trivial (finiteOutcome_ite trivial (finiteOutcome_ite trivial
    (finiteOutcome_ite trivial
      ⟨hdebit, hloss, Decimal.isFinite_times (Decimal.isFinite_sub hask hbid) rfl⟩))))))

variable {event : TournamentEvent}

theorem finiteOutcome_rowOf (kind : ExpressionKind) :
    FiniteOutcome (rowOf policy event kind).outcome := by
  cases kind with
  | cashNoTrade => exact ⟨rfl, rfl, rfl⟩
  | shares =>
    rw [rowOf, strictSharesEconomics]
    split
    · trivial
    · exact finiteOutcome_shares
  | oneLongOption =>
    rw [rowOf, longOptionRow]
    split
    · trivial
    · exact finiteOutcome_option
  | debitVertical =>
    rw [rowOf, verticalRow]
    split
    · trivial
    · split
      · trivial
      · rename_i row h
        simp only [strictVerticalEconomics, except_bind_eq_ok, except_pure_eq_ok] at h
        obtain ⟨geometry, hgeometry, -, -, -, -, -, -, package, -, -, -, rfl⟩ := h
        exact finiteOutcome_vertical (width_pos hgeometry).1

/-! ### The rows of a report, read back -/

theorem value_injective {kind other : ExpressionKind} (h : kind.value = other.value) :
    kind = other := by
  cases kind <;> cases other <;> first | rfl | exact absurd h (by decide)

theorem filter_eventEconomics (kind : ExpressionKind) :
    (eventEconomics policy event).filter (·.expressionKind == kind) = [rowOf policy event kind] := by
  have hkinds : expressionOrder.filter (fun other => (rowOf policy event other).expressionKind == kind) =
      [kind] := by
    simp only [kind_rowOf]
    cases kind <;> rfl
  rw [eventEconomics_eq, List.filter_map]
  exact congrArg (List.map (rowOf policy event)) hkinds

theorem filter_economics (kind : ExpressionKind) :
    (eventPayload policy event).economics.filter (·.expressionKind == kind.value) =
      [economicsPayload (rowOf policy event kind)] := by
  have hkind : ∀ row : ExpressionEconomics,
      ((economicsPayload row).expressionKind == kind.value) = (row.expressionKind == kind) := by
    intro row
    rw [Bool.eq_iff_iff, beq_iff_eq, beq_iff_eq]
    exact ⟨value_injective, congrArg ExpressionKind.value⟩
  rw [eventPayload, List.filter_map]
  simp only [Function.comp_def, hkind, filter_eventEconomics]
  rfl

theorem reportedRows_eq (events : List TournamentEvent) (kind : ExpressionKind) :
    reportedRows (events.map (eventPayload policy)) kind =
      (events.map fun event => rowOf policy event kind).map economicsPayload := by
  rw [reportedRows]
  induction events with
  | nil => rfl
  | cons first rest ih =>
    rw [List.map_cons, List.flatMap_cons, filter_economics, ih]
    rfl

theorem outcome_economicsPayload (row : ExpressionEconomics) :
    ((economicsPayload row).outcome == "COMPARED") = row.compared := by
  rw [economicsPayload]
  cases row.compared <;> rfl

theorem comparedRows_eq (events : List TournamentEvent) (kind : ExpressionKind) :
    comparedRows (events.map (eventPayload policy)) kind =
      ((events.map fun event => rowOf policy event kind).filter (·.compared)).map economicsPayload := by
  rw [comparedRows, reportedRows_eq, List.filter_map]
  simp only [Function.comp_def, outcome_economicsPayload]

theorem rejectedRows_eq (events : List TournamentEvent) (kind : ExpressionKind) :
    rejectedRows (events.map (eventPayload policy)) kind =
      ((events.map fun event => rowOf policy event kind).filter fun row => !row.compared).map
        economicsPayload := by
  rw [rejectedRows, reportedRows_eq, List.filter_map]
  simp only [Function.comp_def, bne, outcome_economicsPayload]

/-- An amount of a row is read back from its text. -/
theorem bind_parse {amount : Option Decimal} (h : ∀ d, amount = some d → d.isFinite = true) :
    (amount.map Decimal.toText).bind Decimal.parse = amount := by
  cases amount with
  | none => rfl
  | some d =>
    rw [Option.map_some, Option.bind_some]
    exact Decimal.parse_toText (h d rfl)

theorem amounts_finite {row : ExpressionEconomics} (h : FiniteOutcome row.outcome) :
    (∀ d, row.entryCost = some d → d.isFinite = true) ∧
    (∀ d, row.maxLoss = some d → d.isFinite = true) ∧
    (∀ d, row.entrySpreadCost = some d → d.isFinite = true) := by
  rw [ExpressionEconomics.entryCost, ExpressionEconomics.maxLoss, ExpressionEconomics.entrySpreadCost]
  cases houtcome : row.outcome with
  | rejected reason => simp
  | compared cost loss spread =>
    rw [houtcome] at h
    obtain ⟨hcost, hloss, hspread⟩ := h
    exact ⟨by rintro d ⟨⟩; exact hcost, by rintro d ⟨⟩; exact hloss, by rintro d ⟨⟩; exact hspread⟩

theorem filterMap_comparedRows {α : Type} {events : List TournamentEvent} {kind : ExpressionKind}
    {read : EconomicsPayload → Option α} {held : ExpressionEconomics → Option α}
    (h : ∀ row, FiniteOutcome row.outcome → read (economicsPayload row) = held row) :
    (comparedRows (events.map (eventPayload policy)) kind).filterMap read =
      ((events.map fun event => rowOf policy event kind).filter (·.compared)).filterMap held := by
  rw [comparedRows_eq, List.filterMap_map]
  refine List.filterMap_congr fun row hrow => ?_
  obtain ⟨event, -, rfl⟩ := List.mem_map.mp (List.mem_of_mem_filter hrow)
  exact h _ (finiteOutcome_rowOf kind)

theorem reportedDrag_economicsPayload {row : ExpressionEconomics} (h : FiniteOutcome row.outcome) :
    reportedDrag (economicsPayload row) = drag row := by
  obtain ⟨hcost, -, hspread⟩ := amounts_finite h
  have hreadCost : (economicsPayload row).entryCost.bind Decimal.parse = row.entryCost :=
    bind_parse hcost
  have hreadSpread : (economicsPayload row).entrySpreadCost.bind Decimal.parse = row.entrySpreadCost :=
    bind_parse hspread
  rw [reportedDrag, hreadCost, hreadSpread, drag, ExpressionEconomics.entryCost,
    ExpressionEconomics.entrySpreadCost]
  cases row.outcome <;> rfl

/-! ### The summaries -/

theorem rows_eq {events : List TournamentEvent}
    {economicsOf : TournamentEvent → List ExpressionEconomics}
    (h : ∀ event ∈ events, economicsOf event = eventEconomics policy event) (kind : ExpressionKind) :
    (events.flatMap fun event => (economicsOf event).filter (·.expressionKind == kind)) =
      events.map fun event => rowOf policy event kind := by
  induction events with
  | nil => rfl
  | cons first rest ih =>
    rw [List.flatMap_cons, h first List.mem_cons_self, filter_eventEconomics,
      ih fun event hmem => h event (List.mem_cons_of_mem _ hmem)]
    rfl

theorem directionValue_injective {a b : Direction} (h : a.value = b.value) : a = b := by
  cases a <;> cases b <;> first | rfl | exact absurd h (by decide)

theorem directionHitRow_eq {kind : ExpressionKind} (hkind : kind ≠ .cashNoTrade) :
    directionHitRow event (eventEconomics policy event) kind =
      if ((eventPayload policy event).outcomeDirection ==
          some (eventPayload policy event).decisionDirection &&
        (eventPayload policy event).economics.any fun row =>
          row.expressionKind == kind.value && row.outcome == "COMPARED") = true then 1 else 0 := by
  have hrows : (eventEconomics policy event).filter
      (fun item => item.expressionKind == kind && item.compared) =
      [rowOf policy event kind].filter (·.compared) := by
    rw [← filter_eventEconomics, List.filter_filter]
    simp only [Bool.and_comm]
  have hany : ((eventPayload policy event).economics.any fun row =>
      row.expressionKind == kind.value && row.outcome == "COMPARED") =
      (rowOf policy event kind).compared := by
    rw [← List.any_filter, filter_economics]
    simp [outcome_economicsPayload]
  have hdirection : ((eventPayload policy event).outcomeDirection ==
      some (eventPayload policy event).decisionDirection) =
      (event.outcomeDirection == some event.decisionDirection) := by
    rw [Bool.eq_iff_iff, beq_iff_eq, beq_iff_eq, eventPayload]
    cases event.outcomeDirection with
    | none => simp
    | some outcome =>
      simp only [Option.map_some, Option.some.injEq]
      exact ⟨directionValue_injective, congrArg Direction.value⟩
  rw [directionHitRow, hrows, hany, hdirection]
  cases hcompared : (rowOf policy event kind).compared with
  | false => simp [hcompared]
  | true =>
    cases houtcome : event.outcomeDirection with
    | none => simp
    | some outcome => simp [hkind, hcompared]

theorem sum_directionHitRow {events : List TournamentEvent} {kind : ExpressionKind}
    (hkind : kind ≠ .cashNoTrade) :
    (events.map fun event => directionHitRow event (eventEconomics policy event) kind).sum =
      reportedHits (events.map (eventPayload policy)) kind := by
  rw [reportedHits]
  induction events with
  | nil => rfl
  | cons first rest ih =>
    rw [List.map_cons, List.sum_cons, ih, List.map_cons, List.countP_cons, directionHitRow_eq hkind]
    exact Nat.add_comm _ _

theorem afterCostEdgeBasisPoints_eq (economics : List ExpressionEconomics) (directionHits : Nat) :
    afterCostEdgeBasisPoints economics directionHits =
      edgeBasisPoints ((economics.filter (·.compared)).filterMap drag)
        (economics.filter (·.compared)).length directionHits := by
  simp only [afterCostEdgeBasisPoints, edgeBasisPoints, List.length_eq_zero_iff]

/-- The summary of the events' own economics is the one of the report's rows. -/
theorem isSummary_summarize {events : List TournamentEvent}
    {economicsOf : TournamentEvent → List ExpressionEconomics}
    (h : ∀ event ∈ events, economicsOf event = eventEconomics policy event) (kind : ExpressionKind) :
    IsSummary (events.map (eventPayload policy)) kind (summarize events economicsOf kind) := by
  have hrows := rows_eq h kind
  have hits : (if kind = .cashNoTrade then 0
      else (events.map fun event => directionHitRow event (economicsOf event) kind).sum) =
      if kind = .cashNoTrade then 0 else reportedHits (events.map (eventPayload policy)) kind := by
    split
    · rfl
    · rename_i hkind
      rw [← sum_directionHitRow hkind]
      exact congrArg List.sum (List.map_congr_left fun event hmem => by rw [h event hmem])
  have hreasons : ((rejectedRows (events.map (eventPayload policy)) kind).map fun row =>
      row.reason.getD "UNKNOWN") =
      ((events.map fun event => rowOf policy event kind).filter fun row => !row.compared).map
        fun row => (row.reason.map ExpressionReason.value).getD "UNKNOWN" := by
    rw [rejectedRows_eq, List.map_map]
    rfl
  have hlength : (comparedRows (events.map (eventPayload policy)) kind).length =
      ((events.map fun event => rowOf policy event kind).filter (·.compared)).length := by
    rw [comparedRows_eq, List.length_map]
  obtain ⟨hsorted, hpos, hcount⟩ := countReasons_spec
    (((events.map fun event => rowOf policy event kind).filter fun row => !row.compared).map
      fun row => (row.reason.map ExpressionReason.value).getD "UNKNOWN")
  constructor
  case named => rfl
  case total => exact (List.length_map _).symm
  case compared =>
    rw [hlength, summarize, hrows]
  case rejected =>
    rw [rejectedRows_eq, List.length_map, summarize, hrows]
  case reasonsSorted =>
    rw [summarize, hrows]
    exact hsorted
  case reasonsCounted =>
    rw [summarize, hrows]
    exact hpos
  case reasons =>
    rw [hreasons, summarize, hrows]
    exact hcount
  case cost =>
    rw [filterMap_comparedRows fun row hrow => bind_parse (amounts_finite hrow).1, summarize, hrows]
  case loss =>
    rw [filterMap_comparedRows fun row hrow => bind_parse (amounts_finite hrow).2.1, summarize, hrows]
  case hits =>
    show (if kind = .cashNoTrade then none else some (if kind = .cashNoTrade then 0
      else (events.map fun event => directionHitRow event (economicsOf event) kind).sum)) = _
    rw [hits]
    split <;> rfl
  case edge =>
    rw [filterMap_comparedRows fun row => reportedDrag_economicsPayload, hlength, summarize, hrows, hits]
    rw [afterCostEdgeBasisPoints_eq]

/-! ### The promotion -/

theorem mem_getItem {events : List TournamentEvent} {key : String} {row : ExpressionEconomics}
    (h : row ∈ getItem (allEconomics policy events) key) :
    ∃ event, row ∈ eventEconomics policy event := by
  rw [allEconomics, getItem_foldl] at h
  split at h
  · rename_i event _
    exact ⟨event, h⟩
  · cases h

theorem isFinite_sumDecimals {values : List Decimal} (h : ∀ d ∈ values, d.isFinite = true) :
    (sumDecimals values).isFinite = true := by
  have hfold : ∀ (values : List Decimal) (start : Decimal), (∀ d ∈ values, d.isFinite = true) →
      start.isFinite = true → (values.foldl Decimal.add start).isFinite = true := by
    intro values
    induction values with
    | nil => exact fun _ _ hstart => hstart
    | cons first rest ih =>
      intro start hvalues hstart
      exact ih _ (fun d hd => hvalues d (List.mem_cons_of_mem _ hd))
        (Decimal.isFinite_add hstart (hvalues first List.mem_cons_self))
  exact hfold values _ h rfl

def Rounded (d : Decimal) : Prop := d.isFinite = true ∧ d.fix = d

theorem rounded_sub {x y : Decimal} (hx : x.isFinite) (hy : y.isFinite) : Rounded (x.sub y) :=
  ⟨Decimal.isFinite_sub hx hy, Decimal.fix_fix _⟩

theorem rounded_edge {drags : List Decimal} {compared hits : Nat} {edge : Decimal}
    (hdrags : ∀ d ∈ drags, d.isFinite = true)
    (h : edgeBasisPoints drags compared hits = some edge) : Rounded edge := by
  have hmean : (if drags = [] then Decimal.ofNat 0
      else (sumDecimals drags).div (.ofNat drags.length)).isFinite = true := by
    split
    · rfl
    · exact Decimal.isFinite_div (isFinite_sumDecimals hdrags) rfl
  have hrate : ((Decimal.ofNat hits).div (.ofNat compared)).isFinite = true :=
    Decimal.isFinite_div rfl rfl
  simp only [edgeBasisPoints] at h
  split at h
  · cases h
  · cases h
    exact rounded_sub (Decimal.isFinite_times (Decimal.isFinite_sub hrate rfl) rfl)
      (Decimal.isFinite_times hmean rfl)

def EdgeRounded (summary : ExpressionSummary) : Prop :=
  ∀ text, summary.afterCostEdgeBps = some text → ∃ edge, text = edge.toText ∧ Rounded edge

/-- A summary of enough compared events with an edge at or above the threshold. -/
def SummaryQualifies (policy : PromotedExpressionPolicy) (summary : ExpressionSummary)
    (edge : Decimal) : Prop :=
  policy.evidenceMinEvents ≤ summary.eventsCompared ∧
    summary.afterCostEdgeBps = some edge.toText ∧ edge.isFinite = true ∧
    policy.evidenceThreshold.toRat ≤ edge.toRat

theorem threshold_spec (policy : PromotedExpressionPolicy) :
    policy.evidenceThreshold.isFinite = true ∧ 0 ≤ policy.evidenceThreshold.toRat := by
  have h := policy.accepted
  simp only [PromotedExpressionPolicyFields.check, requireNonNegativeMoney, Bool.and_eq_true,
    decide_eq_true_eq] at h
  tauto

theorem qualify_eq_inl {summary : ExpressionSummary} {edge : Decimal} (hedge : EdgeRounded summary) :
    qualify policy summary = .inl edge ↔ SummaryQualifies policy summary edge := by
  rw [qualify, SummaryQualifies]
  by_cases hcompared : summary.eventsCompared < policy.evidenceMinEvents
  · simp [hcompared]
  · rw [if_neg hcompared]
    cases htext : summary.afterCostEdgeBps with
    | none => simp
    | some text =>
      obtain ⟨d, rfl, hfinite, -⟩ := hedge text htext
      have hlt := Decimal.lt_iff hfinite (threshold_spec policy).1
      simp only [Decimal.parse_toText hfinite, Option.getD_some, hlt, Option.some.injEq]
      constructor
      · intro h
        split at h
        · cases h
        · rename_i hthreshold
          cases h
          exact ⟨not_lt.mp hcompared, rfl, hfinite, not_lt.mp hthreshold⟩
      · rintro ⟨-, hsame, hother, hthreshold⟩
        rw [← Decimal.toText_injective hfinite hother hsame] at hthreshold ⊢
        rw [if_neg (not_lt.mpr hthreshold)]

/-- The least key belongs to the largest edge. -/
theorem le_of_promotionKey_le {a b : ExpressionKind × Decimal} (ha : Rounded a.2) (hb : Rounded b.2)
    (h : promotionKey a ≤ promotionKey b) : b.2.toRat ≤ a.2.toRat := by
  have hneg : ∀ d : Decimal, Rounded d → d.neg.toRat = -d.toRat := by
    intro d hd
    have hfix := Decimal.toRat_neg_fix hd.1
    rwa [hd.2] at hfix
  rcases Prod.Lex.toLex_le_toLex.mp h with hlt | ⟨heq, -⟩
  · rw [hneg _ ha, hneg _ hb] at hlt
    linarith
  · rw [hneg _ ha, hneg _ hb] at heq
    linarith

/-- The kinds whose summaries qualify, with their edges. -/
def qualifiedKinds (policy : PromotedExpressionPolicy) (summaryOf : ExpressionKind → ExpressionSummary) :
    List (ExpressionKind × Decimal) :=
  promotable.filterMap fun kind =>
    match qualify policy (summaryOf kind) with
    | .inl edge => some (kind, edge)
    | .inr _ => none

/-- The promotion takes the largest edge of the summaries that qualify. -/
theorem promote_spec {summaryOf : ExpressionKind → ExpressionSummary}
    (hedge : ∀ kind ∈ promotable, EdgeRounded (summaryOf kind)) :
    match (promote policy summaryOf).1 with
    | none => ∀ kind ∈ promotable, ∀ edge, ¬ SummaryQualifies policy (summaryOf kind) edge
    | some kind => kind ∈ promotable ∧ ∃ edge, SummaryQualifies policy (summaryOf kind) edge ∧
        ∀ other ∈ promotable, ∀ otherEdge, SummaryQualifies policy (summaryOf other) otherEdge →
          otherEdge.toRat ≤ edge.toRat := by
  let qualified := qualifiedKinds policy summaryOf
  have hmem : ∀ kind edge, (kind, edge) ∈ qualified ↔
      kind ∈ promotable ∧ SummaryQualifies policy (summaryOf kind) edge := by
    intro kind edge
    simp only [qualified, qualifiedKinds, List.mem_filterMap]
    constructor
    · rintro ⟨other, hother, h⟩
      cases hqualify : qualify policy (summaryOf other) with
      | inl found =>
        rw [hqualify] at h
        cases h
        exact ⟨hother, (qualify_eq_inl (hedge kind hother)).mp hqualify⟩
      | inr reason =>
        rw [hqualify] at h
        cases h
    · rintro ⟨hkind, h⟩
      exact ⟨kind, hkind, by rw [(qualify_eq_inl (hedge kind hkind)).mpr h]⟩
  have hpromote : (promote policy summaryOf).1 = (qualified.argmin promotionKey).map Prod.fst := by
    dsimp only [promote]
    split
    · rename_i hnone
      rw [show qualified.argmin promotionKey = none from hnone]
      rfl
    · rename_i best hbest
      rw [show qualified.argmin promotionKey = some best from hbest]
      rfl
  rw [hpromote]
  cases hbest : qualified.argmin promotionKey with
  | none =>
    intro kind hkind edge h
    have hnil := List.argmin_eq_none.mp hbest
    have hin := (hmem kind edge).mpr ⟨hkind, h⟩
    rw [hnil] at hin
    cases hin
  | some best =>
    obtain ⟨kind, edge⟩ := best
    obtain ⟨hkind, hqualifies⟩ := (hmem kind edge).mp (List.argmin_mem hbest)
    have hrounded : ∀ kind ∈ promotable, ∀ edge, SummaryQualifies policy (summaryOf kind) edge →
        Rounded edge := by
      rintro kind hkind edge ⟨-, htext, hfinite, -⟩
      obtain ⟨d, hsame, hd⟩ := hedge kind hkind _ htext
      rwa [Decimal.toText_injective hfinite hd.1 hsame]
    refine ⟨hkind, edge, hqualifies, fun other hother otherEdge h => ?_⟩
    exact le_of_promotionKey_le (hrounded kind hkind edge hqualifies)
      (hrounded other hother otherEdge h)
      (List.le_of_mem_argmin ((hmem other otherEdge).mpr ⟨hother, h⟩) hbest)

/-! ### The report -/

variable {reportId policySha256 : String} {events : List TournamentEvent} {evaluatedAt : DateTime}
  {report : GateDReport}

def tableSummary (policy : PromotedExpressionPolicy) (events : List TournamentEvent) :
    ExpressionKind → ExpressionSummary :=
  summarize events fun event => getItem (allEconomics policy events) event.eventId

theorem runGateDTournament_spec
    (h : runGateDTournament policy reportId policySha256 events evaluatedAt = .ok report) :
    report.eventPayloads = events.map (eventPayload policy) ∧
      report.summaries = expressionOrder.map (tableSummary policy events) ∧
      report.promoted = (promote policy (tableSummary policy events)).1 := by
  simp only [runGateDTournament, except_bind_eq_ok, throwIf_eq_ok, except_pure_eq_ok] at h
  obtain ⟨-, -, -, -, -, -, -, -, rfl⟩ := h
  exact ⟨rfl, rfl, rfl⟩

theorem finiteOutcome_tableRows {kind : ExpressionKind} :
    ∀ row ∈ events.flatMap (fun event => (getItem (allEconomics policy events) event.eventId).filter
      (·.expressionKind == kind)), ∃ event, row = rowOf policy event kind := by
  intro row hrow
  obtain ⟨event, -, hrow⟩ := List.mem_flatMap.mp hrow
  obtain ⟨hitem, hkind⟩ := List.mem_filter.mp hrow
  obtain ⟨source, hsource⟩ := mem_getItem hitem
  exact ⟨source, mem_eventEconomics.mp ⟨hsource, beq_iff_eq.mp hkind⟩⟩

theorem edgeRounded_tableSummary (kind : ExpressionKind) :
    EdgeRounded (tableSummary policy events kind) := by
  intro text htext
  obtain ⟨edge, hedge, rfl⟩ := Option.map_eq_some_iff.mp htext
  refine ⟨edge, rfl, ?_⟩
  rw [afterCostEdgeBasisPoints_eq] at hedge
  refine rounded_edge ?_ hedge
  intro d hd
  obtain ⟨row, hrow, hdrag⟩ := List.mem_filterMap.mp hd
  obtain ⟨event, rfl⟩ := finiteOutcome_tableRows row (List.mem_of_mem_filter hrow)
  have hfinite := @finiteOutcome_rowOf policy event kind
  rw [drag] at hdrag
  split at hdrag
  · rename_i cost loss spread houtcome
    rw [houtcome] at hfinite
    split at hdrag
    · cases hdrag
      exact Decimal.isFinite_div hfinite.2.2 hfinite.1
    · cases hdrag
  · cases hdrag

/-- Cash is not promoted: its edge is half a hit below zero. -/
theorem not_qualifies_cash {edge : Decimal} :
    ¬ SummaryQualifies policy (tableSummary policy events .cashNoTrade) edge := by
  rintro ⟨-, htext, hfinite, hthreshold⟩
  obtain ⟨held, hheld, htext⟩ := Option.map_eq_some_iff.mp htext
  rw [afterCostEdgeBasisPoints_eq] at hheld
  have hdrags : ∀ rows : List ExpressionEconomics,
      (∀ row ∈ rows, ∃ event, row = rowOf policy event .cashNoTrade) → rows.filterMap drag = [] := by
    intro rows hrows
    rw [List.filterMap_eq_nil_iff]
    intro row hrow
    obtain ⟨event, rfl⟩ := hrows row hrow
    have hzero : ¬ (0 : ℚ) < (Decimal.ofNat 0).toRat := by decide +kernel
    exact if_neg hzero
  rw [hdrags _ fun row hrow => finiteOutcome_tableRows row (List.mem_of_mem_filter hrow)] at hheld
  have hrate : ∀ n, (Decimal.ofNat 0).div (.ofNat n) = .ofNat 0 := fun _ => rfl
  simp only [edgeBasisPoints, if_true, hrate] at hheld
  split at hheld
  · cases hheld
  · have hnegative : (((Decimal.ofNat 0).sub (.finite false 5 (-1))).times (.ofNat 10000) |>.sub
        ((Decimal.ofNat 0).times (.ofNat 10000))).toRat < 0 := by decide +kernel
    rw [Option.some.injEq] at hheld
    have hheldFinite : held.isFinite = true := by
      rw [← hheld]
      decide
    rw [← Decimal.toText_injective hheldFinite hfinite htext, ← hheld] at hthreshold
    exact absurd ((threshold_spec policy).2.trans hthreshold) (not_le.mpr hnegative)

theorem promotesLargest_of_run
    (h : runGateDTournament policy reportId policySha256 events evaluatedAt = .ok report) :
    PromotesLargest policy report := by
  obtain ⟨-, hsummaries, hpromoted⟩ := runGateDTournament_spec h
  have hqualifies : ∀ kind edge, Qualifies policy report kind edge ↔
      kind ∈ promotable ∧ SummaryQualifies policy (tableSummary policy events kind) edge := by
    intro kind edge
    rw [Qualifies, hsummaries]
    constructor
    · rintro ⟨summary, hmem, hnamed, hrest⟩
      obtain ⟨other, -, rfl⟩ := List.mem_map.mp hmem
      cases value_injective hnamed
      refine ⟨?_, hrest⟩
      cases kind with
      | cashNoTrade => exact absurd hrest not_qualifies_cash
      | _ => decide
    · rintro ⟨hkind, hrest⟩
      refine ⟨_, List.mem_map_of_mem ?_, rfl, hrest⟩
      cases kind <;> decide
  have hspec := @promote_spec policy _ fun kind _ => @edgeRounded_tableSummary policy events kind
  rw [← hpromoted] at hspec
  rw [PromotesLargest]
  cases hcase : report.promoted with
  | none =>
    rw [hcase] at hspec
    intro kind edge hq
    obtain ⟨hkind, hrest⟩ := (hqualifies kind edge).mp hq
    exact hspec kind hkind edge hrest
  | some kind =>
    rw [hcase] at hspec
    obtain ⟨hkind, edge, hrest, hlargest⟩ := hspec
    refine ⟨edge, (hqualifies kind edge).mpr ⟨hkind, hrest⟩, fun other otherEdge hq => ?_⟩
    obtain ⟨hother, hotherRest⟩ := (hqualifies other otherEdge).mp hq
    exact hlargest other hother otherEdge hotherRest

/-- A report agrees with its own rows where events of one id have the same economics; its
promotion is always the one of its summaries. -/
theorem selfConsistent_of_sameEconomics
    (h : runGateDTournament policy reportId policySha256 events evaluatedAt = .ok report)
    (hsame : ∀ a ∈ events, ∀ b ∈ events, a.eventId = b.eventId →
      eventEconomics policy a = eventEconomics policy b) :
    SelfConsistent policy report := by
  obtain ⟨hpayloads, hsummaries, -⟩ := runGateDTournament_spec h
  refine ⟨?_, promotesLargest_of_run h⟩
  rw [hpayloads, hsummaries, List.forall₂_map_right_iff, List.forall₂_same]
  exact fun kind _ => isSummary_summarize (fun event hmem => getItem_allEconomics hsame hmem) kind

theorem exists_run (policy : PromotedExpressionPolicy) {events : List TournamentEvent}
    (hevents : events ≠ []) : ∃ report, runGateDTournament policy "r1"
      (promotedExpressionPolicySha256 policy) events spyClock = .ok report := by
  simp only [runGateDTournament, except_bind_eq_ok, throwIf_eq_ok, except_pure_eq_ok]
  exact ⟨_, (), hevents, (), by decide, (), not_not.mpr rfl, (), by decide, rfl⟩

/-- One event agrees with itself. -/
theorem selfConsistent_of_sameEconomics_single : ∃ report,
    runGateDTournament (spyPolicy .debitVertical) "r1"
      (promotedExpressionPolicySha256 (spyPolicy .debitVertical)) [spyEvent false false] spyClock =
      .ok report ∧ SelfConsistent (spyPolicy .debitVertical) report := by
  obtain ⟨report, h⟩ := exists_run (spyPolicy .debitVertical)
    (List.cons_ne_nil (spyEvent false false) [])
  refine ⟨report, h, selfConsistent_of_sameEconomics h ?_⟩
  intro a ha b hb _
  rw [List.mem_singleton.mp ha, List.mem_singleton.mp hb]

/-- Two events of one id, with verticals for 250 and for 250.50: the report holds both rows, and its
total counts the last one twice. -/
theorem not_selfConsistent_repeatedId : ∃ report,
    runGateDTournament (spyPolicy .debitVertical) "r1"
      (promotedExpressionPolicySha256 (spyPolicy .debitVertical))
      [spyEvent false false, spyEvent false true] spyClock = .ok report ∧
    ¬ SelfConsistent (spyPolicy .debitVertical) report := by
  obtain ⟨report, h⟩ := exists_run (spyPolicy .debitVertical)
    (List.cons_ne_nil (spyEvent false false) [spyEvent false true])
  refine ⟨report, h, fun hconsistent => ?_⟩
  obtain ⟨hpayloads, hsummaries, -⟩ := runGateDTournament_spec h
  have hall := hconsistent.summaries
  rw [hpayloads, hsummaries, List.forall₂_map_right_iff, List.forall₂_same] at hall
  have hcost := (hall .debitVertical (by decide)).cost
  rw [comparedRows_eq] at hcost
  revert hcost
  decide +kernel

end EsscherMarket.Execution
