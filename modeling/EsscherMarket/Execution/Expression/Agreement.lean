import EsscherMarket.Execution.Expression.Compiler
import EsscherMarket.Execution.Expression.Tournament

/-!
# Compiler and tournament

`Comparable` says what a market must be for one expression, without naming either of them; the
tournament compares an expression exactly where it is comparable, and the compiler compiles it
exactly where it is comparable and `Executable`.
-/

namespace EsscherMarket.Execution

open Lib
open Strategy (StrategyDecision isUtc)

variable {snapshot : ExpressionMarketSnapshot} {policy : PromotedExpressionPolicy}

/-! ### The market that both sides check -/

/-- A fresh, two-sided, sized quote of bounded spread. -/
structure QuoteAdmissible (snapshot : ExpressionMarketSnapshot) (policy : PromotedExpressionPolicy)
    (quote : TwoSidedQuote) : Prop where
  past : quote.observedAt.micros ≤ snapshot.observationClockAt.micros
  fresh : snapshot.observationClockAt.micros - quote.observedAt.micros ≤
    milliseconds policy.quoteMaxAgeMs
  twoSided : 0 < quote.bid.toRat ∧ 0 < quote.ask.toRat
  uncrossed : quote.crossed = false
  sized : policy.minQuoteSize ≤ quote.bidSize ∧ policy.minQuoteSize ≤ quote.askSize
  bounded : policy.spreadMaxBps.lt ((quote.spread.div quote.ask).times (.ofNat 10000)) = false

def SourceAdmissible (policy : PromotedExpressionPolicy) (feed : FeedIdentity)
    (dataClass : DataClass) : Prop :=
  feed.identityKey ∈ pinnedFeeds ∧ dataClassAdmitted policy dataClass = true

def ContractAdmissible (snapshot : ExpressionMarketSnapshot) (policy : PromotedExpressionPolicy)
    (contract : OptionContractObservation) : Prop :=
  SourceAdmissible policy contract.feed contract.dataClass ∧
    QuoteAdmissible snapshot policy contract.quote

/-- A fresh, sized package market of bounded spread. -/
structure PackageAdmissible (snapshot : ExpressionMarketSnapshot)
    (policy : PromotedExpressionPolicy) (package : PackageObservation) : Prop where
  source : SourceAdmissible policy package.feed package.dataClass
  past : package.observedAt.micros ≤ snapshot.observationClockAt.micros
  fresh : snapshot.observationClockAt.micros - package.observedAt.micros ≤
    milliseconds policy.quoteMaxAgeMs
  twoSided : 0 < package.netBid.toRat ∧ 0 < package.netAsk.toRat
  uncrossed : package.crossed = false
  sized : policy.minQuoteSize ≤ package.size
  bounded : policy.spreadMaxBps.lt
    (((package.netAsk.sub package.netBid).div package.netAsk).times (.ofNat 10000)) = false

/-- Evidence that shares can be borrowed, from before the clock and fresh. -/
def BorrowAdmissible (snapshot : ExpressionMarketSnapshot) (policy : PromotedExpressionPolicy) :
    Prop :=
  ∃ evidence, snapshot.borrowLocate = some evidence ∧
    evidence.observedAt.micros ≤ snapshot.observationClockAt.micros ∧
    snapshot.observationClockAt.micros - evidence.observedAt.micros ≤
      milliseconds policy.quoteMaxAgeMs

def shareExposure (snapshot : ExpressionMarketSnapshot) (directionIsUp : Bool) : Decimal :=
  if directionIsUp then snapshot.share.quote.ask else snapshot.share.quote.bid

def WithinBudget (policy : PromotedExpressionPolicy) (loss : Decimal) : Prop :=
  policy.operationalLossBudget.lt loss = false

/-- The market of an expression passes the checks that compiler and tournament share, and the
expression can lose so much. -/
def Priced (snapshot : ExpressionMarketSnapshot) (policy : PromotedExpressionPolicy)
    (directionIsUp : Bool) : ExpressionKind → Decimal → Prop
  | .cashNoTrade, loss => loss = .ofNat 0
  | .shares, loss =>
    SourceAdmissible policy snapshot.share.feed snapshot.share.dataClass ∧
      QuoteAdmissible snapshot policy snapshot.share.quote ∧
      (directionIsUp = false → BorrowAdmissible snapshot policy) ∧
      loss = shareExposure snapshot directionIsUp
  | .oneLongOption, loss =>
    ∃ contract, selectLongContract snapshot policy directionIsUp = .ok contract ∧
      ContractAdmissible snapshot policy contract ∧
      loss = contract.quote.ask.times contractMultiplier
  | .debitVertical, loss =>
    ∃ geometry package, selectVerticalGeometry snapshot policy directionIsUp = .ok geometry ∧
      ContractAdmissible snapshot policy geometry.longLeg ∧
      ContractAdmissible snapshot policy geometry.shortLeg ∧
      validateCrossLegSkew policy geometry.longLeg.quote geometry.shortLeg.quote = .ok () ∧
      selectPackage snapshot geometry = .ok package ∧
      PackageAdmissible snapshot policy package ∧
      (package.netAsk.times contractMultiplier).lt
        (geometry.width.times contractMultiplier) = true ∧
      loss = package.netAsk.times contractMultiplier

/-- An expression of an admissible market whose loss is within the budget. -/
def Comparable (snapshot : ExpressionMarketSnapshot) (policy : PromotedExpressionPolicy)
    (directionIsUp : Bool) (kind : ExpressionKind) : Prop :=
  ∃ loss, Priced snapshot policy directionIsUp kind loss ∧ WithinBudget policy loss

def LegExecutable (snapshot : ExpressionMarketSnapshot) (contract : OptionContractObservation)
    (side : OptionSide) (positionIntent : PositionIntent) : Prop :=
  1 ≤ contractDte contract snapshot.asof ∧ (legFields contract side positionIntent).check = true

/-- What the compiler asks beyond the market of the selected contracts. -/
def Executable (snapshot : ExpressionMarketSnapshot) (policy : PromotedExpressionPolicy)
    (directionIsUp : Bool) : ExpressionKind → Prop
  | .cashNoTrade => True
  | .shares => True
  | .oneLongOption => ∀ contract, selectLongContract snapshot policy directionIsUp = .ok contract →
      LegExecutable snapshot contract .buy .buyToOpen
  | .debitVertical => ∀ geometry, selectVerticalGeometry snapshot policy directionIsUp = .ok geometry →
      LegExecutable snapshot geometry.longLeg .buy .buyToOpen ∧
      (legFields geometry.shortLeg .sell .sellToOpen).check = true

/-! ### The shared checks -/

theorem validateFeed_eq_ok {feed : FeedIdentity} {path : String} {u : Unit} :
    validateFeed feed path = .ok u ↔ feed.identityKey ∈ pinnedFeeds := by
  rw [validateFeed, throwIf_eq_ok, not_not]

theorem dataClassAdmitted_iff {dataClass : DataClass} : dataClassAdmitted policy dataClass = true ↔
    dataClass = .executable ∨ policy.allowsIndicativeData = true ∧ dataClass = .indicative := by
  simp [dataClassAdmitted]

theorem validateExecutableData_eq_ok {dataClass : DataClass} {path : String} {u : Unit} :
    validateExecutableData dataClass path policy.allowsIndicativeData = .ok u ↔
      dataClassAdmitted policy dataClass = true := by
  rw [validateExecutableData, throwIf_eq_ok, not_not, dataClassAdmitted_iff]

theorem observationAge_eq_ok {observedAt : DateTime} {path : String} {age : Int} :
    observationAge snapshot observedAt path = .ok age ↔
      observedAt.micros ≤ snapshot.observationClockAt.micros ∧
      age = snapshot.observationClockAt.micros - observedAt.micros := by
  simp only [observationAge, except_bind_eq_ok, throwIf_eq_ok, except_pure_eq_ok, not_lt,
    exists_and_left, exists_const, Int.sub_nonneg]
  exact and_congr_right fun _ => eq_comm

theorem validateQuote_eq_ok {quote : TwoSidedQuote} {path : String} {u : Unit} :
    validateQuote snapshot policy quote path = .ok u ↔ QuoteAdmissible snapshot policy quote := by
  simp only [validateQuote, except_bind_eq_ok, observationAge_eq_ok, throwIf_eq_ok, not_lt, not_or,
    not_le, Bool.not_eq_true]
  constructor
  · rintro ⟨age, ⟨hpast, rfl⟩, -, hfresh, -, htwo, -, hcrossed, -, hsized, hbounded⟩
    exact ⟨hpast, hfresh, htwo, hcrossed, hsized, hbounded⟩
  · rintro ⟨hpast, hfresh, htwo, hcrossed, hsized, hbounded⟩
    exact ⟨_, ⟨hpast, rfl⟩, (), hfresh, (), htwo, (), hcrossed, (), hsized, hbounded⟩

theorem validateOptionObservation_eq_ok {contract : OptionContractObservation} {path : String}
    {u : Unit} : validateOptionObservation snapshot policy contract path = .ok u ↔
      ContractAdmissible snapshot policy contract := by
  simp only [validateOptionObservation, except_bind_eq_ok, validateFeed_eq_ok,
    validateExecutableData_eq_ok, validateQuote_eq_ok, exists_const, ContractAdmissible,
    SourceAdmissible, and_assoc]

theorem validatePackage_eq_ok {package : PackageObservation} {path : String} {u : Unit} :
    validatePackage snapshot policy package path = .ok u ↔
      PackageAdmissible snapshot policy package := by
  simp only [validatePackage, except_bind_eq_ok, validateFeed_eq_ok, validateExecutableData_eq_ok,
    observationAge_eq_ok, throwIf_eq_ok, not_lt, not_or, not_le, Bool.not_eq_true]
  constructor
  · rintro ⟨-, hfeed, -, hclass, age, ⟨hpast, rfl⟩, -, hfresh, -, htwo, -, hcrossed, -, hsized,
      hbounded⟩
    exact ⟨⟨hfeed, hclass⟩, hpast, hfresh, htwo, hcrossed, hsized, hbounded⟩
  · rintro ⟨⟨hfeed, hclass⟩, hpast, hfresh, htwo, hcrossed, hsized, hbounded⟩
    exact ⟨(), hfeed, (), hclass, _, ⟨hpast, rfl⟩, (), hfresh, (), htwo, (), hcrossed, (), hsized,
      hbounded⟩

theorem validateBorrowLocate_eq_ok {u : Unit} :
    validateBorrowLocate snapshot policy snapshot.borrowLocate = .ok u ↔
      BorrowAdmissible snapshot policy := by
  rw [BorrowAdmissible]
  cases snapshot.borrowLocate with
  | none => simp [validateBorrowLocate]
  | some evidence =>
    simp only [validateBorrowLocate, except_bind_eq_ok, observationAge_eq_ok, throwIf_eq_ok, not_lt,
      Option.some.injEq, exists_eq_left', and_assoc, exists_and_left, exists_eq_left]

/-- A quote that passes the validation passes the quality check of the economics. -/
theorem checkQuoteQuality_of_admissible {quote : TwoSidedQuote}
    (h : QuoteAdmissible snapshot policy quote) :
    checkQuoteQuality policy quote.bid quote.ask quote.bidSize quote.askSize = none := by
  have hcrossed : quote.ask.lt quote.bid = false := h.uncrossed
  have hbounded : policy.spreadMaxBps.lt
    (((quote.ask.sub quote.bid).div quote.ask).times (.ofNat 10000)) = false := h.bounded
  have htwo : ¬(quote.bid.toRat ≤ 0 ∨ quote.ask.toRat ≤ 0) := by
    rw [not_or, not_le, not_le]
    exact h.twoSided
  have hsized : ¬(quote.bidSize < policy.minQuoteSize ∨ quote.askSize < policy.minQuoteSize) := by
    rw [not_or, not_lt, not_lt]
    exact h.sized
  simp only [checkQuoteQuality, if_neg htwo, hcrossed, if_neg hsized, hbounded, Bool.false_eq_true,
    if_false]

/-! ### The economics of a comparable market -/

theorem dataClassAdmitted_ne_false {dataClass : DataClass}
    (h : dataClassAdmitted policy dataClass = true) : ¬ dataClassAdmitted policy dataClass = false := by
  simp [h]

theorem sharesEconomics_outcome {eventId : String} {directionIsUp : Bool}
    (hsource : SourceAdmissible policy snapshot.share.feed snapshot.share.dataClass)
    (hquote : QuoteAdmissible snapshot policy snapshot.share.quote)
    (hborrow : directionIsUp = false → BorrowAdmissible snapshot policy) :
    (sharesEconomics snapshot policy eventId directionIsUp).outcome =
      if policy.operationalLossBudget.lt (shareExposure snapshot directionIsUp) = true then
        .rejected .exposureBudgetExceeded
      else .compared (shareExposure snapshot directionIsUp) (shareExposure snapshot directionIsUp)
        snapshot.share.quote.spread := by
  have hlocate : ¬(directionIsUp = false ∧ snapshot.borrowLocate.isNone = true) := by
    rintro ⟨hdown, hnone⟩
    obtain ⟨evidence, hsome, -⟩ := hborrow hdown
    rw [hsome] at hnone
    cases hnone
  simp only [sharesEconomics, if_neg (dataClassAdmitted_ne_false hsource.2),
    checkQuoteQuality_of_admissible hquote, if_neg hlocate, shareExposure]
  rfl

theorem optionEconomics_outcome {eventId : String} {contract : OptionContractObservation}
    (h : ContractAdmissible snapshot policy contract) :
    (optionEconomics policy eventId contract).outcome =
      if policy.operationalLossBudget.lt (contract.quote.ask.times contractMultiplier) = true then
        .rejected .exposureBudgetExceeded
      else .compared (contract.quote.ask.times contractMultiplier)
        (contract.quote.ask.times contractMultiplier)
        (contract.quote.spread.times contractMultiplier) := by
  simp only [optionEconomics, if_neg (dataClassAdmitted_ne_false h.1.2),
    checkQuoteQuality_of_admissible h.2]

theorem minDecimal_of_lt {a b : Decimal} (ha : a.isFinite) (hb : b.isFinite) (h : a.lt b = true) :
    minDecimal a b = a := by
  rw [Decimal.lt_iff ha hb] at h
  have hback : b.lt a = false := by
    rw [← Bool.not_eq_true, Decimal.lt_iff hb ha]
    exact not_lt.mpr h.le
  rw [minDecimal, hback]
  rfl

theorem isFinite_netAsk (package : PackageObservation) : package.netAsk.isFinite = true := by
  have h := package.accepted
  simp only [requireNonNegativeMoney, Bool.and_eq_true] at h
  tauto

theorem debitVerticalEconomics_outcome {eventId : String} {package : PackageObservation}
    {width : Decimal} (hwidth : width.isFinite = true)
    (h : PackageAdmissible snapshot policy package) :
    (debitVerticalEconomics policy eventId package width).outcome =
      if (package.netAsk.times contractMultiplier).lt (width.times contractMultiplier) = false then
        .rejected .debitNotBelowWidth
      else if policy.operationalLossBudget.lt (package.netAsk.times contractMultiplier) = true then
        .rejected .exposureBudgetExceeded
      else .compared (package.netAsk.times contractMultiplier)
        (package.netAsk.times contractMultiplier)
        ((package.netAsk.sub package.netBid).times contractMultiplier) := by
  have htwo : ¬(package.netBid.toRat ≤ 0 ∨ package.netAsk.toRat ≤ 0) := by
    rw [not_or, not_le, not_le]
    exact h.twoSided
  have hcrossed : package.netAsk.lt package.netBid = false := h.uncrossed
  have hsized : ¬ package.size < policy.minQuoteSize := not_lt.mpr h.sized
  simp only [debitVerticalEconomics, if_neg (dataClassAdmitted_ne_false h.source.2), if_neg htwo,
    hcrossed, if_neg hsized, h.bounded, Bool.false_eq_true, if_false]
  by_cases hdebit : (package.netAsk.times contractMultiplier).lt (width.times contractMultiplier) = false
  · rw [if_pos hdebit, if_pos hdebit]
  · have hfinite : ∀ d : Decimal, d.isFinite = true → (d.times contractMultiplier).isFinite = true :=
      fun d hd => Decimal.isFinite_times hd rfl
    rw [if_neg hdebit, if_neg hdebit, minDecimal_of_lt (hfinite _ (isFinite_netAsk package))
      (hfinite _ hwidth) (by simpa using hdebit)]

/-! ### What the tournament compares -/

def HasComparedRow (rows : List ExpressionEconomics) (kind : ExpressionKind) : Prop :=
  ∃ row ∈ rows, row.expressionKind = kind ∧ row.compared = true

variable {event : TournamentEvent}

theorem kind_strictSharesEconomics : (strictSharesEconomics policy event).expressionKind = .shares := by
  rw [strictSharesEconomics]
  split <;> rfl

theorem kind_strictVerticalEconomics {row : ExpressionEconomics}
    (h : strictVerticalEconomics policy event = .ok row) : row.expressionKind = .debitVertical := by
  simp only [strictVerticalEconomics, except_bind_eq_ok, except_pure_eq_ok] at h
  obtain ⟨_, -, _, -, _, -, _, -, _, -, _, -, rfl⟩ := h
  rfl

def longOptionRow (policy : PromotedExpressionPolicy) (event : TournamentEvent) :
    ExpressionEconomics :=
  match longOptionContract policy event with
  | .error error => rejectedEconomics event.eventId .oneLongOption error.reason
  | .ok contract => optionEconomics policy event.eventId contract

def verticalRow (policy : PromotedExpressionPolicy) (event : TournamentEvent) :
    ExpressionEconomics :=
  match longOptionContract policy event with
  | .error error => rejectedEconomics event.eventId .debitVertical error.reason
  | .ok _ => match strictVerticalEconomics policy event with
    | .error error => rejectedEconomics event.eventId .debitVertical error.reason
    | .ok economics => economics

def rowOf (policy : PromotedExpressionPolicy) (event : TournamentEvent) :
    ExpressionKind → ExpressionEconomics
  | .cashNoTrade => cashEconomics event.eventId
  | .shares => strictSharesEconomics policy event
  | .oneLongOption => longOptionRow policy event
  | .debitVertical => verticalRow policy event

/-- An event has one row for each expression. -/
theorem eventEconomics_eq : eventEconomics policy event = expressionOrder.map (rowOf policy event) := by
  rw [eventEconomics]
  simp only [expressionOrder, List.map_cons, List.map_nil, rowOf, longOptionRow, verticalRow]
  cases longOptionContract policy event <;> rfl

theorem kind_rowOf (kind : ExpressionKind) : (rowOf policy event kind).expressionKind = kind := by
  cases kind with
  | cashNoTrade => rfl
  | shares => exact kind_strictSharesEconomics
  | oneLongOption =>
    rw [rowOf, longOptionRow]
    split <;> rfl
  | debitVertical =>
    rw [rowOf, verticalRow]
    split
    · rfl
    · split
      · rfl
      · rename_i h
        exact kind_strictVerticalEconomics h

theorem mem_eventEconomics {row : ExpressionEconomics} {kind : ExpressionKind} :
    row ∈ eventEconomics policy event ∧ row.expressionKind = kind ↔ row = rowOf policy event kind := by
  rw [eventEconomics_eq, List.mem_map]
  constructor
  · rintro ⟨⟨kind', -, rfl⟩, hkind⟩
    rw [kind_rowOf] at hkind
    rw [hkind]
  · rintro rfl
    exact ⟨⟨kind, by cases kind <;> decide, rfl⟩, kind_rowOf kind⟩

theorem hasComparedRow_iff {kind : ExpressionKind} :
    HasComparedRow (eventEconomics policy event) kind ↔ (rowOf policy event kind).compared = true := by
  constructor
  · rintro ⟨row, hmem, hkind, hcompared⟩
    rwa [← mem_eventEconomics.mp ⟨hmem, hkind⟩]
  · intro h
    obtain ⟨hmem, hkind⟩ := mem_eventEconomics.mpr (Eq.refl (rowOf policy event kind))
    exact ⟨_, hmem, hkind, h⟩

/-- What a row can lose, where its outcome is the one of a price against the budget. -/
theorem maxLoss_of_outcome {row : ExpressionEconomics} {loss cost spread : Decimal}
    {reason : ExpressionReason}
    (h : row.outcome = if policy.operationalLossBudget.lt loss = true then .rejected reason
      else .compared cost loss spread) (loss' : Decimal) :
    row.maxLoss = some loss' ↔ loss' = loss ∧ WithinBudget policy loss' := by
  rw [ExpressionEconomics.maxLoss, WithinBudget, h]
  cases hbudget : policy.operationalLossBudget.lt loss with
  | true =>
    constructor
    · intro hsome
      cases hsome
    · rintro ⟨rfl, hwithin⟩
      rw [hbudget] at hwithin
      cases hwithin
  | false =>
    constructor
    · intro hsome
      cases hsome
      exact ⟨rfl, hbudget⟩
    · rintro ⟨rfl, -⟩
      rfl

theorem maxLoss_rejected {eventId : String} {kind : ExpressionKind} {reason : ExpressionReason}
    {loss : Decimal} : (rejectedEconomics eventId kind reason).maxLoss ≠ some loss := by
  intro h
  cases h

theorem longOptionContract_eq_ok {contract : OptionContractObservation} :
    longOptionContract policy event = .ok contract ↔
      selectLongContract event.snapshot policy event.isUp = .ok contract ∧
      ContractAdmissible event.snapshot policy contract := by
  simp only [longOptionContract, except_bind_eq_ok, validateOptionObservation_eq_ok,
    except_pure_eq_ok]
  constructor
  · rintro ⟨c, hselect, -, hadmissible, rfl⟩
    exact ⟨hselect, hadmissible⟩
  · rintro ⟨hselect, hadmissible⟩
    exact ⟨contract, hselect, (), hadmissible, rfl⟩

theorem maxLoss_shares {loss : Decimal} : (strictSharesEconomics policy event).maxLoss = some loss ↔
    Priced event.snapshot policy event.isUp .shares loss ∧ WithinBudget policy loss := by
  have hchecks : ∀ u : Unit, (do
      validateFeed event.snapshot.share.feed "share.feed"
      validateExecutableData event.snapshot.share.dataClass "share.data_class"
        policy.allowsIndicativeData
      validateQuote event.snapshot policy event.snapshot.share.quote "share.quote"
      if event.isUp = false then
        validateBorrowLocate event.snapshot policy event.snapshot.borrowLocate) = .ok u ↔
      SourceAdmissible policy event.snapshot.share.feed event.snapshot.share.dataClass ∧
      QuoteAdmissible event.snapshot policy event.snapshot.share.quote ∧
      (event.isUp = false → BorrowAdmissible event.snapshot policy) := by
    intro u
    simp only [except_bind_eq_ok, validateFeed_eq_ok, validateExecutableData_eq_ok,
      validateQuote_eq_ok, exists_const, SourceAdmissible, and_assoc]
    by_cases hup : event.isUp = false
    · simp [hup, validateBorrowLocate_eq_ok]
    · simp [hup, except_pure_eq_ok]
  rw [strictSharesEconomics]
  split
  · rename_i error herror
    constructor
    · exact fun h => absurd h maxLoss_rejected
    · rintro ⟨⟨hsource, hquote, hborrow, -⟩, -⟩
      rw [(hchecks ()).mpr ⟨hsource, hquote, hborrow⟩] at herror
      cases herror
  · rename_i hok
    obtain ⟨hsource, hquote, hborrow⟩ := (hchecks ()).mp hok
    rw [maxLoss_of_outcome (sharesEconomics_outcome hsource hquote hborrow), Priced]
    tauto

theorem maxLoss_longOption {loss : Decimal} : (longOptionRow policy event).maxLoss = some loss ↔
    Priced event.snapshot policy event.isUp .oneLongOption loss ∧ WithinBudget policy loss := by
  rw [longOptionRow, Priced]
  split
  · rename_i error herror
    constructor
    · exact fun h => absurd h maxLoss_rejected
    · rintro ⟨⟨contract, hselect, hadmissible, -⟩, -⟩
      rw [longOptionContract_eq_ok.mpr ⟨hselect, hadmissible⟩] at herror
      cases herror
  · rename_i contract hok
    obtain ⟨hselect, hadmissible⟩ := longOptionContract_eq_ok.mp hok
    rw [maxLoss_of_outcome (optionEconomics_outcome hadmissible)]
    constructor
    · rintro ⟨hloss, hwithin⟩
      exact ⟨⟨contract, hselect, hadmissible, hloss⟩, hwithin⟩
    · rintro ⟨⟨contract', hselect', -, hloss⟩, hwithin⟩
      rw [hselect] at hselect'
      cases hselect'
      exact ⟨hloss, hwithin⟩

theorem strictVerticalEconomics_eq_ok {row : ExpressionEconomics} :
    strictVerticalEconomics policy event = .ok row ↔ ∃ geometry package,
      selectVerticalGeometry event.snapshot policy event.isUp = .ok geometry ∧
      ContractAdmissible event.snapshot policy geometry.longLeg ∧
      ContractAdmissible event.snapshot policy geometry.shortLeg ∧
      validateCrossLegSkew policy geometry.longLeg.quote geometry.shortLeg.quote = .ok () ∧
      selectPackage event.snapshot geometry = .ok package ∧
      PackageAdmissible event.snapshot policy package ∧
      row = debitVerticalEconomics policy event.eventId package geometry.width := by
  simp only [strictVerticalEconomics, except_bind_eq_ok, validateOptionObservation_eq_ok,
    validatePackage_eq_ok, except_pure_eq_ok]
  constructor
  · rintro ⟨geometry, hgeometry, -, hlong, -, hshort, u, hskew, package, hpackage, -, hadmissible,
      rfl⟩
    exact ⟨geometry, package, hgeometry, hlong, hshort, hskew, hpackage, hadmissible, rfl⟩
  · rintro ⟨geometry, package, hgeometry, hlong, hshort, hskew, hpackage, hadmissible, rfl⟩
    exact ⟨geometry, hgeometry, (), hlong, (), hshort, (), hskew, package, hpackage, (),
      hadmissible, rfl⟩

theorem maxLoss_debitVertical {eventId : String} {package : PackageObservation} {width : Decimal}
    (hwidth : width.isFinite = true) (h : PackageAdmissible event.snapshot policy package)
    {loss : Decimal} :
    (debitVerticalEconomics policy eventId package width).maxLoss = some loss ↔
      (package.netAsk.times contractMultiplier).lt (width.times contractMultiplier) = true ∧
      loss = package.netAsk.times contractMultiplier ∧ WithinBudget policy loss := by
  have houtcome := @debitVerticalEconomics_outcome _ _ eventId _ _ hwidth h
  cases hdebit : (package.netAsk.times contractMultiplier).lt (width.times contractMultiplier) with
  | false =>
    rw [hdebit, if_pos rfl] at houtcome
    simp [ExpressionEconomics.maxLoss, houtcome]
  | true =>
    rw [hdebit, if_neg (by decide)] at houtcome
    rw [maxLoss_of_outcome houtcome]
    simp

theorem maxLoss_vertical {loss : Decimal} : (verticalRow policy event).maxLoss = some loss ↔
    Priced event.snapshot policy event.isUp .debitVertical loss ∧ WithinBudget policy loss := by
  rw [verticalRow, Priced]
  split
  · rename_i error herror
    constructor
    · exact fun h => absurd h maxLoss_rejected
    · -- the long option of the event is the long leg of the geometry
      rintro ⟨⟨geometry, package, hgeometry, hlong, -⟩, -⟩
      have hselect := (selectVerticalGeometry_spec hgeometry).1
      rw [longOptionContract_eq_ok.mpr ⟨hselect, hlong⟩] at herror
      cases herror
  · split
    · rename_i error herror
      constructor
      · exact fun h => absurd h maxLoss_rejected
      · rintro ⟨⟨geometry, package, hgeometry, hlong, hshort, hskew, hpackage, hadmissible, -⟩, -⟩
        rw [strictVerticalEconomics_eq_ok.mpr
          ⟨geometry, package, hgeometry, hlong, hshort, hskew, hpackage, hadmissible, rfl⟩] at herror
        cases herror
    · rename_i row hok
      obtain ⟨geometry, package, hgeometry, hlong, hshort, hskew, hpackage, hadmissible, rfl⟩ :=
        strictVerticalEconomics_eq_ok.mp hok
      rw [maxLoss_debitVertical (width_pos hgeometry).1 hadmissible]
      constructor
      · rintro ⟨hdebit, hloss, hwithin⟩
        exact ⟨⟨geometry, package, hgeometry, hlong, hshort, hskew, hpackage, hadmissible, hdebit,
          hloss⟩, hwithin⟩
      · rintro ⟨⟨geometry', package', hgeometry', -, -, -, hpackage', -, hdebit, hloss⟩, hwithin⟩
        rw [hgeometry] at hgeometry'
        cases hgeometry'
        rw [hpackage] at hpackage'
        cases hpackage'
        exact ⟨hdebit, hloss, hwithin⟩

theorem withinBudget_zero : WithinBudget policy (.ofNat 0) := by
  have hbudget := policy.accepted
  simp only [PromotedExpressionPolicyFields.check, Bool.and_eq_true, decide_eq_true_eq] at hbudget
  have hfinite : policy.operationalLossBudget.isFinite = true := by tauto
  have hpos : 0 < policy.operationalLossBudget.toRat := by tauto
  rw [WithinBudget, ← Bool.not_eq_true, Decimal.lt_iff hfinite rfl, Decimal.toRat_ofNat]
  exact not_lt.mpr (by exact_mod_cast hpos.le)

/-- The tournament compares an expression exactly where it is comparable, at its loss. -/
theorem maxLoss_rowOf {kind : ExpressionKind} {loss : Decimal} :
    (rowOf policy event kind).maxLoss = some loss ↔
      Priced event.snapshot policy event.isUp kind loss ∧ WithinBudget policy loss := by
  cases kind with
  | cashNoTrade =>
    rw [rowOf, Priced]
    constructor
    · intro h
      cases h
      exact ⟨rfl, withinBudget_zero⟩
    · rintro ⟨rfl, -⟩
      rfl
  | shares => exact maxLoss_shares
  | oneLongOption => exact maxLoss_longOption
  | debitVertical => exact maxLoss_vertical

theorem compared_iff_maxLoss (row : ExpressionEconomics) :
    row.compared = true ↔ ∃ loss, row.maxLoss = some loss := by
  rw [ExpressionEconomics.compared, ExpressionEconomics.maxLoss]
  cases row.outcome <;> simp

theorem hasComparedRow_iff_comparable {kind : ExpressionKind} :
    HasComparedRow (eventEconomics policy event) kind ↔
      Comparable event.snapshot policy event.isUp kind := by
  rw [hasComparedRow_iff, compared_iff_maxLoss]
  exact exists_congr fun _ => maxLoss_rowOf

/-! ### What the compiler compiles -/

/-- The exposure, premium or maximum loss that a compiled expression states. -/
def compiledLoss (c : CompiledExpression) : Option Json :=
  match c.expressionKind with
  | .cashNoTrade => none
  | .shares => c.shares.bind (·.get? "exposure")
  | .oneLongOption => c.longOption.bind (·.get? "premium_at_risk")
  | .debitVertical => c.debitVertical.bind (·.get? "maximum_loss")

theorem buildOptionLeg_eq_ok {contract : OptionContractObservation} {side : OptionSide}
    {positionIntent : PositionIntent} {leg : OptionLeg} :
    buildOptionLeg contract side positionIntent = .ok leg ↔
      leg.toOptionLegFields = legFields contract side positionIntent ∧
      (legFields contract side positionIntent).check = true := by
  rw [buildOptionLeg]
  split
  · rename_i h
    constructor
    · intro heq
      cases heq
      exact ⟨rfl, h⟩
    · rintro ⟨heq, -⟩
      obtain ⟨fields, haccepted⟩ := leg
      cases heq
      rfl
  · rename_i h
    constructor
    · intro heq
      cases heq
    · rintro ⟨-, hcheck⟩
      exact absurd hcheck h

theorem exists_buildOptionLeg {contract : OptionContractObservation} {side : OptionSide}
    {positionIntent : PositionIntent} (h : (legFields contract side positionIntent).check = true) :
    ∃ leg, buildOptionLeg contract side positionIntent = .ok leg :=
  ⟨⟨_, h⟩, buildOptionLeg_eq_ok.mpr ⟨rfl, h⟩⟩

variable {b : Bindings} {directionIsUp : Bool}

/-- A price against the budget, and what is made of it. -/
theorem budget_cases {outcome : EconomicsOutcome} {loss cost spread : Decimal}
    {reason : ExpressionReason} {path : String} {f : Decimal → CompiledExpression}
    (h : outcome = if policy.operationalLossBudget.lt loss = true then .rejected reason
      else .compared cost loss spread) {c : CompiledExpression} :
    (match outcome with
      | .rejected reason => Except.error (ε := ExpressionRejected) ⟨reason, path⟩
      | .compared _ maxLoss _ => pure (f maxLoss)) = .ok c ↔ WithinBudget policy loss ∧ c = f loss := by
  rw [WithinBudget, h]
  cases policy.operationalLossBudget.lt loss with
  | true => simp
  | false => simp [pure, Except.pure, eq_comm]

/-- A check that is only made under a condition. -/
theorem except_when_eq_ok {ε α : Type} {p : Prop} [Decidable p] {x : Except ε Unit}
    {f : Unit → Except ε α} {a : α} :
    (if p then x >>= f else f ()) = .ok a ↔ (p → x = .ok ()) ∧ f () = .ok a := by
  by_cases hp : p
  · rw [if_pos hp, except_bind_eq_ok]
    exact ⟨fun ⟨_, hx, hf⟩ => ⟨fun _ => hx, hf⟩, fun ⟨hx, hf⟩ => ⟨(), hx hp, hf⟩⟩
  · simp [hp]

theorem compileShares_eq_ok {c : CompiledExpression} :
    compileShares snapshot policy b directionIsUp = .ok c ↔
      Comparable snapshot policy directionIsUp .shares ∧
      c = ⟨b.fields .shares (some (sharesBlock snapshot directionIsUp)) none none,
        b.check_fields rfl⟩ := by
  simp only [compileShares, except_bind_eq_ok, validateFeed_eq_ok, validateExecutableData_eq_ok,
    validateQuote_eq_ok]
  constructor
  · rintro ⟨-, hfeed, -, hclass, -, hquote, h⟩
    have hsource : SourceAdmissible policy snapshot.share.feed snapshot.share.dataClass :=
      ⟨hfeed, hclass⟩
    obtain ⟨hlocate, h⟩ := except_when_eq_ok.mp h
    simp only [validateBorrowLocate_eq_ok] at hlocate
    obtain ⟨hwithin, rfl⟩ := (budget_cases (sharesEconomics_outcome hsource hquote hlocate)
      (f := fun _ => ⟨b.fields .shares (some (sharesBlock snapshot directionIsUp)) none none,
        b.check_fields rfl⟩)).mp h
    exact ⟨⟨_, ⟨hsource, hquote, hlocate, rfl⟩, hwithin⟩, rfl⟩
  · rintro ⟨⟨loss, ⟨hsource, hquote, hlocate, rfl⟩, hwithin⟩, rfl⟩
    refine ⟨(), hsource.1, (), hsource.2, (), hquote, except_when_eq_ok.mpr
      ⟨fun hdown => validateBorrowLocate_eq_ok.mpr (hlocate hdown), ?_⟩⟩
    exact (budget_cases (sharesEconomics_outcome hsource hquote hlocate)
      (f := fun _ => ⟨b.fields .shares (some (sharesBlock snapshot directionIsUp)) none none,
        b.check_fields rfl⟩)).mpr ⟨hwithin, rfl⟩

theorem compileLongOption_eq_ok {c : CompiledExpression} :
    compileLongOption snapshot policy b directionIsUp = .ok c ↔ ∃ contract leg,
      selectLongContract snapshot policy directionIsUp = .ok contract ∧
      ContractAdmissible snapshot policy contract ∧
      WithinBudget policy (contract.quote.ask.times contractMultiplier) ∧
      1 ≤ contractDte contract snapshot.asof ∧
      buildOptionLeg contract .buy .buyToOpen = .ok leg ∧
      c = ⟨b.fields .oneLongOption none (some (longOptionBlock leg
        (contractDte contract snapshot.asof) (contract.quote.ask.times contractMultiplier))) none,
        b.check_fields rfl⟩ := by
  simp only [compileLongOption, except_bind_eq_ok, validateOptionObservation_eq_ok, throwIf_eq_ok,
    not_lt]
  constructor
  · rintro ⟨contract, hselect, -, hadmissible, -, hdte, leg, hleg, h⟩
    obtain ⟨hwithin, rfl⟩ := (budget_cases (optionEconomics_outcome hadmissible)
      (f := fun loss => ⟨b.fields .oneLongOption none (some (longOptionBlock leg
        (contractDte contract snapshot.asof) loss)) none, b.check_fields rfl⟩)).mp h
    exact ⟨contract, leg, hselect, hadmissible, hwithin, hdte, hleg, rfl⟩
  · rintro ⟨contract, leg, hselect, hadmissible, hwithin, hdte, hleg, rfl⟩
    refine ⟨contract, hselect, (), hadmissible, (), hdte, leg, hleg, ?_⟩
    exact (budget_cases (optionEconomics_outcome hadmissible)
      (f := fun loss => ⟨b.fields .oneLongOption none (some (longOptionBlock leg
        (contractDte contract snapshot.asof) loss)) none, b.check_fields rfl⟩)).mpr ⟨hwithin, rfl⟩

def compiledVertical (snapshot : ExpressionMarketSnapshot) (b : Bindings) (directionIsUp : Bool)
    (longLeg shortLeg : OptionLeg) (package : PackageObservation) (width loss : Decimal) :
    CompiledExpression :=
  ⟨b.fields .debitVertical none none (some (debitVerticalBlock snapshot directionIsUp longLeg
    shortLeg package width loss)), b.check_fields rfl⟩

theorem compileDebitVertical_eq_ok {c : CompiledExpression} :
    compileDebitVertical snapshot policy b directionIsUp = .ok c ↔
    ∃ geometry package longLeg shortLeg,
      selectVerticalGeometry snapshot policy directionIsUp = .ok geometry ∧
      ContractAdmissible snapshot policy geometry.longLeg ∧
      ContractAdmissible snapshot policy geometry.shortLeg ∧
      validateCrossLegSkew policy geometry.longLeg.quote geometry.shortLeg.quote = .ok () ∧
      selectPackage snapshot geometry = .ok package ∧
      PackageAdmissible snapshot policy package ∧
      (package.netAsk.times contractMultiplier).lt
        (geometry.width.times contractMultiplier) = true ∧
      WithinBudget policy (package.netAsk.times contractMultiplier) ∧
      1 ≤ contractDte geometry.longLeg snapshot.asof ∧
      buildOptionLeg geometry.longLeg .buy .buyToOpen = .ok longLeg ∧
      buildOptionLeg geometry.shortLeg .sell .sellToOpen = .ok shortLeg ∧
      c = compiledVertical snapshot b directionIsUp longLeg shortLeg package geometry.width
        (package.netAsk.times contractMultiplier) := by
  have hprice : ∀ (geometry : VerticalGeometry) (package : PackageObservation)
      (longLeg shortLeg : OptionLeg),
      selectVerticalGeometry snapshot policy directionIsUp = .ok geometry →
      PackageAdmissible snapshot policy package →
      ((match (debitVerticalEconomics policy b.eventId package geometry.width).outcome with
        | .rejected reason => Except.error (ε := ExpressionRejected) ⟨reason, "debit_vertical"⟩
        | .compared _ maxLoss _ => pure (compiledVertical snapshot b directionIsUp longLeg shortLeg
            package geometry.width maxLoss)) = .ok c ↔
      (package.netAsk.times contractMultiplier).lt
        (geometry.width.times contractMultiplier) = true ∧
      WithinBudget policy (package.netAsk.times contractMultiplier) ∧
      c = compiledVertical snapshot b directionIsUp longLeg shortLeg package geometry.width
        (package.netAsk.times contractMultiplier)) := by
    intro geometry package longLeg shortLeg hgeometry hadmissible
    have houtcome := @debitVerticalEconomics_outcome _ _ b.eventId _ _ (width_pos hgeometry).1
      hadmissible
    cases hdebit : (package.netAsk.times contractMultiplier).lt
        (geometry.width.times contractMultiplier) with
    | false =>
      rw [hdebit, if_pos rfl] at houtcome
      simp [houtcome]
    | true =>
      rw [hdebit, if_neg (by decide)] at houtcome
      rw [budget_cases houtcome]
      simp
  simp only [compileDebitVertical, except_bind_eq_ok, validateOptionObservation_eq_ok,
    throwIf_eq_ok, not_lt, validatePackage_eq_ok]
  constructor
  · rintro ⟨geometry, hgeometry, -, hlong, -, hshort, u, hskew, -, hdte, longLeg, hlongLeg, shortLeg,
      hshortLeg, package, hpackage, -, hadmissible, h⟩
    obtain ⟨hdebit, hwithin, hc⟩ :=
      (hprice geometry package longLeg shortLeg hgeometry hadmissible).mp h
    exact ⟨geometry, package, longLeg, shortLeg, hgeometry, hlong, hshort, hskew, hpackage,
      hadmissible, hdebit, hwithin, hdte, hlongLeg, hshortLeg, hc⟩
  · rintro ⟨geometry, package, longLeg, shortLeg, hgeometry, hlong, hshort, hskew, hpackage,
      hadmissible, hdebit, hwithin, hdte, hlongLeg, hshortLeg, hc⟩
    exact ⟨geometry, hgeometry, (), hlong, (), hshort, (), hskew, (), hdte, longLeg, hlongLeg,
      shortLeg, hshortLeg, package, hpackage, (), hadmissible,
      (hprice geometry package longLeg shortLeg hgeometry hadmissible).mpr ⟨hdebit, hwithin, hc⟩⟩

/-- The compiler compiles an expression exactly where it is comparable and executable. -/
theorem exists_compileKind_iff {kind : ExpressionKind} :
    (∃ c, compileKind snapshot policy b directionIsUp kind = .ok c) ↔
      Comparable snapshot policy directionIsUp kind ∧
      Executable snapshot policy directionIsUp kind := by
  cases kind with
  | cashNoTrade =>
    exact ⟨fun _ => ⟨⟨_, rfl, withinBudget_zero⟩, trivial⟩, fun _ => ⟨_, rfl⟩⟩
  | shares =>
    simp only [compileKind, compileShares_eq_ok, exists_and_left, exists_eq, and_true, Executable]
  | oneLongOption =>
    simp only [compileKind, compileLongOption_eq_ok]
    constructor
    · rintro ⟨c, contract, leg, hselect, hadmissible, hwithin, hdte, hleg, -⟩
      refine ⟨⟨_, ⟨contract, hselect, hadmissible, rfl⟩, hwithin⟩, fun contract' hselect' => ?_⟩
      rw [hselect] at hselect'
      cases hselect'
      exact ⟨hdte, (buildOptionLeg_eq_ok.mp hleg).2⟩
    · rintro ⟨⟨loss, ⟨contract, hselect, hadmissible, rfl⟩, hwithin⟩, hexecutable⟩
      obtain ⟨hdte, hcheck⟩ := hexecutable contract hselect
      obtain ⟨leg, hleg⟩ := exists_buildOptionLeg hcheck
      exact ⟨_, contract, leg, hselect, hadmissible, hwithin, hdte, hleg, rfl⟩
  | debitVertical =>
    simp only [compileKind, compileDebitVertical_eq_ok]
    constructor
    · rintro ⟨c, geometry, package, longLeg, shortLeg, hgeometry, hlong, hshort, hskew, hpackage,
        hadmissible, hdebit, hwithin, hdte, hlongLeg, hshortLeg, -⟩
      refine ⟨⟨_, ⟨geometry, package, hgeometry, hlong, hshort, hskew, hpackage, hadmissible, hdebit,
        rfl⟩, hwithin⟩, fun geometry' hgeometry' => ?_⟩
      rw [hgeometry] at hgeometry'
      cases hgeometry'
      exact ⟨⟨hdte, (buildOptionLeg_eq_ok.mp hlongLeg).2⟩, (buildOptionLeg_eq_ok.mp hshortLeg).2⟩
    · rintro ⟨⟨loss, ⟨geometry, package, hgeometry, hlong, hshort, hskew, hpackage, hadmissible,
        hdebit, rfl⟩, hwithin⟩, hexecutable⟩
      obtain ⟨⟨hdte, hlongCheck⟩, hshortCheck⟩ := hexecutable geometry hgeometry
      obtain ⟨longLeg, hlongLeg⟩ := exists_buildOptionLeg hlongCheck
      obtain ⟨shortLeg, hshortLeg⟩ := exists_buildOptionLeg hshortCheck
      exact ⟨_, geometry, package, longLeg, shortLeg, hgeometry, hlong, hshort, hskew, hpackage,
        hadmissible, hdebit, hwithin, hdte, hlongLeg, hshortLeg, rfl⟩

/-- What a compiled expression states is the loss of its market. -/
theorem compiledLoss_of_ok {kind : ExpressionKind} (hkind : kind ≠ .cashNoTrade)
    {c : CompiledExpression} (h : compileKind snapshot policy b directionIsUp kind = .ok c) :
    ∃ loss, Priced snapshot policy directionIsUp kind loss ∧ WithinBudget policy loss ∧
      compiledLoss c = some (.str loss.toText) := by
  cases kind with
  | cashNoTrade => exact absurd rfl hkind
  | shares =>
    obtain ⟨⟨loss, hpriced, hwithin⟩, rfl⟩ := compileShares_eq_ok.mp h
    refine ⟨loss, hpriced, hwithin, ?_⟩
    obtain ⟨-, -, -, rfl⟩ := hpriced
    rfl
  | oneLongOption =>
    obtain ⟨contract, leg, hselect, hadmissible, hwithin, hdte, hleg, rfl⟩ :=
      compileLongOption_eq_ok.mp h
    exact ⟨_, ⟨contract, hselect, hadmissible, rfl⟩, hwithin, rfl⟩
  | debitVertical =>
    obtain ⟨geometry, package, longLeg, shortLeg, hgeometry, hlong, hshort, hskew, hpackage,
      hadmissible, hdebit, hwithin, -, -, -, rfl⟩ := compileDebitVertical_eq_ok.mp h
    exact ⟨_, ⟨geometry, package, hgeometry, hlong, hshort, hskew, hpackage, hadmissible, hdebit, rfl⟩,
      hwithin, rfl⟩

/-! ### The agreement -/

variable {decision : StrategyDecision} {decisionBytes : List UInt8}
  {policySha256 gateDReportSha256 : String} {compiledAt : DateTime}

/-- The compiler gets as far as the promoted expression where the clocks are in order. -/
theorem compileExpression_eq_ok (haccepted : decision.disposition = .accepted)
    (hbound : Sha256.hexdigest decisionBytes = snapshot.decisionSha256)
    (hpolicy : policySha256 = promotedExpressionPolicySha256 policy)
    (hreport : policy.gateDReportSha256 = gateDReportSha256) {c : CompiledExpression} :
    compileExpression snapshot policy decision decisionBytes policySha256 gateDReportSha256
      compiledAt = .ok c ↔
    isUtc compiledAt = true ∧ decision.decisionAt.micros ≤ snapshot.observationClockAt.micros ∧
    ∃ h, compileKind snapshot policy ⟨decision.eventId, Sha256.hexdigest decisionBytes,
      expressionMarketSnapshotSha256 snapshot, policySha256, gateDReportSha256, compiledAt, h⟩
      (decision.direction == .up) policy.expressionKind = .ok c := by
  have hdirection : decision.direction ≠ .uncertain := by
    have h := decision.accepted
    simp only [Strategy.StrategyDecisionFields.check, Strategy.StrategyDecisionFields.checkDisposition,
      haccepted, if_true, Bool.and_eq_true, bne_iff_ne] at h
    exact h.2.1.1.1.1
  by_cases hutc : isUtc compiledAt = true
  · rw [compileExpression, dif_pos hutc, dif_pos hpolicy, dif_pos hreport]
    simp only [except_bind_eq_ok, throwIf_eq_ok, ne_eq, not_not, not_lt]
    constructor
    · rintro ⟨-, -, -, -, -, -, -, hclock, h⟩
      exact ⟨hutc, hclock, _, h⟩
    · rintro ⟨-, hclock, _, h⟩
      exact ⟨(), haccepted, (), hdirection, (), hbound, (), hclock, h⟩
  · rw [compileExpression, dif_neg hutc]
    constructor
    · intro h
      cases h
    · exact fun h => absurd h.1 hutc

/-- Compiler and tournament say the same of the promoted expression: it is compiled exactly where it
is compared, with the loss of its row. -/
def Agrees (policy : PromotedExpressionPolicy) (event : TournamentEvent)
    (decision : StrategyDecision) (decisionBytes : List UInt8)
    (policySha256 gateDReportSha256 : String) (compiledAt : DateTime) : Prop :=
  let outcome := compileOrNoPackage event.snapshot policy decision decisionBytes policySha256
    gateDReportSha256 compiledAt
  ((∃ c, outcome = .inl c) ↔
    HasComparedRow (eventEconomics policy event) policy.expressionKind) ∧
  ∀ c, outcome = .inl c → ∀ row ∈ eventEconomics policy event,
    row.expressionKind = policy.expressionKind →
    compiledLoss c = row.maxLoss.map fun loss => .str loss.toText

theorem compileOrNoPackage_eq_inl {c : CompiledExpression} :
    compileOrNoPackage snapshot policy decision decisionBytes policySha256 gateDReportSha256
      compiledAt = .inl c ↔
    compileExpression snapshot policy decision decisionBytes policySha256 gateDReportSha256
      compiledAt = .ok c := by
  rw [compileOrNoPackage]
  split
  · rename_i compiled h
    simp [h]
  · rename_i rejected h
    simp [h]

variable {event : TournamentEvent}

instance decidableOfOk {ε α : Type} (x : Except ε α) (p : α → Prop) [DecidablePred p] :
    Decidable (∀ a, x = .ok a → p a) :=
  match x with
  | .ok a => decidable_of_iff (p a) (by simp)
  | .error _ => .isTrue (by simp)

instance decidableLegExecutable (snapshot : ExpressionMarketSnapshot)
    (contract : OptionContractObservation) (side : OptionSide) (positionIntent : PositionIntent) :
    Decidable (LegExecutable snapshot contract side positionIntent) :=
  inferInstanceAs (Decidable (_ ∧ _))

instance decidableExecutable (snapshot : ExpressionMarketSnapshot)
    (policy : PromotedExpressionPolicy) (directionIsUp : Bool) :
    ∀ kind, Decidable (Executable snapshot policy directionIsUp kind)
  | .cashNoTrade => .isTrue trivial
  | .shares => .isTrue trivial
  | .oneLongOption => decidableOfOk (selectLongContract snapshot policy directionIsUp)
      fun contract => LegExecutable snapshot contract .buy .buyToOpen
  | .debitVertical => decidableOfOk (selectVerticalGeometry snapshot policy directionIsUp)
      fun geometry => LegExecutable snapshot geometry.longLeg .buy .buyToOpen ∧
        (legFields geometry.shortLeg .sell .sellToOpen).check = true

def spyClock : DateTime := .utc 1789135200000000

def spyFeed (feed tool schema : String) (h : feed ≠ "" ∧ tool ≠ "" ∧ schema ≠ "") : FeedIdentity :=
  ⟨feed, tool, schema, "1", h.1, h.2.1, h.2.2, by decide⟩

def spyQuote : TwoSidedQuote :=
  ⟨.cents 240, .cents 250, 10, 10, spyClock, by decide +kernel, by decide +kernel⟩

def spyShare : ShareObservation :=
  ⟨"SPY", spyQuote, spyFeed "SYNTHETIC_SIP_EQUITY_FEED" "read_only_equity_quote" "equity_quote.v1"
    (by decide), .executable, by decide⟩

/-- The day on which the contracts expire: the day of the clock, or a week later. -/
def spyExpiryDay (sameDay : Bool) : Nat := if sameDay then 11 else 18

def spyCall (sameDay high : Bool) : OptionContractObservation where
  symbol := String.ofList ("SPY2609".toList ++ zeroPad 2 (spyExpiryDay sameDay) ++
    (if high then "C00105000" else "C00100000").toList)
  underlying := "SPY"
  expiry := ⟨2026, 9, spyExpiryDay sameDay⟩
  optionType := .call
  strike := .ofNat (if high then 105 else 100)
  quote := spyQuote
  feed := spyFeed "SYNTHETIC_OPTION_SNAPSHOT_FEED" "read_only_option_chain"
    "option_chain_snapshot.v1" (by decide)
  dataClass := .executable
  openInterest := some 100
  reportedDelta := some (.cents 45)
  accepted := by cases sameDay <;> cases high <;> decide +kernel

def spyPackage (sameDay fine : Bool) : PackageObservation where
  packageId := (spyCall sameDay false).symbol ++ "+" ++ (spyCall sameDay true).symbol
  legs := ((spyCall sameDay false).symbol, (spyCall sameDay true).symbol)
  netBid := .cents 240
  netAsk := if fine then .finite false 2505 (-3) else .cents 250
  size := 10
  observedAt := spyClock
  feed := spyFeed "SYNTHETIC_PACKAGE_FEED" "read_only_package_quote" "package_quote.v1" (by decide)
  dataClass := .executable
  accepted := by cases sameDay <;> cases fine <;> decide +kernel

def spySnapshotFields (decisionSha256 : String) (sameDay fine : Bool) : SnapshotFields where
  snapshotId := "s1"
  underlying := "SPY"
  observationClockAt := spyClock
  decisionSha256 := decisionSha256
  share := spyShare
  chain := [spyCall sameDay false, spyCall sameDay true]
  packages := [spyPackage sameDay fine]
  borrowLocate := none

/-- A market of two calls that expire on the day of the clock or a week later. -/
def spySnapshot (decisionSha256 : String) (h : decisionSha256.length = 64) (sameDay fine : Bool) :
    ExpressionMarketSnapshot where
  toSnapshotFields := spySnapshotFields decisionSha256 sameDay fine
  accepted := by
    -- the check reads the length of the digest only
    have hlength : (spySnapshotFields decisionSha256 sameDay fine).check =
        (spySnapshotFields digestA sameDay fine).check := by
      simp only [SnapshotFields.check, spySnapshotFields, h, length_digestA]
      rfl
    rw [hlength]
    clear hlength
    revert sameDay fine
    decide

def spyPolicy (kind : ExpressionKind) : PromotedExpressionPolicy where
  policyId := "p1"
  version := "1"
  gateDReportSha256 := digestA
  expressionKind := kind
  objective := "AFTER_COST_EXPECTED_EDGE_VS_CASH"
  evidenceThreshold := .ofNat 0
  evidenceMinEvents := 1
  operationalLossBudget := .ofNat 1000
  quoteMaxAgeMs := 1000
  crossLegSkewMaxMs := 1000
  spreadMaxBps := .ofNat 1000
  minQuoteSize := 1
  minDte := 0
  maxDte := 21
  deltaMin := .cents 30
  deltaMax := .cents 60
  widthMin := .ofNat 1
  widthMax := .ofNat 10
  liquidityMinOpenInterest := 1
  allowsIndicativeData := false
  accepted := by cases kind <;> decide +kernel

/-- An accepted decision for an up move, made at the clock of the market. -/
def spyDecision : StrategyDecision where
  eventId := "e1"
  securityId := "SPY"
  candidateId := "c1"
  cohortId := "h1"
  policySha256 := digestA
  candidateManifestSha256 := digestA
  strategySnapshotSha256 := digestA
  featureReceiptSha256 := digestA
  reasonerExchangeSha256 := digestA
  reasonerDecisionSha256 := none
  producerBuildSha256 := digestA
  decisionAt := spyClock
  reasonerDirection := some .up
  direction := .up
  disposition := .accepted
  reactionRelation := .continue
  evidenceIds := []
  contradictions := []
  unknowns := []
  strongestFalsifier := none
  reasonCodes := []
  summary := none
  accepted := by decide

/-- The event of the decision over the concrete market. -/
def spyEvent (sameDay fine : Bool) : TournamentEvent where
  eventId := "e1"
  decisionDirection := .up
  decisionSha256 := Strategy.strategyDecisionSha256 spyDecision
  outcomeDirection := some .up
  snapshot := spySnapshot (Strategy.strategyDecisionSha256 spyDecision) (length_hexdigest _) sameDay fine
  exitClockAt := spyClock
  accepted := by cases sameDay <;> cases fine <;> decide

/-- The agreement over the concrete market, for one promoted expression. -/
def SpyAgrees (kind : ExpressionKind) (sameDay : Bool) : Prop :=
  Agrees (spyPolicy kind) (spyEvent sameDay false) spyDecision
    (Strategy.strategyDecisionBytes spyDecision) (promotedExpressionPolicySha256 (spyPolicy kind))
    digestA spyClock

end EsscherMarket.Execution
