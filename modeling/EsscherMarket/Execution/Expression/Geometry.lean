import EsscherMarket.Execution.Expression.Agreement

/-!
# When a vertical is found

`select_vertical_geometry` takes the nearest candidate on the required side and looks at its width
only then.  A candidate that is too near hides every one behind it.
-/

namespace EsscherMarket.Execution

open Lib

variable {snapshot : ExpressionMarketSnapshot} {policy : PromotedExpressionPolicy} {asof : Int}
  {directionIsUp : Bool}

/-- An eligible contract of the expiry of a long leg on the required side of it. -/
structure StandsBeside (snapshot : ExpressionMarketSnapshot) (policy : PromotedExpressionPolicy)
    (asof : Int) (directionIsUp : Bool) (longLeg shortLeg : OptionContractObservation) : Prop where
  mem : shortLeg ∈ snapshot.chain
  expiry : shortLeg.expiry = longLeg.expiry
  eligible : contractIsEligible policy (directionOptionType directionIsUp) asof shortLeg = true
  strikes : StrikesOrdered directionIsUp longLeg shortLeg

/-- The nearest of them, by distance, ask and symbol. -/
structure Nearest (snapshot : ExpressionMarketSnapshot) (policy : PromotedExpressionPolicy)
    (asof : Int) (directionIsUp : Bool) (longLeg shortLeg : OptionContractObservation) : Prop where
  beside : StandsBeside snapshot policy asof directionIsUp longLeg shortLeg
  least : ∀ other, StandsBeside snapshot policy asof directionIsUp longLeg other →
    sortKey (strikeWidth longLeg shortLeg) shortLeg ≤ sortKey (strikeWidth longLeg other) other

/-- A geometry of two eligible legs of one expiry and type, with strikes in the direction and a width
within the bounds of the policy. -/
structure VerticalSound (policy : PromotedExpressionPolicy) (asof : Int) (directionIsUp : Bool)
    (geometry : VerticalGeometry) : Prop where
  expiry : geometry.longLeg.expiry = geometry.shortLeg.expiry
  optionType : geometry.longLeg.optionType = geometry.shortLeg.optionType
  longEligible :
    contractIsEligible policy (directionOptionType directionIsUp) asof geometry.longLeg = true
  shortEligible :
    contractIsEligible policy (directionOptionType directionIsUp) asof geometry.shortLeg = true
  strikes : StrikesOrdered directionIsUp geometry.longLeg geometry.shortLeg
  width : geometry.width = strikeWidth geometry.longLeg geometry.shortLeg
  bounds : WidthInBounds policy geometry.width

theorem eq_of_symbol {first second : OptionContractObservation} (hfirst : first ∈ snapshot.chain)
    (hsecond : second ∈ snapshot.chain) (h : first.symbol = second.symbol) : first = second := by
  have hsorted : Strategy.sortedUnique (snapshot.chain.map (·.symbol)) = true := by
    have haccepted := snapshot.accepted
    simp only [SnapshotFields.check, Bool.and_eq_true] at haccepted
    exact haccepted.1.1.2
  have hnodup : (snapshot.chain.map (·.symbol)).Nodup :=
    (of_decide_eq_true hsorted).imp ne_of_lt
  exact List.inj_on_of_nodup_map hnodup hfirst hsecond h

/-- A contract at another strike is another contract: the symbols need no comparison. -/
theorem mem_shortCandidates_iff {longLeg shortLeg : OptionContractObservation}
    (hlong : longLeg ∈ snapshot.chain) :
    shortLeg ∈ shortCandidates snapshot policy asof directionIsUp longLeg ↔
      StandsBeside snapshot policy asof directionIsUp longLeg shortLeg := by
  rw [mem_shortCandidates]
  constructor
  · rintro ⟨hmem, hexpiry, heligible, hstrikes, -⟩
    exact ⟨hmem, hexpiry, heligible, hstrikes⟩
  · rintro ⟨hmem, hexpiry, heligible, hstrikes⟩
    refine ⟨hmem, hexpiry, heligible, hstrikes, fun hsymbol => ?_⟩
    have hsame := eq_of_symbol hmem hlong hsymbol
    rw [hsame] at hstrikes
    exact hstrikes.ne rfl

theorem isFinite_strikeWidth (longLeg shortLeg : OptionContractObservation) :
    (strikeWidth longLeg shortLeg).isFinite = true :=
  Decimal.isFinite_abs
    (Decimal.isFinite_sub (isFinite_contractStrike shortLeg) (isFinite_contractStrike longLeg))

theorem argmin_shortCandidates {longLeg shortLeg : OptionContractObservation}
    (hlong : longLeg ∈ snapshot.chain) :
    (shortCandidates snapshot policy asof directionIsUp longLeg).argmin
        (fun c => sortKey (strikeWidth longLeg c) c) = some shortLeg ↔
      Nearest snapshot policy asof directionIsUp longLeg shortLeg := by
  have hleast : ∀ {c}, (shortCandidates snapshot policy asof directionIsUp longLeg).argmin
      (fun c => sortKey (strikeWidth longLeg c) c) = some c →
      Nearest snapshot policy asof directionIsUp longLeg c := by
    intro c hc
    refine ⟨(mem_shortCandidates_iff hlong).mp (List.argmin_mem hc), fun other hother => ?_⟩
    exact List.le_of_mem_argmin ((mem_shortCandidates_iff hlong).mpr hother) hc
  refine ⟨hleast, fun hnearest => ?_⟩
  have hmem := (mem_shortCandidates_iff hlong).mpr hnearest.beside
  cases hfirst : (shortCandidates snapshot policy asof directionIsUp longLeg).argmin
      (fun c => sortKey (strikeWidth longLeg c) c) with
  | none =>
    rw [List.argmin_eq_none] at hfirst
    rw [hfirst] at hmem
    cases hmem
  | some c =>
    have hc := hleast hfirst
    have hkeys := le_antisymm (hc.least shortLeg hnearest.beside) (hnearest.least c hc.beside)
    have hsymbol : c.symbol = shortLeg.symbol :=
      congrArg (fun key : SortKey => (ofLex (ofLex key).2).2) hkeys
    rw [eq_of_symbol hc.beside.mem hnearest.beside.mem hsymbol]

/-- A geometry is found exactly where the nearest contract has a width within the bounds. -/
theorem exists_geometry_iff {longLeg : OptionContractObservation}
    (hlong : selectLongContractOn snapshot policy asof directionIsUp = .ok longLeg) :
    (∃ geometry, selectVerticalGeometryOn snapshot policy asof directionIsUp = .ok geometry) ↔
      ∃ shortLeg, Nearest snapshot policy asof directionIsUp longLeg shortLeg ∧
        WidthInBounds policy (strikeWidth longLeg shortLeg) := by
  have hmem := (selectLongContractOn_eq_ok hlong).1
  constructor
  · rintro ⟨geometry, h⟩
    obtain ⟨longLeg', shortLeg, hlong', hshort, hwidth, -⟩ := selectVerticalGeometryOn_eq_ok.mp h
    rw [hlong] at hlong'
    cases hlong'
    exact ⟨shortLeg, (argmin_shortCandidates hmem).mp hshort, hwidth⟩
  · rintro ⟨shortLeg, hnearest, hwidth⟩
    exact ⟨_, selectVerticalGeometryOn_eq_ok.mpr
      ⟨longLeg, shortLeg, hlong, (argmin_shortCandidates hmem).mpr hnearest, hwidth, rfl⟩⟩

/-- A width that is not larger is not above the bounds either. -/
theorem lt_of_le {bound x y : Decimal} (hx : x.isFinite) (hy : y.isFinite) (hle : x.toRat ≤ y.toRat)
    (h : bound.lt x = true) : bound.lt y = true := by
  cases bound with
  | finite n c e =>
    rw [Decimal.lt_iff rfl hx] at h
    rw [Decimal.lt_iff rfl hy]
    exact lt_of_lt_of_le h hle
  | infinite n =>
    cases x with
    | finite _ _ _ =>
      cases y with
      | finite _ _ _ => exact h
      | _ => cases hy
    | _ => cases hx
  | nan => cases h

/-- Where none of the contracts on the side is too near, one within the bounds is enough. -/
theorem exists_geometry_of_inBounds {longLeg contract : OptionContractObservation}
    (hlong : selectLongContractOn snapshot policy asof directionIsUp = .ok longLeg)
    (hbeside : StandsBeside snapshot policy asof directionIsUp longLeg contract)
    (hwidth : WidthInBounds policy (strikeWidth longLeg contract))
    (hnear : ∀ other, StandsBeside snapshot policy asof directionIsUp longLeg other →
      (strikeWidth longLeg other).lt policy.widthMin = false) :
    ∃ geometry, selectVerticalGeometryOn snapshot policy asof directionIsUp = .ok geometry := by
  have hmem := (selectLongContractOn_eq_ok hlong).1
  cases hfirst : (shortCandidates snapshot policy asof directionIsUp longLeg).argmin
      (fun c => sortKey (strikeWidth longLeg c) c) with
  | none =>
    have hcandidate := (mem_shortCandidates_iff hmem).mpr hbeside
    rw [List.argmin_eq_none] at hfirst
    rw [hfirst] at hcandidate
    cases hcandidate
  | some shortLeg =>
    have hnearest := (argmin_shortCandidates hmem).mp hfirst
    refine (exists_geometry_iff hlong).mpr ⟨shortLeg, hnearest, ?_⟩
    rintro (hbelow | habove)
    · rw [hnear shortLeg hnearest.beside] at hbelow
      cases hbelow
    · have hle : (strikeWidth longLeg shortLeg).toRat ≤ (strikeWidth longLeg contract).toRat :=
        Prod.Lex.monotone_fst _ _ (hnearest.least contract hbeside)
      exact hwidth (Or.inr (lt_of_le (isFinite_strikeWidth _ _) (isFinite_strikeWidth _ _) hle habove))

/-- What is found. -/
theorem verticalSound_of_ok {geometry : VerticalGeometry}
    (h : selectVerticalGeometryOn snapshot policy asof directionIsUp = .ok geometry) :
    VerticalSound policy asof directionIsUp geometry := by
  obtain ⟨longLeg, shortLeg, hlong, hshort, hwidth, rfl⟩ := selectVerticalGeometryOn_eq_ok.mp h
  have heligible := (selectLongContractOn_eq_ok hlong).2
  obtain ⟨-, hexpiry, heligible', hstrikes, -⟩ := mem_shortCandidates.mp (List.argmin_mem hshort)
  have htype := (optionType_of_eligible heligible).trans (optionType_of_eligible heligible').symm
  exact ⟨hexpiry.symm, htype, heligible, heligible', hstrikes, rfl, hwidth⟩

instance decidableWidthInBounds (policy : PromotedExpressionPolicy) (width : Decimal) :
    Decidable (WidthInBounds policy width) :=
  inferInstanceAs (Decidable (¬(_ ∨ _)))

instance decidableStrikesOrdered (directionIsUp : Bool)
    (longLeg shortLeg : OptionContractObservation) :
    Decidable (StrikesOrdered directionIsUp longLeg shortLeg) :=
  match directionIsUp with
  | true => inferInstanceAs (Decidable (longLeg.strike.toRat < shortLeg.strike.toRat))
  | false => inferInstanceAs (Decidable (shortLeg.strike.toRat < longLeg.strike.toRat))

/-- A call half a dollar above the lowest one. -/
def spyNearCall : OptionContractObservation :=
  { spyCall false true with
    symbol := "SPY260918C00100500"
    strike := .cents 10050
    accepted := by decide +kernel }

def spyCrowdedFields : SnapshotFields :=
  { spySnapshotFields digestA false false with
    chain := [spyCall false false, spyNearCall, spyCall false true] }

/-- Calls at 100, at 100.50 and at 105; the policy wants widths from one to ten. -/
def spyCrowded : ExpressionMarketSnapshot := ⟨spyCrowdedFields, by decide +kernel⟩

end EsscherMarket.Execution
