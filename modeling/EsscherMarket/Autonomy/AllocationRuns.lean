import EsscherMarket.Autonomy.Allocation

/-!
# Sequences of allocations

Allocations one after the other over one portfolio, each added to the reservations.
-/

namespace EsscherMarket.Autonomy.Allocation

open Lib

/-! ### Caps over a run -/

def reservationOf (o : DefinedRiskOpportunity) (d : AllocationDecision) :
    AllocationReservationFields :=
  ⟨o.1.opportunityId, definedRiskOpportunitySha256 o, d.reservationId.getD "", o.1.underlying,
    d.quantity, d.maxLoss⟩

/-- Allocations one after the other, each of them with exact arithmetic and added to the
reservations. -/
inductive Allocations (p : PortfolioState) :
    List AllocationReservation → List AllocationReservation → Prop where
  | refl (rs : List AllocationReservation) : Allocations p rs rs
  | step {rs rs' : List AllocationReservation} {o : DefinedRiskOpportunity} {d : AllocationDecision}
      {r : AllocationReservation} (prior : Allocations p rs rs') (hown : own o rs' = none)
      (hexact : ExactArithmetic p o rs') (h : allocateDefinedRisk p o rs' = .ok d)
      (hd : d.status = .allocated) (hr : r.1 = reservationOf o d) : Allocations p rs (rs' ++ [r])

/-- Pending and open debit are within the caps, once anything is reserved. -/
structure WithinCaps (p : PortfolioState) (rs : List AllocationReservation) : Prop where
  aggregate : rs ≠ [] → p.1.openDebit.toRat + pending rs ≤
    maxAggregateOpenDebitFraction.toRat * p.1.equity.toRat
  cash : rs ≠ [] → pending rs ≤ p.1.cash.toRat
  underlying : ∀ r ∈ rs, (underlyingOpen p r.1.underlying).toRat +
    pending (ofUnderlying rs r.1.underlying) ≤ maxPerUnderlyingFraction.toRat * p.1.equity.toRat

theorem pending_append (rs rs' : List AllocationReservation) :
    pending (rs ++ rs') = pending rs + pending rs' := by
  simp [pending, losses]

theorem pending_perm {rs rs' : List AllocationReservation} (h : rs.Perm rs') :
    pending rs = pending rs' :=
  ((h.map _).map _).sum_eq

section Sequences

variable {p : PortfolioState} {o : DefinedRiskOpportunity} {rs rs' : List AllocationReservation}
  {d d' : AllocationDecision} {r : AllocationReservation}

theorem exactCapacities_perm (h : rs.Perm rs') : exactCapacities p o rs = exactCapacities p o rs' := by
  have hunderlying : pending (ofUnderlying rs o.1.underlying) =
      pending (ofUnderlying rs' o.1.underlying) := pending_perm (h.filter _)
  rw [exactCapacities, exactCapacities, hunderlying, pending_perm h]

theorem own_eq_some_iff (hids : (rs.map (·.1.opportunityId)).Nodup) :
    own o rs = some r ↔ r ∈ rs ∧ r.1.opportunityId = o.1.opportunityId := by
  constructor
  · intro h
    refine ⟨List.mem_of_find?_eq_some h, ?_⟩
    simpa using List.find?_some h
  · rintro ⟨hr, hid⟩
    have hsome : (own o rs).isSome := by
      rw [own, List.find?_isSome]
      exact ⟨r, hr, by simpa using hid⟩
    obtain ⟨s, hs⟩ := Option.isSome_iff_exists.mp hsome
    have hsid : s.1.opportunityId = o.1.opportunityId := by simpa using List.find?_some hs
    have hsame : s = r :=
      List.inj_on_of_nodup_map hids (List.mem_of_find?_eq_some hs) hr (hsid.trans hid.symm)
    rw [hs, hsame]

theorem own_perm (hids : (rs.map (·.1.opportunityId)).Nodup) (h : rs.Perm rs') :
    own o rs = own o rs' := by
  have hids' : (rs'.map (·.1.opportunityId)).Nodup := (h.map _).nodup_iff.mp hids
  apply Option.ext
  intro r
  rw [own_eq_some_iff hids, own_eq_some_iff hids', h.mem_iff]

theorem allocated_new (hown : own o rs = none) (hexact : ExactArithmetic p o rs)
    (h : allocateDefinedRisk p o rs = .ok d) (hd : d.status = .allocated) :
    d.values = exactSize o (exactCapacities p o rs) ∧ o.1.decisionReady = true ∧
      d.values.remaining = lessExactly (exactCapacities p o rs) d.maxLoss.toRat ∧
      FitsAll (exactCapacities p o rs) o.1.maxDebitPerContract.toRat d.quantity ∧
      d.maxLoss.toRat = d.quantity * o.1.maxDebitPerContract.toRat := by
  obtain ⟨-, -, -, -, -, hpos⟩ := DefinedRiskOpportunityFields.check_eq_ok.mp o.2
  have hids : (rs.map (·.1.opportunityId)).Nodup := by
    simp only [allocateDefinedRisk, except_bind_eq_ok, contract_eq_ok,
      validateReservations_eq_ok] at h
    obtain ⟨_, ⟨hids, -⟩, -⟩ := h
    exact hids
  obtain ⟨d', hd', hvalues⟩ := allocateDefinedRisk_refines hexact hids (by simp [hown])
  rw [h] at hd'
  cases hd'
  have hsize : d.values = exactSize o (exactCapacities p o rs) := by
    rw [hvalues, exactDecision]
    simp only [hown]
  have hstatus : (exactSize o (exactCapacities p o rs)).status = .allocated := by
    rw [← hsize]
    exact hd
  have hready : o.1.decisionReady = true := by
    by_contra hnot
    rw [exactSize, if_neg hnot] at hstatus
    cases hstatus
  have hsized := exactSize_sized hready hsize
  have hone : FitsAll (exactCapacities p o rs) o.1.maxDebitPerContract.toRat 1 := by
    by_contra hnot
    rw [(hsized.abstained hnot).1] at hd
    cases hd
  have hnot : ¬ truncDiv (exactCapacities p o rs).least o.1.maxDebitPerContract.toRat < 1 := by
    rw [not_lt, one_le_truncDiv hpos]
    have := fitsAll_iff.mp hone
    rwa [Int.cast_one, one_mul] at this
  have hform := hsize
  rw [exactSize, if_pos hready] at hform
  dsimp only at hform
  rw [if_neg hnot] at hform
  have hquantity : d.quantity = truncDiv (exactCapacities p o rs).least
      o.1.maxDebitPerContract.toRat := congrArg DecisionValues.quantity hform
  have hloss : d.maxLoss.toRat = d.quantity * o.1.maxDebitPerContract.toRat := by
    rw [hquantity]
    exact congrArg DecisionValues.maxLoss hform
  refine ⟨hsize, hready, ?_, (hsized.allocated hone).2.1, hloss⟩
  rw [hloss, hquantity]
  exact congrArg DecisionValues.remaining hform

/-- What an allocation without a reservation looks like. -/
theorem allocated_form (hown : own o rs = none) (h : allocateDefinedRisk p o rs = .ok d)
    (hd : d.status = .allocated) : d.reasonCodes = [] ∧ d.maxLoss.isFinite = true ∧
      ∃ n loss, d.reservationId = some (reservationIdentity o n loss) := by
  obtain ⟨-, -, -, -, hfinite, -⟩ := DefinedRiskOpportunityFields.check_eq_ok.mp o.2
  simp only [allocateDefinedRisk, except_bind_eq_ok, hown] at h
  obtain ⟨_, -, c, -, h⟩ := h
  rw [size] at h
  split_ifs at h
  · simp only [except_bind_eq_ok] at h
    obtain ⟨quantity, -, h⟩ := h
    split_ifs at h
    · cases h
      cases hd
    · simp only [except_bind_eq_ok, except_pure_eq_ok, arithmetic_eq_ok] at h
      obtain ⟨loss, hloss, left, -, rfl⟩ := h
      rw [Decimal.product, Decimal.result] at hloss
      split at hloss
      · rename_i hbound
        cases hloss
        exact ⟨rfl, Decimal.isFinite_bound (Decimal.isFinite_mul rfl hfinite) hbound, _, _, rfl⟩
      · cases hloss
  · cases h
    cases hd

theorem exists_reservation (hown : own o rs = none) (hexact : ExactArithmetic p o rs)
    (h : allocateDefinedRisk p o rs = .ok d) (hd : d.status = .allocated) :
    ∃ r : AllocationReservation, r.1 = reservationOf o d := by
  obtain ⟨hid, -, -, hsymbol, -, hpos⟩ := DefinedRiskOpportunityFields.check_eq_ok.mp o.2
  obtain ⟨hsize, hready, -, -, hloss⟩ := allocated_new hown hexact h hd
  obtain ⟨-, hfinite, n, loss, hidentity⟩ := allocated_form hown h hd
  have hquantity : 1 ≤ d.quantity := by
    have hsized := exactSize_sized hready hsize
    have hone : FitsAll (exactCapacities p o rs) o.1.maxDebitPerContract.toRat 1 := by
      by_contra hnot
      rw [(hsized.abstained hnot).1] at hd
      cases hd
    exact (hsized.allocated hone).2.2 hone
  have hlossPos : 0 < d.maxLoss.toRat := by
    rw [hloss]
    exact mul_pos (by exact_mod_cast hquantity) hpos
  refine ⟨⟨reservationOf o d, ?_⟩, rfl⟩
  have hlower : isLowerHex 64 (d.reservationId.getD "") = true := by
    rw [hidentity]
    exact Json.isLowerHex_sha256 _
  exact check_reservation.mpr
    ⟨hid, Json.isLowerHex_sha256 _, hlower, hsymbol, hquantity, hfinite, hlossPos⟩

theorem exactCapacities_append (hr : r.1.underlying = o.1.underlying) :
    exactCapacities p o (rs ++ [r]) =
      { lessExactly (exactCapacities p o rs) r.1.maxLoss.toRat with
        tier := (exactCapacities p o rs).tier } := by
  have hone : pending [r] = r.1.maxLoss.toRat := by simp [pending, losses]
  have hof : ofUnderlying (rs ++ [r]) o.1.underlying = ofUnderlying rs o.1.underlying ++ [r] := by
    simp [ofUnderlying, List.filter_append, hr]
  simp only [exactCapacities, lessExactly, hof, pending_append, hone, Capacities.mk.injEq]
  refine ⟨trivial, ?_, ?_, ?_⟩ <;> ring

/-- An added allocation keeps the caps. -/
theorem withinCaps_step (h : WithinCaps p rs) (hown : own o rs = none)
    (hexact : ExactArithmetic p o rs) (hok : allocateDefinedRisk p o rs = .ok d)
    (hd : d.status = .allocated) (hr : r.1 = reservationOf o d) : WithinCaps p (rs ++ [r]) := by
  obtain ⟨-, -, -, ⟨-, hunderlying, haggregate, hcash⟩, hloss⟩ := allocated_new hown hexact hok hd
  have hmax : r.1.maxLoss = d.maxLoss := by rw [hr, reservationOf]
  have hsame : r.1.underlying = o.1.underlying := by rw [hr, reservationOf]
  have hone : pending [r] = d.quantity * o.1.maxDebitPerContract.toRat := by
    simp [pending, losses, hmax, hloss]
  simp only [exactCapacities] at hunderlying haggregate hcash
  constructor
  · intro _
    rw [pending_append, hone]
    linarith
  · intro _
    rw [pending_append, hone]
    linarith
  · intro s hs
    rw [ofUnderlying, List.filter_append, pending_append]
    by_cases hu : s.1.underlying = o.1.underlying
    · have hfilter : [r].filter (fun x => x.1.underlying = s.1.underlying) = [r] := by
        simp [hsame, hu]
      rw [hfilter, hone, hu]
      have := hunderlying
      rw [ofUnderlying] at this
      linarith
    · have hfilter : [r].filter (fun x => x.1.underlying = s.1.underlying) = [] := by
        simp [hsame, Ne.symm hu]
      have hmem : s ∈ rs := by
        rcases List.mem_append.mp hs with hs | hs
        · exact hs
        · rw [List.mem_singleton.mp hs] at hu
          exact absurd hsame hu
      have hzero : pending [] = 0 := rfl
      rw [hfilter, hzero, add_zero]
      exact h.underlying s hmem

theorem withinCaps_run (h : WithinCaps p rs) (hrun : Allocations p rs rs') : WithinCaps p rs' := by
  induction hrun with
  | refl => exact h
  | step prior hown hexact hok hd hr ih => exact withinCaps_step ih hown hexact hok hd hr

/-- A reserved opportunity gets the decision of its reservation again, with the capacities that
all reservations leave. -/
theorem replay_again (hown : own o rs = none) (hexact : ExactArithmetic p o rs)
    (h : allocateDefinedRisk p o rs = .ok d) (hd : d.status = .allocated)
    (hr : r.1 = reservationOf o d) (hmem : r ∈ rs')
    (hids : (rs'.map (·.1.opportunityId)).Nodup) (hexact' : ExactArithmetic p o rs') :
    ∃ d', allocateDefinedRisk p o rs' = .ok d' ∧ d'.values =
      { d.values with remaining := { exactCapacities p o rs' with tier := d.remainingTier.toRat } } := by
  obtain ⟨hsize, hready, hremaining, -, hloss⟩ := allocated_new hown hexact h hd
  have hid : r.1.opportunityId = o.1.opportunityId := by rw [hr, reservationOf]
  have hown' : own o rs' = some r := (own_eq_some_iff hids).mpr ⟨hmem, hid⟩
  obtain ⟨d', hd', hvalues⟩ := allocateDefinedRisk_refines hexact' hids (by
    intro s hs
    rw [hown'] at hs
    cases hs
    rw [hr, reservationOf])
  refine ⟨d', hd', ?_⟩
  have htier : d.remainingTier.toRat = (exactCapacities p o rs).tier - d.maxLoss.toRat :=
    congrArg Capacities.tier hremaining
  obtain ⟨hreasons, -, n, loss, hsome⟩ := allocated_form hown h hd
  have hcapacity : (exactCapacities p o rs').tier = (exactCapacities p o rs).tier := rfl
  rw [hvalues, exactDecision]
  simp only [hown', hr, reservationOf, AllocationDecision.values, hd, htier, hreasons, hsome,
    Option.getD_some, hcapacity]

/-- Right after its allocation, an opportunity gets the identical decision. -/
theorem replay_at_once (hown : own o rs = none) (hexact : ExactArithmetic p o rs)
    (h : allocateDefinedRisk p o rs = .ok d) (hd : d.status = .allocated)
    (hr : r.1 = reservationOf o d) (hperm : rs'.Perm (rs ++ [r]))
    (hexact' : ExactArithmetic p o rs') :
    ∃ d', allocateDefinedRisk p o rs' = .ok d' ∧ d'.values = d.values := by
  have hsame : r.1.underlying = o.1.underlying := by rw [hr, reservationOf]
  have hid : r.1.opportunityId = o.1.opportunityId := by rw [hr, reservationOf]
  have hmax : r.1.maxLoss = d.maxLoss := by rw [hr, reservationOf]
  obtain ⟨-, -, hremaining, -, -⟩ := allocated_new hown hexact h hd
  have hids : (rs'.map (·.1.opportunityId)).Nodup := by
    have hbefore : (rs.map (·.1.opportunityId)).Nodup := by
      simp only [allocateDefinedRisk, except_bind_eq_ok, contract_eq_ok,
        validateReservations_eq_ok] at h
      obtain ⟨_, ⟨hids, -⟩, -⟩ := h
      exact hids
    rw [(hperm.map _).nodup_iff, List.map_append, List.nodup_append]
    refine ⟨hbefore, by simp, ?_⟩
    intro a ha b hb heq
    obtain ⟨s, hs, rfl⟩ := List.mem_map.mp ha
    rw [List.map_singleton, List.mem_singleton] at hb
    have hfound : own o rs = some s :=
      (own_eq_some_iff hbefore).mpr ⟨hs, by rw [heq, hb, hid]⟩
    rw [hown] at hfound
    cases hfound
  have hmem : r ∈ rs' := hperm.mem_iff.mpr (by simp)
  obtain ⟨d', hd', hvalues⟩ := replay_again hown hexact h hd hr hmem hids hexact'
  refine ⟨d', hd', ?_⟩
  have hcapacities : exactCapacities p o rs' =
      { lessExactly (exactCapacities p o rs) d.maxLoss.toRat with
        tier := (exactCapacities p o rs).tier } := by
    rw [exactCapacities_perm hperm, exactCapacities_append hsame, hmax]
  have hleft : d.values.remaining = { exactCapacities p o rs' with
      tier := d.remainingTier.toRat } := by
    rw [hcapacities, hremaining]
    have htier : d.remainingTier.toRat = (exactCapacities p o rs).tier - d.maxLoss.toRat :=
      congrArg Capacities.tier hremaining
    rw [htier, lessExactly]
  rw [hvalues, ← hleft]

/-- Two runs of the allocator end alike: in decisions of the same values, or in rejections for the
same reason. -/
def SameResult : Computed AllocationDecision → Computed AllocationDecision → Prop
  | .ok d, .ok d' => d.values = d'.values
  | .error (.rejected e), .error (.rejected e') => e.reason = e'.reason
  | _, _ => False

/-- The order of the reservations does not matter. -/
theorem allocateDefinedRisk_perm (hperm : rs.Perm rs') (hexact : ExactArithmetic p o rs)
    (hexact' : ExactArithmetic p o rs') :
    SameResult (allocateDefinedRisk p o rs) (allocateDefinedRisk p o rs') := by
  by_cases hids : (rs.map (·.1.opportunityId)).Nodup
  · have hids' : (rs'.map (·.1.opportunityId)).Nodup := (hperm.map _).nodup_iff.mp hids
    have hown := @own_perm o rs rs' hids hperm
    by_cases hsha : ∀ r, own o rs = some r → r.1.opportunitySha256 = definedRiskOpportunitySha256 o
    · obtain ⟨d, hd, hvalues⟩ := allocateDefinedRisk_refines hexact hids hsha
      obtain ⟨d', hd', hvalues'⟩ := allocateDefinedRisk_refines hexact' hids' (hown ▸ hsha)
      rw [hd, hd']
      show d.values = d'.values
      rw [hvalues, hvalues', exactDecision, exactDecision, hown, exactCapacities_perm hperm]
    · push Not at hsha
      obtain ⟨r, hr, hconflict⟩ := hsha
      have hrejected : ∀ {rs : List AllocationReservation}, ExactArithmetic p o rs →
          (rs.map (·.1.opportunityId)).Nodup → own o rs = some r →
          allocateDefinedRisk p o rs = .error (.rejected ⟨.identityConflict, "opportunity",
            "same opportunity identity carries conflicting canonical bytes"⟩) := by
        intro rs hexact hids hr
        obtain ⟨c, hc, -, -⟩ := remaining_exactly hexact.toCapacitiesFit
        have hvalid : validateReservations [] 0 rs = .ok () :=
          validateReservations_eq_ok.mpr ⟨hids, fun _ _ => List.not_mem_nil⟩
        rw [allocateDefinedRisk, hvalid, hc]
        rw [hr]
        show replay o c r = _
        rw [replay, throwIf, if_pos hconflict]
        rfl
      rw [hrejected hexact hids hr, hrejected hexact' hids' (hown ▸ hr)]
      exact rfl
  · have hduplicate : ∀ {rs : List AllocationReservation},
        ¬ (rs.map (·.1.opportunityId)).Nodup → ∃ e, e.reason = .duplicateReservation ∧
          allocateDefinedRisk p o rs = .error (.rejected e) := by
      intro rs hids
      rcases hvalid : validateReservations [] 0 rs with e | u
      · refine ⟨e, validateReservations_error hvalid, ?_⟩
        rw [allocateDefinedRisk, hvalid]
        rfl
      · exact absurd (validateReservations_eq_ok.mp hvalid).1 hids
    obtain ⟨e, he, hrun⟩ := hduplicate hids
    obtain ⟨e', he', hrun'⟩ := @hduplicate rs' (mt (hperm.map _).nodup_iff.mpr hids)
    rw [hrun, hrun']
    exact he.trans he'.symm

end Sequences

/-- Allocations are consistent where no operation rounds: they keep the caps, a reserved opportunity
gets its decision again, and the order of the reservations does not matter. -/
theorem allocations_consistent (p : PortfolioState) :
    (∀ rs rs', WithinCaps p rs → Allocations p rs rs' → WithinCaps p rs') ∧
    (∀ o rs d r rs', own o rs = none → ExactArithmetic p o rs →
      allocateDefinedRisk p o rs = .ok d → d.status = .allocated → r.1 = reservationOf o d →
      ExactArithmetic p o rs' →
      (r ∈ rs' → (rs'.map (·.1.opportunityId)).Nodup →
        ∃ d', allocateDefinedRisk p o rs' = .ok d' ∧ d'.values = { d.values with
          remaining := { exactCapacities p o rs' with tier := d.remainingTier.toRat } }) ∧
      (rs'.Perm (rs ++ [r]) →
        ∃ d', allocateDefinedRisk p o rs' = .ok d' ∧ d'.values = d.values)) ∧
    (∀ o rs rs', rs.Perm rs' → ExactArithmetic p o rs → ExactArithmetic p o rs' →
      SameResult (allocateDefinedRisk p o rs) (allocateDefinedRisk p o rs')) := by
  refine ⟨fun rs rs' => withinCaps_run, ?_, fun o rs rs' => allocateDefinedRisk_perm⟩
  intro o rs d r rs' hown hexact h hd hr hexact'
  constructor
  · intro hmem hids
    exact replay_again hown hexact h hd hr hmem hids hexact'
  · intro hperm
    exact replay_at_once hown hexact h hd hr hperm hexact'

/-! ### More reservations -/

section More

variable {p : PortfolioState} {o : DefinedRiskOpportunity} {rs rs' : List AllocationReservation}
  {d d' : AllocationDecision}

theorem pending_le_of_subperm (h : rs.Subperm rs') : pending rs ≤ pending rs' := by
  obtain ⟨l, hperm, hsub⟩ := h
  rw [← pending_perm hperm, pending, pending, losses, losses]
  refine ((hsub.map _).map _).sum_le_sum fun x hx => ?_
  obtain ⟨y, hy, rfl⟩ := List.mem_map.mp hx
  obtain ⟨r, -, rfl⟩ := List.mem_map.mp hy
  exact (reservation_loss r).2.le

/-- What fits beside more reservations fits beside fewer. -/
theorem fitsAll_of_subperm (h : rs.Subperm rs') {debit : ℚ} {n : Int}
    (hfits : FitsAll (exactCapacities p o rs') debit n) : FitsAll (exactCapacities p o rs) debit n := by
  obtain ⟨htier, hunderlying, haggregate, hcash⟩ := hfits
  have hpending := pending_le_of_subperm h
  have hof : pending (ofUnderlying rs o.1.underlying) ≤ pending (ofUnderlying rs' o.1.underlying) :=
    pending_le_of_subperm (h.filter _)
  simp only [exactCapacities] at htier hunderlying haggregate hcash
  refine ⟨htier, ?_, ?_, ?_⟩
  · simp only [exactCapacities]
    linarith
  · simp only [exactCapacities]
    linarith
  · simp only [exactCapacities]
    linarith

theorem values_new (hown : own o rs = none) (hexact : ExactArithmetic p o rs)
    (h : allocateDefinedRisk p o rs = .ok d) : d.values = exactSize o (exactCapacities p o rs) := by
  have hvalid := h
  simp only [allocateDefinedRisk, except_bind_eq_ok, contract_eq_ok,
    validateReservations_eq_ok] at hvalid
  obtain ⟨_, ⟨hids, -⟩, -⟩ := hvalid
  obtain ⟨found, hfound, hvalues⟩ := allocateDefinedRisk_refines hexact hids (by simp [hown])
  rw [h] at hfound
  cases hfound
  rw [hvalues, exactDecision]
  simp only [hown]

/-- Another reservation never helps: where no operation rounds, an opportunity without one gets
beside more reservations at most what it gets beside fewer. -/
theorem allocation_antitone (hsub : rs.Subperm rs') (hown : own o rs' = none)
    (hexact : ExactArithmetic p o rs) (hexact' : ExactArithmetic p o rs')
    (h : allocateDefinedRisk p o rs = .ok d) (h' : allocateDefinedRisk p o rs' = .ok d') :
    d'.quantity ≤ d.quantity ∧ (d'.status = .allocated → d.status = .allocated) := by
  have hfew : own o rs = none :=
    List.find?_eq_none.mpr fun r hr => List.find?_eq_none.mp hown r (hsub.subset hr)
  have hvalues := values_new hfew hexact h
  have hvalues' := values_new hown hexact' h'
  by_cases hready : o.1.decisionReady = true
  · have hsized := exactSize_sized hready hvalues
    have hsized' := exactSize_sized hready hvalues'
    by_cases hone' : FitsAll (exactCapacities p o rs') o.1.maxDebitPerContract.toRat 1
    · obtain ⟨hstatus, hgreatest⟩ := hsized.allocated (fitsAll_of_subperm hsub hone')
      exact ⟨hgreatest.2 (fitsAll_of_subperm hsub (hsized'.allocated hone').2.1), fun _ => hstatus⟩
    · obtain ⟨hstatus', hzero', -⟩ := hsized'.abstained hone'
      refine ⟨?_, fun hallocated => ?_⟩
      · rw [hzero']
        by_cases hone : FitsAll (exactCapacities p o rs) o.1.maxDebitPerContract.toRat 1
        · have hle : 1 ≤ d.quantity := (hsized.allocated hone).2.2 hone
          omega
        · rw [(hsized.abstained hone).2.1]
      · rw [hstatus'] at hallocated
        cases hallocated
  · rw [exactSize, if_neg hready] at hvalues hvalues'
    have hzero : d.quantity = 0 := congrArg DecisionValues.quantity hvalues
    have hzero' : d'.quantity = 0 := congrArg DecisionValues.quantity hvalues'
    have hstatus' : d'.status = .abstained := congrArg DecisionValues.status hvalues'
    refine ⟨by rw [hzero, hzero'], fun hallocated => ?_⟩
    rw [hstatus'] at hallocated
    cases hallocated

end More

/-! ### A sequence on the desk -/

/-- What the desk allocates while little is reserved. -/
theorem desk_allocates {o : DefinedRiskOpportunity} (hready : o.1.decisionReady = true)
    (htier : o.1.riskTier = .tenPercent) (hdebit : o.1.maxDebitPerContract = .ofNat 100)
    {existing : List AllocationReservation} (hids : (existing.map (·.1.opportunityId)).Nodup)
    (hown : own o existing = none) (hlosses : ∀ r ∈ existing, IsCents r.1.maxLoss.toRat)
    (hpending : pending existing ≤ 1000) :
    ExactArithmetic desk o existing ∧ ∃ d, ∃ r : AllocationReservation, allocateDefinedRisk desk o existing = .ok d ∧
      d.status = .allocated ∧ r.1 = reservationOf o d ∧ r.1.maxLoss.toRat = 1000 := by
  have hexact : ExactArithmetic desk o existing :=
    (desk_inCents hdebit hlosses (hpending.trans (by norm_num))).exactArithmetic
  obtain ⟨d, hd, hvalues⟩ := allocateDefinedRisk_refines hexact hids (by simp [hown])
  have hsize : d.values = exactSize o (exactCapacities desk o existing) := by
    rw [hvalues, exactDecision]
    simp only [hown]
  have hhundred : o.1.maxDebitPerContract.toRat = 100 := by
    rw [hdebit, Decimal.toRat_ofNat]
    norm_num
  have hsized := exactSize_sized hready hsize
  rw [hhundred] at hsized
  have hten := @desk_sized o htier existing hpending
  have hone : FitsAll (exactCapacities desk o existing) 100 1 := by
    rw [fitsAll_iff]
    have := fitsAll_iff.mp hten.1
    push_cast at this ⊢
    linarith
  obtain ⟨hstatus, hgreatest⟩ := hsized.allocated hone
  have hquantity : d.quantity = 10 := hgreatest.unique hten
  obtain ⟨-, -, -, -, hloss⟩ := allocated_new hown hexact hd hstatus
  obtain ⟨r, hr⟩ := exists_reservation hown hexact hd hstatus
  refine ⟨hexact, d, r, hd, hstatus, hr, ?_⟩
  rw [hr]
  show d.maxLoss.toRat = 1000
  rw [hloss, hquantity, hhundred]
  norm_num

theorem desk_first : ∃ d, ∃ r : AllocationReservation, ExactArithmetic desk spy [] ∧
    allocateDefinedRisk desk spy [] = .ok d ∧ d.status = .allocated ∧ r.1 = reservationOf spy d ∧
    r.1.maxLoss.toRat = 1000 := by
  obtain ⟨hexact, d, r, hd, hstatus, hr, hloss⟩ :=
    @desk_allocates spy rfl rfl rfl [] List.nodup_nil rfl (by simp) (by norm_num [pending, losses])
  exact ⟨d, r, hexact, hd, hstatus, hr, hloss⟩

theorem pending_singleton {r : AllocationReservation} (h : r.1.maxLoss.toRat = 1000) :
    pending [r] = 1000 := by
  simp [pending, losses, h]

/-- The desk allocates once: the caps are kept, and the replay gives the identical decision. -/
theorem allocations_consistent_desk : ∃ d, ∃ r : AllocationReservation,
    allocateDefinedRisk desk spy [] = .ok d ∧ WithinCaps desk [r] ∧
    ∃ d', allocateDefinedRisk desk spy [r] = .ok d' ∧ d'.values = d.values := by
  obtain ⟨d, r, hexact, hd, hstatus, hr, hloss⟩ := desk_first
  have hcents : ∀ s ∈ [r], IsCents s.1.maxLoss.toRat := by
    intro s hs
    rw [List.mem_singleton.mp hs, hloss]
    exact ⟨100000, by norm_num⟩
  have hexact' : ExactArithmetic desk spy [r] := by
    refine (desk_inCents rfl hcents ?_).exactArithmetic
    rw [pending_singleton hloss]
    norm_num
  refine ⟨d, r, hd, ?_, ?_⟩
  · exact (allocations_consistent desk).1 [] [r] ⟨by simp, by simp, by simp⟩
      (.step (.refl []) rfl hexact hd hstatus hr)
  · exact ((allocations_consistent desk).2.1 spy [] d r [r] rfl hexact hd hstatus hr hexact').2
      (.refl _)

/-- After another allocation the replay is not the identical decision: less cash remains. -/
theorem desk_replaysLater : ∃ d d₂ d', ∃ r r₂ : AllocationReservation,
    allocateDefinedRisk desk spy [] = .ok d ∧ d.status = .allocated ∧ r.1 = reservationOf spy d ∧
    allocateDefinedRisk desk qqq [r] = .ok d₂ ∧ d₂.status = .allocated ∧
    r₂.1 = reservationOf qqq d₂ ∧
    allocateDefinedRisk desk spy [r, r₂] = .ok d' ∧ d'.values ≠ d.values := by
  obtain ⟨d, r, hexact, hd, hstatus, hr, hloss⟩ := desk_first
  have hid : r.1.opportunityId = "opportunity-1" := by rw [hr]; rfl
  have hcents : IsCents (1000 : ℚ) := ⟨100000, by norm_num⟩
  have hown : own qqq [r] = none := by
    rw [own, List.find?_cons, hid]
    rfl
  obtain ⟨-, d₂, r₂, hd₂, hstatus₂, hr₂, hloss₂⟩ :=
    @desk_allocates qqq rfl rfl rfl [r] (by simp) hown (by simpa [hloss] using hcents)
      (pending_singleton hloss).le
  have hid₂ : r₂.1.opportunityId = "opportunity-2" := by rw [hr₂]; rfl
  have hpending : pending [r, r₂] = 2000 := by
    rw [pending_cons, pending_singleton hloss₂, hloss]
    norm_num
  have hids : ([r, r₂].map (·.1.opportunityId)).Nodup := by
    simp [hid, hid₂]
  have hexact' : ExactArithmetic desk spy [r, r₂] := by
    refine (desk_inCents rfl ?_ ?_).exactArithmetic
    · simpa [hloss, hloss₂] using hcents
    · rw [hpending]
      norm_num
  obtain ⟨d', hd', hvalues⟩ :=
    replay_again rfl hexact hd hstatus hr (by simp) hids hexact'
  refine ⟨d, d₂, d', r, r₂, hd, hstatus, hr, hd₂, hstatus₂, hr₂, hd', ?_⟩
  intro heq
  obtain ⟨-, -, hremaining, -, -⟩ := allocated_new rfl hexact hd hstatus
  have hmax : d.maxLoss.toRat = 1000 := by
    rw [← hloss, hr]
    rfl
  have hcash : d.values.remaining.cash = 9000 := by
    rw [hremaining, desk_capacities rfl, hmax]
    norm_num [lessExactly, pending, losses]
  have hcash' : d'.values.remaining.cash = 8000 := by
    rw [hvalues, desk_capacities rfl, hpending]
    norm_num
  rw [heq, hcash] at hcash'
  norm_num at hcash'

/-- The second opportunity gets nothing more once the first has its reservation. -/
theorem allocation_antitone_desk : ∃ d d' : AllocationDecision, ∃ r : AllocationReservation,
    allocateDefinedRisk desk qqq [] = .ok d ∧ allocateDefinedRisk desk qqq [r] = .ok d' ∧
    d'.quantity ≤ d.quantity := by
  obtain ⟨d₀, r, -, -, -, hr, hloss⟩ := desk_first
  have hid : r.1.opportunityId = "opportunity-1" := by rw [hr]; rfl
  have hown : own qqq [r] = none := by
    rw [own, List.find?_cons, hid]
    rfl
  obtain ⟨hexact, d, -, hd, -⟩ := @desk_allocates qqq rfl rfl rfl [] List.nodup_nil rfl (by simp)
    (by norm_num [pending, losses])
  obtain ⟨hexact', d', -, hd', -⟩ := @desk_allocates qqq rfl rfl rfl [r] (List.nodup_singleton _)
    hown (fun s hs => by rw [List.mem_singleton.mp hs, hloss]; exact ⟨100000, by norm_num⟩)
    (pending_singleton hloss).le
  exact ⟨d, d', r, hd, hd',
    (allocation_antitone (List.nil_subperm) hown hexact hexact' hd hd').1⟩

end EsscherMarket.Autonomy.Allocation
