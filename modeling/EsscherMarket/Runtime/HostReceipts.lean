import EsscherMarket.Runtime.Finality
import EsscherMarket.Runtime.HostAdapters
import EsscherMarket.Runtime.Schedule

/-!
# What a receipt says about the store

The last step of a command reconciles and reads the store once more (`settle_cases`).  A terminal
receipt therefore speaks of the store as it is left, and of the observation that the adapter
accepted in that very call (`terminal_receipt_sound`).
-/

namespace EsscherMarket.Runtime

open Lib Prog

variable {E : Type} {K : Contracts} {P : Ports E} {B : HostBackends} {c : Coordinator}
  {w w' : World E} {points : List DateTime} {processed : List String}
  {receipt : AutonomousHostReceipt}

/-! ### The end of a command -/

def closingRequestOf (c : Coordinator) (points : List DateTime) (s : SessionStore) :
    ReconciliationRequest :=
  closingRequest c points (s.finalSummary c.arm.sessionId) (s.activeLifecycleIds c.arm.sessionId)

def World.closed_out (P : Ports E) (c : Coordinator) (points : List DateTime) (w : World E) :
    World E :=
  w.called (.reconcile (closingRequestOf c points w.store))
    (P.reconcile (closingRequestOf c points w.store) w.env).2

/-- A command ends with an accepted reconciliation and the store as it is, or with a refused one and
no truth. -/
theorem settle_cases
    (h : (settle B c points processed).run (S := coordinatorSig) (World.answer K P) w =
      (.ok receipt, w')) :
    (∃ answer, B.reconcileWithTruth (closingRequestOf c points w.store) = .ok answer ∧
      receipt = receiptFrom c points processed (closingRequestOf c points w.store)
        (some answer.2) w.store ∧ w' = w.closed_out P c points) ∨
    ∃ failure, B.reconcileWithTruth (closingRequestOf c points w.store) = .error failure ∧
      receipt = receiptFrom c points processed (closingRequestOf c points w.store) none
        w'.store := by
  have hrun : (truthAfter B c (closingRequestOf c points w.store) >>= fun truth =>
          hostReceipt c points processed (closingRequestOf c points w.store) truth).run
      (S := coordinatorSig) (World.answer K P) (w.closed_out P c points) = (.ok receipt, w') := by
    unfold settle reconcileWithTruth at h
    exact h
  cases hanswer : B.reconcileWithTruth (closingRequestOf c points w.store) with
  | ok answer =>
    rw [truthAfter, hanswer] at hrun
    obtain ⟨hr, hw⟩ := Prod.mk.inj ((run_hostReceipt points processed _ (some answer.2)
      (w.closed_out P c points)).symm.trans hrun)
    exact .inl ⟨answer, rfl, (Except.ok.inj hr).symm, hw.symm⟩
  | error failure =>
    rw [truthAfter, hanswer] at hrun
    obtain ⟨truth, w₂, hmark, hrest⟩ := run_bind_ok hrun
    obtain ⟨_, w₃, -, hpure⟩ := run_bind_ok hmark
    cases hpure
    obtain ⟨hr, hw⟩ := Prod.mk.inj ((run_hostReceipt points processed _ none w₂).symm.trans hrest)
    rw [← hw]
    exact .inr ⟨failure, rfl, (Except.ok.inj hr).symm⟩

/-! ### Terminal receipts -/

theorem hostDisposition_eq_terminal {reasons active : List String} {phase : String}
    {state : Option SessionState} {summary : Option AutonomousSessionSummary}
    {truth : Option String}
    (h : hostDisposition reasons state summary active phase truth = .terminal) :
    reasons = [] ∧ (summary.map (·.terminalFlatProven)).getD false = true ∧ active = [] ∧
      phase = "FINAL" ∧ truth.isSome = true := by
  unfold hostDisposition at h
  split at h
  · cases h
  · rename_i hreasons
    push Not at hreasons
    split at h
    · rename_i hflat
      exact ⟨hreasons.1, hflat⟩
    · cases h

theorem sortedSet_eq_nil {texts : List String} (h : sortedSet texts = []) : texts = [] := by
  rw [List.eq_nil_iff_forall_not_mem] at h ⊢
  intro text htext
  exact h text ((List.mem_insertionSort _).mpr (List.mem_dedup.mpr htext))

/-- The encoder accepts the counts of a store without a claimed opportunity only. -/
theorem canonicalDispositionCounts_countedStates {path : String} {s : SessionStore} {sid : String} :
    canonicalDispositionCounts path (s.countedStates sid) = .ok () ↔
      ∀ row ∈ s.opportunities, row.sessionId = sid → row.state ≠ .claimed := by
  rw [canonicalDispositionCounts, throwIf_eq_ok, List.any_eq_true]
  simp only [SessionStore.countedStates, List.mem_dedup, List.mem_map, List.mem_filter,
    decide_eq_true_eq]
  constructor
  · intro h row hrow hsid hclaimed
    exact h ⟨_, ⟨row, ⟨hrow, hsid⟩, rfl⟩, hclaimed⟩
  · rintro h ⟨_, ⟨row, ⟨hrow, hsid⟩, rfl⟩, hclaimed⟩
    exact h row hrow hsid hclaimed

theorem ne_active_of_activeLifecycleIds {s : SessionStore} (hs : StoreInv s) {sid : String}
    (h : s.activeLifecycleIds sid = []) {row : OpportunityRow} (hrow : row ∈ s.opportunities)
    (hsid : row.sessionId = sid) : row.state ≠ .disposed .active := by
  intro hactive
  obtain ⟨l, hl, hkey⟩ := hs.activeOwned row hrow hactive
  have hstate := hs.active_of_opportunity hl hrow hkey.symm
  rw [hactive] at hstate
  have hlactive : l.state = .active := by
    cases hl : l.state with
    | active => rfl
    | terminalFlat =>
      rw [hl] at hstate
      cases hstate
  have hlsid : l.sessionId = sid := (congrArg Prod.fst hkey).trans hsid
  have hmem : l.lifecycleId ∈ s.activeLifecycleIds sid :=
    List.mem_map.mpr ⟨l, mem_activeRows.mpr ⟨hl, hlsid, hlactive⟩, rfl⟩
  rw [h] at hmem
  cases hmem

/-- The invariant of the tables is kept by a command. -/
theorem StoreInv.run {ε α : Type} (h : StoreInv w.store) (p : Prog coordinatorSig ε α) :
    StoreInv (p.run (World.answer K P) w).2.store :=
  run_keeps (fun op _ hs => op.exec_inv K hs) h p

/-- Terminal receipts are sound: the store holds a final summary that proves flatness, and the
command ended with a reconciliation that was final and flat. -/
theorem terminal_receipt_sound (K : Contracts) (P : Ports E) (env : E) (ops : List StoreOp)
    (B : HostBackends) (R : HostReconciler) (c : Coordinator) (timeline : List DateTime)
    (receipt : AutonomousHostReceipt) (w : World E)
    (hrun : (runAutonomousHostCommand K (B.reconciledBy R) c timeline).run (S := coordinatorSig)
      (World.answer K P) ⟨runOps K .empty ops, [], env⟩ = (.ok receipt, w))
    (hterminal : receipt.disposition = .terminal) :
    (∃ summary, w.store.finalSummary c.arm.sessionId = some summary ∧
      summary.terminalFlatProven = true) ∧
    (∀ row ∈ w.store.opportunities, row.sessionId = c.arm.sessionId →
      row.state ≠ .claimed ∧ row.state ≠ .disposed .active) ∧
    w.store.reasons c.arm.sessionId = [] ∧
    ∃ calls request observation truth, w.calls = calls ++ [.reconcile request] ∧
      R.observeReconciliation request = .observed observation ∧ observation.phase = "FINAL" ∧
      observation.brokerTruth = some truth ∧ truth.isFlat = true ∧ truth.openOrderCount = 0 ∧
      truth.openPositionCount = 0 := by
  have hs : StoreInv w.store := by
    have hinv := StoreInv.run (K := K) (P := P) (w := ⟨runOps K .empty ops, [], env⟩)
      (runOps_inv K ops storeInv_empty) (runAutonomousHostCommand K (B.reconciledBy R) c timeline)
    rwa [hrun] at hinv
  obtain ⟨points, processed, w₁, w₂, -, -, -, -, hsettle, hcheck⟩ := command_ok hrun
  obtain ⟨_, hcounts, -⟩ := except_bind_eq_ok.mp hcheck
  rcases settle_cases hsettle with ⟨answer, hanswer, rfl, rfl⟩ | ⟨failure, -, rfl⟩
  · obtain ⟨hreasons, hflat, hactive, hphase, -⟩ := hostDisposition_eq_terminal hterminal
    refine ⟨?_, ?_, ?_, ?_⟩
    · cases hsummary : w₂.store.finalSummary c.arm.sessionId with
      | none =>
        rw [hsummary] at hflat
        cases hflat
      | some summary =>
        rw [hsummary] at hflat
        exact ⟨summary, hsummary, hflat⟩
    · intro row hrow hsid
      exact ⟨canonicalDispositionCounts_countedStates.mp hcounts row hrow hsid,
        ne_active_of_activeLifecycleIds hs hactive hrow hsid⟩
    · exact List.map_eq_nil_iff.mp (sortedSet_eq_nil hreasons)
    · obtain ⟨observation, truth, haccepted⟩ := R.accepted hanswer
      obtain ⟨hisFlat, horders, hpositions⟩ := haccepted.final hphase
      exact ⟨w₂.calls, _, observation, truth, rfl, haccepted.observed,
        haccepted.phase.trans hphase, haccepted.typed, hisFlat, horders, hpositions⟩
  · obtain ⟨-, -, -, -, htruth⟩ := hostDisposition_eq_terminal hterminal
    cases htruth

/-! ### A terminal receipt -/

theorem isIdentifier_recon {sha256 : String} (h : isLowerHex 64 sha256 = true) :
    isIdentifier ("RECON-" ++ String.ofList (sha256.toList.take 16)) = true := by
  simp only [isLowerHex, toUTF8_toList, Bool.and_eq_true, beq_iff_eq, List.all_eq_true] at h
  obtain ⟨hlength, hhex⟩ := h
  let bytes := (sha256.toList.take 16).flatMap String.utf8EncodeChar
  have hall : sha256.toList.flatMap String.utf8EncodeChar =
      bytes ++ (sha256.toList.drop 16).flatMap String.utf8EncodeChar := by
    rw [← List.flatMap_append, List.take_append_drop]
  have hshort : bytes.length ≤ 64 := by
    rw [hall, List.length_append] at hlength
    omega
  have hbytes : bytes.all isIdentifierByte = true := by
    refine List.all_eq_true.mpr fun b hb => ?_
    have hb := hhex b (hall ▸ List.mem_append_left _ hb)
    simp only [isHexByte, Bool.or_eq_true, Bool.and_eq_true, decide_eq_true_eq] at hb
    rcases hb with ⟨hlo, hhi⟩ | ⟨hlo, hhi⟩
    · simp [isIdentifierByte, hlo, hhi]
    · have hlow : b ≤ 122 := UInt8.le_trans hhi (by decide)
      simp [isIdentifierByte, hlo, hlow]
  have htext : ("RECON-" ++ String.ofList (sha256.toList.take 16)).toUTF8.data.toList =
      [82, 69, 67, 79, 78, 45] ++ bytes := by
    simp only [toUTF8_toList, String.toList_append, String.toList_ofList, List.flatMap_append]
    rfl
  have hcount : (69 :: 67 :: 79 :: 78 :: 45 :: bytes : List UInt8).length ≤ 127 := by
    simp only [List.length_cons]
    omega
  have hrest : (69 :: 67 :: 79 :: 78 :: 45 :: bytes : List UInt8).all isIdentifierByte = true := by
    simp only [List.all_cons, hbytes]
    decide
  unfold isIdentifier
  rw [htext]
  show (_ && decide ((69 :: 67 :: 79 :: 78 :: 45 :: bytes : List UInt8).length ≤ 127) &&
    (69 :: 67 :: 79 :: 78 :: 45 :: bytes : List UInt8).all isIdentifierByte) = true
  rw [hrest, decide_eq_true hcount]
  decide

namespace July

def flatCounts : BrokerCounts := ⟨sha 'a', sha 'b', sha 'c', 0, 0, true⟩

def flat : HostReconciler where
  executionClass := .syntheticFake
  observeReconciliation r := .observed (.complete r (.forRequest .syntheticFake r flatCounts))

/-- The final request of the session that was finalized without any work. -/
def finalRequest : ReconciliationRequest := closingRequestOf coordinator [at_ 1170] finalStore

theorem isLowerHex_arm : isLowerHex 64 arm.armSha256 = true := Json.isLowerHex_sha256 _

theorem flat_accepts : ∃ answer, flat.reconcileWithTruth finalRequest = .ok answer ∧
    isLowerHex 64 answer.2 = true := by
  let truth : BrokerTruth := .forRequest .syntheticFake finalRequest flatCounts
  have hidentity : (HostReconciliationObservation.complete finalRequest truth).checkIdentity
      finalRequest = .ok () := by
    simp only [HostReconciliationObservation.checkIdentity, except_bind_eq_ok, throwIf_eq_ok]
    exact ⟨(), by decide, by
      simp [HostReconciliationObservation.complete, sameInstant]⟩
  have harm : ¬ isLowerHex 64 arm.armSha256 = false := by simp [isLowerHex_arm]
  have hcheck : truth.check = .ok () := by
    simp only [BrokerTruth.check, hostDigest, hostIdentifier, except_bind_eq_ok, throwIf_eq_ok]
    exact ⟨(), rfl, (), by decide, (), by decide, (), by decide, (), by decide, (),
      by decide, (), by decide, (), by decide, (), by decide, (),
      by decide, (), by decide, (), by decide, (), harm, by decide⟩
  have hrequest : truth.checkRequest finalRequest = .ok () := by
    simp only [BrokerTruth.checkRequest, except_bind_eq_ok, throwIf_eq_ok]
    exact ⟨(), by simp [truth, BrokerTruth.forRequest, sameInstant], (), by decide,
      by decide⟩
  have hreceipt : ∃ receipt, ReconciliationReceipt.ofComplete finalRequest = .ok receipt := by
    have hid : ¬ isIdentifier ("RECON-" ++ String.ofList (arm.armSha256.toList.take 16)) =
        false := by
      simp [isIdentifier_recon isLowerHex_arm]
    simp only [ReconciliationReceipt.ofComplete, SanitizedIdentityReceipt.create,
      SanitizedIdentityReceipt.check, identifier, digest, except_bind_eq_ok, throwIf_eq_ok]
    exact ⟨_, _, ⟨(), ⟨_, utcDatetime_eq_ok.mpr ⟨rfl, rfl⟩, (), hid, (), by decide, (),
      by decide, harm⟩, rfl⟩, rfl⟩
  obtain ⟨receipt, hreceipt⟩ := hreceipt
  refine ⟨(receipt, truth.payload.sha256), ?_, Json.isLowerHex_sha256 _⟩
  show HostReconciliationObservation.receipt _ _ _ = _
  simp only [HostReconciliationObservation.receipt, except_bind_eq_ok]
  refine ⟨(), hidentity, ?_⟩
  show (do
    throwIf _ _
    let truthSha256 ← truth.recordSha256.mapError _
    truth.checkRequest finalRequest
    let receipt ← (ReconciliationReceipt.ofComplete finalRequest).mapError _
    return (receipt, truthSha256) : Except BackendFailure _) = _
  simp only [except_bind_eq_ok, except_mapError_eq_ok, throwIf_eq_ok]
  have hsha : truth.recordSha256 = .ok truth.payload.sha256 :=
    except_bind_eq_ok.mpr ⟨(), hcheck, rfl⟩
  exact ⟨(), by decide, _, hsha, (), hrequest, _, hreceipt, rfl⟩

theorem runOps_finish : runOps contracts .empty [finish] = finalStore := call_finish

theorem check_flat {truth : String} (h : isLowerHex 64 truth = true) :
    (receiptFrom coordinator [at_ 1170] [] finalRequest (some truth) finalStore).check = .ok () ∧
      (receiptFrom coordinator [at_ 1170] [] finalRequest (some truth) finalStore).disposition =
        .terminal := by
  have hproven : (buildSummary arm (at_ 1170) armed).terminalFlatProven = true := by decide
  have hdisposition : (receiptFrom coordinator [at_ 1170] [] finalRequest (some truth)
      finalStore).disposition = .terminal := by
    have hreasons : ¬ (sortedSet ((finalStore.reasons arm.sessionId).map (·.value)) ≠ [] ∨
        finalStore.sessionState arm.sessionId = some .manualReconciliationRequired) := by
      decide
    have hactive : finalStore.activeLifecycleIds arm.sessionId = [] := by decide
    have hsummary : finalStore.finalSummary arm.sessionId = some summary := rfl
    have hphase : finalRequest.phase = "FINAL" := rfl
    refine Eq.trans (b := hostDisposition
      (sortedSet ((finalStore.reasons arm.sessionId).map (·.value)))
      (finalStore.sessionState arm.sessionId) (finalStore.finalSummary arm.sessionId)
      (finalStore.activeLifecycleIds arm.sessionId) finalRequest.phase (some truth)) rfl ?_
    rw [hsummary, hphase]
    unfold hostDisposition
    rw [if_neg hreasons, if_pos ⟨hproven, hactive, rfl, rfl⟩]
  refine ⟨?_, hdisposition⟩
  have hstates : canonicalDispositionCounts "receipt.disposition_counts"
      (finalStore.countedStates arm.sessionId) = .ok () := throwIf_eq_ok.mpr (by decide)
  have hsummary : optionalDigest "receipt.final_summary_sha256" (some summary.summarySha256) =
      .ok () := throwIf_eq_ok.mpr (by simp [summary, buildSummary, Json.isLowerHex_sha256])
  refine AutonomousHostReceipt.check_eq_ok hstates rfl rfl rfl (by simp [receiptFrom,
    AutonomousHostReceipt.create]) hsummary (throwIf_eq_ok.mpr (by simp [h])) (.inr ⟨rfl, ?_⟩) ?_
  · show (some summary.summarySha256) ≠ none
    simp
  · have hflat : (receiptFrom coordinator [at_ 1170] [] finalRequest (some truth)
        finalStore).terminalFlatProven = true := by
      show (decide ((receiptFrom coordinator [at_ 1170] [] finalRequest (some truth)
        finalStore).disposition = .terminal) && _) = true
      rw [hdisposition]
      exact hproven
    unfold AutonomousHostReceipt.checkDisposition
    rw [hdisposition, hflat]
    rfl

/-- A session that is finalized without any work, and a backend that sees a flat account. -/
theorem terminal_receipt_sound_flat : ∃ receipt w, (runAutonomousHostCommand contracts
    (blind.reconciledBy flat) coordinator [at_ 1170]).run (S := coordinatorSig)
      (World.answer contracts (blind.reconciledBy flat).ports)
        ⟨runOps contracts .empty [finish], [], ()⟩ = (.ok receipt, w) ∧
    w.store.reasons arm.sessionId = [] := by
  obtain ⟨answer, hanswer, hhex⟩ := flat_accepts
  obtain ⟨hcheck, hdisposition⟩ := check_flat hhex
  have hbound : Bound contracts arm finalStore :=
    ensureArm_bound (c := coordinator) (ensureArm_of_sessions (s := finalStore) rfl)
  have hsummary : finalStore.finalSummary coordinator.arm.sessionId = some summary := rfl
  have hrequest : closingRequest coordinator [at_ 1170]
      (finalStore.finalSummary coordinator.arm.sessionId)
      (finalStore.activeLifecycleIds coordinator.arm.sessionId) = finalRequest := rfl
  have hpoints : validateTimeline coordinator.arm [at_ 1170] = .ok [at_ 1170] := rfl
  have hobserve := run_observePoints_over (K := contracts) (B := blind.reconciledBy flat)
    (c := coordinator) (w := ⟨finalStore, [], ()⟩) [at_ 1170] hsummary
  have hsettle : (settle (blind.reconciledBy flat) coordinator [at_ 1170] []).run
      (S := coordinatorSig) (World.answer contracts (blind.reconciledBy flat).ports)
      ⟨finalStore, [], ()⟩ = _ := run_settle_complete hrequest hanswer
  have hrun := run_command hpoints hbound hobserve hsettle hcheck
  rw [← runOps_finish] at hrun
  exact ⟨_, _, hrun, (terminal_receipt_sound contracts _ () [finish] blind flat coordinator _ _ _
    hrun hdisposition).2.2.1⟩

end July

end EsscherMarket.Runtime
