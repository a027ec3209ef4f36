import EsscherMarket.OptionEvents.Economics

/-!
# What becomes of the account activities

Every raw activity of a run of the normalizer becomes an event, a skipped id, a duplicate or a
manual route.
-/

namespace EsscherMarket.OptionEvents

open Lib Strategy

variable {readers : ActivityReaders} {acquisition : ActivityAcquisition}
  {arguments : NormalizerArguments} {s s' : NormalizerState} {raw : Json} {done items : List Json}
  {activityId : String} {m : MappedActivity}

/-! ### What becomes of an activity -/

/-- A mapped activity is a duplicate, conflicts with another of its id, or is made an event. -/
def NormalizerState.add (s : NormalizerState) (arguments : NormalizerArguments) (raw : Json)
    (activityId : String) (m : MappedActivity) : Option NormalizerState :=
  match s.seenSha activityId with
  | some payloadSha =>
    if payloadSha ≠ raw.sha256 then some (s.route .duplicateActivityConflict raw)
    else some { s with duplicates := s.duplicates + 1 }
  | none =>
    (NormalizedOptionEvent.create (activityEventFields arguments activityId raw.sha256 m)).map
      fun event => { s with
        events := s.events ++ [event]
        seen := s.seen ++ [(activityId, raw.sha256)] }

/-- An activity is routed to a human, skipped or mapped. -/
theorem normalizeActivity_cases
    (h : normalizeActivity readers acquisition arguments s raw = some s') :
    (∃ reason, s' = s.route reason raw) ∨
    (∃ activityId, raw.get "id" = .str activityId ∧ s' = s.skip activityId raw) ∨
    ∃ activityId m, raw.get "id" = .str activityId ∧ s.add arguments raw activityId m = some s' := by
  rw [normalizeActivity] at h
  split at h
  · rename_i activityId activityType hid htype
    split at h
    · exact .inl ⟨_, (Option.some.inj h).symm⟩
    split at h
    · exact .inl ⟨_, (Option.some.inj h).symm⟩
    split at h
    · exact .inl ⟨_, (Option.some.inj h).symm⟩
    split at h
    · exact .inl ⟨_, (Option.some.inj h).symm⟩
    split at h
    · exact .inr (.inl ⟨activityId, hid, (Option.some.inj h).symm⟩)
    split at h
    · exact .inl ⟨_, (Option.some.inj h).symm⟩
    split at h
    · exact .inl ⟨_, (Option.some.inj h).symm⟩
    · exact .inr (.inr ⟨activityId, _, hid, h⟩)
  · exact .inl ⟨_, (Option.some.inj h).symm⟩
  · exact .inl ⟨_, (Option.some.inj h).symm⟩

theorem fields_of_create {fields : EventFields} {event : NormalizedOptionEvent}
    (h : NormalizedOptionEvent.create fields = some event) : event.fields = fields := by
  rw [NormalizedOptionEvent.create] at h
  split_ifs at h
  cases h
  rfl

/-! ### What was seen -/

theorem mem_seen {sha : String} (h : s.seenSha activityId = some sha) :
    (activityId, sha) ∈ s.seen := by
  obtain ⟨item, hfind, rfl⟩ := Option.map_eq_some_iff.mp h
  have hkey : item.1 = activityId := by simpa using List.find?_some hfind
  rw [← hkey]
  exact List.mem_of_find?_eq_some hfind

theorem not_mem_seen (h : s.seenSha activityId = none) (sha : String) :
    (activityId, sha) ∉ s.seen := by
  intro hmem
  have hnone := List.find?_eq_none.mp (Option.map_eq_none_iff.mp h) _ hmem
  simp at hnone

/-! ### Every activity is accounted for -/

/-- An activity shows in what is returned. -/
def Recorded (s : NormalizerState) (raw : Json) : Prop :=
  (∃ e ∈ s.events, e.fields.sourcePayloadSha256 = raw.sha256) ∨
  (∃ activityId ∈ s.skipped, raw.get "id" = .str activityId) ∨
  ∃ r ∈ s.manual, r.sourcePayloadSha256 = raw.sha256

theorem Recorded.mono (h : Recorded s raw) (hevents : s.events ⊆ s'.events)
    (hskipped : s.skipped ⊆ s'.skipped) (hmanual : s.manual ⊆ s'.manual) : Recorded s' raw := by
  rcases h with ⟨e, he, hsha⟩ | ⟨activityId, hmem, hid⟩ | ⟨r, hr, hsha⟩
  · exact .inl ⟨e, hevents he, hsha⟩
  · exact .inr (.inl ⟨activityId, hskipped hmem, hid⟩)
  · exact .inr (.inr ⟨r, hmanual hr, hsha⟩)

/-- The state after these activities. -/
structure Accounting (done : List Json) (s : NormalizerState) : Prop where
  size : s.events.length + s.skipped.length + s.manual.length + s.duplicates = done.length
  ids : (s.events.map fun e => e.fields.activityId).Nodup
  skipped : s.skipped.Nodup
  events : ∀ e ∈ s.events, (e.fields.activityId, e.fields.sourcePayloadSha256) ∈ s.seen
  seen : ∀ item ∈ s.seen, item.1 ∈ s.skipped ∨
    ∃ e ∈ s.events, e.fields.activityId = item.1 ∧ e.fields.sourcePayloadSha256 = item.2
  recorded : ∀ raw ∈ done, Recorded s raw

namespace Accounting

theorem grow (h : ∀ raw ∈ done, Recorded s raw) (hevents : s.events ⊆ s'.events)
    (hskipped : s.skipped ⊆ s'.skipped) (hmanual : s.manual ⊆ s'.manual) (hraw : Recorded s' raw) :
    ∀ r ∈ done ++ [raw], Recorded s' r := by
  intro r hr
  rcases List.mem_append.mp hr with hr | hr
  · exact (h r hr).mono hevents hskipped hmanual
  · rw [List.mem_singleton.mp hr]
    exact hraw

theorem route (h : Accounting done s) (reason : ActivityNormalizationReason) (raw : Json) :
    Accounting (done ++ [raw]) (s.route reason raw) where
  size := by
    have hsize := h.size
    rw [List.length_append, List.length_singleton, ← hsize]
    simp only [NormalizerState.route, List.length_append, List.length_singleton]
    omega
  ids := h.ids
  skipped := h.skipped
  events := h.events
  seen := h.seen
  recorded := by
    refine grow h.recorded (List.Subset.refl _) (List.Subset.refl _)
      (List.subset_append_left _ _) (.inr (.inr
        ⟨⟨reason, raw.sha256, _⟩, List.mem_append_right _ (List.mem_singleton_self _), rfl⟩))

theorem duplicate (h : Accounting done s) (hraw : Recorded s raw) :
    Accounting (done ++ [raw]) { s with duplicates := s.duplicates + 1 } where
  size := by
    have hsize := h.size
    rw [List.length_append, List.length_singleton, ← hsize]
    rfl
  ids := h.ids
  skipped := h.skipped
  events := h.events
  seen := h.seen
  recorded := grow h.recorded (List.Subset.refl _) (List.Subset.refl _) (List.Subset.refl _) hraw

/-- An id is noted, and then skipped. -/
theorem note (h : Accounting done s) (hid : raw.get "id" = .str activityId)
    (noted : List (String × String)) (hnoted : ∀ item ∈ noted, item.1 = activityId) :
    Accounting (done ++ [raw]) (if s.skipped.contains activityId then
      { s with seen := s.seen ++ noted, duplicates := s.duplicates + 1 }
      else { s with seen := s.seen ++ noted, skipped := s.skipped ++ [activityId] }) := by
  have hsize := h.size
  split_ifs with hskip
  · have hmem : activityId ∈ s.skipped := List.contains_iff_mem.mp hskip
    refine ⟨?_, h.ids, h.skipped, fun e he => List.mem_append_left _ (h.events e he), ?_, ?_⟩
    · rw [List.length_append, List.length_singleton, ← hsize]
      rfl
    · intro item hitem
      rcases List.mem_append.mp hitem with hitem | hitem
      · exact h.seen item hitem
      · exact .inl (hnoted item hitem ▸ hmem)
    · exact grow h.recorded (List.Subset.refl _) (List.Subset.refl _) (List.Subset.refl _)
        (.inr (.inl ⟨activityId, hmem, hid⟩))
  · have hnew : activityId ∉ s.skipped := mt List.contains_iff_mem.mpr hskip
    refine ⟨?_, h.ids, ?_, fun e he => List.mem_append_left _ (h.events e he), ?_, ?_⟩
    · simp only [List.length_append, List.length_singleton]
      omega
    · exact List.nodup_append.mpr ⟨h.skipped, List.nodup_singleton _, fun a ha b hb hab =>
        hnew (List.mem_singleton.mp hb ▸ hab ▸ ha)⟩
    · intro item hitem
      rcases List.mem_append.mp hitem with hitem | hitem
      · rcases h.seen item hitem with hskipped | hevent
        · exact .inl (List.mem_append_left _ hskipped)
        · exact .inr hevent
      · exact .inl (List.mem_append_right _ (List.mem_singleton.mpr (hnoted item hitem)))
    · exact grow h.recorded (List.Subset.refl _) (List.subset_append_left _ _)
        (List.Subset.refl _) (.inr (.inl ⟨activityId,
          List.mem_append_right _ (List.mem_singleton_self _), hid⟩))

theorem skip (h : Accounting done s) (hid : raw.get "id" = .str activityId) :
    Accounting (done ++ [raw]) (s.skip activityId raw) := by
  rw [NormalizerState.skip]
  cases s.seenSha activityId with
  | some payloadSha =>
    dsimp only
    by_cases hsha : payloadSha ≠ raw.sha256
    · rw [if_pos hsha]
      exact h.route _ raw
    · rw [if_neg hsha]
      have hnote := h.note hid [] (by simp)
      simp only [List.append_nil] at hnote
      exact hnote
  | none => exact h.note hid [(activityId, raw.sha256)] (by simp)

theorem add (h : Accounting done s) (hid : raw.get "id" = .str activityId)
    (hadd : s.add arguments raw activityId m = some s') : Accounting (done ++ [raw]) s' := by
  rw [NormalizerState.add] at hadd
  cases hseen : s.seenSha activityId with
  | some payloadSha =>
    rw [hseen] at hadd
    dsimp only at hadd
    by_cases hsha : payloadSha ≠ raw.sha256
    · rw [if_pos hsha] at hadd
      cases hadd
      exact h.route _ raw
    · rw [if_neg hsha] at hadd
      cases hadd
      refine h.duplicate ?_
      rcases h.seen _ (mem_seen hseen) with hskipped | ⟨e, he, -, hpayload⟩
      · exact .inr (.inl ⟨activityId, hskipped, hid⟩)
      · exact .inl ⟨e, he, hpayload.trans (not_not.mp hsha)⟩
  | none =>
    rw [hseen] at hadd
    obtain ⟨event, hcreate, rfl⟩ := Option.map_eq_some_iff.mp hadd
    have hfields := fields_of_create hcreate
    have hid' : event.fields.activityId = activityId := by
      rw [hfields]
      rfl
    have hsha : event.fields.sourcePayloadSha256 = raw.sha256 := by
      rw [hfields]
      rfl
    have hsize := h.size
    refine ⟨?_, ?_, h.skipped, ?_, ?_, ?_⟩
    · simp only [List.length_append, List.length_singleton]
      omega
    · rw [List.map_append, List.nodup_append]
      refine ⟨h.ids, List.nodup_singleton _, fun a ha b hb hab => ?_⟩
      obtain ⟨e, he, rfl⟩ := List.mem_map.mp ha
      rw [List.mem_singleton.mp hb] at hab
      dsimp only at hab
      rw [hid'] at hab
      exact not_mem_seen hseen _ (hab ▸ h.events e he)
    · intro e he
      rcases List.mem_append.mp he with he | he
      · exact List.mem_append_left _ (h.events e he)
      · rw [List.mem_singleton.mp he, hid', hsha]
        exact List.mem_append_right _ (List.mem_singleton_self _)
    · intro item hitem
      rcases List.mem_append.mp hitem with hitem | hitem
      · rcases h.seen item hitem with hskipped | ⟨e, he, hitem⟩
        · exact .inl hskipped
        · exact .inr ⟨e, List.mem_append_left _ he, hitem⟩
      · rw [List.mem_singleton.mp hitem]
        exact .inr ⟨event, List.mem_append_right _ (List.mem_singleton_self _), hid', hsha⟩
    · exact grow h.recorded (List.subset_append_left _ _) (List.Subset.refl _)
        (List.Subset.refl _)
        (.inl ⟨event, List.mem_append_right _ (List.mem_singleton_self _), hsha⟩)

/-- One activity is accounted for once. -/
theorem step (h : Accounting done s)
    (hstep : normalizeActivity readers acquisition arguments s raw = some s') :
    Accounting (done ++ [raw]) s' := by
  rcases normalizeActivity_cases hstep with ⟨reason, rfl⟩ | ⟨activityId, hid, rfl⟩ |
    ⟨activityId, m, hid, hadd⟩
  · exact h.route reason raw
  · exact h.skip hid
  · exact h.add hid hadd

theorem run (h : Accounting done s)
    (hrun : items.foldlM (normalizeActivity readers acquisition arguments) s = some s') :
    Accounting (done ++ items) s' := by
  induction items generalizing done s with
  | nil =>
    cases hrun
    rw [List.append_nil]
    exact h
  | cons raw items ih =>
    rw [List.foldlM_cons] at hrun
    obtain ⟨t, hstep, hrun⟩ := Option.bind_eq_some_iff.mp hrun
    have hlater := ih (h.step hstep) hrun
    rw [List.append_assoc] at hlater
    exact hlater

end Accounting

theorem accounting_empty : Accounting [] ⟨[], [], [], 0, []⟩ where
  size := rfl
  ids := List.nodup_nil
  skipped := List.nodup_nil
  events := by simp
  seen := by simp
  recorded := by simp

/-- Nothing is dropped without a record: events, skipped ids, manual routes and duplicates are as
many as the activities, and every activity shows in one of the first three. -/
theorem activities_accounted
    (h : normalizeAccountActivities readers acquisition arguments = some s) :
    s.events.length + s.skipped.length + s.manual.length + s.duplicates =
      (rawActivities readers acquisition).length ∧
    (s.events.map fun e => e.fields.activityId).Nodup ∧ s.skipped.Nodup ∧
    ∀ raw ∈ rawActivities readers acquisition, Recorded s raw := by
  obtain ⟨pages, hpages, h⟩ := Option.bind_eq_some_iff.mp h
  obtain ⟨t, hfold, h⟩ := Option.bind_eq_some_iff.mp h
  cases h
  have hdone : Accounting pages.flatten t := accounting_empty.run hfold
  have hperm : (orderedEvents t.events).Perm t.events := List.mergeSort_perm t.events _
  rw [rawActivities, hpages]
  refine ⟨?_, ((hperm.map _).nodup_iff).mpr hdone.ids, hdone.skipped, fun raw hraw => ?_⟩
  · rw [hperm.length_eq]
    exact hdone.size
  · exact (hdone.recorded raw hraw).mono hperm.symm.subset (List.Subset.refl _)
      (List.Subset.refl _)

theorem activities_accounted_spy : (rawActivities spyReaders spyAcquisition).length = 1 ∧
    ∀ raw ∈ rawActivities spyReaders spyAcquisition,
      Recorded ⟨[spyEvent], [], [], 0, [("A1", spyExercise.sha256)]⟩ raw := by
  obtain ⟨hsize, -, -, hrecorded⟩ := activities_accounted normalize_spyAcquisition
  exact ⟨hsize.symm, hrecorded⟩

end EsscherMarket.OptionEvents
