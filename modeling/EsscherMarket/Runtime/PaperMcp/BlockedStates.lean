import EsscherMarket.Lib.HashChain
import EsscherMarket.Runtime.PaperMcp.Payloads
import EsscherMarket.Runtime.Sidecar.Formats

/-!
# The blocked-state journal

`BlockedStateJournal` of `runtime/paper_mcp_composition.py`: an append-only hash-chained file with
one entry for every failure of a subject, and a retry budget.  Each call recomputes the state of a
subject from the whole file.  The history of a subject hides its `RESOLVED` entries only.
-/

namespace EsscherMarket.Runtime

open Lib

/-! ### Entries -/

inductive BlockedState where
  | blocked
  | exhausted
  | resolved
  deriving DecidableEq

def BlockedState.value : BlockedState → String
  | blocked => "BLOCKED"
  | exhausted => "EXHAUSTED"
  | resolved => "RESOLVED"

structure BlockedEntry where
  subjectId : String
  state : BlockedState
  reasonCode : String
  attempts : Nat
  retryBudget : Nat
  observedAt : String
  deriving DecidableEq

def BlockedEntry.unsigned (b : BlockedEntry) (prior : String) : Json :=
  .obj [
    ("schema", .str "esscher.paper_mcp_blocked_state_entry"),
    ("schema_version", .int 1),
    ("subject_id", .str b.subjectId),
    ("state", .str b.state.value),
    ("reason_code", .str b.reasonCode),
    ("attempts", .int b.attempts),
    ("retry_budget", .int b.retryBudget),
    ("observed_at", .str b.observedAt),
    ("prior_entry_sha256", .str prior)]

/-- How the journal is read: both rejections have one text, and any entry may follow any other. -/
def blockedChain : HashChain BlockedEntry Unit PaperMcpCompositionRejected where
  digestOf prior b := (b.unsigned prior).sha256
  genesis := String.ofList (List.replicate 64 '0')
  start := ()
  accept _ _ _ := .ok ()
  broken _ := ⟨.brokerTruthUnavailable, "blocked-state journal chain is broken"⟩
  forged _ := ⟨.brokerTruthUnavailable, "blocked-state journal chain is broken"⟩

abbrev JournalFile : Type := List (Link BlockedEntry)

/-! ### The journal -/

/-- A journal object: its retry budget. -/
structure BlockedStateJournal where
  retryBudget : Nat
  positive : 0 < retryBudget

abbrev Journal (α : Type) : Type := Except PaperMcpCompositionRejected α

def utcText (value : DateTime) : Journal String := do
  throwIf (value.isAware = false) ⟨.doorInvalid, "clock values must be aware UTC"⟩
  return timestampText value

namespace JournalFile

/-- `_entries`: the whole chain, or a rejection. -/
def entries (file : JournalFile) : Journal (List (Link BlockedEntry)) := do
  let _ ← blockedChain.replay file
  return file

def subjectEntries (file : JournalFile) (subjectId : String) :
    Journal (List (Link BlockedEntry)) := do
  let entries ← file.entries
  return entries.filter fun e => e.body.subjectId = subjectId ∧ e.body.state ≠ .resolved

def isExhausted (file : JournalFile) (subjectId : String) : Journal Bool := do
  let history ← file.subjectEntries subjectId
  return history.any fun e => e.body.state = .exhausted

def appendEntry (file : JournalFile) (j : BlockedStateJournal) (subjectId : String)
    (state : BlockedState) (reasonCode : String) (attempts : Nat) (observedAt : DateTime) :
    Journal JournalFile := do
  let entries ← file.entries
  let observed ← utcText observedAt
  return file ++ [blockedChain.linkAfter entries
    ⟨subjectId, state, reasonCode, attempts, j.retryBudget, observed⟩]

/-- `record_failure`: append one entry; `True` when the budget is exhausted. -/
def recordFailure (file : JournalFile) (j : BlockedStateJournal) (subjectId reasonCode : String)
    (observedAt : DateTime) : Journal (Bool × JournalFile) := do
  let history ← file.subjectEntries subjectId
  let attempts := history.countP (fun e => e.body.state = .blocked) + 1
  let exhausted := history.any fun e => e.body.state = .exhausted
  let state : BlockedState :=
    if exhausted = true ∨ j.retryBudget ≤ attempts then .exhausted else .blocked
  let file' ← file.appendEntry j subjectId state reasonCode attempts observedAt
  return (state == .exhausted, file')

def resolve (file : JournalFile) (j : BlockedStateJournal) (subjectId : String)
    (observedAt : DateTime) : Journal JournalFile := do
  let history ← file.subjectEntries subjectId
  if history.isEmpty then return file
  else
    let attempts := history.countP fun e => e.body.state = .blocked
    file.appendEntry j subjectId .resolved "RESOLVED" attempts observedAt

end JournalFile

/-! ### Runs -/

inductive JournalCall where
  | recordFailure (subjectId reasonCode : String) (observedAt : DateTime)
  | resolve (subjectId : String) (observedAt : DateTime)

def JournalCall.exec (j : BlockedStateJournal) (file : JournalFile) : JournalCall → JournalFile
  | recordFailure subjectId reasonCode observedAt =>
    match file.recordFailure j subjectId reasonCode observedAt with
    | .ok (_, file') => file'
    | .error _ => file
  | resolve subjectId observedAt =>
    match file.resolve j subjectId observedAt with
    | .ok file' => file'
    | .error _ => file

/-- The call is a failure of the subject, with a clock that the journal accepts: with a naive one
it raises and records nothing. -/
def JournalCall.Fails (subjectId : String) : JournalCall → Bool
  | recordFailure s _ observedAt => s == subjectId && observedAt.isAware
  | resolve _ _ => false

def failures (calls : List JournalCall) (subjectId : String) : Nat :=
  calls.countP (JournalCall.Fails subjectId)

/-! ### The invariant -/

def entriesIn (file : JournalFile) (subjectId : String) (state : BlockedState) : Nat :=
  file.countP fun e => e.body.subjectId = subjectId ∧ e.body.state = state

/-- A file that is read, after `failed s` failures of each subject `s`: all but the last of the
budget are `BLOCKED`, and the others `EXHAUSTED`. -/
structure Counted (j : BlockedStateJournal) (failed : String → Nat) (file : JournalFile) : Prop where
  reads : ∃ at_, blockedChain.replay file = .ok at_
  blocked : ∀ s, entriesIn file s .blocked = min (failed s) (j.retryBudget - 1)
  exhausted : ∀ s, entriesIn file s .exhausted = failed s - (j.retryBudget - 1)

variable {j : BlockedStateJournal} {failed : String → Nat} {file : JournalFile} {s : String}

theorem countP_subjectEntries (state : BlockedState) (hstate : state ≠ .resolved) :
    (file.filter fun e => e.body.subjectId = s ∧ e.body.state ≠ .resolved).countP
      (fun e => e.body.state = state) = entriesIn file s state := by
  rw [List.countP_filter, entriesIn]
  congr 1
  funext e
  by_cases hs : e.body.state = state
  · simp [hs, hstate]
  · simp [hs]

theorem any_subjectEntries :
    (file.filter fun e => e.body.subjectId = s ∧ e.body.state ≠ .resolved).any
      (fun e => e.body.state = .exhausted) = decide (0 < entriesIn file s .exhausted) := by
  rw [← countP_subjectEntries .exhausted (by decide), Bool.eq_iff_iff, decide_eq_true_eq,
    List.countP_pos_iff, List.any_eq_true]

theorem entriesIn_concat (link : Link BlockedEntry) (state : BlockedState) :
    entriesIn (file ++ [link]) s state = entriesIn file s state +
      if link.body.subjectId = s ∧ link.body.state = state then 1 else 0 := by
  rw [entriesIn, List.countP_append, List.countP_singleton]
  simp [entriesIn]

namespace Counted

theorem subjectEntries_eq (h : Counted j failed file) (s : String) : file.subjectEntries s =
    .ok (file.filter fun e => e.body.subjectId = s ∧ e.body.state ≠ .resolved) := by
  obtain ⟨at_, hat⟩ := h.reads
  rw [JournalFile.subjectEntries, JournalFile.entries, hat]
  rfl

theorem isExhausted_eq (h : Counted j failed file) (s : String) :
    file.isExhausted s = .ok (decide (j.retryBudget ≤ failed s)) := by
  have hpos := j.positive
  have hany : (0 < entriesIn file s .exhausted) ↔ j.retryBudget ≤ failed s := by
    rw [h.exhausted]
    omega
  rw [JournalFile.isExhausted, h.subjectEntries_eq, ← decide_eq_decide.mpr hany,
    ← any_subjectEntries]
  rfl

theorem appendEntry_eq (h : Counted j failed file) (state : BlockedState) (reasonCode : String)
    (attempts : Nat) {t : DateTime} (ht : t.isAware = true) :
    file.appendEntry j s state reasonCode attempts t = .ok (file ++ [blockedChain.linkAfter file
      ⟨s, state, reasonCode, attempts, j.retryBudget, timestampText t⟩]) := by
  obtain ⟨at_, hat⟩ := h.reads
  rw [JournalFile.appendEntry, JournalFile.entries, hat, utcText, ht]
  rfl

theorem appendEntry_naive (h : Counted j failed file) (state : BlockedState) (reasonCode : String)
    (attempts : Nat) {t : DateTime} (ht : t.isAware = false) :
    file.appendEntry j s state reasonCode attempts t =
      .error ⟨.doorInvalid, "clock values must be aware UTC"⟩ := by
  obtain ⟨at_, hat⟩ := h.reads
  rw [JournalFile.appendEntry, JournalFile.entries, hat, utcText, ht]
  rfl

theorem reads_linkAfter (h : Counted j failed file) (b : BlockedEntry) :
    ∃ at_, blockedChain.replay (file ++ [blockedChain.linkAfter file b]) = .ok at_ := by
  obtain ⟨at_, hat⟩ := h.reads
  exact ⟨_, HashChain.replay_linkAfter hat rfl⟩

/-- What `record_failure` decides is what the number of failures says. -/
theorem recordFailure_eq (h : Counted j failed file) (reasonCode : String) {t : DateTime}
    (ht : t.isAware = true) :
    let state : BlockedState := if j.retryBudget ≤ failed s + 1 then .exhausted else .blocked
    file.recordFailure j s reasonCode t = .ok (decide (j.retryBudget ≤ failed s + 1),
      file ++ [blockedChain.linkAfter file ⟨s, state, reasonCode,
        min (failed s) (j.retryBudget - 1) + 1, j.retryBudget, timestampText t⟩]) := by
  have hpos := j.positive
  have hstate : (decide (0 < entriesIn file s .exhausted) = true ∨
      j.retryBudget ≤ entriesIn file s .blocked + 1) ↔ j.retryBudget ≤ failed s + 1 := by
    rw [decide_eq_true_eq, h.exhausted, h.blocked]
    omega
  rw [JournalFile.recordFailure, h.subjectEntries_eq]
  show (do
    let file' ← file.appendEntry j s _ reasonCode _ t
    return (_, file') : Journal (Bool × JournalFile)) = _
  rw [countP_subjectEntries .blocked (by decide), any_subjectEntries, if_congr hstate rfl rfl,
    h.appendEntry_eq _ _ _ ht, h.blocked]
  by_cases hbudget : j.retryBudget ≤ failed s + 1
  · simp [hbudget]
  · simp [hbudget]

/-- `resolve` does nothing, appends a `RESOLVED` entry, or raises. -/
theorem resolve_cases (h : Counted j failed file) (s : String) (t : DateTime) :
    file.resolve j s t = .ok file ∨
      (∃ b : BlockedEntry, b.state = .resolved ∧
        file.resolve j s t = .ok (file ++ [blockedChain.linkAfter file b])) ∨
      ∃ e, file.resolve j s t = .error e := by
  rw [JournalFile.resolve, h.subjectEntries_eq]
  generalize file.filter _ = history
  show _ ∨ _
  cases hempty : history.isEmpty with
  | true =>
    refine .inl ?_
    show (if history.isEmpty = true then _ else _ : Journal JournalFile) = _
    rw [if_pos hempty]
    rfl
  | false =>
    have hne : ¬ history.isEmpty = true := by simp [hempty]
    show ((if history.isEmpty = true then _ else _ : Journal JournalFile) = _) ∨
      (∃ b : BlockedEntry, _ ∧ (if history.isEmpty = true then _ else _ : Journal JournalFile) = _) ∨
      ∃ e, (if history.isEmpty = true then _ else _ : Journal JournalFile) = _
    rw [if_neg hne]
    cases ht : t.isAware with
    | true => exact .inr (.inl ⟨_, rfl, h.appendEntry_eq _ _ _ ht⟩)
    | false => exact .inr (.inr ⟨_, h.appendEntry_naive _ _ _ ht⟩)

theorem append_resolved (h : Counted j failed file) {b : BlockedEntry} (hb : b.state = .resolved) :
    Counted j failed (file ++ [blockedChain.linkAfter file b]) := by
  refine ⟨h.reads_linkAfter b, fun s => ?_, fun s => ?_⟩
  · rw [entriesIn_concat, h.blocked, HashChain.linkAfter_body, hb]
    simp
  · rw [entriesIn_concat, h.exhausted, HashChain.linkAfter_body, hb]
    simp

theorem append_failure (h : Counted j failed file) {b : BlockedEntry} (hb : b.subjectId = s)
    (hstate : b.state = if j.retryBudget ≤ failed s + 1 then .exhausted else .blocked) :
    Counted j (Function.update failed s (failed s + 1))
      (file ++ [blockedChain.linkAfter file b]) := by
  have hpos := j.positive
  refine ⟨h.reads_linkAfter b, fun s' => ?_, fun s' => ?_⟩
  · rw [entriesIn_concat, h.blocked, HashChain.linkAfter_body, hb, hstate]
    by_cases hs : s' = s
    · subst hs
      rw [Function.update_self]
      by_cases hbudget : j.retryBudget ≤ failed s' + 1
      · simp [hbudget]
        omega
      · simp [hbudget]
        omega
    · rw [Function.update_of_ne hs]
      simp [Ne.symm hs]
  · rw [entriesIn_concat, h.exhausted, HashChain.linkAfter_body, hb, hstate]
    by_cases hs : s' = s
    · subst hs
      rw [Function.update_self]
      by_cases hbudget : j.retryBudget ≤ failed s' + 1
      · simp [hbudget]
        omega
      · simp [hbudget]
        omega
    · rw [Function.update_of_ne hs]
      simp [Ne.symm hs]

/-- One call. -/
theorem exec (h : Counted j failed file) (c : JournalCall) :
    Counted j (fun s => failed s + if c.Fails s then 1 else 0) (c.exec j file) := by
  cases c with
  | recordFailure subjectId reasonCode t =>
    cases ht : t.isAware with
    | true =>
      have hcounts : (fun s => failed s + if (JournalCall.recordFailure subjectId reasonCode t).Fails s
          then 1 else 0) = Function.update failed subjectId (failed subjectId + 1) := by
        funext s
        by_cases hs : s = subjectId
        · simp [JournalCall.Fails, ht, hs]
        · simp [JournalCall.Fails, ht, hs, Ne.symm hs]
      rw [hcounts, JournalCall.exec, h.recordFailure_eq reasonCode ht]
      exact h.append_failure rfl rfl
    | false =>
      have hraise : file.recordFailure j subjectId reasonCode t =
          .error ⟨.doorInvalid, "clock values must be aware UTC"⟩ := by
        rw [JournalFile.recordFailure, h.subjectEntries_eq]
        show (do
          let file' ← file.appendEntry j subjectId _ reasonCode _ t
          return (_, file') : Journal (Bool × JournalFile)) = _
        rw [h.appendEntry_naive _ _ _ ht]
        rfl
      rw [JournalCall.exec, hraise]
      simpa [JournalCall.Fails, ht] using h
  | resolve subjectId t =>
    have hcounts : (fun s => failed s + if (JournalCall.resolve subjectId t).Fails s then 1 else 0) =
        failed := by
      funext s
      simp [JournalCall.Fails]
    rw [hcounts, JournalCall.exec]
    rcases h.resolve_cases subjectId t with hsame | ⟨b, hb, happend⟩ | ⟨e, herror⟩
    · rw [hsame]
      exact h
    · rw [happend]
      exact h.append_resolved hb
    · rw [herror]
      exact h

end Counted

/-- A run from a file. -/
theorem Counted.run (h : Counted j failed file) (calls : List JournalCall) :
    Counted j (fun s => failed s + failures calls s) (calls.foldl (JournalCall.exec j) file) := by
  induction calls generalizing failed file with
  | nil => exact h
  | cons c rest ih =>
    have hrun := ih (h.exec c)
    have hcounts : (fun s => failed s + failures (c :: rest) s) =
        fun s => (failed s + if c.Fails s then 1 else 0) + failures rest s := by
      funext s
      rw [failures, failures, List.countP_cons]
      omega
    rw [hcounts]
    exact hrun

theorem counted_nil (j : BlockedStateJournal) : Counted j (fun _ => 0) [] := by
  refine ⟨⟨_, rfl⟩, fun s => ?_, fun s => ?_⟩
  · rw [Nat.zero_min]
    rfl
  · rw [Nat.zero_sub]
    rfl

end EsscherMarket.Runtime
