import EsscherMarket.Contracts.StrategyRelease
import EsscherMarket.Lib.Connections
import EsscherMarket.Lib.Table

/-!
# The release log

`ReleaseLog` of `contracts/strategy_release.py`: any number of connections to one file, each making
one call after the other.  The transaction of `promote` holds the write lock from its first
statement on, so the others see nothing of it or all of it; the statements of `revoke` and
`load_exact` stand alone.
-/

namespace EsscherMarket.Contracts.ReleaseLog

open Lib Prog

/-! ### Tables -/

structure ReleaseRow where
  releaseSha256 : String
  releaseJson : List UInt8
  supersedesReleaseSha256 : Option String
  deriving DecidableEq

inductive RevocationReason where
  | security
  | evidenceInvalidated
  | operator
  deriving DecidableEq, Repr

structure RevocationRow where
  releaseSha256 : String
  reason : RevocationReason
  operatorId : String
  revokedAt : String
  deriving DecidableEq, Repr

/-- `strategy_releases` in the order of `sequence`, and `strategy_release_revocations`. -/
structure LogTables where
  releases : List ReleaseRow
  revocations : List RevocationRow
  deriving DecidableEq

inductive ReleaseLogReason where
  | invalidHash
  | notFound
  | promotionRejected
  | decisionMismatch
  | predecessorMismatch
  | hashCollision
  | superseded
  | revoked
  | revocationConflict
  | storedReleaseInvalid
  deriving DecidableEq, Repr

/-- `ReleaseLogRejected`, an exception of the contract that nobody catches, or one of SQLite. -/
inductive LogError where
  | rejected (reason : ReleaseLogReason)
  | release (e : ReleaseError)
  | sqlite
  deriving DecidableEq, Repr

/-! ### Statements -/

inductive LogStatement where
  | promote (row : ReleaseRow)
  | selectRelease (releaseSha256 : String)
  | selectRevocation (releaseSha256 : String)
  | selectSuperseding (releaseSha256 : String)
  | insertRevocation (row : RevocationRow)

def LogStatement.Value : LogStatement → Type
  | promote _ => Unit
  | selectRelease _ => Option (List UInt8)
  | selectRevocation _ => Option RevocationRow
  | selectSuperseding _ => Bool
  | insertRevocation _ => Unit

abbrev logSig : Signature where
  Op := LogStatement
  Res op := Except LogError op.Value

/-- The transaction of `promote`. -/
def promoteTransaction (row : ReleaseRow) : Txn LogTables LogError Unit :=
  Txn.immediate do
    let existing ← Txn.select fun t => t.releases.find? fun r =>
      r.releaseSha256 == row.releaseSha256
    match existing with
    | some stored =>
      Txn.raiseIf (stored.releaseJson ≠ row.releaseJson) (.rejected .hashCollision)
    | none =>
      let prior ← Txn.select fun t => t.releases.getLast?.map (·.releaseSha256)
      Txn.raiseIf (row.supersedesReleaseSha256 ≠ prior) (.rejected .predecessorMismatch)
      Txn.tryWrite fun t =>
        match Table.insert [uniqueOn "release_sha256" ReleaseRow.releaseSha256] row t.releases with
        | .ok rows => .ok { t with releases := rows }
        | .error _ => .error .sqlite

def answer : (op : LogStatement) → LogTables → Except LogError op.Value × LogTables
  | .promote row, t => (Txn.result (promoteTransaction row) t, Txn.after (promoteTransaction row) t)
  | .selectRelease sha256, t =>
    (.ok ((t.releases.find? fun r => r.releaseSha256 == sha256).map (·.releaseJson)), t)
  | .selectRevocation sha256, t => (.ok (t.revocations.find? fun r => r.releaseSha256 == sha256), t)
  | .selectSuperseding sha256, t =>
    (.ok (t.releases.any fun r => r.supersedesReleaseSha256 == some sha256), t)
  | .insertRevocation row, t =>
    match Table.insert [uniqueOn "release_sha256" RevocationRow.releaseSha256] row t.revocations with
    | .ok rows => (.ok (), { t with revocations := rows })
    | .error _ => (.error .sqlite, t)

/-- A statement does what it says, or SQLite raises (for a lock that is not given up, among others)
and it does nothing. -/
def effect (op : LogStatement) (t : LogTables) (r : Except LogError op.Value) (t' : LogTables) :
    Prop :=
  answer op t = (r, t') ∨ r = .error .sqlite ∧ t' = t

/-! ### Calls -/

/-- `connection.execute`. -/
def execute (op : LogStatement) : Prog logSig LogError op.Value := do
  let r ← perform op
  ofExcept r

def rowOf (value : StrategyRelease) : Except ReleaseError ReleaseRow := do
  let raw ← strategyReleaseBytes value
  let releaseSha256 ← value.releaseSha256
  return ⟨releaseSha256, raw, value.supersedesReleaseSha256⟩

def promote (packaged : PackagedPolicies) (value : StrategyRelease) (decision : PromotionDecision) :
    Prog logSig LogError (Option StrategyRelease) := do
  let actual ← ofExcept ((evaluateRelease packaged value).mapError .release)
  raiseIf (decision ≠ actual) (.rejected .decisionMismatch)
  raiseIf (actual.status ≠ .promoted) (.rejected .promotionRejected)
  let row ← ofExcept ((rowOf value).mapError .release)
  let _ ← execute (.promote row)
  return some value

def loadExact (releaseSha256 : String) : Prog logSig LogError (Option StrategyRelease) := do
  raiseIf (isLowerHex 64 releaseSha256 = false) (.rejected .invalidHash)
  let row : Option (List UInt8) ← execute (.selectRelease releaseSha256)
  match row with
  | none => raise (.rejected .notFound)
  | some raw =>
    let revocation : Option RevocationRow ← execute (.selectRevocation releaseSha256)
    raiseIf (revocation.isSome = true) (.rejected .revoked)
    let superseding : Bool ← execute (.selectSuperseding releaseSha256)
    raiseIf (superseding = true) (.rejected .superseded)
    let value ← ofExcept ((parseStrategyRelease raw).mapError fun _ =>
      .rejected .storedReleaseInvalid)
    raiseIf (value.releaseSha256 ≠ .ok releaseSha256) (.rejected .storedReleaseInvalid)
    return some value

/-- `_timestamp_text` of a revocation. -/
def revocationTime (revokedAt : Option Int) : Except LogError String :=
  (timestampText revokedAt).mapError fun
    | .rejected => .rejected .revocationConflict
    | e => .release e

def revoke (releaseSha256 : String) (reason : RevocationReason) (operatorId : String)
    (revokedAt : Option Int) : Prog logSig LogError (Option StrategyRelease) := do
  raiseIf (isLowerHex 64 releaseSha256 = false) (.rejected .invalidHash)
  raiseIf (isReleaseIdentifier operatorId = false) (.rejected .revocationConflict)
  let revokedText ← ofExcept (revocationTime revokedAt)
  let stored : Option (List UInt8) ← execute (.selectRelease releaseSha256)
  raiseIf (stored.isNone = true) (.rejected .notFound)
  let existing : Option RevocationRow ← execute (.selectRevocation releaseSha256)
  let expected : RevocationRow := ⟨releaseSha256, reason, operatorId, revokedText⟩
  match existing with
  | some row =>
    raiseIf (row ≠ expected) (.rejected .revocationConflict)
    return none
  | none =>
    let _ ← execute (.insertRevocation expected)
    return none

inductive LogRequest where
  | promote (packaged : PackagedPolicies) (value : StrategyRelease) (decision : PromotionDecision)
  | load (releaseSha256 : String)
  | revoke (releaseSha256 : String) (reason : RevocationReason) (operatorId : String)
      (revokedAt : Option Int)

def program : LogRequest → Prog logSig LogError (Option StrategyRelease)
  | .promote packaged value decision => promote packaged value decision
  | .load releaseSha256 => loadExact releaseSha256
  | .revoke releaseSha256 reason operatorId revokedAt =>
    revoke releaseSha256 reason operatorId revokedAt

/-! ### The chain of releases -/

/-- Each row supersedes the one before it, and the first one `prior`. -/
def Chained : Option String → List ReleaseRow → Prop
  | _, [] => True
  | prior, row :: rest => row.supersedesReleaseSha256 = prior ∧ Chained (some row.releaseSha256) rest

section Chain

variable {prior : Option String} {rows : List ReleaseRow} {row : ReleaseRow} {sha256 : String}

theorem chained_concat : ∀ {rows : List ReleaseRow} {prior : Option String},
    Chained prior (rows ++ [row]) ↔ Chained prior rows ∧
      row.supersedesReleaseSha256 = (rows.getLast?.map (·.releaseSha256)).or prior
  | [], prior => by simp [Chained]
  | first :: rest, prior => by
    rw [List.cons_append, Chained, Chained, chained_concat, and_assoc]
    have hlast : (((first :: rest).getLast?.map (·.releaseSha256)).or prior) =
        (rest.getLast?.map (·.releaseSha256)).or (some first.releaseSha256) := by
      rw [List.getLast?_cons]
      cases rest.getLast? <;> rfl
    rw [hlast]

theorem Chained.superseded (h : Chained prior rows) (hrow : row ∈ rows)
    (hlast : rows.getLast? ≠ some row) :
    ∃ next ∈ rows, next.supersedesReleaseSha256 = some row.releaseSha256 := by
  induction rows generalizing prior with
  | nil => cases hrow
  | cons first rest ih =>
    cases rest with
    | nil =>
      obtain rfl := List.mem_singleton.mp hrow
      exact absurd rfl hlast
    | cons second more =>
      rcases List.mem_cons.mp hrow with rfl | hrow
      · exact ⟨second, by simp, h.2.1⟩
      · obtain ⟨next, hnext, hsup⟩ := ih h.2 hrow (by rwa [List.getLast?_cons_cons] at hlast)
        exact ⟨next, List.mem_cons_of_mem _ hnext, hsup⟩

theorem Chained.before (h : Chained prior rows) (hrow : row ∈ rows)
    (hsup : row.supersedesReleaseSha256 = some sha256) :
    prior = some sha256 ∨ sha256 ∈ (rows.map (·.releaseSha256)).dropLast := by
  induction rows generalizing prior with
  | nil => cases hrow
  | cons first rest ih =>
    rcases List.mem_cons.mp hrow with rfl | hrow
    · exact .inl (h.1.symm.trans hsup)
    · right
      have hne : rest.map (·.releaseSha256) ≠ [] := by
        rw [Ne, List.map_eq_nil_iff]
        exact List.ne_nil_of_mem hrow
      rw [List.map_cons, List.dropLast_cons_of_ne_nil hne]
      rcases ih h.2 hrow with hfirst | hmem
      · rw [Option.some_inj.mp hfirst]
        exact List.mem_cons_self
      · exact List.mem_cons_of_mem _ hmem

theorem Chained.last (h : Chained none rows) (hdistinct : (rows.map (·.releaseSha256)).Nodup)
    (hlast : rows.getLast? = some row) {next : ReleaseRow} (hnext : next ∈ rows) :
    next.supersedesReleaseSha256 ≠ some row.releaseSha256 := by
  intro hsup
  rcases h.before hnext hsup with hnone | hmem
  · cases hnone
  · obtain ⟨front, rfl⟩ := List.getLast?_eq_some_iff.mp hlast
    rw [List.map_append, List.map_singleton, List.dropLast_concat] at hmem
    rw [List.map_append, List.map_singleton] at hdistinct
    exact (List.nodup_append.mp hdistinct).2.2 _ hmem _ (List.mem_singleton_self _) rfl

end Chain

/-! ### What the statements do -/

def Promoted (row : ReleaseRow) : Prop :=
  ∃ packaged value, evaluateRelease packaged value =
    .ok ⟨some row.releaseSha256, .promoted, none⟩ ∧ rowOf value = .ok row

/-- The releases form a chain of promoted releases. -/
structure LogTables.Sound (t : LogTables) : Prop where
  distinct : (t.releases.map (·.releaseSha256)).Nodup
  chained : Chained none t.releases
  promoted : ∀ row ∈ t.releases, Promoted row

def LogStatement.reads : LogStatement → Bool
  | promote _ => false
  | insertRevocation _ => false
  | _ => true

section Statements

variable {t t' : LogTables} {row stored : ReleaseRow}

/-- The transaction finds the release, or appends it behind the one that it supersedes. -/
theorem promoteTransaction_ok (h : promoteTransaction row t = .ok () t') :
    (t' = t ∧ ∃ stored ∈ t.releases, stored.releaseSha256 = row.releaseSha256 ∧
      stored.releaseJson = row.releaseJson) ∨
    (t' = { t with releases := t.releases ++ [row] } ∧
      row.supersedesReleaseSha256 = t.releases.getLast?.map (·.releaseSha256) ∧
      ∀ r ∈ t.releases, r.releaseSha256 ≠ row.releaseSha256) := by
  rw [promoteTransaction, Txn.immediate_eq_ok, Txn.select_bind_eq_ok] at h
  cases hfind : t.releases.find? fun r => r.releaseSha256 == row.releaseSha256 with
  | some stored =>
    rw [hfind] at h
    obtain ⟨hjson, ht⟩ := Txn.raiseIf_eq_ok.mp h
    have hsha := List.find?_some hfind
    rw [beq_iff_eq] at hsha
    exact .inl ⟨ht.symm, stored, List.mem_of_find?_eq_some hfind, hsha, not_not.mp hjson⟩
  | none =>
    rw [hfind] at h
    dsimp only at h
    rw [Txn.select_bind_eq_ok, Txn.raiseIf_bind_eq_ok] at h
    obtain ⟨hprior, h⟩ := h
    rw [Txn.tryWrite_eq_ok] at h
    have hfree : ∀ r ∈ t.releases, r.releaseSha256 ≠ row.releaseSha256 := by
      intro r hr heq
      exact List.find?_eq_none.mp hfind r hr (beq_iff_eq.mpr heq)
    cases hinsert : Table.insert [uniqueOn "release_sha256" ReleaseRow.releaseSha256] row
        t.releases with
    | error e =>
      rw [hinsert] at h
      cases h
    | ok rows =>
      rw [hinsert] at h
      obtain ⟨-, rfl⟩ := Table.insert_eq_ok.mp hinsert
      exact .inr ⟨(Except.ok.inj h).symm, not_not.mp hprior, hfree⟩

theorem effect_promote {r : Except LogError Unit} (h : effect (.promote row) t r t') :
    (∃ e, r = .error e ∧ t' = t) ∨ r = .ok () ∧ promoteTransaction row t = .ok () t' := by
  rcases h with h | ⟨hr, ht⟩
  · obtain ⟨hresult, hafter⟩ : Txn.result (promoteTransaction row) t = r ∧
        Txn.after (promoteTransaction row) t = t' := Prod.mk.injEq .. ▸ h
    cases htxn : promoteTransaction row t with
    | ok u t₁ =>
      rw [Txn.result_of_ok htxn] at hresult
      rw [Txn.after_of_ok htxn] at hafter
      exact .inr ⟨hresult.symm, hafter ▸ rfl⟩
    | error e t₁ =>
      have hatomic : t₁ = t := Txn.atomic_immediate _ _ _ _ htxn
      rw [Txn.result, htxn] at hresult
      rw [Txn.after, htxn] at hafter
      exact .inl ⟨e, hresult.symm, hafter.symm.trans hatomic⟩
  · exact .inl ⟨_, hr, ht⟩

theorem effect_insertRevocation {revocation : RevocationRow} {r : Except LogError Unit}
    (h : effect (.insertRevocation revocation) t r t') :
    (∃ e, r = .error e ∧ t' = t) ∨
      r = .ok () ∧ t' = { t with revocations := t.revocations ++ [revocation] } := by
  rcases h with h | ⟨hr, ht⟩
  · rw [answer] at h
    cases hinsert : Table.insert [uniqueOn "release_sha256" RevocationRow.releaseSha256] revocation
        t.revocations with
    | error e =>
      rw [hinsert] at h
      cases h
      exact .inl ⟨_, rfl, rfl⟩
    | ok rows =>
      rw [hinsert] at h
      obtain ⟨-, rfl⟩ := Table.insert_eq_ok.mp hinsert
      cases h
      exact .inr ⟨rfl, rfl⟩
  · exact .inl ⟨_, hr, ht⟩

theorem effect_read {op : LogStatement} (hop : op.reads = true) {r : Except LogError op.Value}
    (h : effect op t r t') : t' = t ∧ ∀ a, r = .ok a → (answer op t).1 = .ok a := by
  have hsame : (answer op t).2 = t := by
    cases op with
    | promote row => cases hop
    | insertRevocation row => cases hop
    | _ => rfl
  rcases h with h | ⟨hr, ht⟩
  · rw [h] at hsame ⊢
    exact ⟨hsame, fun a ha => ha⟩
  · refine ⟨ht, fun a ha => ?_⟩
    rw [hr] at ha
    cases ha

theorem rowOf_eq_ok {value : StrategyRelease} : rowOf value = .ok row ↔
    strategyReleaseBytes value = .ok row.releaseJson ∧
      value.releaseSha256 = .ok row.releaseSha256 ∧
      value.supersedesReleaseSha256 = row.supersedesReleaseSha256 := by
  obtain ⟨sha256, raw, supersedes⟩ := row
  rw [rowOf]
  cases strategyReleaseBytes value with
  | error e => simp [Bind.bind, Except.bind]
  | ok raw' =>
    cases value.releaseSha256 with
    | error e => simp [Bind.bind, Except.bind]
    | ok sha256' =>
      simp only [Bind.bind, Except.bind, Pure.pure, Except.pure, Except.ok.injEq,
        ReleaseRow.mk.injEq]
      exact and_left_comm

theorem eq_of_rowOf {value value' : StrategyRelease} (h : rowOf value = .ok row)
    (h' : rowOf value' = .ok stored) (hjson : stored.releaseJson = row.releaseJson) :
    value' = value := by
  have hread := parseStrategyRelease_bytes (rowOf_eq_ok.mp h).1
  rw [← hjson, parseStrategyRelease_bytes (rowOf_eq_ok.mp h').1] at hread
  exact Except.ok.inj hread

end Statements

/-! ### The log as a shared store -/

theorem prefix_trans {t t' t'' : LogTables}
    (h : t.releases <+: t'.releases ∧ t.revocations <+: t'.revocations)
    (h' : t'.releases <+: t''.releases ∧ t'.revocations <+: t''.revocations) :
    t.releases <+: t''.releases ∧ t.revocations <+: t''.revocations :=
  ⟨h.1.trans h'.1, h.2.trans h'.2⟩

theorem sound_append {t : LogTables} {row : ReleaseRow} (h : t.Sound) (hrow : Promoted row)
    (hprior : row.supersedesReleaseSha256 = t.releases.getLast?.map (·.releaseSha256))
    (hfree : ∀ r ∈ t.releases, r.releaseSha256 ≠ row.releaseSha256) :
    LogTables.Sound { t with releases := t.releases ++ [row] } where
  distinct := Table.nodup_map_concat h.distinct hfree
  chained := chained_concat.mpr ⟨h.chained, by rw [hprior, Option.or_none]⟩
  promoted r hr := by
    rcases List.mem_append.mp hr with hr | hr
    · exact h.promoted r hr
    · rw [List.mem_singleton.mp hr]
      exact hrow

/-- The tables, which calls may only append promoted releases and revocations to. -/
def releaseLog : Shared logSig LogTables where
  effect := effect
  allowed
    | .promote row => Promoted row
    | _ => True
  invariant := LogTables.Sound
  later t t' := t.releases <+: t'.releases ∧ t.revocations <+: t'.revocations
  refl _ := ⟨List.prefix_rfl, List.prefix_rfl⟩
  trans := prefix_trans
  keeps := by
    intro op t r t' hallowed hsound heffect
    cases op with
    | promote row =>
      rcases effect_promote heffect with ⟨-, -, rfl⟩ | ⟨-, htxn⟩
      · exact ⟨hsound, List.prefix_rfl, List.prefix_rfl⟩
      · rcases promoteTransaction_ok htxn with ⟨rfl, -⟩ | ⟨rfl, hprior, hfree⟩
        · exact ⟨hsound, List.prefix_rfl, List.prefix_rfl⟩
        · exact ⟨sound_append hsound hallowed hprior hfree, List.prefix_append _ _,
            List.prefix_rfl⟩
    | insertRevocation row =>
      rcases effect_insertRevocation heffect with ⟨-, -, rfl⟩ | ⟨-, rfl⟩
      · exact ⟨hsound, List.prefix_rfl, List.prefix_rfl⟩
      · exact ⟨⟨hsound.distinct, hsound.chained, hsound.promoted⟩, List.prefix_rfl,
          List.prefix_append _ _⟩
    | selectRelease _ | selectRevocation _ | selectSuperseding _ =>
      obtain ⟨rfl, -⟩ := effect_read rfl heffect
      exact ⟨hsound, List.prefix_rfl, List.prefix_rfl⟩

/-! ### What a call ends with -/

def Current (t : LogTables) (releaseSha256 : String) (value : StrategyRelease) : Prop :=
  ∃ row, t.releases.getLast? = some row ∧ row.releaseSha256 = releaseSha256 ∧
    rowOf value = .ok row ∧ ∀ r ∈ t.revocations, r.releaseSha256 ≠ releaseSha256

def Retired (t : LogTables) (releaseSha256 : String) : Prop :=
  (∃ row ∈ t.releases, row.supersedesReleaseSha256 = some releaseSha256) ∨
    ∃ r ∈ t.revocations, r.releaseSha256 = releaseSha256

def Returned (request : LogRequest) (started t : LogTables) :
    Except LogError (Option StrategyRelease) → Prop
  | .error _ => True
  | .ok o => match request with
    | .promote _ value _ => ∃ row ∈ t.releases, rowOf value = .ok row
    | .load releaseSha256 => ∃ value t', o = some value ∧ t'.Sound ∧ releaseLog.later started t' ∧
        releaseLog.later t' t ∧ Current t' releaseSha256 value
    | .revoke .. => True

def post (request : LogRequest) (started t : LogTables) (changed : Bool)
    (r : Except LogError (Option StrategyRelease)) : Prop :=
  ((∃ e, r = .error e) → changed = false) ∧ Returned request started t r

section Calls

variable {request : LogRequest} {started t t' : LogTables} {changed : Bool}

theorem post_error {e : LogError} : post request started t false (.error e) := ⟨fun _ => rfl, trivial⟩

theorem post_ok {o : Option StrategyRelease} (h : Returned request started t (.ok o)) :
    post request started t changed (.ok o) := by
  refine ⟨?_, h⟩
  rintro ⟨e, he⟩
  cases he

theorem meets_read {op : LogStatement} (hop : op.reads = true)
    {k : op.Value → Prog logSig LogError (Option StrategyRelease)}
    (h : ∀ a t', releaseLog.later t t' → t'.Sound → (answer op t').1 = .ok a →
      releaseLog.Meets (post request started) (k a) t' false) :
    releaseLog.Meets (post request started) (execute op >>= k) t false := by
  have hallowed : releaseLog.allowed op := by
    cases op with
    | promote row => cases hop
    | _ => trivial
  refine ⟨hallowed, ?_⟩
  intro t₁ r t₂ hlater hsound heffect
  obtain ⟨rfl, hanswer⟩ := effect_read hop heffect
  have hsame : (false || decide (t₂ ≠ t₂)) = false := by simp
  rw [hsame]
  cases r with
  | error e => exact post_error
  | ok a => exact h a t₂ hlater hsound (hanswer a rfl)

theorem Chained.current {row : ReleaseRow} {value : StrategyRelease} (hsound : t.Sound)
    (hlater : releaseLog.later t t') (hrow : row ∈ t.releases) (hvalue : rowOf value = .ok row)
    (hrevoked : ∀ r ∈ t.revocations, r.releaseSha256 ≠ row.releaseSha256)
    (hsuperseded : ∀ r ∈ t'.releases, r.supersedesReleaseSha256 ≠ some row.releaseSha256) :
    Current t row.releaseSha256 value := by
  refine ⟨row, ?_, rfl, hvalue, hrevoked⟩
  by_contra hlast
  obtain ⟨next, hnext, hsup⟩ := hsound.chained.superseded hrow hlast
  exact hsuperseded next (hlater.1.subset hnext) hsup

theorem meets_loadExact (releaseSha256 : String) :
    releaseLog.Meets (post (.load releaseSha256) t) (loadExact releaseSha256) t false := by
  refine Shared.meets_raiseIf_bind (fun _ => post_error) fun _ => ?_
  refine meets_read rfl fun found t₁ h₁ hsound₁ hfound => ?_
  cases found with
  | none => exact Shared.meets_raise post_error
  | some raw =>
    obtain ⟨row, hfind, hraw⟩ := Option.map_eq_some_iff.mp (Except.ok.inj hfound)
    have hrow := List.mem_of_find?_eq_some hfind
    have hsha := List.find?_some hfind
    rw [beq_iff_eq] at hsha
    refine meets_read rfl fun revocation t₂ h₂ hsound₂ hrevocation => ?_
    refine Shared.meets_raiseIf_bind (fun _ => post_error) fun hnone => ?_
    refine meets_read rfl fun (superseding : Bool) t₃ h₃ hsound₃ hsuperseding => ?_
    refine Shared.meets_raiseIf_bind (fun _ => post_error) fun hfalse => ?_
    refine Shared.meets_ofExcept_bind (fun _ _ => post_error) fun value hvalue => ?_
    refine Shared.meets_raiseIf_bind (fun _ => post_error) fun _ => ?_
    refine Shared.meets_pure (post_ok ⟨value, t₂, rfl, hsound₂, releaseLog.trans h₁ h₂, h₃, ?_⟩)
    -- the bytes of the row are those of the release that was promoted
    obtain ⟨packaged, promoted, -, hpromoted⟩ := hsound₁.promoted row hrow
    rw [← hraw, parseStrategyRelease_bytes (rowOf_eq_ok.mp hpromoted).1] at hvalue
    obtain rfl : promoted = value := Except.ok.inj hvalue
    rw [← hsha]
    refine Chained.current hsound₂ h₃ (h₂.1.subset hrow) hpromoted ?_ ?_
    · intro r hr heq
      have hunrevoked := Except.ok.inj hrevocation
      rw [Option.not_isSome_iff_eq_none.mp hnone] at hunrevoked
      exact List.find?_eq_none.mp hunrevoked r hr (beq_iff_eq.mpr (heq.trans hsha))
    · intro r hr heq
      have hany : (t₃.releases.any fun r => r.supersedesReleaseSha256 == some releaseSha256) =
          superseding := Except.ok.inj hsuperseding
      rw [Bool.not_eq_true] at hfalse
      rw [hfalse, List.any_eq_false] at hany
      exact hany r hr (beq_iff_eq.mpr (heq.trans (congrArg some hsha)))

theorem meets_promote (packaged : PackagedPolicies) (value : StrategyRelease)
    (decision : PromotionDecision) : releaseLog.Meets
      (post (.promote packaged value decision) started) (promote packaged value decision) t
      false := by
  refine Shared.meets_ofExcept_bind (fun _ _ => post_error) fun actual hactual => ?_
  refine Shared.meets_raiseIf_bind (fun _ => post_error) fun _ => ?_
  refine Shared.meets_raiseIf_bind (fun _ => post_error) fun hstatus => ?_
  refine Shared.meets_ofExcept_bind (fun _ _ => post_error) fun row hrow => ?_
  rw [except_mapError_eq_ok] at hactual hrow
  rw [not_not] at hstatus
  have hpromoted : Promoted row := by
    refine ⟨packaged, value, ?_, hrow⟩
    rw [hactual]
    have hsha := (rowOf_eq_ok.mp hrow).2.1
    rw [evaluateRelease, hsha] at hactual
    dsimp only at hactual
    cases hgate : failedGate packaged value with
    | none =>
      rw [hgate] at hactual
      exact hactual.symm
    | some reason =>
      rw [hgate] at hactual
      rw [← Except.ok.inj hactual] at hstatus
      cases hstatus
  refine ⟨hpromoted, ?_⟩
  intro t₁ r t₂ _ hsound heffect
  rcases effect_promote heffect with ⟨e, rfl, rfl⟩ | ⟨rfl, htxn⟩
  · have hsame : (false || decide (t₂ ≠ t₂)) = false := by simp
    rw [hsame]
    exact post_error
  · refine post_ok (o := some value) ?_
    rcases promoteTransaction_ok htxn with ⟨rfl, stored, hstored, -, hjson⟩ | ⟨rfl, -, -⟩
    · -- a replay: the stored row is that of a release with the same bytes
      obtain ⟨packaged', value', -, hvalue'⟩ := hsound.promoted stored hstored
      obtain rfl := eq_of_rowOf hrow hvalue' hjson
      exact ⟨stored, hstored, hvalue'⟩
    · exact ⟨row, List.mem_append_right _ (List.mem_singleton_self row), hrow⟩

theorem meets_revoke (releaseSha256 : String) (reason : RevocationReason) (operatorId : String)
    (revokedAt : Option Int) : releaseLog.Meets
      (post (.revoke releaseSha256 reason operatorId revokedAt) started)
      (revoke releaseSha256 reason operatorId revokedAt) t false := by
  refine Shared.meets_raiseIf_bind (fun _ => post_error) fun _ => ?_
  refine Shared.meets_raiseIf_bind (fun _ => post_error) fun _ => ?_
  refine Shared.meets_ofExcept_bind (fun _ _ => post_error) fun revokedText _ => ?_
  refine meets_read rfl fun stored t₁ _ _ _ => ?_
  refine Shared.meets_raiseIf_bind (fun _ => post_error) fun _ => ?_
  refine meets_read rfl fun existing t₂ _ _ _ => ?_
  cases existing with
  | some row =>
    refine Shared.meets_raiseIf_bind (fun _ => post_error) fun _ => ?_
    exact Shared.meets_pure (post_ok trivial)
  | none =>
    refine ⟨trivial, ?_⟩
    intro t₃ r t₄ _ _ heffect
    rcases effect_insertRevocation heffect with ⟨e, rfl, rfl⟩ | ⟨rfl, rfl⟩
    · have hsame : (false || decide (t₄ ≠ t₄)) = false := by simp
      rw [hsame]
      exact post_error
    · exact post_ok (o := none) trivial

theorem meets_program (request : LogRequest) :
    releaseLog.Meets (post request t) (program request) t false := by
  cases request with
  | promote packaged value decision => exact meets_promote packaged value decision
  | load releaseSha256 => exact meets_loadExact releaseSha256
  | revoke releaseSha256 reason operatorId revokedAt =>
    exact meets_revoke releaseSha256 reason operatorId revokedAt

end Calls

/-! ### A load that runs alone -/

/-- Run alone, `load_exact` returns the release. -/
def Loads (t : LogTables) (releaseSha256 : String) (value : StrategyRelease) : Prop :=
  ((loadExact releaseSha256).run answer t).1 = .ok (some value)

section Alone

variable {t t' : LogTables} {releaseSha256 : String} {value : StrategyRelease}

theorem later_antisymm (h : releaseLog.later t t') (h' : releaseLog.later t' t) : t = t' := by
  obtain ⟨releases, revocations⟩ := t
  obtain ⟨releases', revocations'⟩ := t'
  have hreleases : releases = releases' := h.1.eq_of_length_le h'.1.length_le
  have hrevocations : revocations = revocations' := h.2.eq_of_length_le h'.2.length_le
  rw [hreleases, hrevocations]

theorem answer_read {op : LogStatement} (hop : op.reads = true) (t : LogTables) :
    (answer op t).2 = t := (effect_read hop (.inl rfl)).1

theorem run_read {op : LogStatement} (hop : op.reads = true) {a : op.Value}
    (ha : (answer op t).1 = .ok a) {k : op.Value → Prog logSig LogError (Option StrategyRelease)}
    {y : Except LogError (Option StrategyRelease) × LogTables}
    (h : (k a).run answer t = y) : (execute op >>= k).run answer t = y := by
  have hanswer : answer op t = (.ok a, t) := Prod.ext ha (answer_read hop t)
  change ((ofExcept (answer op t).1 >>= k).run answer (answer op t).2) = _
  rw [hanswer]
  exact h

theorem uses_read {op : LogStatement} (hop : op.reads = true) :
    Uses (fun op : logSig.Op => LogStatement.reads op = true) (execute op) :=
  (uses_perform hop).bind fun _ => uses_ofExcept _

/-- `load_exact` only reads. -/
theorem uses_loadExact (releaseSha256 : String) :
    Uses (fun op : logSig.Op => LogStatement.reads op = true) (loadExact releaseSha256) := by
  refine (uses_raiseIf _ _).bind fun _ => (uses_read rfl).bind fun found => ?_
  cases found with
  | none => exact uses_raise _
  | some raw =>
    refine (uses_read rfl).bind fun _ => (uses_raiseIf _ _).bind fun _ => (uses_read rfl).bind
      fun (_ : Bool) => (uses_raiseIf _ _).bind fun _ => (uses_ofExcept _).bind fun _ =>
        (uses_raiseIf _ _).bind fun _ => uses_pure _

theorem Loads.current (hsound : t.Sound) (h : Loads t releaseSha256 value) :
    Current t releaseSha256 value := by
  obtain ⟨changed, -, hreturned⟩ := (meets_loadExact releaseSha256).run
    (fun _ _ => .inl rfl : ∀ op t, effect op t (answer op t).1 (answer op t).2) hsound
  have hresult : ((loadExact releaseSha256).run answer t).1 = .ok (some value) := h
  have hsame : ((loadExact releaseSha256).run answer t).2 = t :=
    (uses_loadExact releaseSha256).run_inv (J := fun t' => t' = t)
      (fun op s hop hs => (answer_read hop s).trans hs) rfl
  rw [hresult, hsame] at hreturned
  obtain ⟨value', t', hvalue, -, hstarted, hended, hcurrent⟩ := hreturned
  cases hvalue
  rwa [later_antisymm hstarted hended]

theorem isLowerHex_releaseSha256 (h : value.releaseSha256 = .ok releaseSha256) :
    isLowerHex 64 releaseSha256 = true := by
  rw [StrategyRelease.releaseSha256] at h
  obtain ⟨fields, -, h⟩ := except_bind_eq_ok.mp h
  obtain ⟨-, -, h⟩ := except_bind_eq_ok.mp h
  rw [← Except.ok.inj h]
  exact Json.isLowerHex_sha256 _

/-- In a table with distinct digests the last row is found under its digest. -/
theorem find?_row {row : ReleaseRow} (hsound : t.Sound) (hrow : row ∈ t.releases) :
    (t.releases.find? fun r => r.releaseSha256 == row.releaseSha256) = some row := by
  obtain ⟨found, hfound⟩ : ∃ found, (t.releases.find? fun r =>
      r.releaseSha256 == row.releaseSha256) = some found :=
    Option.isSome_iff_exists.mp (List.find?_isSome.mpr ⟨row, hrow, beq_self_eq_true _⟩)
  have hsha := List.find?_some hfound
  rw [beq_iff_eq] at hsha
  rw [hfound, Table.eq_of_key hsound.distinct (List.mem_of_find?_eq_some hfound) hrow hsha]

theorem Current.loads (hsound : t.Sound) (h : Current t releaseSha256 value) :
    Loads t releaseSha256 value := by
  obtain ⟨row, hlast, rfl, hvalue, hrevoked⟩ := h
  obtain ⟨hraw, hdigest, -⟩ := rowOf_eq_ok.mp hvalue
  have hfound : (answer (.selectRelease row.releaseSha256) t).1 = .ok (some row.releaseJson) := by
    rw [answer, find?_row hsound (List.mem_of_getLast? hlast)]
    rfl
  have hunrevoked : (answer (.selectRevocation row.releaseSha256) t).1 =
      .ok (none : Option RevocationRow) := by
    have hnone : (t.revocations.find? fun r => r.releaseSha256 == row.releaseSha256) = none :=
      List.find?_eq_none.mpr fun r hr heq => hrevoked r hr (beq_iff_eq.mp heq)
    rw [answer, hnone]
  have hcurrent : (answer (.selectSuperseding row.releaseSha256) t).1 = .ok false := by
    have hfalse : (t.releases.any fun r =>
        r.supersedesReleaseSha256 == some row.releaseSha256) = false := by
      rw [List.any_eq_false]
      intro r hr heq
      exact hsound.chained.last hsound.distinct hlast hr (beq_iff_eq.mp heq)
    rw [answer, hfalse]
  have hrun : (loadExact row.releaseSha256).run answer t = (.ok (some value), t) := by
    have hhex : ¬isLowerHex 64 row.releaseSha256 = false := by
      rw [isLowerHex_releaseSha256 hdigest]
      exact Bool.true_eq_false.mp
    refine run_raiseIf_bind hhex (run_read rfl hfound (run_read rfl hunrevoked ?_))
    refine run_raiseIf_bind Bool.false_ne_true (run_read rfl hcurrent ?_)
    refine run_raiseIf_bind Bool.false_ne_true ?_
    refine run_ofExcept_bind (a := value) ?_ (run_raiseIf_bind (not_not.mpr hdigest) rfl)
    rw [parseStrategyRelease_bytes hraw]
    rfl
  rw [Loads, hrun]

theorem Current.not_retired (hsound : t.Sound) (h : Current t releaseSha256 value) :
    ¬Retired t releaseSha256 := by
  obtain ⟨row, hlast, rfl, -, hrevoked⟩ := h
  rintro (⟨next, hnext, hsup⟩ | ⟨r, hr, heq⟩)
  · exact hsound.chained.last hsound.distinct hlast hnext hsup
  · exact hrevoked r hr heq

theorem Retired.later (h : Retired t releaseSha256) (hlater : releaseLog.later t t') :
    Retired t' releaseSha256 := by
  rcases h with ⟨row, hrow, hsup⟩ | ⟨r, hr, heq⟩
  · exact .inl ⟨row, hlater.1.subset hrow, hsup⟩
  · exact .inr ⟨r, hlater.2.subset hr, heq⟩

end Alone

/-! ### Runs -/

abbrev Log (ι : Type) : Type :=
  Connections logSig LogError (Option StrategyRelease) LogTables LogRequest ι

def emptyLog (ι : Type) : Log ι := Shared.Connections.idle ⟨[], []⟩

structure LogHolds {ι : Type} (log : Log ι) : Prop where
  chain : Chained none log.store.releases
  loads : ∀ releaseSha256 value,
    Loads log.store releaseSha256 value ↔ Current log.store releaseSha256 value
  single : ∀ releaseSha256 value releaseSha256' value', Loads log.store releaseSha256 value →
    Loads log.store releaseSha256' value' → releaseSha256 = releaseSha256'
  loaded : ∀ i c releaseSha256 value, log.call i = some c → c.request = .load releaseSha256 →
    c.rest = .done (some value) → ∃ t, releaseLog.later c.started t ∧
      releaseLog.later t log.store ∧ Current t releaseSha256 value
  promoted : ∀ i c packaged release decision o releaseSha256 value, log.call i = some c →
    c.request = .promote packaged release decision → c.rest = .done o →
    release.releaseSha256 = .ok releaseSha256 → Loads log.store releaseSha256 value →
    value = release
  retired : ∀ i c releaseSha256 value, log.call i = some c → c.request = .load releaseSha256 →
    Retired c.started releaseSha256 → c.rest ≠ .done (some value)
  raised : ∀ i c e, log.call i = some c → c.rest = .raise e → c.changed = false

section Runs

variable {ι : Type} [DecidableEq ι] {log log' : Log ι}

theorem sound_empty : LogTables.Sound ⟨[], []⟩ :=
  ⟨List.nodup_nil, trivial, fun _ h => nomatch h⟩

theorem good_of_runs (h : releaseLog.Runs program (emptyLog ι) log) :
    Shared.Good releaseLog post log :=
  (Shared.Runs.good h (Shared.good_idle sound_empty) fun request _ _ => meets_program request).1

omit [DecidableEq ι] in
theorem logHolds_of_good (h : Shared.Good releaseLog post log) : LogHolds log where
  chain := h.invariant.chained
  loads _ _ := ⟨Loads.current h.invariant, Current.loads h.invariant⟩
  single releaseSha256 value releaseSha256' value' hload hload' := by
    obtain ⟨row, hlast, hsha, -⟩ := hload.current h.invariant
    obtain ⟨row', hlast', hsha', -⟩ := hload'.current h.invariant
    rw [hlast, Option.some_inj] at hlast'
    rw [← hsha, ← hsha', hlast']
  loaded i c releaseSha256 value hcall hrequest hrest := by
    obtain ⟨t, hlater, -, hreturned⟩ := h.ended hcall (r := .ok (some value)) hrest
    rw [hrequest] at hreturned
    obtain ⟨value', t', hvalue, -, hstarted, hended, hcurrent⟩ := hreturned
    cases hvalue
    exact ⟨t', hstarted, releaseLog.trans hended hlater, hcurrent⟩
  promoted i c packaged release decision o releaseSha256 value hcall hrequest hrest hsha hload := by
    obtain ⟨t, hlater, -, hreturned⟩ := h.ended hcall (r := .ok o) hrest
    rw [hrequest] at hreturned
    obtain ⟨row, hrow, hrelease⟩ := hreturned
    obtain ⟨row', hlast', hsha', hvalue, -⟩ := hload.current h.invariant
    have hdigest := (rowOf_eq_ok.mp hrelease).2.1
    rw [hsha] at hdigest
    have hsame : row = row' := Table.eq_of_key h.invariant.distinct (hlater.1.subset hrow)
      (List.mem_of_getLast? hlast') ((Except.ok.inj hdigest).symm.trans hsha'.symm)
    exact eq_of_rowOf hrelease hvalue (congrArg ReleaseRow.releaseJson hsame.symm)
  retired i c releaseSha256 value hcall hrequest hretired hrest := by
    obtain ⟨t, hlater, -, hreturned⟩ := h.ended hcall (r := .ok (some value)) hrest
    rw [hrequest] at hreturned
    obtain ⟨value', t', -, hsound, hstarted, -, hcurrent⟩ := hreturned
    exact hcurrent.not_retired hsound (hretired.later hstarted)
  raised i c e hcall hrest := by
    obtain ⟨t, -, hchanged, -⟩ := h.ended hcall (r := .error e) hrest
    exact hchanged ⟨e, rfl⟩

end Runs

/-! ### A release that is promoted -/

def sampleDigest : String := String.ofList (List.replicate 64 'a')

def sampleIds : SemanticIds := ⟨"A", "B", "C", "D", "E", "F", "G", "H", "I"⟩

def sampleRelease : StrategyRelease where
  toSemanticIds := sampleIds
  releaseId := "RELEASE_1"
  releaseVersion := 1
  createdAt := some 0
  mode := "PAPER"
  codeRevision := sampleDigest
  buildArtifactSha256 := sampleDigest
  evidenceReportSha256 := sampleDigest
  securityReportSha256 := sampleDigest
  evidenceQualified := true
  securityPassed := true
  laneBindings := expectedLaneBindings
  supersedesReleaseSha256 := none

def samplePolicies : PackagedPolicies := ⟨sampleIds, true, true, true⟩

theorem sampleRelease_bytes : ∃ row, rowOf sampleRelease = .ok row ∧
    row.supersedesReleaseSha256 = none := by
  have htyped : sampleRelease.wellTyped = true := by decide
  have htime : timestampText sampleRelease.createdAt = .ok "1970-01-01T00:00:00Z" := by
    decide
  have hprint : sampleRelease.printable = true := by
    rw [StrategyRelease.printable, decide_eq_true_eq]
    exact one_lt_pow₀ (by norm_num) (by norm_num)
  have hbytes := strategyReleaseBytes_eq_ok.mpr ⟨_, htyped, htime, hprint, rfl⟩
  exact ⟨⟨_, _, none⟩, rowOf_eq_ok.mpr ⟨hbytes, releaseSha256_eq htyped htime hprint, rfl⟩, rfl⟩

theorem promote_eq {packaged : PackagedPolicies} {value : StrategyRelease} {row : ReleaseRow}
    (hgate : failedGate packaged value = none) (hrow : rowOf value = .ok row) :
    promote packaged value ⟨some row.releaseSha256, .promoted, none⟩ =
      .call (.promote row) fun r => ofExcept r >>= fun _ => pure (some value) := by
  have hactual : evaluateRelease packaged value = .ok ⟨some row.releaseSha256, .promoted, none⟩ := by
    rw [evaluateRelease, (rowOf_eq_ok.mp hrow).2.1]
    dsimp only
    rw [hgate]
  have hdone : ∀ {α β : Type} (a : α) (f : α → Prog logSig LogError β),
      (Prog.done a >>= f) = f a := fun _ _ => rfl
  simp only [promote, hactual, hrow, except_mapError_ok, Prog.ofExcept, hdone, raiseIf, ne_eq,
    not_true_eq_false, if_false]
  rfl

theorem answer_promote_empty {row : ReleaseRow} (h : row.supersedesReleaseSha256 = none) :
    answer (.promote row) ⟨[], []⟩ = (.ok (), ⟨[row], []⟩) := by
  have htxn : promoteTransaction row ⟨[], []⟩ = .ok () ⟨[row], []⟩ := by
    rw [promoteTransaction, Txn.immediate_eq_ok, Txn.select_bind_eq_ok]
    dsimp only [List.find?_nil]
    rw [Txn.select_bind_eq_ok, Txn.raiseIf_bind_eq_ok]
    exact ⟨not_not.mpr h, rfl⟩
  exact Prod.ext (Txn.result_of_ok htxn) (Txn.after_of_ok htxn)

end EsscherMarket.Contracts.ReleaseLog
