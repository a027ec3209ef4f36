import EsscherMarket.Execution.Models
import EsscherMarket.Lib.Table
import EsscherMarket.Risk.Controls
import Mathlib.Tactic.Simps.Basic

/-!
# The risk ledger: tables, checks and the passport

`risk/ledger.py`, schema version 5: the rows of the tables the kernel and the lifecycle use, the
argument checks every ledger method starts with, and the hash-linked passport.

A table is the list of its rows in the order of insertion.  Timestamps are stored as the UTC
datetime their text denotes, and an amount column as its text with the text's value
(`AmountText`).
-/

namespace EsscherMarket.Risk

open Lib Execution

/-! ### Rows -/

inductive ReservationState where
  | reserved
  | consumed
  | released
  deriving DecidableEq, Repr

def ReservationState.value : ReservationState → String
  | reserved => "RESERVED"
  | consumed => "CONSUMED"
  | released => "RELEASED"

/-- `state IN ('RESERVED', 'CONSUMED')`: the reservation still holds exposure. -/
def ReservationState.isOpen : ReservationState → Bool
  | reserved => true
  | consumed => true
  | released => false

inductive PermitState where
  | issued
  | submitted
  | filled
  | cancelled
  deriving DecidableEq, Repr

def PermitState.value : PermitState → String
  | issued => "ISSUED"
  | submitted => "SUBMITTED"
  | filled => "FILLED"
  | cancelled => "CANCELLED"

inductive IntentState where
  | intended
  | submitted
  | reconciled
  deriving DecidableEq, Repr

inductive IntentPhase where
  | opening
  | closing
  deriving DecidableEq, Repr

def IntentPhase.value : IntentPhase → String
  | opening => "OPEN"
  | closing => "CLOSE"

/-- A decimal text column: the text, and what `Decimal(text)` makes of it (`none`: it raises). -/
structure AmountText where
  text : String
  value : Option Decimal
  deriving DecidableEq, Repr

/-- The column after storing `str(d)`. -/
def AmountText.ofStr (d : Decimal) : AmountText := ⟨d.toText, some d⟩

structure CandidateRow where
  eventId : String
  candidateId : String
  policySha256 : String
  decisionSha256 : String
  expressionSha256 : String
  evidenceMode : String
  createdAt : DateTime
  deriving DecidableEq

structure ReservationRow where
  reservationId : String
  eventId : String
  amount : AmountText
  state : ReservationState
  underlying : String
  createdAt : DateTime
  updatedAt : DateTime
  deriving DecidableEq

structure PermitRow where
  permitId : String
  eventId : String
  reservationId : String
  permitSha256 : String
  state : PermitState
  createdAt : DateTime
  updatedAt : DateTime
  deriving DecidableEq

structure FillRow where
  fillId : String
  permitId : String
  eventId : String
  quantity : Decimal
  status : String
  observedAt : DateTime
  deriving DecidableEq

structure SubmissionRow where
  permitId : String
  eventId : String
  brokerOrderId : String
  submittedAt : DateTime
  deriving DecidableEq

/-- `requestJson` is the value that the canonical text of the column denotes. -/
structure LifecycleIntentRow where
  permitId : String
  phase : IntentPhase
  eventId : String
  openPermitId : String
  reservationId : String
  correlationSha256 : String
  policySha256 : String
  snapshotSha256 : String
  accountId : String
  accountClass : String
  orderClass : String
  clientOrderId : String
  requestSha256 : String
  requestJson : Json
  brokerOrderId : Option String
  state : IntentState
  createdAt : DateTime
  updatedAt : DateTime

/-- The owner-approved V2 risk tiers, `CHECK(risk_tier IN ('0.05', '0.10', '0.20'))`. -/
inductive RiskTier where
  | five
  | ten
  | twenty
  deriving DecidableEq, Repr

namespace RiskTier

def value : RiskTier → String
  | five => "0.05"
  | ten => "0.10"
  | twenty => "0.20"

def toDecimal : RiskTier → Decimal
  | five => .cents 5
  | ten => .cents 10
  | twenty => .cents 20

def toRat (t : RiskTier) : ℚ := t.toDecimal.toRat

def ofDecimal (d : Decimal) : Option RiskTier :=
  if d.toRat = five.toRat then some five
  else if d.toRat = ten.toRat then some ten
  else if d.toRat = twenty.toRat then some twenty
  else none

end RiskTier

structure V2ReservationRow where
  reservationId : String
  eventId : String
  candidateId : String
  underlying : String
  decisionSha256 : String
  expressionSha256 : String
  opportunityId : String
  opportunitySha256 : String
  allocationReservationId : String
  riskTier : RiskTier
  quantity : Int
  amount : AmountText
  accountEquity : AmountText
  accountCash : AmountText
  policySha256 : String
  permitId : String
  permitSha256 : String
  createdAt : DateTime
  deriving DecidableEq

structure NotRunRow where
  eventId : String
  reason : String
  createdAt : DateTime
  deriving DecidableEq

structure AccountSnapshotRow where
  equity : Decimal
  observedAt : DateTime
  deriving DecidableEq

structure ControlStateRow where
  state : ControlState
  reason : Option String
  updatedAt : DateTime
  deriving DecidableEq

structure PassportRow where
  eventType : String
  payload : Json
  prevSha256 : String
  eventSha256 : String
  createdAt : DateTime

structure Ledger where
  candidates : List CandidateRow
  reservations : List ReservationRow
  permits : List PermitRow
  fills : List FillRow
  submissions : List SubmissionRow
  lifecycleIntents : List LifecycleIntentRow
  v2Reservations : List V2ReservationRow
  notRun : List NotRunRow
  accountSnapshots : List AccountSnapshotRow
  controlState : Option ControlStateRow
  passportEvents : List PassportRow

def Ledger.empty : Ledger := ⟨[], [], [], [], [], [], [], [], [], none, []⟩

/-! ### One table replaced

`simps` states for each which field is the new one and that the others are unchanged. -/

namespace Ledger

@[simps] def withCandidates (s : Ledger) (rows : List CandidateRow) : Ledger :=
  { s with candidates := rows }

@[simps] def withReservations (s : Ledger) (rows : List ReservationRow) : Ledger :=
  { s with reservations := rows }

@[simps] def withPermits (s : Ledger) (rows : List PermitRow) : Ledger :=
  { s with permits := rows }

@[simps] def withFills (s : Ledger) (rows : List FillRow) : Ledger :=
  { s with fills := rows }

@[simps] def withSubmissions (s : Ledger) (rows : List SubmissionRow) : Ledger :=
  { s with submissions := rows }

@[simps] def withLifecycleIntents (s : Ledger) (rows : List LifecycleIntentRow) : Ledger :=
  { s with lifecycleIntents := rows }

@[simps] def withV2Reservations (s : Ledger) (rows : List V2ReservationRow) : Ledger :=
  { s with v2Reservations := rows }

@[simps] def withNotRun (s : Ledger) (rows : List NotRunRow) : Ledger :=
  { s with notRun := rows }

@[simps] def withAccountSnapshots (s : Ledger) (rows : List AccountSnapshotRow) : Ledger :=
  { s with accountSnapshots := rows }

@[simps] def withPassportEvents (s : Ledger) (rows : List PassportRow) : Ledger :=
  { s with passportEvents := rows }

@[simps] def withControlState (s : Ledger) (row : Option ControlStateRow) : Ledger :=
  { s with controlState := row }

end Ledger

/-- What a method of the ledger or the kernel raises: a typed rejection, SQLite's
`IntegrityError`, or, out of a malformed truth source only, an attribute or type error. -/
inductive LedgerError where
  | rejected (e : RiskRejected)
  | integrity (message : String)
  | malformed (message : String)
  deriving DecidableEq, Repr

def reject (reason : RiskReason) (path detail : String) : LedgerError :=
  .rejected ⟨reason, path, detail⟩

abbrev LedgerTxn (α : Type) : Type := Txn Ledger LedgerError α

/-- A transaction whose `IntegrityError` becomes a typed rejection. -/
def immediateOr {α : Type} (onIntegrity : String → LedgerError) (body : LedgerTxn α) :
    LedgerTxn α :=
  Txn.immediate (Txn.mapError (fun e => match e with
    | .integrity message => onIntegrity message
    | other => other) body)

theorem immediateOr_eq_ok {α : Type} {onIntegrity : String → LedgerError} {body : LedgerTxn α}
    {s s' : Ledger} {a : α} : immediateOr onIntegrity body s = .ok a s' ↔ body s = .ok a s' := by
  rw [immediateOr, Txn.immediate_eq_ok, Txn.mapError_eq_ok]

/-! ### Argument checks -/

/-- `_timestamp`: the datetime must be UTC. -/
def timestamp (value : DateTime) (path : String) : Except LedgerError DateTime :=
  if value.tzinfo ≠ .utc then .error (reject .unsupportedInput path "must be UTC") else .ok value

def identifier (value path : String) : Except LedgerError String :=
  if isExactText value then .ok value
  else .error (reject .unsupportedInput path "must be non-empty exact text")

def underlyingText (value path : String) : Except LedgerError String :=
  if ¬ isExactText value then
    .error (reject .unsupportedInput path "must be non-empty exact text")
  else if ¬ isUpper value then
    .error (reject .unsupportedInput path "must be normalized uppercase text")
  else .ok value

def sha256Text (value path : String) : Except LedgerError String :=
  if isLowerHex 64 value then .ok value
  else .error (reject .unsupportedInput path "must be a lowercase SHA-256 hex digest")

def finiteDecimal (value : Decimal) (path : String) : Except LedgerError Decimal :=
  if value.isFinite then .ok value
  else .error (reject .unsupportedInput path "must be a finite Decimal")

def amountOf (value : Decimal) (path : String) : Except LedgerError Decimal :=
  if ¬ value.isFinite ∨ value.toRat < 0 then
    .error (reject .exposureNotCalculable path "must be a finite non-negative Decimal")
  else .ok value

def positiveLimit (value : Decimal) (path : String) : Except LedgerError Decimal :=
  if ¬ value.isFinite ∨ value.toRat < 0 then
    .error (reject .exposureNotCalculable path "must be a finite non-negative Decimal")
  else if value.toRat ≤ 0 then .error (reject .unsupportedInput path "must be positive")
  else .ok value

def positiveInt (value : Int) (path : String) : Except LedgerError Int :=
  if value ≤ 0 then .error (reject .unsupportedInput path "must be a positive integer")
  else .ok value

theorem timestamp_eq_ok {value t : DateTime} {path : String} :
    timestamp value path = .ok t ↔ value.tzinfo = .utc ∧ value = t := by
  unfold timestamp
  split <;> simp_all

theorem identifier_eq_ok {value path v : String} :
    identifier value path = .ok v ↔ isExactText value ∧ value = v := by
  unfold identifier
  split <;> simp_all

theorem underlyingText_eq_ok {value path v : String} :
    underlyingText value path = .ok v ↔ (isExactText value ∧ isUpper value) ∧ value = v := by
  unfold underlyingText
  split
  · simp_all
  · split <;> simp_all

theorem sha256Text_eq_ok {value path v : String} :
    sha256Text value path = .ok v ↔ isLowerHex 64 value ∧ value = v := by
  unfold sha256Text
  split <;> simp_all

theorem finiteDecimal_eq_ok {value v : Decimal} {path : String} :
    finiteDecimal value path = .ok v ↔ value.isFinite ∧ value = v := by
  unfold finiteDecimal
  split <;> simp_all

theorem amountOf_eq_ok {value v : Decimal} {path : String} :
    amountOf value path = .ok v ↔ (value.isFinite ∧ 0 ≤ value.toRat) ∧ value = v := by
  unfold amountOf
  split
  · rename_i h
    simp only [reduceCtorEq, false_iff]
    rintro ⟨⟨hf, h0⟩, -⟩
    rcases h with h | h
    · exact h hf
    · exact absurd h (not_lt.mpr h0)
  · rename_i h
    simp only [not_or, not_not, not_lt] at h
    simp [h]

theorem positiveLimit_eq_ok {value v : Decimal} {path : String} :
    positiveLimit value path = .ok v ↔ (value.isFinite ∧ 0 < value.toRat) ∧ value = v := by
  unfold positiveLimit
  split
  · rename_i h
    simp only [reduceCtorEq, false_iff]
    rintro ⟨⟨hf, h0⟩, -⟩
    rcases h with h | h
    · exact h hf
    · exact absurd h (not_lt.mpr h0.le)
  · rename_i h
    simp only [not_or, not_not, not_lt] at h
    split
    · rename_i h0
      simp [not_lt.mpr h0]
    · rename_i h0
      simp [h.1, not_le.mp h0]

theorem positiveInt_eq_ok {value v : Int} {path : String} :
    positiveInt value path = .ok v ↔ 0 < value ∧ value = v := by
  unfold positiveInt
  split
  · rename_i h
    simp [not_lt.mpr h]
  · rename_i h
    simp [not_le.mp h]

section CheckThen

variable {β : Type} {s s' : Ledger} {b : β}

theorem identifier_bind_eq_ok {value path : String} {f : String → LedgerTxn β} :
    (Txn.lift (identifier value path) >>= f) s = .ok b s' ↔
      isExactText value ∧ f value s = .ok b s' :=
  Txn.lift_check_bind_eq_ok fun _ => identifier_eq_ok

theorem underlyingText_bind_eq_ok {value path : String} {f : String → LedgerTxn β} :
    (Txn.lift (underlyingText value path) >>= f) s = .ok b s' ↔
      (isExactText value ∧ isUpper value) ∧ f value s = .ok b s' :=
  Txn.lift_check_bind_eq_ok fun _ => underlyingText_eq_ok

theorem sha256Text_bind_eq_ok {value path : String} {f : String → LedgerTxn β} :
    (Txn.lift (sha256Text value path) >>= f) s = .ok b s' ↔
      isLowerHex 64 value ∧ f value s = .ok b s' :=
  Txn.lift_check_bind_eq_ok fun _ => sha256Text_eq_ok

theorem amountOf_bind_eq_ok {value : Decimal} {path : String} {f : Decimal → LedgerTxn β} :
    (Txn.lift (amountOf value path) >>= f) s = .ok b s' ↔
      (value.isFinite ∧ 0 ≤ value.toRat) ∧ f value s = .ok b s' :=
  Txn.lift_check_bind_eq_ok fun _ => amountOf_eq_ok

theorem timestamp_bind_eq_ok {value : DateTime} {path : String} {f : DateTime → LedgerTxn β} :
    (Txn.lift (timestamp value path) >>= f) s = .ok b s' ↔
      value.tzinfo = .utc ∧ f value s = .ok b s' :=
  Txn.lift_check_bind_eq_ok fun _ => timestamp_eq_ok

end CheckThen

/-! ### The passport -/

def genesisSha256 : String := "0000000000000000000000000000000000000000000000000000000000000000"

inductive PassportEventType where
  | candidateFrozen
  | decisionMade
  | abstained
  | rejected
  | expressionCompiled
  | riskApproved
  | reservationHeld
  | reservationReleased
  | permitIssued
  | orderIntended
  | orderSubmitted
  | fillObserved
  | positionObserved
  | reconciled
  | controlStateChanged
  | notRun
  deriving DecidableEq, Repr

def PassportEventType.value : PassportEventType → String
  | candidateFrozen => "CANDIDATE_FROZEN"
  | decisionMade => "DECISION_MADE"
  | abstained => "ABSTAINED"
  | rejected => "REJECTED"
  | expressionCompiled => "EXPRESSION_COMPILED"
  | riskApproved => "RISK_APPROVED"
  | reservationHeld => "RESERVATION_HELD"
  | reservationReleased => "RESERVATION_RELEASED"
  | permitIssued => "PERMIT_ISSUED"
  | orderIntended => "ORDER_INTENDED"
  | orderSubmitted => "ORDER_SUBMITTED"
  | fillObserved => "FILL_OBSERVED"
  | positionObserved => "POSITION_OBSERVED"
  | reconciled => "RECONCILED"
  | controlStateChanged => "CONTROL_STATE_CHANGED"
  | notRun => "NOT_RUN"

def passportEventSha256 (eventType : String) (payload : Json) (prevSha256 createdAt : String) :
    String :=
  Json.sha256 (.obj [
    ("event_type", .str eventType),
    ("payload", payload),
    ("prev_sha256", .str prevSha256),
    ("created_at", .str createdAt)])

/-- The hash the next passport event links to. -/
def previousHash (s : Ledger) : String :=
  match s.passportEvents.getLast? with
  | some row => row.eventSha256
  | none => genesisSha256

def passportRow (s : Ledger) (eventType : String) (payload : Json) (created : DateTime) :
    PassportRow :=
  ⟨eventType, payload, previousHash s,
    passportEventSha256 eventType payload (previousHash s) created.isoformatZ, created⟩

def appendPassport (eventType : PassportEventType) (payload : Json) (now : DateTime) :
    LedgerTxn Unit := do
  let event ← Txn.lift (identifier eventType.value "passport.event_type")
  let created ← Txn.lift (timestamp now "passport.created_at")
  Txn.write fun s => s.withPassportEvents (s.passportEvents ++ [passportRow s event payload created])

theorem PassportEventType.isExactText (t : PassportEventType) : isExactText t.value := by
  cases t <;> decide

theorem appendPassport_eq_ok {t : PassportEventType} {payload : Json} {now : DateTime}
    {s s' : Ledger} {u : Unit} :
    appendPassport t payload now s = .ok u s' ↔
      now.tzinfo = .utc ∧
        s.withPassportEvents (s.passportEvents ++ [passportRow s t.value payload now]) = s' := by
  simp only [appendPassport, Txn.bind_eq_ok, Txn.lift_eq_ok, Txn.write_eq_ok, identifier_eq_ok,
    timestamp_eq_ok]
  constructor
  · rintro ⟨_, _, ⟨⟨-, rfl⟩, rfl⟩, _, _, ⟨⟨hutc, rfl⟩, rfl⟩, h⟩
    exact ⟨hutc, h⟩
  · rintro ⟨hutc, h⟩
    exact ⟨_, _, ⟨⟨t.isExactText, rfl⟩, rfl⟩, _, _, ⟨⟨hutc, rfl⟩, rfl⟩, h⟩

/-! ### Inserts -/

def insertInto {ρ : Type} (constraints : List (UniqueConstraint ρ)) (get : Ledger → List ρ)
    (set : Ledger → List ρ → Ledger) (row : ρ) : LedgerTxn Unit :=
  Txn.tryWrite fun s => match Table.insert constraints row (get s) with
    | .ok rows => .ok (set s rows)
    | .error message => .error (.integrity message)

theorem insertInto_eq_ok {ρ : Type} {constraints : List (UniqueConstraint ρ)}
    {get : Ledger → List ρ} {set : Ledger → List ρ → Ledger} {row : ρ} {s s' : Ledger} {u : Unit} :
    insertInto constraints get set row s = .ok u s' ↔
      (∀ c ∈ constraints, ∀ r ∈ get s, c.clash r row = false) ∧ set s (get s ++ [row]) = s' := by
  rw [insertInto, Txn.tryWrite_eq_ok]
  cases h : Table.insert constraints row (get s) with
  | ok rows =>
    obtain ⟨hc, rfl⟩ := Table.insert_eq_ok.mp h
    simp only [Except.ok.injEq]
    exact ⟨fun hs => ⟨hc, hs⟩, fun hs => hs.2⟩
  | error message =>
    simp only [reduceCtorEq, false_iff]
    rintro ⟨hc, -⟩
    rw [Table.insert_eq_ok.mpr ⟨hc, rfl⟩] at h
    cases h

def insertCandidate : CandidateRow → LedgerTxn Unit :=
  insertInto [uniqueOn "UNIQUE constraint failed: candidates.event_id" (·.eventId)]
    (·.candidates) Ledger.withCandidates

def insertNotRun : NotRunRow → LedgerTxn Unit :=
  insertInto [uniqueOn "UNIQUE constraint failed: not_run.event_id" (·.eventId)]
    (·.notRun) Ledger.withNotRun

def insertReservation : ReservationRow → LedgerTxn Unit :=
  insertInto
    [uniqueOn "UNIQUE constraint failed: reservations.reservation_id" (·.reservationId),
     uniqueOn "UNIQUE constraint failed: reservations.event_id" (·.eventId)]
    (·.reservations) Ledger.withReservations

def insertPermit : PermitRow → LedgerTxn Unit :=
  insertInto [uniqueOn "UNIQUE constraint failed: permits.permit_id" (·.permitId)]
    (·.permits) Ledger.withPermits

def insertFill : FillRow → LedgerTxn Unit :=
  insertInto [uniqueOn "UNIQUE constraint failed: fills.fill_id" (·.fillId)]
    (·.fills) Ledger.withFills

def insertSubmissionRow : SubmissionRow → LedgerTxn Unit :=
  insertInto
    [uniqueOn "UNIQUE constraint failed: submissions.permit_id" (·.permitId),
     uniqueOn "UNIQUE constraint failed: submissions.broker_order_id" (·.brokerOrderId)]
    (·.submissions) Ledger.withSubmissions

/-- Insert a submission; its permit must exist (`FOREIGN KEY`). -/
def insertSubmission (row : SubmissionRow) : LedgerTxn Unit := do
  insertSubmissionRow row
  let permits ← Txn.select (·.permits)
  Txn.raiseIf (¬ ∃ p ∈ permits, p.permitId = row.permitId)
    (.integrity "FOREIGN KEY constraint failed")

def insertLifecycleIntent : LifecycleIntentRow → LedgerTxn Unit :=
  insertInto
    [uniqueOn "UNIQUE constraint failed: lifecycle_intents.permit_id" (·.permitId),
     ⟨"UNIQUE constraint failed: lifecycle_intents.broker_order_id",
      fun r r' => r.brokerOrderId.isSome && r.brokerOrderId == r'.brokerOrderId⟩,
     ⟨"UNIQUE constraint failed: lifecycle_intents.event_id, lifecycle_intents.phase",
      fun r r' => r.eventId = r'.eventId ∧ r.phase = r'.phase⟩]
    (·.lifecycleIntents) Ledger.withLifecycleIntents

def insertV2ReservationRow : V2ReservationRow → LedgerTxn Unit :=
  insertInto
    [uniqueOn "UNIQUE constraint failed: v2_reservations.reservation_id" (·.reservationId),
     uniqueOn "UNIQUE constraint failed: v2_reservations.event_id" (·.eventId),
     uniqueOn "UNIQUE constraint failed: v2_reservations.opportunity_id" (·.opportunityId),
     uniqueOn "UNIQUE constraint failed: v2_reservations.allocation_reservation_id"
      (·.allocationReservationId),
     uniqueOn "UNIQUE constraint failed: v2_reservations.permit_id" (·.permitId)]
    (·.v2Reservations) Ledger.withV2Reservations

/-- Insert a V2 binding; its reservation and its permit must exist (`FOREIGN KEY`). -/
def insertV2Reservation (row : V2ReservationRow) : LedgerTxn Unit := do
  insertV2ReservationRow row
  let s ← Txn.select id
  Txn.raiseIf (¬ ((∃ r ∈ s.reservations, r.reservationId = row.reservationId) ∧
      ∃ p ∈ s.permits, p.permitId = row.permitId))
    (.integrity "FOREIGN KEY constraint failed")

section InsertLemmas

variable {s s' : Ledger} {u : Unit}

theorem insertCandidate_eq_ok {row : CandidateRow} :
    insertCandidate row s = .ok u s' ↔ (∀ r ∈ s.candidates, r.eventId ≠ row.eventId) ∧
      s.withCandidates (s.candidates ++ [row]) = s' := by
  simp [insertCandidate, insertInto_eq_ok, Table.uniqueOn_clash]

theorem insertNotRun_eq_ok {row : NotRunRow} :
    insertNotRun row s = .ok u s' ↔ (∀ r ∈ s.notRun, r.eventId ≠ row.eventId) ∧
      s.withNotRun (s.notRun ++ [row]) = s' := by
  simp [insertNotRun, insertInto_eq_ok, Table.uniqueOn_clash]

theorem insertReservation_eq_ok {row : ReservationRow} :
    insertReservation row s = .ok u s' ↔
      ((∀ r ∈ s.reservations, r.reservationId ≠ row.reservationId) ∧
        ∀ r ∈ s.reservations, r.eventId ≠ row.eventId) ∧
      s.withReservations (s.reservations ++ [row]) = s' := by
  simp [insertReservation, insertInto_eq_ok, Table.uniqueOn_clash]

theorem insertPermit_eq_ok {row : PermitRow} :
    insertPermit row s = .ok u s' ↔ (∀ p ∈ s.permits, p.permitId ≠ row.permitId) ∧
      s.withPermits (s.permits ++ [row]) = s' := by
  simp [insertPermit, insertInto_eq_ok, Table.uniqueOn_clash]

theorem insertFill_eq_ok {row : FillRow} :
    insertFill row s = .ok u s' ↔ (∀ f ∈ s.fills, f.fillId ≠ row.fillId) ∧
      s.withFills (s.fills ++ [row]) = s' := by
  simp [insertFill, insertInto_eq_ok, Table.uniqueOn_clash]

theorem insertSubmission_eq_ok {row : SubmissionRow} :
    insertSubmission row s = .ok u s' ↔
      ((∀ r ∈ s.submissions, r.permitId ≠ row.permitId) ∧
        ∀ r ∈ s.submissions, r.brokerOrderId ≠ row.brokerOrderId) ∧
      (∃ p ∈ s.permits, p.permitId = row.permitId) ∧
      s.withSubmissions (s.submissions ++ [row]) = s' := by
  simp only [insertSubmission, insertSubmissionRow, Txn.bind_eq_ok, insertInto_eq_ok,
    Txn.select_eq_ok, Txn.raiseIf_eq_ok, not_not]
  constructor
  · rintro ⟨_, _, ⟨hc, rfl⟩, _, _, ⟨rfl, rfl⟩, hp, rfl⟩
    exact ⟨by simpa [Table.uniqueOn_clash] using hc, hp, rfl⟩
  · rintro ⟨hc, hp, rfl⟩
    exact ⟨(), _, ⟨by simpa [Table.uniqueOn_clash] using hc, rfl⟩, _, _, ⟨rfl, rfl⟩, hp, rfl⟩

theorem insertLifecycleIntent_eq_ok {row : LifecycleIntentRow} (hrow : row.brokerOrderId = none) :
    insertLifecycleIntent row s = .ok u s' ↔
      ((∀ r ∈ s.lifecycleIntents, r.permitId ≠ row.permitId) ∧
        ∀ r ∈ s.lifecycleIntents, r.eventId = row.eventId → r.phase ≠ row.phase) ∧
      s.withLifecycleIntents (s.lifecycleIntents ++ [row]) = s' := by
  simp only [insertLifecycleIntent, insertInto_eq_ok, List.mem_cons, List.not_mem_nil, or_false,
    forall_eq_or_imp, forall_eq, Table.uniqueOn_clash, hrow]
  constructor
  · rintro ⟨⟨h1, -, h3⟩, hs⟩
    exact ⟨⟨h1, by simpa using h3⟩, hs⟩
  · rintro ⟨⟨h1, h3⟩, hs⟩
    refine ⟨⟨h1, ?_, by simpa using h3⟩, hs⟩
    intro r _
    cases r.brokerOrderId <;> simp

theorem insertV2Reservation_eq_ok {row : V2ReservationRow} :
    insertV2Reservation row s = .ok u s' ↔
      ((∀ r ∈ s.v2Reservations, r.reservationId ≠ row.reservationId) ∧
        (∀ r ∈ s.v2Reservations, r.eventId ≠ row.eventId) ∧
        (∀ r ∈ s.v2Reservations, r.opportunityId ≠ row.opportunityId) ∧
        (∀ r ∈ s.v2Reservations, r.allocationReservationId ≠ row.allocationReservationId) ∧
        ∀ r ∈ s.v2Reservations, r.permitId ≠ row.permitId) ∧
      ((∃ r ∈ s.reservations, r.reservationId = row.reservationId) ∧
        ∃ p ∈ s.permits, p.permitId = row.permitId) ∧
      s.withV2Reservations (s.v2Reservations ++ [row]) = s' := by
  simp only [insertV2Reservation, insertV2ReservationRow, Txn.bind_eq_ok, insertInto_eq_ok,
    Txn.select_eq_ok, Txn.raiseIf_eq_ok, not_not]
  constructor
  · rintro ⟨_, _, ⟨hc, rfl⟩, _, _, ⟨rfl, rfl⟩, hp, rfl⟩
    exact ⟨by simpa [Table.uniqueOn_clash] using hc, hp, rfl⟩
  · rintro ⟨hc, hp, rfl⟩
    exact ⟨(), _, ⟨by simpa [Table.uniqueOn_clash] using hc, rfl⟩, _, _, ⟨rfl, rfl⟩, hp, rfl⟩

end InsertLemmas

end EsscherMarket.Risk
