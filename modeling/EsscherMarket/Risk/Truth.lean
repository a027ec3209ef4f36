import EsscherMarket.Execution.Expression
import EsscherMarket.Risk.Ledger.Schema

/-!
# Broker-observed truth and expression exposure

`risk/snapshots.py` and `risk/exposure.py`: the account, position and order snapshots, what makes
them fresh, and the conservative exposure of a compiled expression.

A read of a truth source can raise a typed rejection, or a type error from a malformed source.
-/

namespace EsscherMarket.Risk

open Lib Execution

/-! ### Snapshots -/

structure AccountSnapshotFields where
  equity : Decimal
  buyingPower : Decimal
  currency : String
  observedAt : DateTime
  cash : Option Decimal

/-- `AccountSnapshot.__post_init__`. -/
def AccountSnapshotFields.check (a : AccountSnapshotFields) : Bool :=
  a.equity.isFinite && a.buyingPower.isFinite && a.currency != "" &&
  a.observedAt.tzinfo == .utc &&
  match a.cash with
  | none => true
  | some c => c.isFinite && decide (0 ≤ c.toRat)

structure AccountSnapshot extends AccountSnapshotFields where
  accepted : toAccountSnapshotFields.check = true

structure PositionSnapshotFields where
  underlying : String
  quantity : Decimal
  marketValue : Decimal
  observedAt : DateTime
  deriving DecidableEq

/-- `PositionSnapshot.__post_init__`. -/
def PositionSnapshotFields.check (p : PositionSnapshotFields) : Bool :=
  p.underlying != "" && p.underlying == strip p.underlying && isUpper p.underlying &&
  p.quantity.isFinite && p.marketValue.isFinite && p.observedAt.tzinfo == .utc

structure PositionSnapshot extends PositionSnapshotFields where
  accepted : toPositionSnapshotFields.check = true
  deriving DecidableEq

structure OrderSnapshotFields where
  orderId : String
  symbol : String
  status : String
  filledQuantity : Decimal
  observedAt : DateTime
  deriving DecidableEq

/-- `OrderSnapshot.__post_init__`. -/
def OrderSnapshotFields.check (o : OrderSnapshotFields) : Bool :=
  o.orderId != "" && o.symbol != "" && o.status != "" && o.filledQuantity.isFinite &&
  decide (0 ≤ o.filledQuantity.toRat) && o.observedAt.tzinfo == .utc

structure OrderSnapshot extends OrderSnapshotFields where
  accepted : toOrderSnapshotFields.check = true
  deriving DecidableEq

def OrderSnapshot.isPartialFill (o : OrderSnapshot) : Bool := o.status == "PARTIALLY_FILLED"

/-! ### Truth sources -/

/-- What a read of a truth source raises: a rejection, or an attribute or type error. -/
inductive TruthError where
  | rejected (e : RiskRejected)
  | malformed (message : String)

abbrev TruthRead (α : Type) : Type := Except TruthError α

/-- What one call of the kernel reads from its truth source. -/
structure Truth where
  brokerClock : TruthRead DateTime
  account : TruthRead (Option AccountSnapshot)
  positions : TruthRead (List PositionSnapshot)
  orders : TruthRead (List OrderSnapshot)

def rejectTruth {α : Type} (reason : RiskReason) (path detail : String) : TruthRead α :=
  .error (.rejected ⟨reason, path, detail⟩)

/-- `f"{seconds:.0f}"` of a number of microseconds: to the nearest second, ties to even. -/
def secondsText (micros : Int) : String :=
  let q := micros / 1000000
  let r := micros % 1000000
  toString (if r < 500000 then q else if 500000 < r then q + 1 else q + q % 2)

def requireUtc (value : DateTime) (field : String) : Except LedgerError DateTime :=
  if value.tzinfo = .utc then .ok value
  else .error (reject .unsupportedInput field "must be UTC")

/-- `_validate_age` of a UTC observation. -/
def validateAge (observedAt now : DateTime) (maxAgeSeconds : Int) (stale : RiskReason)
    (path : String) : TruthRead Unit :=
  let age := now.micros - observedAt.micros
  if age < 0 then
    rejectTruth .contradictoryTruth (path ++ ".observed_at") "truth is future-dated"
  else if maxAgeSeconds * 1000000 < age then
    rejectTruth stale path s!"truth age {secondsText age}s exceeds {maxAgeSeconds}s"
  else .ok ()

/-- The clock check that every method makes first. -/
def validateClock (truth : Truth) (now : DateTime) (maxAgeSeconds : Int) : TruthRead Unit := do
  let clock ← truth.brokerClock
  let skew : Int := |clock.micros - now.micros|
  if clock.tzinfo ≠ .utc then rejectTruth .unsupportedInput "broker_clock" "must be UTC"
  else if maxAgeSeconds * 1000000 < skew then
    rejectTruth .staleClock "broker_clock"
      s!"broker clock skew {secondsText skew}s exceeds {maxAgeSeconds}s"
  else .ok ()

def validateAccountFreshness (snapshot : Option AccountSnapshot) (now : DateTime)
    (maxAgeSeconds : Int) : TruthRead AccountSnapshot :=
  match snapshot with
  | none => rejectTruth .staleAccountTruth "account" "no account truth is available"
  | some account => do
    validateAge account.observedAt now maxAgeSeconds .staleAccountTruth "account"
    return account

/-- The loop over the snapshots of a sequence. -/
def validateAges {α : Type} (observedAt : α → DateTime) (now : DateTime) (maxAgeSeconds : Int)
    (stale : RiskReason) (path : String) : Nat → List α → TruthRead Unit
  | _, [] => .ok ()
  | index, x :: rest => do
    validateAge (observedAt x) now maxAgeSeconds stale s!"{path}[{index}]"
    validateAges observedAt now maxAgeSeconds stale path (index + 1) rest

def validatePositionsFreshness (snapshots : List PositionSnapshot) (now : DateTime)
    (maxAgeSeconds : Int) : TruthRead (List PositionSnapshot) := do
  validateAges (·.observedAt) now maxAgeSeconds .stalePositionTruth "positions" 0 snapshots
  return snapshots

def validateOrdersFreshness (snapshots : List OrderSnapshot) (now : DateTime)
    (maxAgeSeconds : Int) : TruthRead (List OrderSnapshot) := do
  validateAges (·.observedAt) now maxAgeSeconds .staleOrderTruth "orders" 0 snapshots
  return snapshots

def readTruth (truth : Truth) (now : DateTime) (maxAgeSeconds : Int) :
    TruthRead (AccountSnapshot × List PositionSnapshot × List OrderSnapshot) := do
  validateClock truth now maxAgeSeconds
  let account ← validateAccountFreshness (← truth.account) now maxAgeSeconds
  let positions ← validatePositionsFreshness (← truth.positions) now maxAgeSeconds
  let orders ← validateOrdersFreshness (← truth.orders) now maxAgeSeconds
  return (account, positions, orders)

/-! ### Exposure -/

/-- `str(value)` of a value that is not null; `none` for the containers, which no decimal text
starts with. -/
def pyText : Json → Option String
  | .str s => some s
  | .int n => some (toString n)
  | .real literal => some literal
  | .bool true => some "True"
  | .bool false => some "False"
  | _ => none

/-- `Decimal(str(value))`, `none` where it raises. -/
def decimalOf (v : Json) : Option Decimal := (pyText v).bind Decimal.parse

theorem decimalOf_str (s : String) : decimalOf (.str s) = Decimal.parse s := by
  rw [decimalOf, pyText, Option.bind_some]

def decimalField (block : Block) (field path : String) : Except LedgerError Decimal :=
  match block.get? field with
  | none | some .null =>
    .error (reject .exposureNotCalculable s!"{path}.{field}" "field is missing")
  | some value =>
    match (pyText value).bind Decimal.parse with
    | none => .error (reject .exposureNotCalculable s!"{path}.{field}"
        Decimal.syntaxError)
    | some d =>
      if d.isFinite = false ∨ d.toRat < 0 then
        .error (reject .exposureNotCalculable s!"{path}.{field}"
          "must be a finite non-negative decimal")
      else .ok d

def blockExposure (block : Option Block) (field path : String) : Except LedgerError Decimal :=
  match block with
  | none => .error (reject .exposureNotCalculable path "block is missing")
  | some b => decimalField b field path

/-- `expression_exposure`: the conservative worst case of one compiled expression. -/
def expressionExposure (c : CompiledExpression) : Except LedgerError Decimal :=
  match c.expressionKind with
  | .cashNoTrade => .ok (.ofNat 0)
  | .shares => blockExposure c.shares "exposure" "shares"
  | .oneLongOption => blockExposure c.longOption "premium_at_risk" "long_option"
  | .debitVertical => blockExposure c.debitVertical "maximum_loss" "debit_vertical"

end EsscherMarket.Risk
