import EsscherMarket.Execution.Models

/-!
# Compiled expressions

`execution/expression/compiler.py`: one compiled expression with the blocks it carries, and its
canonical identity.  A block is a JSON object, kept as the list of its fields.
-/

namespace EsscherMarket.Execution

open Lib

inductive ExpressionKind where
  | cashNoTrade
  | shares
  | oneLongOption
  | debitVertical
  deriving DecidableEq, Repr

def ExpressionKind.value : ExpressionKind → String
  | cashNoTrade => "CASH_NO_TRADE"
  | shares => "SHARES"
  | oneLongOption => "ONE_LONG_OPTION"
  | debitVertical => "DEBIT_VERTICAL"

abbrev Block : Type := List (String × Json)

/-- `block.get(field)`. -/
def Block.get? (block : Block) (field : String) : Option Json := (Json.obj block).field? field

/-- The fields of one deterministic compiled expression bound to its inputs. -/
structure CompiledExpressionFields where
  expressionKind : ExpressionKind
  eventId : String
  decisionSha256 : String
  snapshotSha256 : String
  policySha256 : String
  gateDReportSha256 : String
  compiledAt : DateTime
  shares : Option Block
  longOption : Option Block
  debitVertical : Option Block

def isFilled : Option Block → Bool
  | some (_ :: _) => true
  | _ => false

/-- `CompiledExpression.__post_init__`. -/
def CompiledExpressionFields.check (c : CompiledExpressionFields) : Bool :=
  let filled := ([c.shares, c.longOption, c.debitVertical].filter isFilled).length
  c.eventId != "" && c.decisionSha256.length == 64 && c.snapshotSha256.length == 64 &&
  c.policySha256.length == 64 && c.gateDReportSha256.length == 64 &&
  (c.compiledAt.tzinfo == .utc || c.compiledAt.tzinfo == .offset 0) &&
  filled == (if c.expressionKind = .cashNoTrade then 0 else 1)

structure CompiledExpression extends CompiledExpressionFields where
  accepted : toCompiledExpressionFields.check = true

def blockJson : Option Block → Json
  | some fields => .obj fields
  | none => .null

def compiledExpressionPayload (c : CompiledExpression) : Json :=
  .obj [
    ("schema", .str "esscher.compiled_expression"),
    ("schema_version", .int 1),
    ("expression_kind", .str c.expressionKind.value),
    ("event_id", .str c.eventId),
    ("decision_sha256", .str c.decisionSha256),
    ("snapshot_sha256", .str c.snapshotSha256),
    ("policy_sha256", .str c.policySha256),
    ("gate_d_report_sha256", .str c.gateDReportSha256),
    ("compiled_at", .str c.compiledAt.isoformatZ),
    ("shares", blockJson c.shares),
    ("long_option", blockJson c.longOption),
    ("debit_vertical", blockJson c.debitVertical),
    ("no_package", .bool false)]

def compiledExpressionSha256 (c : CompiledExpression) : String :=
  (compiledExpressionPayload c).sha256

/-! ### The concrete spread, compiled -/

def legBlock (leg : OptionLeg) : Json :=
  .obj [
    ("symbol", .str leg.symbol),
    ("option_type", .str leg.optionType.value),
    ("strike", .str leg.strike.toText)]

/-- The debit-vertical block of the concrete spread, as the compiler fills it. -/
def spyBlock : Block :=
  [("underlying", .str "SPY"),
   ("vertical_type", .str "BULL_CALL"),
   ("expiry", .str "2026-09-18"),
   ("quantity", .int 1),
   ("order_type", .str "LIMIT"),
   ("legging", .str "ATOMIC_PACKAGE"),
   ("limit_price", .str "2.50"),
   ("limit_price_rule", .str "PACKAGE_NET_ASK"),
   ("width", .str "5"),
   ("maximum_loss", .str "250.00"),
   ("package_id", .str "p1"),
   ("long_leg", legBlock (spyTerms "" "").longLeg),
   ("short_leg", legBlock (spyTerms "" "").shortLeg)]

def spyExpressionFields (eventId policySha256 : String) : CompiledExpressionFields where
  expressionKind := .debitVertical
  eventId := eventId
  decisionSha256 := digestA
  snapshotSha256 := digestA
  policySha256 := policySha256
  gateDReportSha256 := digestA
  compiledAt := .utc 1000
  shares := none
  longOption := none
  debitVertical := some spyBlock

theorem length_digestA : digestA.length = 64 := by decide

def spyExpression (eventId policySha256 : String) (he : (eventId != "") = true)
    (hp : policySha256.length = 64) : CompiledExpression where
  toCompiledExpressionFields := spyExpressionFields eventId policySha256
  accepted := by
    simp only [CompiledExpressionFields.check, spyExpressionFields, he, hp, length_digestA]
    rfl

end EsscherMarket.Execution
