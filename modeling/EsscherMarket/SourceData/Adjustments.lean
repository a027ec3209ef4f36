import EsscherMarket.SourceData.DecimalMath

/-!
# Adjusted price series

The split-adjusted closes of one symbol.  A date is its day number.
-/

namespace EsscherMarket.SourceData

open Lib Lib.Decimal

abbrev SessionDate := Int

/-- One split-adjusted price-only close with its raw session identity. -/
structure AdjustedClose where
  sessionId : String
  sessionDate : SessionDate
  adjustedClose : Decimal
  volume : Int
  valid : Bool
deriving Repr, DecidableEq

/-- The complete disclosed adjustment result for one symbol series. -/
structure AdjustmentOutcome where
  symbol : String
  series : List AdjustedClose
  appliedReceiptIds : List String
  splitFactorsByDate : List (SessionDate × Decimal)
deriving Repr, DecidableEq

end EsscherMarket.SourceData
