import Mathlib.Algebra.Order.Field.Rat
import Sgr.Core.Types

/-!
# The types of the back-tests

The configuration, the trades and the equity curve of `sgr/backtesting/types.py`.
-/

namespace Sgr

/-- `BacktestConfig`. -/
structure BacktestConfig where
  startDate : Timestamp
  endDate : Timestamp
  symbols : List String
  timeframe : String
  initialCapital : ℚ := 10000
  makerFee : ℚ := 1 / 1000
  takerFee : ℚ := 1 / 1000
  slippagePct : ℚ := 5 / 10000
  strategyNames : List String := []
  maxPositionPct : ℚ := 1 / 10
  maxPortfolioHeat : ℚ := 7 / 10
  maxDrawdownLimit : ℚ := 15 / 100
  atrStopMultiplier : ℚ := 5 / 2
  maxHoldingBars : ℤ := 20
  walkForwardSplits : ℤ := 0
  monteCarloRuns : ℤ := 0
  deriving DecidableEq

/-- `BacktestTrade`, with the two keys of its `metadata`; only the trades of a grid have a
cell. -/
structure BacktestTrade where
  symbol : String
  strategy : String
  side : String
  entryTime : Timestamp
  exitTime : Timestamp
  entryPrice : ℚ
  exitPrice : ℚ
  quantity : ℚ
  grossPnl : ℚ
  fees : ℚ
  slippage : ℚ
  netPnl : ℚ
  holdingBars : ℕ
  regime : MarketRegime
  maxAdverseExcursion : ℚ
  maxFavorableExcursion : ℚ
  entrySignalConfidence : ℚ
  exitReason : String
  gridCellIndex : Option ℕ := none
  deriving DecidableEq

/-- `EquityCurvePoint`. -/
structure EquityCurvePoint where
  timestamp : Timestamp
  portfolioValue : ℚ
  cash : ℚ
  openPositionsValue : ℚ
  drawdownPct : ℚ
  dailyReturn : ℚ
  deriving DecidableEq

end Sgr
