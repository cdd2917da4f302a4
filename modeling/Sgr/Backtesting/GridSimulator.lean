import Sgr.Backtesting.Types
import Sgr.Grid.Parameters

/-!
# The grid simulator

`GridBacktestSimulator` of `sgr/backtesting/grid_simulator.py`. A grid is a list of cells
between two levels each; a bar opens the cells whose entry price it touches and closes
those whose exit price it touches, in the order that its direction gives.
-/

namespace Sgr

/-- `_CellState`. -/
structure CellState where
  index : ℕ
  entryPrice : ℚ
  exitPrice : ℚ
  isOpen : Bool := false
  openedAt : Option Timestamp := none
  openedBarIndex : ℕ := 0
  quantity : ℚ := 0
  deriving DecidableEq

/-- `GridBacktestConfig`, next to what is computed in floats: the powers in
`compute_levels` and the regimes of `_precompute_regimes`. -/
structure GridBacktestConfig where
  symbol : String
  timeframe : String
  strategyName : String
  parameters : FuturesGridParameters
  initialCapital : ℚ := 10000
  makerFee : ℚ := 2 / 10000
  takerFee : ℚ := 5 / 10000
  slippagePct : ℚ := 3 / 10000
  assumedFundingRatePerInterval : ℚ := 1 / 10000
  fundingIntervalHours : ℤ := 8
  fundingRateProvider : Option (Timestamp → ℚ) := none
  rangeBreakoutBufferFactor : ℚ := 1 / 2
  ratioPower : ℚ → ℕ → ℕ → ℚ
  regimes : List Candle → ℕ → MarketRegime

/-- The variables of `run`. -/
structure GridRun where
  cells : List CellState
  trades : List BacktestTrade := []
  equityCurve : List EquityCurvePoint := []
  realizedPnl : ℚ := 0
  totalFunding : ℚ := 0
  fillsCount : ℕ := 0
  maxOpen : ℕ := 0

/-- `GridBacktestRunResult`. -/
structure GridBacktestRunResult where
  trades : List BacktestTrade := []
  equityCurve : List EquityCurvePoint := []
  closeReason : String
  totalFundingPaid : ℚ := 0
  fillsCount : ℕ := 0
  maxConcurrentOpenCells : ℕ := 0
  liquidated : Bool := false

/-- `_TIMEFRAME_MINUTES.get(timeframe, 60)`. -/
def timeframeMinutes (timeframe : String) : ℕ :=
  match timeframe with
  | "1m" => 1
  | "5m" => 5
  | "15m" => 15
  | "30m" => 30
  | "1h" => 60
  | "4h" => 240
  | "8h" => 480
  | "12h" => 720
  | "1d" => 1440
  | _ => 60

namespace Candle

/-- A price is between the low and the high of the bar. -/
def touches (bar : Candle) (price : ℚ) : Bool := decide (bar.low ≤ price ∧ price ≤ bar.high)

/-- `bar_is_up`. -/
def isUp (bar : Candle) : Bool := decide (bar.openPrice ≤ bar.closePrice)

end Candle

namespace GridBacktestConfig

variable (cfg : GridBacktestConfig)

/-- `_levels`. -/
def levels : List ℚ := cfg.parameters.computeLevels cfg.ratioPower

/-- `_is_long`. -/
def isLong : Bool := decide (cfg.parameters.longOrShort = .long)

/-- `side_factor`. -/
def sideFactor : ℚ := if cfg.isLong then 1 else -1

/-- The cells with which `run` begins. -/
def freshCells : List CellState :=
  (cfg.levels.zip cfg.levels.tail).zipIdx.map fun p =>
    if cfg.isLong then { index := p.2, entryPrice := p.1.1, exitPrice := p.1.2 }
    else { index := p.2, entryPrice := p.1.2, exitPrice := p.1.1 }

/-- `_apply_slippage`. -/
def applySlippage (price : ℚ) (opening : Bool) : ℚ :=
  price * (1 + (if opening = cfg.isLong then 1 else -1) * cfg.slippagePct)

/-! ### Fills -/

/-- What `_try_open_cells` does with a cell; `none` when it goes on to the next one. -/
def openedCell (bar : Candle) (barIdx : ℕ) (c : CellState) : Option CellState :=
  if c.isOpen then none
  else if !bar.touches c.entryPrice then none
  else
    let fillPrice := cfg.applySlippage c.entryPrice true
    let qty := if 0 < fillPrice then cfg.parameters.positionSize / fillPrice else 0
    if qty ≤ 0 then none
    else some
      { c with
        isOpen := true
        openedAt := some bar.timestamp
        openedBarIndex := barIdx
        quantity := qty }

/-- `_try_open_cells`. -/
def tryOpenCells (bar : Candle) (barIdx : ℕ) (r : GridRun) : GridRun :=
  { r with
    cells := r.cells.map fun c => (cfg.openedCell bar barIdx c).getD c
    fillsCount := r.fillsCount + (r.cells.filterMap (cfg.openedCell bar barIdx)).length }

/-- `_close_cell`. -/
def closeCell (c : CellState) (exitPrice : ℚ) (exitTime : Timestamp) (barIdx : ℕ)
    (regime : MarketRegime) (reason : String) : CellState × BacktestTrade :=
  let grossPnl := (exitPrice - c.entryPrice) * c.quantity * cfg.sideFactor
  let entryNotional := c.entryPrice * c.quantity
  let exitNotional := exitPrice * c.quantity
  let feeRate := if reason ≠ "grid_cycle" then cfg.takerFee else cfg.makerFee
  let fees := (entryNotional + exitNotional) * feeRate
  ({ c with isOpen := false, quantity := 0 },
    { symbol := cfg.symbol
      strategy := cfg.strategyName
      side := if cfg.isLong then "long" else "short"
      entryTime := c.openedAt.getD exitTime
      exitTime := exitTime
      entryPrice := c.entryPrice
      exitPrice := exitPrice
      quantity := c.quantity
      grossPnl := grossPnl
      fees := fees
      slippage := |exitNotional - c.exitPrice * c.quantity|
      netPnl := grossPnl - fees
      holdingBars := barIdx - c.openedBarIndex
      regime := regime
      maxAdverseExcursion := 0
      maxFavorableExcursion := 0
      entrySignalConfidence := 1
      exitReason := reason
      gridCellIndex := some c.index })

/-- The loop of `_try_close_cells` and of `_force_close_all`: each cell that has an exit
price is closed at it. -/
def closeCells (exits : CellState → Option ℚ) (exitTime : Timestamp) (barIdx : ℕ)
    (regime : MarketRegime) (reason : String) (r : GridRun) : GridRun :=
  let closed := fun c => (exits c).map fun price =>
    cfg.closeCell c price exitTime barIdx regime reason
  let trades := (r.cells.filterMap closed).map Prod.snd
  { r with
    cells := r.cells.map fun c => ((closed c).map Prod.fst).getD c
    trades := r.trades ++ trades
    realizedPnl := r.realizedPnl + (trades.map BacktestTrade.netPnl).sum }

/-- The exit price of an open cell that the bar touches. -/
def touchedExit (bar : Candle) (c : CellState) : Option ℚ :=
  if !c.isOpen then none
  else if !bar.touches c.exitPrice then none
  else some (cfg.applySlippage c.exitPrice false)

/-- `_try_close_cells`. -/
def tryCloseCells (bar : Candle) (barIdx : ℕ) (regime : MarketRegime) (r : GridRun) :
    GridRun :=
  { cfg.closeCells (cfg.touchedExit bar) bar.timestamp barIdx regime "grid_cycle" r with
    fillsCount := r.fillsCount + (r.cells.filterMap (cfg.touchedExit bar)).length }

/-- `_force_close_all`. -/
def forceCloseAll (exitPrice : ℚ) (exitTime : Timestamp) (barIdx : ℕ) (regime : MarketRegime)
    (reason : String) (r : GridRun) : GridRun :=
  cfg.closeCells (fun c => if c.isOpen then some exitPrice else none) exitTime barIdx regime
    reason r

/-- The bar moves in the direction in which the grid closes: up for a long grid. -/
def movesToExit (bar : Candle) : Bool := cfg.isLong == bar.isUp

/-- The two actions of a bar. -/
def barFills (bar : Candle) (barIdx : ℕ) (regime : MarketRegime) (r : GridRun) : GridRun :=
  if cfg.movesToExit bar then
    cfg.tryOpenCells bar barIdx (cfg.tryCloseCells bar barIdx regime r)
  else cfg.tryCloseCells bar barIdx regime (cfg.tryOpenCells bar barIdx r)

/-! ### Funding, forced exits and the equity curve -/

/-- `funding_interval_bars`. -/
def fundingIntervalBars : ℕ :=
  max 1 ((cfg.fundingIntervalHours * 60).tdiv (timeframeMinutes cfg.timeframe)).toNat

/-- The periodic funding of a bar. -/
def barFunding (bar : Candle) (barIdx : ℕ) (r : GridRun) : GridRun :=
  if 0 < barIdx ∧ barIdx % cfg.fundingIntervalBars = 0 then
    let openNotional :=
      ((r.cells.filter CellState.isOpen).map fun c => c.quantity * bar.closePrice).sum
    let fundingRate :=
      match cfg.fundingRateProvider with
      | some provider => provider bar.timestamp
      | none => cfg.assumedFundingRatePerInterval
    { r with
      totalFunding := r.totalFunding + openNotional * fundingRate
      realizedPnl := r.realizedPnl - openNotional * fundingRate }
  else r

/-- `_estimate_liquidation_price`. -/
def estimateLiquidationPrice (cells : List CellState) : Option ℚ :=
  let opened := cells.filter CellState.isOpen
  if opened = [] ∨ cfg.parameters.leverage ≤ 1 then none
  else
    let totalQty := (opened.map CellState.quantity).sum
    if totalQty ≤ 0 then none
    else
      let avgEntry := (opened.map fun c => c.entryPrice * c.quantity).sum / totalQty
      let marginFraction := 1 / cfg.parameters.leverage
      some (if cfg.isLong then avgEntry * (1 - marginFraction)
        else avgEntry * (1 + marginFraction))

/-- `_check_grid_level_exits`. -/
def checkGridLevelExits (bar : Candle) : Option String :=
  if cfg.parameters.takeProfit.any fun x =>
      if cfg.isLong then decide (x ≤ bar.high) else decide (bar.low ≤ x) then
    some "take_profit"
  else if cfg.parameters.stopLoss.any fun x =>
      if cfg.isLong then decide (bar.low ≤ x) else decide (x ≤ bar.high) then
    some "stop_loss"
  else none

/-- The exit of a bar that comes to the liquidation price. -/
def liquidationExit (bar : Candle) (cells : List CellState) : Option (ℚ × String) :=
  (cfg.estimateLiquidationPrice cells).bind fun price =>
    if if cfg.isLong then bar.low ≤ price else price ≤ bar.high then
      some (price, "liquidation")
    else none

/-- The exit at the target or at the stop of the grid; a price of zero counts as none. -/
def levelExit (bar : Candle) : Option (ℚ × String) :=
  (cfg.checkGridLevelExits bar).map fun reason =>
    let exitPrice :=
      if reason = "take_profit" then cfg.parameters.takeProfit else cfg.parameters.stopLoss
    ((exitPrice.filter fun x => x ≠ 0).getD bar.closePrice, reason)

/-- The exit of a grid that has been held too long. -/
def holdingExit (startTime : Timestamp) (bar : Candle) : Option (ℚ × String) :=
  cfg.parameters.maximumHoldingTime.bind fun limit =>
    if limit ≤ bar.timestamp - startTime then some (bar.closePrice, "max_holding_time")
    else none

/-- The exit of a grid whose range the price has left. -/
def breakoutExit (bar : Candle) : Option (ℚ × String) :=
  let p := cfg.parameters
  let buffer := (p.gridUpperPrice - p.gridLowerPrice) * cfg.rangeBreakoutBufferFactor
  if bar.closePrice < p.gridLowerPrice - buffer ∨ p.gridUpperPrice + buffer < bar.closePrice then
    some (bar.closePrice, "range_breakout")
  else none

/-- The forced exit of a bar, with its price and its reason. -/
def forcedExit (startTime : Timestamp) (bar : Candle) (cells : List CellState) :
    Option (ℚ × String) :=
  cfg.liquidationExit bar cells <|> cfg.levelExit bar <|> cfg.holdingExit startTime bar <|>
    cfg.breakoutExit bar

/-- `_equity_point`, at the end of the curve. -/
def addEquityPoint (bar : Candle) (r : GridRun) : GridRun :=
  let unrealized := ((r.cells.filter CellState.isOpen).map fun c =>
    (bar.closePrice - c.entryPrice) * c.quantity * cfg.sideFactor).sum
  { r with
    equityCurve := r.equityCurve ++
      [{ timestamp := bar.timestamp
         portfolioValue := cfg.initialCapital + r.realizedPnl + unrealized
         cash := cfg.initialCapital + r.realizedPnl
         openPositionsValue := unrealized
         drawdownPct := 0
         dailyReturn := 0 }] }

/-! ### The run -/

/-- A bar up to the forced exits. -/
def barCourse (bar : Candle) (barIdx : ℕ) (regime : MarketRegime) (r : GridRun) : GridRun :=
  let filled := cfg.barFills bar barIdx regime r
  cfg.barFunding bar barIdx
    { filled with maxOpen := max filled.maxOpen (filled.cells.filter CellState.isOpen).length }

/-- The body of the loop of `run`, with the reason of a forced exit. -/
def simulateBar (startTime : Timestamp) (bar : Candle) (barIdx : ℕ) (regime : MarketRegime)
    (r : GridRun) : GridRun × Option String :=
  let r' := cfg.barCourse bar barIdx regime r
  match cfg.forcedExit startTime bar r'.cells with
  | some (price, reason) =>
      (cfg.addEquityPoint bar
        (cfg.forceCloseAll price bar.timestamp barIdx regime reason r'), some reason)
  | none => (cfg.addEquityPoint bar r', none)

/-- The loop of `run`, which a forced exit leaves. -/
def simulateBars (startTime : Timestamp) (regime : ℕ → MarketRegime) :
    ℕ → List Candle → GridRun → GridRun × Option String
  | _, [], r => (r, none)
  | barIdx, bar :: bars, r =>
      match cfg.simulateBar startTime bar barIdx (regime barIdx) r with
      | (r', some reason) => (r', some reason)
      | (r', none) => simulateBars startTime regime (barIdx + 1) bars r'

/-- The result of a run that is left for a reason. -/
def runResult (r : GridRun) (reason : String) : GridBacktestRunResult where
  trades := r.trades
  equityCurve := r.equityCurve
  closeReason := reason
  totalFundingPaid := r.totalFunding
  fillsCount := r.fillsCount
  maxConcurrentOpenCells := r.maxOpen
  liquidated := reason = "liquidation"

/-- The variables with which `run` begins. -/
def runStart : GridRun := { cells := cfg.freshCells }

/-- The end of a run that no forced exit has left: the cells that are still open are closed
at the last close. -/
def finishRun (last : Candle) (lastIdx : ℕ) (regime : MarketRegime) (r : GridRun) :
    GridBacktestRunResult :=
  runResult
    (cfg.forceCloseAll last.closePrice last.timestamp lastIdx regime "backtest_end" r)
    "backtest_end"

/-- `run`. -/
def run (candles : List Candle) : GridBacktestRunResult :=
  match candles with
  | first :: second :: rest =>
      match cfg.simulateBars first.timestamp (cfg.regimes candles) 0 candles cfg.runStart with
      | (r, some reason) => runResult r reason
      | (r, none) =>
          cfg.finishRun (rest.getLastD second) (candles.length - 1)
            (cfg.regimes candles (candles.length - 1)) r
  | _ => { closeReason := "insufficient_data" }

end GridBacktestConfig

end Sgr
