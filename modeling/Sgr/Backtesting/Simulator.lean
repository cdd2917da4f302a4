import Mathlib.Data.List.MinMax
import Sgr.Backtesting.Features
import Sgr.Backtesting.Types
import Sgr.Concurrency.Machine
import Sgr.Risk.Engine.Sizing

/-!
# The simulator of a strategy

`BacktestSimulator` of `sgr/backtesting/simulator.py`. The loop over the bars after the
warm-up is a machine: its input at a bar is what the loop reads of the series there, and a
bar that has no next state raises. A position is opened at the open of the next bar, within
the iteration of the bar that gives the signal.
-/

open Arithmetic Concurrency

namespace Sgr

/-- `side`. -/
inductive TradeSide
  | long
  | short
  deriving DecidableEq, Repr

/-- The text of a side. -/
def TradeSide.value : TradeSide → String
  | .long => "long"
  | .short => "short"

/-- `SimulatedPosition`. -/
structure SimulatedPosition where
  symbol : String
  side : TradeSide
  quantity : ℚ
  entryPrice : ℚ
  entryTime : Timestamp
  strategy : String
  signalConfidence : ℚ
  regime : MarketRegime
  targetPrice : Option ℚ
  entryBarIndex : ℕ
  maxAdverseExcursion : ℚ := 0
  maxFavorableExcursion : ℚ := 0
  deriving DecidableEq

/-- `MarketContext`, without what a back-test leaves at its default. -/
structure MarketContext where
  symbol : Symbol
  timestamp : Timestamp
  primary : FeatureSet
  regime : MarketRegime

/-- A strategy: the regimes it supports and its `generate_signal`. What the strategies
remember from bar to bar is in `μ`; an exception gives no signal. -/
structure BacktestStrategy (μ : Type*) where
  supportedRegimes : List MarketRegime
  generateSignal : μ → MarketContext → μ × Option Signal

/-- The state of a `BacktestSimulator` and of its strategies. A position is only opened when
`_positions` is empty, which thus never has a second entry. -/
structure BacktestState (μ : Type*) where
  memory : μ
  cash : ℚ
  peakValue : ℚ
  position : Option SimulatedPosition := none
  closedTrades : List BacktestTrade := []
  equityCurve : List EquityCurvePoint := []
  deriving DecidableEq

/-- What an iteration of the loop reads of the series. -/
structure BarInput where
  barIdx : ℕ
  bar : Candle
  features : Option FeatureSet
  /-- `recent_window`. -/
  window : List Candle
  /-- `next_bar`. -/
  next : Option Candle

/-- What `run` returns, with the cash it leaves. -/
structure BacktestOutcome where
  cash : ℚ
  trades : List BacktestTrade
  equityCurve : List EquityCurvePoint
  deriving DecidableEq

/-- `WARMUP_BARS`. -/
def warmupBars : ℕ := 200

/-! ### The regime -/

/-- Both are known and not zero, and the first is greater. -/
def exceeds (a b : Option ℚ) : Bool :=
  a.any fun a => b.any fun b => decide (a ≠ 0 ∧ b ≠ 0 ∧ b < a)

/-- The regime where the trend does not say it. -/
def volatilityRegime (ind : IndicatorValues) : MarketRegime :=
  if ind.atrPct.any fun a => decide (a ≠ 0 ∧ 5 / 100 < a) then .highVolatility else .ranging

/-- `_detect_regime_simple`. -/
def detectRegimeSimple (features : FeatureSet) : MarketRegime :=
  let ind := features.indicators
  match ind.adx14, ind.rsi14 with
  | some adx, some rsi =>
      if 25 < adx then
        if 55 < rsi ∧ exceeds ind.diPlus ind.diMinus then .trendingUp
        else if rsi < 45 ∧ exceeds ind.diMinus ind.diPlus then .trendingDown
        else volatilityRegime ind
      else if adx < 20 then .ranging
      else volatilityRegime ind
  | _, _ => .unknown

/-! ### Signals -/

section Strategies

variable {μ : Type*}

/-- The signals of the strategies, asked one after the other. -/
def collectSignals (context : MarketContext) (regime : MarketRegime) :
    List (BacktestStrategy μ) → μ → μ × List Signal
  | [], m => (m, [])
  | strategy :: strategies, m =>
      if regime ∈ strategy.supportedRegimes then
        let (m', answer) := strategy.generateSignal m context
        let (m'', signals) := collectSignals context regime strategies m'
        (m'', ((answer.filter fun s => 55 / 100 ≤ s.confidence).toList) ++ signals)
      else collectSignals context regime strategies m

/-- The signal that is chosen of those collected; of equally confident ones it is the first. -/
def bestSignal (signals : List Signal) : Option Signal :=
  if signals.any (·.direction = .long) ∧ signals.any (·.direction = .short) then none
  else signals.argmax Signal.confidence

/-- `_generate_signal`. -/
def generateSignal (strategies : List (BacktestStrategy μ)) (context : MarketContext)
    (regime : MarketRegime) (m : μ) : μ × Option Signal :=
  let (m', signals) := collectSignals context regime strategies m
  (m', bestSignal signals)

end Strategies

/-! ### Positions -/

/-- `update_excursions`. -/
def SimulatedPosition.updateExcursions (pos : SimulatedPosition) (currentPrice : ℚ) :
    SimulatedPosition :=
  let pnl :=
    if pos.side = .long then currentPrice - pos.entryPrice else pos.entryPrice - currentPrice
  { pos with
    maxAdverseExcursion := if pnl < -pos.maxAdverseExcursion then |pnl|
      else pos.maxAdverseExcursion
    maxFavorableExcursion := if pos.maxFavorableExcursion < pnl then pnl
      else pos.maxFavorableExcursion }

/-- What a position is worth at a price: a short one is owed. -/
def SimulatedPosition.marketValue (pos : SimulatedPosition) (price : ℚ) : ℚ :=
  if pos.side = .long then pos.quantity * price else -(pos.quantity * price)

namespace BacktestState

variable {μ : Type*}

/-- `_compute_portfolio_value`. -/
def portfolioValue (s : BacktestState μ) (currentPrice : ℚ) : ℚ :=
  s.cash + (s.position.map fun pos => pos.marketValue currentPrice).getD 0

/-- `_update_positions`. -/
def updatePositions (s : BacktestState μ) (currentPrice : ℚ) : BacktestState μ :=
  { s with position := s.position.map fun pos => pos.updateExcursions currentPrice }

/-- `_record_equity`. -/
def recordEquity (s : BacktestState μ) (timestamp : Timestamp) (portfolioValue : ℚ) :
    BacktestState μ :=
  let peak := if s.peakValue < portfolioValue then portfolioValue else s.peakValue
  let drawdown := if 0 < peak then (peak - portfolioValue) / peak * 100 else 0
  { s with
    peakValue := peak
    equityCurve := s.equityCurve ++
      [{ timestamp := timestamp
         portfolioValue := Arithmetic.quantized 2 portfolioValue
         cash := s.cash
         openPositionsValue := Arithmetic.quantized 2 (portfolioValue - s.cash)
         drawdownPct := Arithmetic.quantized 4 drawdown
         dailyReturn := 0 }] }

end BacktestState

namespace BacktestConfig

variable (cfg : BacktestConfig)

/-- The price after slippage of an order that buys or sells. -/
def slipped (price : ℚ) (buys : Bool) : ℚ :=
  price * (if buys then 1 + cfg.slippagePct else 1 - cfg.slippagePct)

/-- `max_notional`. -/
def maxNotional (portfolioValue cash : ℚ) : ℚ :=
  min (portfolioValue * cfg.maxPositionPct) (cash * (95 / 100))

/-- The cash that a position moves when it is opened. -/
def entryCash (side : TradeSide) (notional : ℚ) : ℚ :=
  if side = .long then -(notional + notional * cfg.takerFee)
  else notional - notional * cfg.takerFee

/-- The cash that a position moves when it is closed. -/
def exitCash (side : TradeSide) (notional : ℚ) : ℚ :=
  if side = .long then notional - notional * cfg.takerFee
  else -(notional + notional * cfg.takerFee)

/-- The side that a signal opens: anything but `LONG` opens a short position. -/
def sideOf (signal : Signal) : TradeSide := if signal.direction = .long then .long else .short

/-- `notional` of `_open_position`, for a signal in a state. -/
def notionalOf (signal : Signal) (portfolioValue cash : ℚ) : ℚ :=
  cfg.maxNotional portfolioValue cash * signal.sizeHint * signal.confidence

/-- The position that `_open_position` creates. -/
def openedPosition (signal : Signal) (entryBar : Candle) (barIndex : ℕ) (notional : ℚ) :
    SimulatedPosition :=
  let entryPrice := cfg.slipped entryBar.openPrice (sideOf signal = .long)
  { symbol := signal.symbol.ccxtSymbol
    side := sideOf signal
    quantity := notional / entryPrice
    entryPrice := entryPrice
    entryTime := entryBar.timestamp
    strategy := signal.strategyName
    signalConfidence := signal.confidence
    regime := signal.regime
    targetPrice := signal.metadata.targetPrice
    entryBarIndex := barIndex }

section State

variable {μ : Type*}

/-- `_open_position`; `none` is the exception of the division by the entry price. -/
def openPosition (signal : Signal) (entryBar : Candle) (barIndex : ℕ) (s : BacktestState μ) :
    Option (BacktestState μ) :=
  let portfolioVal := s.portfolioValue entryBar.openPrice
  let notional := cfg.notionalOf signal portfolioVal s.cash
  let pos := cfg.openedPosition signal entryBar barIndex notional
  if cfg.maxNotional portfolioVal s.cash ≤ 0 then some s
  else if pos.entryPrice = 0 then none
  else if pos.quantity ≤ 1 / 100000 then some s
  else if s.cash < notional + notional * cfg.takerFee then some s
  else some
    { s with
      cash := s.cash + cfg.entryCash pos.side notional
      position := some pos }

/-- The trade that `_close_position` appends. -/
def closedTrade (pos : SimulatedPosition) (exitPrice : ℚ) (exitTime : Timestamp)
    (barIndex : ℕ) (reason : String) : BacktestTrade :=
  let exitPriceWithSlippage := cfg.slipped exitPrice (pos.side = .short)
  let grossPnl :=
    if pos.side = .long then (exitPriceWithSlippage - pos.entryPrice) * pos.quantity
    else (pos.entryPrice - exitPriceWithSlippage) * pos.quantity
  let totalFees := pos.quantity * pos.entryPrice * cfg.takerFee +
    pos.quantity * exitPriceWithSlippage * cfg.takerFee
  { symbol := pos.symbol
    strategy := pos.strategy
    side := pos.side.value
    entryTime := pos.entryTime
    exitTime := exitTime
    entryPrice := pos.entryPrice
    exitPrice := exitPriceWithSlippage
    quantity := pos.quantity
    grossPnl := grossPnl
    fees := totalFees
    slippage := |(exitPriceWithSlippage - exitPrice) * pos.quantity +
      (pos.entryPrice - pos.entryPrice / (1 + cfg.slippagePct)) * pos.quantity|
    netPnl := grossPnl - totalFees
    holdingBars := barIndex - pos.entryBarIndex
    regime := pos.regime
    maxAdverseExcursion := pos.maxAdverseExcursion
    maxFavorableExcursion := pos.maxFavorableExcursion
    entrySignalConfidence := pos.signalConfidence
    exitReason := reason }

/-- `_close_position`; `none` is the exception of the division in `slippage_cost`. -/
def closePosition (pos : SimulatedPosition) (exitPrice : ℚ) (exitTime : Timestamp)
    (barIndex : ℕ) (reason : String) (s : BacktestState μ) : Option (BacktestState μ) :=
  if 1 + cfg.slippagePct = 0 then none
  else some
    { s with
      cash := s.cash +
        cfg.exitCash pos.side (pos.quantity * cfg.slipped exitPrice (pos.side = .short))
      position := none
      closedTrades := s.closedTrades ++
        [cfg.closedTrade pos exitPrice exitTime barIndex reason] }

/-- The stop of a position at a distance of several average true ranges. -/
def stopReached (pos : SimulatedPosition) (close : ℚ) (history : List Candle) : Bool :=
  decide (15 ≤ history.length) &&
    (calcAtr (history.drop (history.length - 15)) 14).last.any fun atr =>
      decide (atr ≠ 0 ∧
        if pos.side = .long then close < pos.entryPrice - atr * cfg.atrStopMultiplier
        else pos.entryPrice + atr * cfg.atrStopMultiplier < close)

/-- The target of a position. -/
def targetReached (pos : SimulatedPosition) (close : ℚ) : Bool :=
  pos.targetPrice.any fun target =>
    if pos.side = .long then decide (target ≤ close) else decide (close ≤ target)

/-- `exit_reason`, where an exit is triggered. -/
def exitReason (barIdx : ℕ) (close : ℚ) (history : List Candle) (currentRegime : MarketRegime)
    (pos : SimulatedPosition) : Option String :=
  if pos.regime = .ranging ∧ currentRegime ≠ .ranging then some "regime_change"
  else if cfg.stopReached pos close history then some "atr_stop"
  else if targetReached pos close then some "target_reached"
  else if cfg.maxHoldingBars ≤ (barIdx - pos.entryBarIndex : ℕ) then some "time_exit"
  else none

/-- The exit of an open position at a bar of its symbol. -/
def exitAt (b : BarInput) (currentRegime : MarketRegime) (pos : SimulatedPosition) :
    Option String :=
  if pos.symbol ≠ b.bar.symbol.ccxtSymbol then none
  else cfg.exitReason b.barIdx b.bar.closePrice b.window currentRegime pos

/-- `_check_exits`. -/
def checkExits (b : BarInput) (currentRegime : MarketRegime) (s : BacktestState μ) :
    Option (BacktestState μ) :=
  match s.position with
  | none => some s
  | some pos =>
      match cfg.exitAt b currentRegime pos with
      | none => some s
      | some reason =>
          cfg.closePosition pos b.bar.closePrice b.bar.timestamp b.barIdx reason s

/-- The entry of a bar: a signal is asked for when no position is open. -/
def checkEntry (strategies : List (BacktestStrategy μ)) (b : BarInput) (context : MarketContext)
    (s : BacktestState μ) : Option (BacktestState μ) :=
  match s.position with
  | some _ => some s
  | none =>
      let (m, signal) := Sgr.generateSignal strategies context context.regime s.memory
      let s' := { s with memory := m }
      match signal, b.next with
      | some signal, some nextBar => cfg.openPosition signal nextBar b.barIdx s'
      | _, _ => some s'

/-- `context`. -/
def contextAt (b : BarInput) (features : FeatureSet) : MarketContext :=
  let regime := detectRegimeSimple features
  { symbol := b.bar.symbol
    timestamp := b.bar.timestamp
    primary := { features with regime := regime }
    regime := regime }

/-- The iteration of a bar up to the exits. -/
def afterExits (b : BarInput) (features : FeatureSet) (s : BacktestState μ) :
    Option (BacktestState μ) :=
  cfg.checkExits b (detectRegimeSimple features) (s.updatePositions b.bar.closePrice)

/-- The equity point of a bar. -/
def recordBar (b : BarInput) (s : BacktestState μ) : BacktestState μ :=
  s.recordEquity b.bar.timestamp (s.portfolioValue b.bar.closePrice)

/-- The body of the loop. -/
def barStep (strategies : List (BacktestStrategy μ)) (s : BacktestState μ) (b : BarInput) :
    Option (BacktestState μ) :=
  match b.features with
  | none => some s
  | some features =>
      (cfg.afterExits b features s).bind fun s =>
        (cfg.checkEntry strategies b (contextAt b features) s).map (recordBar b)

theorem barStep_of_features {strategies : List (BacktestStrategy μ)} {s : BacktestState μ}
    {b : BarInput} {features : FeatureSet} (h : b.features = some features) :
    cfg.barStep strategies s b = (cfg.afterExits b features s).bind fun s =>
      (cfg.checkEntry strategies b (contextAt b features) s).map (recordBar b) := by
  rw [barStep, h]

/-- The loop as a machine. -/
def simulator (strategies : List (BacktestStrategy μ)) : Machine (BacktestState μ) BarInput where
  next := cfg.barStep strategies

/-- The state that is reset at the start of `run`. -/
def backtestStart (m : μ) : BacktestState μ where
  memory := m
  cash := cfg.initialCapital
  peakValue := cfg.initialCapital

/-- Every position that is open after the loop is closed at the last close. -/
def closeAtEnd (candles : List Candle) (s : BacktestState μ) : Option (BacktestState μ) :=
  match candles.getLast?, s.position with
  | some lastBar, some pos =>
      cfg.closePosition pos lastBar.closePrice lastBar.timestamp (candles.length - 1)
        "backtest_end" s
  | _, _ => some s

end State

end BacktestConfig

/-- What the loop reads of a series at a bar. -/
def barInput (sqrt : ℚ → ℚ) (candles : List Candle) (bar : Candle) (barIdx : ℕ) : BarInput where
  barIdx := barIdx
  bar := bar
  features := (precomputeAllFeatures sqrt candles)[barIdx]?.join
  window := (candles.take (barIdx + 1)).drop (barIdx - 14)
  next := candles[barIdx + 1]?

/-- The inputs of the loop, one for each `bar_idx` of `range(warmup, len(candles))`. -/
def barInputs (sqrt : ℚ → ℚ) (candles : List Candle) : List BarInput :=
  (candles.zipIdx.drop warmupBars).map fun c => barInput sqrt candles c.1 c.2

/-! ### The inputs of the loop -/

section Inputs

variable {sqrt : ℚ → ℚ} {candles : List Candle} {b : BarInput}

theorem mem_barInputs (h : b ∈ barInputs sqrt candles) :
    ∃ i, ∃ hi : i < candles.length, warmupBars ≤ i ∧ b.bar = candles[i] ∧
      b.features = featureRow (indicatorArrays sqrt candles) candles i candles[i] := by
  obtain ⟨c, hc, rfl⟩ := List.mem_map.1 h
  obtain ⟨n, hn⟩ := List.mem_iff_getElem?.1 hc
  rw [List.getElem?_drop, List.getElem?_zipIdx, zero_add] at hn
  obtain ⟨candle, hcandle, rfl⟩ := Option.map_eq_some_iff.1 hn
  obtain ⟨hi, rfl⟩ := List.getElem?_eq_some_iff.1 hcandle
  refine ⟨warmupBars + n, hi, Nat.le_add_right _ _, rfl, ?_⟩
  rw [barInput, precomputeAllFeatures_getElem? sqrt hi, Option.join_some]

/-- After the warm-up there are features. -/
theorem isSome_features (h : b ∈ barInputs sqrt candles) : b.features.isSome := by
  obtain ⟨i, hi, hwarm, -, hfeatures⟩ := mem_barInputs h
  have hmin : minCandles ≤ i + 1 := by
    simp only [minCandles, warmupBars] at hwarm ⊢
    omega
  rw [hfeatures]
  exact isSome_featureRow hmin

theorem next_mem_of_mem_barInputs (h : b ∈ barInputs sqrt candles) {next : Candle}
    (hnext : next ∈ b.next) : next ∈ candles := by
  obtain ⟨c, -, rfl⟩ := List.mem_map.1 h
  exact List.mem_of_getElem? hnext

theorem barInputs_eq_nil_iff : barInputs sqrt candles = [] ↔ candles.length ≤ warmupBars := by
  rw [barInputs, List.map_eq_nil_iff, List.drop_eq_nil_iff, List.length_zipIdx]

/-- The last input is that of the last bar. -/
theorem bar_of_getLast?_barInputs (h : (barInputs sqrt candles).getLast? = some b) :
    candles.getLast? = some b.bar := by
  rw [barInputs, List.getLast?_map, List.getLast?_drop, List.length_zipIdx] at h
  split at h
  · cases h
  · obtain ⟨c, hc, rfl⟩ := Option.map_eq_some_iff.1 h
    rw [List.getLast?_zipIdx] at hc
    obtain ⟨candle, hcandle, rfl⟩ := Option.map_eq_some_iff.1 hc
    exact hcandle

end Inputs

/-- What `run` returns in a state. -/
def BacktestState.outcome {μ : Type*} (s : BacktestState μ) : BacktestOutcome :=
  ⟨s.cash, s.closedTrades, s.equityCurve⟩

/-- `run`, on the candles of each symbol; `none` when it raises. -/
def BacktestConfig.run {μ : Type*} (cfg : BacktestConfig) (sqrt : ℚ → ℚ)
    (strategies : List (BacktestStrategy μ)) (m : μ) (candlesBySymbol : String → List Candle) :
    Option BacktestOutcome :=
  cfg.symbols.head?.bind fun primarySymbol =>
    let candles := candlesBySymbol primarySymbol
    (((cfg.simulator strategies).run (cfg.backtestStart m) (barInputs sqrt candles)).bind
      (cfg.closeAtEnd candles)).map BacktestState.outcome

end Sgr
