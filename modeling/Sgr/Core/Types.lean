import Mathlib.Data.Rat.Defs

/-!
# Domain types

The value objects of `sgr/core/types.py` that the modelled functions read and
write. Decimals are rationals, identifiers and time stamps are numbers. The
free-form dictionaries of the source (`metadata`, `raw_response`) are records
with one optional field for each key that some modelled function looks up.
-/

namespace Sgr

/-- A UUID; only equality is used. -/
abbrev UUID := ℕ

/-- A point in time, in seconds. -/
abbrev Timestamp := ℤ

inductive TradingMode
  | paper
  | live
  deriving DecidableEq, Repr

/-- `TradingMode.value`. -/
def TradingMode.value : TradingMode → String
  | .paper => "paper"
  | .live => "live"

inductive ExchangeID
  | binance
  | pionex
  | bybit
  | okx
  | kraken
  deriving DecidableEq, Repr

/-- `ExchangeID.value`. -/
def ExchangeID.value : ExchangeID → String
  | .binance => "binance"
  | .pionex => "pionex"
  | .bybit => "bybit"
  | .okx => "okx"
  | .kraken => "kraken"

inductive AssetClass
  | spot
  | futures
  | options
  deriving DecidableEq, Repr

inductive Side
  | buy
  | sell
  deriving DecidableEq, Repr

/-- `Side.value`. -/
def Side.value : Side → String
  | .buy => "buy"
  | .sell => "sell"

inductive OrderType
  | market
  | limit
  | stopMarket
  | stopLimit
  | takeProfitMarket
  | twap
  deriving DecidableEq, Repr

/-- `OrderType.value`. -/
def OrderType.value : OrderType → String
  | .market => "market"
  | .limit => "limit"
  | .stopMarket => "stop_market"
  | .stopLimit => "stop_limit"
  | .takeProfitMarket => "take_profit_market"
  | .twap => "twap"

inductive OrderStatus
  | pending
  | submitted
  | partiallyFilled
  | filled
  | cancelled
  | rejected
  | expired
  deriving DecidableEq, Repr

/-- `OrderStatus.value`. -/
def OrderStatus.value : OrderStatus → String
  | .pending => "pending"
  | .submitted => "submitted"
  | .partiallyFilled => "partially_filled"
  | .filled => "filled"
  | .cancelled => "cancelled"
  | .rejected => "rejected"
  | .expired => "expired"

inductive PositionSide
  | long
  | short
  | flat
  deriving DecidableEq, Repr

inductive MarketRegime
  | trendingUp
  | trendingDown
  | ranging
  | breakout
  | highVolatility
  | lowVolatility
  | crisis
  | unknown
  deriving DecidableEq, Repr

inductive ExitReason
  | stopLoss
  | takeProfit
  | regimeChange
  | maxHoldingTime
  | strategySignal
  | killSwitch
  | manual
  deriving DecidableEq, Repr

/-- A trading pair on an exchange. -/
structure Symbol where
  base : String
  quote : String
  exchange : ExchangeID
  assetClass : AssetClass
  deriving DecidableEq, Repr

namespace Symbol

/-- `Symbol.ccxt_symbol`. -/
def ccxtSymbol (s : Symbol) : String := s.base ++ "/" ++ s.quote

/-- `str(symbol)`: the asset class is not part of it. -/
def str (s : Symbol) : String := s.base ++ "/" ++ s.quote ++ ":" ++ s.exchange.value

end Symbol

/-- `Candle`. -/
structure Candle where
  symbol : Symbol
  timestamp : Timestamp
  timeframe : String
  openPrice : ℚ
  high : ℚ
  low : ℚ
  closePrice : ℚ
  volume : ℚ := 0
  /-- `high_gte_low`. -/
  highGteLow : low ≤ high
  deriving DecidableEq

/-- The keys of `OrderRequest.metadata` that are looked up. -/
structure OrderMetadata where
  strategy : Option String := none
  exitReason : Option ExitReason := none
  targetPrice : Option ℚ := none
  stopPrice : Option ℚ := none
  entryRegime : Option MarketRegime := none
  gridId : Option UUID := none
  gridLevelIndex : Option ℕ := none
  targetLeverage : Option ℚ := none
  gridFillType : Option String := none
  deriving DecidableEq, Repr

/-- What the execution engine receives. -/
structure OrderRequest where
  id : UUID
  signalId : UUID
  symbol : Symbol
  side : Side
  orderType : OrderType
  quantity : ℚ
  limitPrice : Option ℚ := none
  stopPrice : Option ℚ := none
  tradingMode : TradingMode
  reduceOnly : Bool := false
  metadata : OrderMetadata := {}
  deriving DecidableEq, Repr

/-- The keys of `OrderResult.raw_response` that are looked up. -/
structure RawResponse where
  side : Option String := none
  duplicate : Bool := false
  duplicateSource : Option String := none
  unknown : Bool := false
  error : Option String := none
  rejectionReason : Option String := none
  strategy : Option String := none
  exitReason : Option ExitReason := none
  targetPrice : Option ℚ := none
  stopPrice : Option ℚ := none
  entryRegime : Option MarketRegime := none
  deriving DecidableEq, Repr

/-- What the exchange answers to an order. -/
structure OrderResult where
  requestId : UUID
  exchangeOrderId : String
  symbol : Symbol
  status : OrderStatus
  filledQuantity : ℚ := 0
  averageFillPrice : Option ℚ := none
  fees : ℚ := 0
  tradingMode : TradingMode
  rawResponse : RawResponse := {}
  deriving DecidableEq, Repr

/-- What `execute` answers: a result, or an exception that reaches the caller. -/
inductive ExecuteAnswer
  | returned (r : OrderResult)
  | raised
  deriving DecidableEq

/-- `execute` as its callers see it: an order and `bypass_kill_switch`. -/
abbrev Execute := OrderRequest → Bool → ExecuteAnswer

/-- An open position. -/
structure Position where
  id : UUID
  symbol : Symbol
  side : PositionSide
  quantity : ℚ
  entryPrice : ℚ
  currentPrice : ℚ
  leverage : ℚ := 1
  unrealizedPnl : ℚ := 0
  realizedPnl : ℚ := 0
  openedAt : Timestamp
  strategyName : String
  tradingMode : TradingMode
  stopLossPrice : Option ℚ := none
  takeProfitPrice : Option ℚ := none
  maxHoldingUntil : Option Timestamp := none
  slOrderId : Option String := none
  tpOrderId : Option String := none
  entryRegime : Option MarketRegime := none
  deriving DecidableEq, Repr

namespace Position

/-- `Position.notional_value`. -/
def notionalValue (p : Position) : ℚ := p.quantity * p.currentPrice

end Position

/-- The order side that closes a position: `SELL` for a long position, `BUY`
otherwise. -/
def PositionSide.closeSide : PositionSide → Side
  | .long => .sell
  | _ => .buy

/-- The pair of the examples. -/
def btcUsdt : Symbol := ⟨"BTC", "USDT", .binance, .futures⟩

/-- The market orders of the examples. -/
def OrderRequest.market (id : UUID) (side : Side) (quantity : ℚ) (mode : TradingMode) :
    OrderRequest where
  id := id
  signalId := 0
  symbol := btcUsdt
  side := side
  orderType := .market
  quantity := quantity
  tradingMode := mode

/-- The closing orders of the examples. -/
def OrderRequest.closing (id : UUID) (side : Side) (quantity : ℚ) (mode : TradingMode) :
    OrderRequest :=
  { OrderRequest.market id side quantity mode with reduceOnly := true }

/-- The side of the position that a fill opens. -/
def Side.opens : Side → PositionSide
  | .buy => .long
  | .sell => .short

/-- A chain of checks that ends well has passed its first check. -/
theorem bind_eq_ok_iff {ε α β : Type*} {x : Except ε α} {f : α → Except ε β} {b : β} :
    x.bind f = .ok b ↔ ∃ a, x = .ok a ∧ f a = .ok b := by
  cases x with
  | error e => simp [Except.bind]
  | ok a => simp [Except.bind]

theorem map_eq_ok_iff {ε α β : Type*} {x : Except ε α} {f : α → β} {b : β} :
    x.map f = .ok b ↔ ∃ a, x = .ok a ∧ b = f a := by
  cases x with
  | error e => simp [Except.map]
  | ok a =>
      simp only [Except.map, Except.ok.injEq, exists_eq_left']
      exact eq_comm

theorem mapError_eq_ok_iff {ε ε' α : Type*} {x : Except ε α} {f : ε → ε'} {a : α} :
    x.mapError f = .ok a ↔ x = .ok a := by
  cases x with
  | error e => simp [Except.mapError]
  | ok a => simp [Except.mapError]

end Sgr
