import Sgr.Core.Types

/-!
# What an exchange adapter answers

The answers of `sgr/exchanges/base.py` that the execution engine reads. An adapter
either answers or raises an `ExchangeError`; an exception of another class is an
event of its own where it matters. Numbers in texts are written as Lean writes
rationals.
-/

namespace Sgr

/-- A raised `ExchangeError`: the name of its class and its text. -/
structure ExchangeError where
  typeName : String
  text : String
  deriving DecidableEq, Repr

/-- `isinstance(e, NotSupportedFeatureError)`. -/
def ExchangeError.isNotSupported (e : ExchangeError) : Bool :=
  e.typeName == "NotSupportedFeatureError"

/-- `SymbolLimits`: a missing value means that the exchange does not report it. -/
structure SymbolLimits where
  amountPrecision : Option ℤ := none
  pricePrecision : Option ℤ := none
  minAmount : Option ℚ := none
  maxAmount : Option ℚ := none
  minNotional : Option ℚ := none
  minPrice : Option ℚ := none
  maxPrice : Option ℚ := none
  deriving DecidableEq, Repr

/-- `ExchangeInfo`; symbols and limits are keyed by the ccxt symbol. -/
structure ExchangeInfo where
  exchangeId : ExchangeID
  symbols : List String
  symbolLimits : String → Option SymbolLimits

/-- An exchange that reports no limits. -/
def ExchangeInfo.unlimited (id : ExchangeID) (symbols : List String) : ExchangeInfo :=
  ⟨id, symbols, fun _ => none⟩

/-- `MarketStatus`. -/
structure MarketStatus where
  isOnline : Bool
  rawStatus : String
  deriving DecidableEq, Repr

/-- The two prices of a `Ticker` that orders are checked with. -/
structure Ticker where
  bid : ℚ
  ask : ℚ
  deriving DecidableEq, Repr

/-- The price a market order of the given side is expected to meet. -/
def Ticker.price (t : Ticker) : Side → ℚ
  | .buy => t.ask
  | .sell => t.bid

end Sgr
