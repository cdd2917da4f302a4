import Mathlib.Algebra.Order.Field.Rat
import Sgr.Exchange.Answers

/-!
# The paper simulation

`_simulate_order` of `sgr/exchanges/ccxt_base.py`: a PAPER order is filled in full at
the price of the ticker, made worse by the slippage. Whether the order reduces a
position is not looked at.
-/

namespace Sgr

/-- The risk limits that the simulation reads. -/
structure PaperLimits where
  paperSlippagePct : ℚ := 5 / 10000
  paperTakerFeePct : ℚ := 5 / 10000
  paperMakerFeePct : ℚ := 2 / 10000
  deriving DecidableEq

/-- The simulated fill price; `none` when there is neither a ticker nor a limit price,
a limit price of zero counting as none. -/
def simulatedPrice (limits : PaperLimits) (o : OrderRequest) :
    Option Ticker → Option ℚ
  | some ticker =>
      some (match o.side with
        | .buy => ticker.ask * (1 + limits.paperSlippagePct)
        | .sell => ticker.bid * (1 - limits.paperSlippagePct))
  | none => o.limitPrice.filter fun price => price ≠ 0

/-- The fee rate of a simulated fill: fills of a grid level are those of a resting
order. -/
def simulatedFeeRate (limits : PaperLimits) (o : OrderRequest) : ℚ :=
  if o.metadata.gridFillType = some "level_cross" then limits.paperMakerFeePct
  else limits.paperTakerFeePct

/-- `_simulate_order`; `none` is the raised `ExchangeConnectionError`. -/
def simulateOrder (limits : PaperLimits) (o : OrderRequest) (ticker : Option Ticker) :
    Option OrderResult :=
  (simulatedPrice limits o ticker).map fun price =>
    { requestId := o.id
      exchangeOrderId := "PAPER-" ++ toString o.id
      symbol := o.symbol
      status := .filled
      filledQuantity := o.quantity
      averageFillPrice := some price
      fees := o.quantity * price * simulatedFeeRate limits o
      tradingMode := .paper
      rawResponse := { side := some o.side.value } }

/-- A simulated fill is that of the whole order. -/
theorem simulateOrder_eq_some {limits : PaperLimits} {o : OrderRequest}
    {ticker : Option Ticker} {r : OrderResult} (h : simulateOrder limits o ticker = some r) :
    r.status = .filled ∧ r.filledQuantity = o.quantity ∧ r.symbol = o.symbol ∧
      r.rawResponse.side = some o.side.value := by
  obtain ⟨price, -, rfl⟩ := Option.map_eq_some_iff.1 h
  exact ⟨rfl, rfl, rfl, rfl⟩

end Sgr
