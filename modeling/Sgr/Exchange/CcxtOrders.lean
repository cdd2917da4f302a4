import Mathlib.Algebra.Order.Field.Rat
import Sgr.Core.Types

/-!
# Orders as ccxt reports them

`_parse_order_result` of `sgr/exchanges/ccxt_base.py`, which turns the order dictionary
of ccxt into an `OrderResult`, and the order on the exchange that such a dictionary
describes.
-/

namespace Sgr

/-- The keys of an order dictionary that are looked up. -/
structure RawOrder where
  id : String := ""
  clientOrderId : Option String := none
  status : Option String := none
  side : Option String := none
  amount : Option ℚ := none
  filled : Option ℚ := none
  average : Option ℚ := none
  price : Option ℚ := none
  feeCost : Option ℚ := none
  deriving DecidableEq, Repr

/-- `status_map`; an unknown status counts as open. -/
def statusMap : String → OrderStatus
  | "open" => .submitted
  | "closed" => .filled
  | "canceled" => .cancelled
  | "cancelled" => .cancelled
  | "rejected" => .rejected
  | "expired" => .expired
  | "partially_filled" => .partiallyFilled
  | _ => .submitted

/-- `(raw.get("status") or "open").lower()`. -/
def RawOrder.statusText (raw : RawOrder) : String :=
  match raw.status with
  | none | some "" => "open"
  | some text => text.toLower

/-- `_parse_order_result`. -/
def parseOrderResult (mode : TradingMode) (raw : RawOrder) (request : OrderRequest) :
    OrderResult :=
  let amount := raw.amount.getD 0
  let filled := raw.filled.getD 0
  { requestId := request.id
    exchangeOrderId := raw.id
    symbol := request.symbol
    status :=
      if 0 < filled ∧ filled < amount then .partiallyFilled else statusMap raw.statusText
    filledQuantity := filled
    averageFillPrice :=
      (raw.average.filter fun price => price ≠ 0).or (raw.price.filter fun price => price ≠ 0)
    fees := raw.feeCost.getD 0
    tradingMode := mode
    rawResponse := { side := raw.side } }

/-- The states of an order on the exchange. -/
inductive BookStatus
  | open
  | closed
  | canceled
  | rejected
  | expired
  deriving DecidableEq, Repr

/-- The status as ccxt spells it. -/
def BookStatus.text : BookStatus → String
  | .open => "open"
  | .closed => "closed"
  | .canceled => "canceled"
  | .rejected => "rejected"
  | .expired => "expired"

/-- An order on the exchange. -/
structure BookOrder where
  id : String
  clientOrderId : String
  side : Side
  amount : ℚ
  filled : ℚ := 0
  average : Option ℚ := none
  price : Option ℚ := none
  feeCost : ℚ := 0
  status : BookStatus := .open
  deriving DecidableEq, Repr

namespace BookOrder

/-- The dictionary that a request for the order answers with. -/
def raw (b : BookOrder) : RawOrder where
  id := b.id
  clientOrderId := some b.clientOrderId
  status := some b.status.text
  side := some b.side.value
  amount := some b.amount
  filled := some b.filled
  average := b.average
  price := b.price
  feeCost := some b.feeCost

/-- A trade of the order. -/
def fill (b : BookOrder) (quantity : ℚ) : BookOrder :=
  { b with
    filled := b.filled + quantity
    status := if b.filled + quantity = b.amount then .closed else .open }

/-- The order trades no more. -/
def finish (b : BookOrder) (status : BookStatus) : BookOrder := { b with status := status }

@[simp] theorem fill_filled (b : BookOrder) (quantity : ℚ) :
    (b.fill quantity).filled = b.filled + quantity := rfl

@[simp] theorem finish_filled (b : BookOrder) (status : BookStatus) :
    (b.finish status).filled = b.filled := rfl

/-- The exchange writes its statuses in lower case. -/
@[simp] theorem statusText_raw (b : BookOrder) : b.raw.statusText = b.status.text := by
  have htext (status : BookStatus) : RawOrder.statusText { status := some status.text } =
      status.text := by
    cases status <;> decide +kernel
  exact htext b.status

/-- What is parsed of an answer is what the exchange had filled when it answered. -/
@[simp] theorem parseOrderResult_raw_filledQuantity (mode : TradingMode) (b : BookOrder)
    (request : OrderRequest) : (parseOrderResult mode b.raw request).filledQuantity = b.filled :=
  rfl

end BookOrder

end Sgr
