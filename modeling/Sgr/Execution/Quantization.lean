import Mathlib.Algebra.Order.Field.Rat
import Sgr.Exchange.Answers

/-!
# Quantisation of quantities and prices

`sgr/execution/quantization.py`: a quantity is rounded down to the precision of the
exchange and then checked against its limits; a limit price is rounded so that the
order never becomes more aggressive.
-/

namespace Sgr

/-- The step of a precision, `Decimal("1").scaleb(-places)`. -/
def step (places : ℤ) : ℚ := (10 : ℚ) ^ (-places)

/-- `quantize(step, rounding=ROUND_DOWN)`, towards zero. -/
def roundDown (places : ℤ) (q : ℚ) : ℚ :=
  if 0 ≤ q then (q / step places).floor * step places
  else (q / step places).ceil * step places

/-- `quantize(step, rounding=ROUND_UP)`, away from zero. -/
def roundUp (places : ℤ) (q : ℚ) : ℚ :=
  if 0 ≤ q then (q / step places).ceil * step places
  else (q / step places).floor * step places

/-- `quantize` raises `InvalidOperation`: the rounded value has more digits than the context
allows. -/
def exceedsPrecision (places : ℤ) (rounded : ℚ) : Bool :=
  10 ^ 28 * step places ≤ |rounded|

/-- A value is below a bound that is given. -/
def below (q : ℚ) (bound : Option ℚ) : Bool := bound.any fun b => q < b

/-- A value is above a bound that is given. -/
def above (q : ℚ) (bound : Option ℚ) : Bool := bound.any fun b => b < q

/-- The text of an optional number. -/
def optionText : Option ℚ → String
  | none => "None"
  | some q => toString q

/-- The text of an optional precision. -/
def precisionText : Option ℤ → String
  | none => "None"
  | some n => toString n

/-- `quantize_and_validate`. -/
def quantizeAndValidate (quantity price : ℚ) :
    Option SymbolLimits → ℚ × Option String
  | none => (quantity, none)
  | some limits =>
      let quantized := match limits.amountPrecision with
        | some places => roundDown places quantity
        | none => quantity
      if quantized ≤ 0 then
        (0, some ("Quantity " ++ toString quantity ++
          " rounds down to 0 at exchange precision " ++
          precisionText limits.amountPrecision))
      else if below quantized limits.minAmount then
        (0, some ("Quantity " ++ toString quantized ++ " below exchange minimum amount " ++
          optionText limits.minAmount))
      else if above quantized limits.maxAmount then
        (0, some ("Quantity " ++ toString quantized ++
          " exceeds exchange maximum amount " ++ optionText limits.maxAmount))
      else if 0 < price && below (quantized * price) limits.minNotional then
        (0, some ("Notional " ++ toString (quantized * price) ++
          " below exchange minimum notional " ++ optionText limits.minNotional ++
          " for quantity " ++ toString quantized ++ " at price " ++ toString price))
      else (quantized, none)

/-- `quantize_and_validate` raises. -/
def quantityRaises (quantity : ℚ) (limits : SymbolLimits) : Bool :=
  limits.amountPrecision.any fun places =>
    exceedsPrecision places (roundDown places quantity)

/-- `quantize_price`. -/
def quantizePrice (price : ℚ) (side : Side) : Option SymbolLimits → ℚ × Option String
  | none => (price, none)
  | some limits =>
      let quantized := match limits.pricePrecision, side with
        | some places, .buy => roundDown places price
        | some places, .sell => roundUp places price
        | none, _ => price
      if quantized ≤ 0 then
        (0, some ("Price " ++ toString price ++ " rounds to " ++ toString quantized ++
          " at exchange precision " ++ precisionText limits.pricePrecision))
      else if below quantized limits.minPrice then
        (0, some ("Price " ++ toString quantized ++ " below exchange minimum price " ++
          optionText limits.minPrice))
      else if above quantized limits.maxPrice then
        (0, some ("Price " ++ toString quantized ++ " exceeds exchange maximum price " ++
          optionText limits.maxPrice))
      else (quantized, none)

/-- `quantize_price` raises. -/
def priceRaises (price : ℚ) (side : Side) (limits : SymbolLimits) : Bool :=
  limits.pricePrecision.any fun places =>
    exceedsPrecision places (match side with
      | .buy => roundDown places price
      | .sell => roundUp places price)

end Sgr
