import Sgr.Arithmetic.Decimal
import Sgr.Grid.Tasks

/-!
# The parameters of a grid

`FuturesGridParameters` of `sgr/core/grid_types.py`, and the grid that `open_grid` builds
from them.
-/

open Arithmetic

namespace Sgr

inductive GridSpacingMode
  | arithmetic
  | geometric
  deriving DecidableEq, Repr

/-- `FuturesGridParameters`, with what `__post_init__` checks. -/
structure FuturesGridParameters where
  gridLowerPrice : ℚ
  gridUpperPrice : ℚ
  gridCount : ℕ
  longOrShort : GridDirection
  leverage : ℚ := 1
  gridMode : GridSpacingMode := .arithmetic
  gridSpacing : Option ℚ := none
  positionSize : ℚ := 0
  takeProfit : Option ℚ := none
  stopLoss : Option ℚ := none
  /-- In seconds. -/
  maximumHoldingTime : Option ℤ := none
  lower_pos : 0 < gridLowerPrice
  lower_lt_upper : gridLowerPrice < gridUpperPrice
  two_le_gridCount : 2 ≤ gridCount
  one_le_leverage : 1 ≤ leverage
  not_neutral : longOrShort ≠ .neutral

theorem GridDirection.long_ne_neutral : GridDirection.long ≠ .neutral := by decide

namespace FuturesGridParameters

/-- The default of `leverage` passes its check. -/
theorem one_le_default : (1 : ℚ) ≤ 1 := le_rfl

/-- `compute_levels`. The powers of the ratio of a geometric grid are computed in floats:
`ratioPower (hi / lo) (n - 1) i` is `Decimal(str(ratio ** i))`. -/
def computeLevels (ratioPower : ℚ → ℕ → ℕ → ℚ) (p : FuturesGridParameters) : List ℚ :=
  (List.range p.gridCount).map fun i =>
    Arithmetic.quantized 8
      (match p.gridMode with
        | .geometric =>
            p.gridLowerPrice *
              ratioPower (p.gridUpperPrice / p.gridLowerPrice) (p.gridCount - 1) i
        | .arithmetic =>
            p.gridLowerPrice + (p.gridUpperPrice - p.gridLowerPrice) / (p.gridCount - 1) * i)

/-- `effective_grid_spacing`. -/
def effectiveGridSpacing (ratioPower : ℚ → ℕ → ℕ → ℚ) (p : FuturesGridParameters) : ℚ :=
  p.gridSpacing.getD
    (match p.computeLevels ratioPower with
      | lower :: upper :: _ => upper - lower
      | _ => 0)

/-- `total_notional`. -/
def totalNotional (p : FuturesGridParameters) : ℚ := p.positionSize * p.gridCount

/-- The `parameters` of the grid. A target or a stop of zero counts as none. -/
def stored (p : FuturesGridParameters) : GridParameters where
  positionSize := p.positionSize
  leverage := p.leverage
  gridLowerPrice := some p.gridLowerPrice
  gridUpperPrice := some p.gridUpperPrice
  takeProfit := p.takeProfit.filter fun x => x ≠ 0
  stopLoss := p.stopLoss.filter fun x => x ≠ 0
  maximumHoldingTime := p.maximumHoldingTime
  totalNotional := some p.totalNotional

end FuturesGridParameters

/-- What `_build_grid_state` takes from a parameter set. -/
def GridPlan.withParameters (plan : GridPlan) (ratioPower : ℚ → ℕ → ℕ → ℚ)
    (p : FuturesGridParameters) : GridPlan :=
  { plan with
    direction := p.longOrShort
    parameters := p.stored
    prices := p.computeLevels ratioPower }

end Sgr
