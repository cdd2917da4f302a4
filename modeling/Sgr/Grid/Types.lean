import Mathlib.Algebra.Order.Field.Rat
import Mathlib.Algebra.BigOperators.Group.List.Basic
import Sgr.Core.Types

/-!
# Grid types

The state of a futures grid (`sgr/core/grid_types.py`) as far as the grid controller
reads and writes it.
-/

namespace Sgr

inductive GridDirection
  | long
  | short
  | neutral
  deriving DecidableEq, Repr

inductive GridStatus
  | pending
  | active
  | paused
  | closing
  | closed
  | error
  deriving DecidableEq, Repr

/-- `GridLevelState`. -/
structure GridLevelState where
  index : ℕ
  price : ℚ
  isFilled : Bool := false
  cycleCount : ℕ := 0
  lastOrderId : Option String := none
  lastFilledAt : Option Timestamp := none
  quantity : ℚ := 0
  deriving DecidableEq, Repr

/-- The keys of the `parameters` of a grid that the controller and the risk engine of the
grids look up. -/
structure GridParameters where
  positionSize : ℚ := 0
  leverage : ℚ := 1
  gridLowerPrice : Option ℚ := none
  gridUpperPrice : Option ℚ := none
  takeProfit : Option ℚ := none
  stopLoss : Option ℚ := none
  /-- In seconds. -/
  maximumHoldingTime : Option ℤ := none
  totalNotional : Option ℚ := none
  deriving DecidableEq, Repr

/-- `GridState`. -/
structure GridState where
  id : UUID
  exchange : ExchangeID
  symbol : Symbol
  strategyName : String
  tradingMode : TradingMode
  direction : GridDirection
  status : GridStatus := .pending
  parameters : GridParameters := {}
  levels : List GridLevelState := []
  netPositionQty : ℚ := 0
  realizedPnl : ℚ := 0
  unrealizedPnl : ℚ := 0
  peakValue : ℚ := 0
  feesPaid : ℚ := 0
  fillsCount : ℕ := 0
  lastPrice : Option ℚ := none
  openedAt : Timestamp := 0
  closedAt : Option Timestamp := none
  closeReason : Option String := none
  deriving DecidableEq, Repr

namespace GridState

/-- `is_active`. -/
def isActive (g : GridState) : Bool := g.status = .pending || g.status = .active

/-- `side_factor`: every direction but `LONG` counts as short. -/
def sideFactor (g : GridState) : ℚ := if g.direction = .long then 1 else -1

/-- The grid with another level at a place of its list. -/
def setLevel (g : GridState) (i : ℕ) (l : GridLevelState) : GridState :=
  { g with levels := g.levels.set i l }

end GridState

/-- What the controller takes for zero: `Decimal("0.00000001")`. -/
def gridEpsilon : ℚ := 1 / 100000000

end Sgr
