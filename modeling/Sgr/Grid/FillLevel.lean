import Sgr.Grid.Types
import Sgr.Risk.LiveGates

/-!
# Filling a level of a grid

`_fill_level` and `_update_mark_to_market` of `sgr/execution/grid_controller.py`. A
level is opened with a quantity from the position size and closed with the quantity it
holds; what is booked is what the order has filled.
-/

namespace Sgr

/-- What a call of `_fill_level` takes from outside: the id of its order, the time, the
answer of the rate limiter and the engine. -/
structure LevelCall where
  id : UUID
  now : Timestamp
  allowed : Bool := true
  execute : Execute

/-- The fill type of a level that the price has crossed. -/
def gridFillTypeLevelCross : String := "level_cross"

/-- The fill type of a level that a closing grid gives up. -/
def gridFillTypeForceExit : String := "force_exit"

/-- The quantity that is ordered for a level; without one nothing is ordered. -/
def fillQuantity (g : GridState) (l : GridLevelState) (price : ℚ) (opening : Bool) :
    Option ℚ :=
  if opening then
    if g.parameters.positionSize ≤ 0 then none
    else some (g.parameters.positionSize / price)
  else if l.quantity ≤ 0 then none
  else some l.quantity

/-- The order for a level. -/
def levelOrder (g : GridState) (l : GridLevelState) (price : ℚ) (opening : Bool)
    (fillType : String) (id : UUID) : Option OrderRequest :=
  (fillQuantity g l price opening).map fun quantity =>
    { id := id
      signalId := id
      symbol := g.symbol
      side := if opening = decide (g.direction = .long) then .buy else .sell
      orderType := .market
      quantity := quantity
      tradingMode := g.tradingMode
      reduceOnly := !opening
      metadata :=
        { strategy := some g.strategyName
          gridId := some g.id
          gridLevelIndex := some l.index
          targetLeverage := some g.parameters.leverage
          gridFillType := some fillType } }

/-- The quantity of a result that counts as a fill. -/
def acceptedFill (r : OrderResult) : Option ℚ :=
  if r.status ≠ .filled ∧ r.status ≠ .partiallyFilled then none
  else if r.filledQuantity ≤ 0 then none
  else some r.filledQuantity

/-- `_update_mark_to_market`. -/
def updateMarkToMarket (g : GridState) (price : ℚ) : GridState :=
  let unrealized := (g.levels.map fun l =>
    if !l.isFilled ∨ l.quantity ≤ 0 then 0
    else (price - l.price) * l.quantity * g.sideFactor).sum
  { g with
    unrealizedPnl := unrealized
    peakValue :=
      if g.peakValue < g.realizedPnl + unrealized then g.realizedPnl + unrealized
      else g.peakValue }

/-- The profit of a closing fill. -/
def cyclePnl (g : GridState) (l : GridLevelState) (price quantity : ℚ) (r : OrderResult) :
    ℚ :=
  (price - l.price) * quantity * g.sideFactor - r.fees

/-- A level after a fill that opens it. -/
def openedLevel (l : GridLevelState) (quantity : ℚ) : GridLevelState :=
  { l with isFilled := true, cycleCount := l.cycleCount + 1, quantity := quantity }

/-- A level after a fill that closes it, or a part of it. -/
def closedLevel (l : GridLevelState) (quantity : ℚ) : GridLevelState :=
  if l.quantity - quantity ≤ gridEpsilon then { l with isFilled := false, quantity := 0 }
  else { l with isFilled := true, quantity := l.quantity - quantity }

/-- `_fill_level` after the ledger is written, up to the persistence of the grid. -/
def bookFill (g : GridState) (i : ℕ) (l : GridLevelState) (price : ℚ) (opening : Bool)
    (quantity : ℚ) (r : OrderResult) (now : Timestamp) : GridState :=
  let l' := { l with lastOrderId := some r.exchangeOrderId, lastFilledAt := some now }
  if opening then
    { g.setLevel i (openedLevel l' quantity) with
      fillsCount := g.fillsCount + 1
      feesPaid := g.feesPaid + r.fees
      netPositionQty := g.netPositionQty + g.sideFactor * quantity }
  else
    { g.setLevel i (closedLevel l' quantity) with
      fillsCount := g.fillsCount + 1
      feesPaid := g.feesPaid + r.fees
      netPositionQty := g.netPositionQty - g.sideFactor * quantity
      realizedPnl := g.realizedPnl + cyclePnl g l price quantity r }

/-- A grid that is worked on, with the verification gate of its controller. -/
structure GridWork where
  grid : GridState
  gate : Option LiveVerificationState

/-- `_fill_level` after `execute` has returned. -/
def fillResult (w : GridWork) (i : ℕ) (l : GridLevelState) (price : ℚ) (opening : Bool)
    (r : OrderResult) (now : Timestamp) : GridWork :=
  match acceptedFill r with
  | none => w
  | some quantity =>
      { grid := updateMarkToMarket (bookFill w.grid i l price opening quantity r now) price
        gate :=
          if !opening ∧ r.tradingMode = .live then
            w.gate.map fun gate =>
              gate.recordRealizedLoss (-cyclePnl w.grid l price quantity r)
          else w.gate }

/-- `_fill_level` for the level at place `i`; the flag says that an exception has left
it. The kill switch is not bypassed. -/
def fillLevel (w : GridWork) (i : ℕ) (price : ℚ) (opening : Bool) (fillType : String)
    (call : LevelCall) : GridWork × Bool :=
  match w.grid.levels[i]? with
  | none => (w, false)
  | some l =>
      match levelOrder w.grid l price opening fillType call.id with
      | none => (w, false)
      | some o =>
          if !call.allowed then (w, false)
          else
            match call.execute o false with
            | .raised => (w, true)
            | .returned r => (fillResult w i l price opening r call.now, false)

end Sgr
