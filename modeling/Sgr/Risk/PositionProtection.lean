import Mathlib.Algebra.Order.Field.Rat
import Sgr.Core.Types

/-!
# Position protection

`PositionProtectionManager` of `sgr/risk/position_protection.py`: the hook that
attaches exit prices and a holding deadline to a new position. Prices that the
strategy gives are used when they are plausible, otherwise those of the
configuration; then the cost guard keeps the target away from the entry.
-/

namespace Sgr

/-- The risk limits that the manager reads. -/
structure ProtectionLimits where
  protectionCutoverAt : Option Timestamp
  stopLossPct : ℚ
  takeProfitPct : ℚ
  maxHoldingMinutes : ℕ
  paperTakerFeePct : ℚ
  paperSlippagePct : ℚ
  deriving DecidableEq

/-- `_extract_strategy_prices`: the target and the stop of the strategy, when both
are positive and on the right sides of the entry. -/
def extractStrategyPrices (raw : RawResponse) (side : PositionSide) (entry : ℚ) :
    Option (ℚ × ℚ) :=
  match raw.targetPrice, raw.stopPrice with
  | some target, some stop =>
      if target ≤ 0 ∨ stop ≤ 0 then none
      else if side = .long then
        if stop < entry ∧ entry < target then some (target, stop) else none
      else if target < entry ∧ entry < stop then some (target, stop)
      else none
  | _, _ => none

/-- The target and the stop of the configuration. -/
def configPrices (limits : ProtectionLimits) (side : PositionSide) (entry : ℚ) : ℚ × ℚ :=
  if side = .long then
    (entry * (1 + limits.takeProfitPct), entry * (1 - limits.stopLossPct))
  else (entry * (1 - limits.takeProfitPct), entry * (1 + limits.stopLossPct))

/-- `_apply_cost_guard`: the target keeps the distance of a round trip's costs. -/
def applyCostGuard (limits : ProtectionLimits) (entry target : ℚ) (side : PositionSide) :
    ℚ :=
  let minDistance := entry * (2 * (limits.paperTakerFeePct + limits.paperSlippagePct))
  if side = .long then
    if target - entry < minDistance then entry + minDistance else target
  else if entry - target < minDistance then entry - minDistance
  else target

/-- `on_position_opened`: the position with its protection, `none` when it is not
protected. -/
def onPositionOpened (limits : ProtectionLimits) (p : Position) (raw : RawResponse) :
    Option Position :=
  match limits.protectionCutoverAt with
  | none => none
  | some cutover =>
      if p.openedAt < cutover then none
      else
        let prices := (extractStrategyPrices raw p.side p.entryPrice).getD
          (configPrices limits p.side p.entryPrice)
        some
          { p with
            stopLossPrice := some prices.2
            takeProfitPrice := some (applyCostGuard limits p.entryPrice prices.1 p.side)
            maxHoldingUntil := some (p.openedAt + 60 * limits.maxHoldingMinutes)
            entryRegime := raw.entryRegime }

/-- The protection changes neither what is held nor any order id. -/
theorem onPositionOpened_eq_some {limits : ProtectionLimits} {p q : Position}
    {raw : RawResponse} (h : onPositionOpened limits p raw = some q) :
    q.symbol = p.symbol ∧ q.side = p.side ∧ q.quantity = p.quantity ∧
      q.entryPrice = p.entryPrice ∧ q.slOrderId = p.slOrderId ∧ q.tpOrderId = p.tpOrderId := by
  unfold onPositionOpened at h
  split at h
  · cases h
  · split at h
    · cases h
    · cases h
      exact ⟨rfl, rfl, rfl, rfl, rfl, rfl⟩

end Sgr
