import Mathlib.Tactic.NormNum
import Sgr.Grid.Types

/-!
# The risk engine of the grids

`check_ongoing_grid` of `sgr/risk/grid_risk.py`: what speaks against an active grid at a
price. Every violation that it reports is a hard one, for which its caller has to close the
grid.
-/

namespace Sgr

/-- The limits of `GridRiskLimitsConfig` that an active grid is checked against. -/
structure GridRiskLimits where
  maxGridLossUsd : ℚ := 100
  maxFundingCostPct : ℚ := 8 / 10000
  maxVolatilityAtrPct : ℚ := 8 / 100
  rangeBreakoutBufferFactor : ℚ := 1 / 2
  maxGridLossUsd_pos : 0 < maxGridLossUsd := by norm_num
  rangeBreakoutBufferFactor_nonneg : 0 ≤ rangeBreakoutBufferFactor := by norm_num

inductive ViolationSeverity
  | hard
  | soft
  deriving DecidableEq, Repr

/-- `GridViolation`. -/
structure GridViolation where
  code : String
  severity : ViolationSeverity := .hard
  deriving DecidableEq, Repr

/-- What a check of a grid takes from the market. -/
structure GridMarket where
  price : ℚ
  fundingRateAnnualizedPct : Option ℚ := none
  volatilityAtrPct : Option ℚ := none
  now : Timestamp

namespace GridState

variable (g : GridState)

/-- The price has come to a target that lies below it for the direction `down` and above it
for the direction `up`. -/
def hits (target : Option ℚ) (down up : GridDirection) (price : ℚ) : Bool :=
  target.any fun target =>
    (g.direction = down && decide (price ≤ target)) ||
      (g.direction = up && decide (target ≤ price))

/-- The price has come to the stop-loss. -/
def hitsStopLoss (price : ℚ) : Bool := g.hits g.parameters.stopLoss .long .short price

/-- The price has come to the take-profit. -/
def hitsTakeProfit (price : ℚ) : Bool := g.hits g.parameters.takeProfit .short .long price

/-- The price has left the range of the grid by more than the buffer. -/
def breaksOut (limits : GridRiskLimits) (price : ℚ) : Bool :=
  match g.parameters.gridLowerPrice, g.parameters.gridUpperPrice with
  | some lower, some upper =>
      let buffer := (upper - lower) * limits.rangeBreakoutBufferFactor
      decide (price < lower - buffer) || decide (upper + buffer < price)
  | _, _ => false

/-- The grid has been held for as long as it may be. -/
def isOverdue (now : Timestamp) : Bool :=
  g.parameters.maximumHoldingTime.any fun time => decide (time ≤ now - g.openedAt)

end GridState

/-- A hard violation, where there is one. -/
def violationIf (violated : Bool) (code : String) : List GridViolation :=
  if violated then [⟨code, .hard⟩] else []

/-- `check_ongoing_grid`. -/
def checkOngoingGrid (limits : GridRiskLimits) (g : GridState) (m : GridMarket) :
    List GridViolation :=
  violationIf (g.realizedPnl < -limits.maxGridLossUsd) "max_grid_loss_exceeded" ++
  violationIf (g.hitsStopLoss m.price) "stop_loss_hit" ++
  violationIf (g.hitsTakeProfit m.price) "take_profit_hit" ++
  violationIf (m.fundingRateAnnualizedPct.any fun rate =>
    limits.maxFundingCostPct * 100 * 3 * 365 < |rate|) "funding_cost_limit_exceeded" ++
  violationIf (m.volatilityAtrPct.any fun atr => limits.maxVolatilityAtrPct < atr)
    "volatility_limit_exceeded" ++
  violationIf (g.breaksOut limits m.price) "range_breakout" ++
  violationIf (g.isOverdue m.now) "max_holding_time_exceeded"

/-- `hard_violations` of `monitor_grids`. -/
def hardViolations (limits : GridRiskLimits) (g : GridState) (m : GridMarket) :
    List GridViolation :=
  (checkOngoingGrid limits g m).filter fun v => v.severity = .hard

/-- The reason with which `monitor_grids` closes a grid. -/
def exitReason (limits : GridRiskLimits) (m : GridMarket) (g : GridState) : Option String :=
  if (hardViolations limits g m).isEmpty then none
  else some (";".intercalate ((hardViolations limits g m).map GridViolation.code))

theorem severity_of_mem_violationIf {violated : Bool} {code : String} {v : GridViolation}
    (h : v ∈ violationIf violated code) : v.severity = .hard := by
  unfold violationIf at h
  split at h
  · rw [List.mem_singleton.1 h]
  · cases h

/-- No violation is passed over. -/
theorem hardViolations_eq (limits : GridRiskLimits) (g : GridState) (m : GridMarket) :
    hardViolations limits g m = checkOngoingGrid limits g m := by
  apply List.filter_eq_self.2
  intro v hv
  simp only [checkOngoingGrid, List.mem_append] at hv
  apply decide_eq_true
  rcases hv with (((((hv | hv) | hv) | hv) | hv) | hv) | hv <;>
    exact severity_of_mem_violationIf hv

end Sgr
