import Mathlib.Tactic.Linarith
import Sgr.Exchange.PaperAdapter
import Sgr.Grid.Parameters
import Sgr.Risk.GridRisk

/-!
# The approval of a new grid

`evaluate_new_grid` of `sgr/risk/grid_risk.py`: a chain of checks of which the first that
fails rejects the proposal; an exception rejects it as well. The cap that is a share of the
portfolio value is looked at only where the value is positive. The other caps bound what is
open together with the new grid, whatever the value is.
-/

namespace Sgr

/-- The limits of `GridRiskLimitsConfig` that a new grid is checked against. -/
structure GridOpeningLimits extends GridRiskLimits where
  maxGridExposureUsd : ℚ := 500
  maxGridPositionUsd : ℚ := 2000
  maxOpenGrids : ℕ := 3
  maxGridOrders : ℕ := 20
  maxLiquidationDistancePct : ℚ := 15 / 100
  maxLeverage : ℚ := 5
  minLiquidityUsd : ℚ := 100000
  costGuardSafetyMargin : ℚ := 3 / 2
  maxFundingShareOfCycleEdge : ℚ := 1 / 2
  maxCombinedExposureUsd : Option ℚ := none
  maxTotalExposurePct : Option ℚ := none

/-- `GridPortfolioSnapshot`. -/
structure GridPortfolioSnapshot where
  openGrids : List GridState
  portfolioValue : ℚ

/-- Why a grid is rejected, with the figures of the message. -/
inductive GridRejection
  | tooManyGrids (opened most : ℕ)
  | leverage (leverage most : ℚ)
  | tooManyOrders (count most : ℕ)
  | gridNotional (notional most : ℚ)
  | gridExposure (total most existing : ℚ)
  | exposureUnknown
  | combinedExposure (grids directional most : ℚ)
  | illiquid (liquidity least : ℚ)
  | fundingRate (rate most : ℚ)
  | volatility (atr most : ℚ)
  | liquidationDistance (distance leverage least : ℚ)
  | spacingBelowCosts (spacing required : ℚ)
  | fundingCosts (perInterval share spacing : ℚ)
  /-- An exception. -/
  | error
  deriving DecidableEq, Repr

/-- `GridRiskAssessment`; the warnings are the funding rates that come near to their limit. -/
structure GridRiskAssessment where
  approved : Bool
  reason : Option GridRejection := none
  warnings : List ℚ := []
  deriving DecidableEq, Repr

/-- What a proposal is evaluated with. -/
structure GridProposal where
  parameters : FuturesGridParameters
  currentPrice : ℚ
  liquidityUsd : Option ℚ := none
  fundingRateAnnualizedPct : Option ℚ := none
  volatilityAtrPct : Option ℚ := none
  directionalExposureUsd : Option ℚ := none

/-- A check that rejects. -/
def rejectIf (violated : Prop) [Decidable violated] (reason : GridRejection) :
    Option GridRejection :=
  if violated then some reason else none

namespace GridPortfolioSnapshot

variable (s : GridPortfolioSnapshot)

def activeGrids : List GridState := s.openGrids.filter GridState.isActive

/-- `existing_exposure`. -/
def existingExposure : ℚ :=
  (s.activeGrids.map fun g => g.parameters.totalNotional.getD 0).sum

end GridPortfolioSnapshot

namespace GridOpeningLimits

variable (limits : GridOpeningLimits)

/-- `dynamic_max_usd`. -/
def dynamicMaxUsd (portfolioValue : ℚ) : Option ℚ :=
  limits.maxTotalExposurePct.bind fun pct =>
    if 0 < portfolioValue then some (portfolioValue * pct) else none

/-- `effective_max`. -/
def effectiveMax (portfolioValue : ℚ) : Option ℚ :=
  match limits.maxCombinedExposureUsd, limits.dynamicMaxUsd portfolioValue with
  | some most, some dynamic => some (min most dynamic)
  | some most, none => some most
  | none, dynamic => dynamic

/-- `max_annualized_pct`. -/
def maxAnnualizedPct : ℚ := limits.maxFundingCostPct * 100 * 3 * 365

/-- The check of the combined exposure. -/
def rejectCombined (portfolioValue total : ℚ) (directional : Option ℚ) : Option GridRejection :=
  (limits.effectiveMax portfolioValue).bind fun most =>
    match directional with
    | none => some .exposureUnknown
    | some directional =>
        rejectIf (most < total + directional) (.combinedExposure total directional most)

/-- `_check_cost_guard`. `costs` is what `get_config` gives; `none` is an exception. -/
def checkCostGuard (ratioPower : ℚ → ℕ → ℕ → ℚ) (costs : Option PaperLimits)
    (q : GridProposal) : Except GridRejection (Option GridRejection) :=
  if q.currentPrice ≤ 0 then .ok none
  else
    match costs with
    | none => .error .error
    | some costs =>
        let roundTrip :=
          costs.paperMakerFeePct + costs.paperTakerFeePct + 2 * costs.paperSlippagePct
        let required := roundTrip * limits.costGuardSafetyMargin
        let spacing := q.parameters.effectiveGridSpacing ratioPower / q.currentPrice
        .ok (rejectIf (spacing < required) (.spacingBelowCosts spacing required) <|>
          q.fundingRateAnnualizedPct.bind fun rate =>
            let perInterval := |rate| / (100 * 3 * 365)
            rejectIf (spacing * limits.maxFundingShareOfCycleEdge < perInterval)
              (.fundingCosts perInterval limits.maxFundingShareOfCycleEdge spacing))

/-- The checks of `_evaluate_internal` before the cost guard, in their order. -/
def rejection (s : GridPortfolioSnapshot) (q : GridProposal) : Option GridRejection :=
  let p := q.parameters
  let total := s.existingExposure + p.totalNotional
  rejectIf (limits.maxOpenGrids ≤ s.activeGrids.length)
      (.tooManyGrids s.activeGrids.length limits.maxOpenGrids) <|>
    rejectIf (limits.maxLeverage < p.leverage) (.leverage p.leverage limits.maxLeverage) <|>
    rejectIf (limits.maxGridOrders < p.gridCount)
      (.tooManyOrders p.gridCount limits.maxGridOrders) <|>
    rejectIf (limits.maxGridPositionUsd < p.totalNotional)
      (.gridNotional p.totalNotional limits.maxGridPositionUsd) <|>
    rejectIf (limits.maxGridExposureUsd < total)
      (.gridExposure total limits.maxGridExposureUsd s.existingExposure) <|>
    limits.rejectCombined s.portfolioValue total q.directionalExposureUsd <|>
    (q.liquidityUsd.bind fun liquidity =>
      rejectIf (liquidity < limits.minLiquidityUsd)
        (.illiquid liquidity limits.minLiquidityUsd)) <|>
    (q.fundingRateAnnualizedPct.bind fun rate =>
      rejectIf (limits.maxAnnualizedPct < |rate|) (.fundingRate rate limits.maxAnnualizedPct)) <|>
    (q.volatilityAtrPct.bind fun atr =>
      rejectIf (limits.maxVolatilityAtrPct < atr) (.volatility atr limits.maxVolatilityAtrPct)) <|>
    rejectIf (1 / p.leverage < limits.maxLiquidationDistancePct)
      (.liquidationDistance (1 / p.leverage) p.leverage limits.maxLiquidationDistancePct)

/-- The funding rates that are warned of. -/
def fundingWarnings (q : GridProposal) : List ℚ :=
  q.fundingRateAnnualizedPct.toList.filter fun rate =>
    limits.maxAnnualizedPct * (7 / 10) < |rate|

/-- `_evaluate_internal`. -/
def evaluateInternal (ratioPower : ℚ → ℕ → ℕ → ℚ) (costs : Option PaperLimits)
    (s : GridPortfolioSnapshot) (q : GridProposal) :
    Except GridRejection GridRiskAssessment :=
  match limits.rejection s q with
  | some reason => .ok { approved := false, reason := some reason }
  | none =>
      match limits.checkCostGuard ratioPower costs q with
      | .error e => .error e
      | .ok (some reason) => .ok { approved := false, reason := some reason }
      | .ok none => .ok { approved := true, warnings := limits.fundingWarnings q }

/-- `evaluate_new_grid`. -/
def evaluateNewGrid (ratioPower : ℚ → ℕ → ℕ → ℚ) (costs : Option PaperLimits)
    (s : GridPortfolioSnapshot) (q : GridProposal) : GridRiskAssessment :=
  match limits.evaluateInternal ratioPower costs s q with
  | .ok assessment => assessment
  | .error e => { approved := false, reason := some e }

end GridOpeningLimits

/-- What `_process_symbol` of the scheduler reads of the portfolio engine, if it has one. -/
structure PortfolioReading where
  portfolioValue : ℚ
  /-- `none` is an exception. -/
  positions : Option (List Position)

/-- `_directional_exposure_usd`. -/
def directionalExposureUsd (engine : Option PortfolioReading) : Option ℚ :=
  engine.bind fun e => e.positions.map fun positions =>
    (positions.map fun p => |p.notionalValue|).sum

/-- The snapshot that the scheduler makes; without a portfolio engine the value is zero. -/
def approvalSnapshot (engine : Option PortfolioReading) (grids : List GridState) :
    GridPortfolioSnapshot :=
  ⟨grids, engine.elim 0 PortfolioReading.portfolioValue⟩

/-- The snapshot after the grid of a proposal has been opened. -/
def GridPortfolioSnapshot.opened (s : GridPortfolioSnapshot) (plan : GridPlan)
    (ratioPower : ℚ → ℕ → ℕ → ℚ) (p : FuturesGridParameters) : GridPortfolioSnapshot :=
  { s with openGrids := buildGridState (plan.withParameters ratioPower p) :: s.openGrids }

/-- What is open stays within the caps that do not depend on the portfolio value. -/
structure WithinGridCaps (limits : GridOpeningLimits) (s : GridPortfolioSnapshot)
    (q : GridProposal) : Prop where
  grids : s.activeGrids.length ≤ limits.maxOpenGrids
  leverage : q.parameters.leverage ≤ limits.maxLeverage
  position : q.parameters.totalNotional ≤ limits.maxGridPositionUsd
  exposure : s.existingExposure ≤ limits.maxGridExposureUsd
  combined : ∀ most ∈ limits.maxCombinedExposureUsd, ∃ directional ∈ q.directionalExposureUsd,
    s.existingExposure + directional ≤ most

/-- What is open stays within the share of the portfolio value. -/
def WithinEquityShare (limits : GridOpeningLimits) (s : GridPortfolioSnapshot)
    (q : GridProposal) : Prop :=
  ∀ pct ∈ limits.maxTotalExposurePct, ∃ directional ∈ q.directionalExposureUsd,
    s.existingExposure + directional ≤ s.portfolioValue * pct

/-! ### What an approval says -/

section Approval

variable {limits : GridOpeningLimits} {ratioPower : ℚ → ℕ → ℕ → ℚ} {costs : Option PaperLimits}
  {s : GridPortfolioSnapshot} {q : GridProposal}

@[simp] theorem rejectIf_eq_none_iff {violated : Prop} [Decidable violated]
    {reason : GridRejection} : rejectIf violated reason = none ↔ ¬ violated := by
  simp [rejectIf]

/-- A proposal is approved when no check rejects it, the cost guard included. -/
theorem approved_iff :
    (limits.evaluateNewGrid ratioPower costs s q).approved = true ↔
      limits.rejection s q = none ∧ limits.checkCostGuard ratioPower costs q = .ok none := by
  unfold GridOpeningLimits.evaluateNewGrid GridOpeningLimits.evaluateInternal
  cases limits.rejection s q with
  | some reason => simp
  | none =>
      cases limits.checkCostGuard ratioPower costs q with
      | error e => simp
      | ok guard =>
          cases guard with
          | some reason => simp
          | none => simp

/-- The effective cap is a lower bound of the configured ones. -/
theorem effectiveMax_le {portfolioValue cap : ℚ}
    (hcap : cap ∈ limits.maxCombinedExposureUsd ∨ cap ∈ limits.dynamicMaxUsd portfolioValue) :
    ∃ most ∈ limits.effectiveMax portfolioValue, most ≤ cap := by
  unfold GridOpeningLimits.effectiveMax
  cases habsolute : limits.maxCombinedExposureUsd with
  | none =>
      cases hdynamic : limits.dynamicMaxUsd portfolioValue with
      | none => simp [habsolute, hdynamic] at hcap
      | some dynamic =>
          obtain rfl : dynamic = cap := by simpa [habsolute, hdynamic] using hcap
          exact ⟨dynamic, rfl, le_rfl⟩
  | some absolute =>
      cases hdynamic : limits.dynamicMaxUsd portfolioValue with
      | none =>
          obtain rfl : absolute = cap := by simpa [habsolute, hdynamic] using hcap
          exact ⟨absolute, rfl, le_rfl⟩
      | some dynamic =>
          rw [habsolute, hdynamic, Option.mem_some_iff, Option.mem_some_iff] at hcap
          refine ⟨min absolute dynamic, rfl, ?_⟩
          rcases hcap with rfl | rfl
          · exact min_le_left _ _
          · exact min_le_right _ _

/-- The directional exposure is known and fits under every cap that is configured. -/
theorem combined_of_not_rejected {portfolioValue total cap : ℚ} {directional : Option ℚ}
    (h : limits.rejectCombined portfolioValue total directional = none)
    (hcap : cap ∈ limits.maxCombinedExposureUsd ∨ cap ∈ limits.dynamicMaxUsd portfolioValue) :
    ∃ d ∈ directional, total + d ≤ cap := by
  obtain ⟨most, hmost, hle⟩ := effectiveMax_le hcap
  rw [GridOpeningLimits.rejectCombined, Option.mem_def.1 hmost, Option.bind_some] at h
  cases directional with
  | none => cases h
  | some d =>
      have hfits : ¬ most < total + d := rejectIf_eq_none_iff.1 h
      exact ⟨d, rfl, (not_lt.1 hfits).trans hle⟩

theorem activeGrids_opened (s : GridPortfolioSnapshot) (plan : GridPlan)
    (ratioPower : ℚ → ℕ → ℕ → ℚ) (p : FuturesGridParameters) :
    (s.opened plan ratioPower p).activeGrids =
      buildGridState (plan.withParameters ratioPower p) :: s.activeGrids :=
  List.filter_cons_of_pos rfl

/-- The new grid counts with the notional value of its parameters. -/
theorem existingExposure_opened (s : GridPortfolioSnapshot) (plan : GridPlan)
    (ratioPower : ℚ → ℕ → ℕ → ℚ) (p : FuturesGridParameters) :
    (s.opened plan ratioPower p).existingExposure = s.existingExposure + p.totalNotional := by
  rw [GridPortfolioSnapshot.existingExposure, activeGrids_opened, List.map_cons, List.sum_cons,
    add_comm]
  rfl

/-- When a proposal is approved, what is open with the new grid included stays within every
cap, and within the share of the portfolio value where the value is positive. -/
theorem withinGridCaps_of_approved
    (happroved : (limits.evaluateNewGrid ratioPower costs s q).approved = true)
    (plan : GridPlan) :
    WithinGridCaps limits (s.opened plan ratioPower q.parameters) q ∧
      (0 < s.portfolioValue →
        WithinEquityShare limits (s.opened plan ratioPower q.parameters) q) := by
  have hnone := (approved_iff.1 happroved).1
  simp only [GridOpeningLimits.rejection, Option.orElse_eq_none, rejectIf_eq_none_iff, not_le,
    not_lt] at hnone
  obtain ⟨hgrids, hleverage, -, hposition, hexposure, hcombined, -⟩ := hnone
  refine ⟨⟨?_, hleverage, hposition, ?_, fun most hmost => ?_⟩, fun hpos pct hpct => ?_⟩
  · rw [activeGrids_opened, List.length_cons]
    exact hgrids
  · rw [existingExposure_opened]
    exact hexposure
  · rw [existingExposure_opened]
    exact combined_of_not_rejected hcombined (.inl hmost)
  · rw [existingExposure_opened]
    refine combined_of_not_rejected hcombined (.inr ?_)
    rw [GridOpeningLimits.dynamicMaxUsd, Option.mem_def.1 hpct, Option.bind_some, if_pos hpos]
    rfl

end Approval

/-- A grid of five levels with a notional value of 50 each. -/
def FuturesGridParameters.btc : FuturesGridParameters where
  gridLowerPrice := 90
  gridUpperPrice := 110
  gridCount := 5
  longOrShort := .long
  positionSize := 50
  lower_pos := by norm_num
  lower_lt_upper := by norm_num
  two_le_gridCount := by norm_num
  one_le_leverage := FuturesGridParameters.one_le_default
  not_neutral := GridDirection.long_ne_neutral

theorem defaultMaxGridLoss_pos : (0 : ℚ) < 100 := by norm_num

/-- A quarter of the portfolio value at most. -/
def GridOpeningLimits.quarter : GridOpeningLimits where
  maxTotalExposurePct := some (1 / 4)
  maxGridLossUsd_pos := defaultMaxGridLoss_pos

/-- The proposal of the examples. -/
def GridProposal.btc (directional : Option ℚ) : GridProposal :=
  { parameters := .btc, currentPrice := 100, directionalExposureUsd := directional }

theorem withinGridCaps_of_approved_btc :
    WithinGridCaps .quarter
        (GridPortfolioSnapshot.opened ⟨[], 10000⟩ .btc (fun _ _ _ => 1) .btc)
        (.btc (some 2200)) ∧
      WithinEquityShare .quarter
        (GridPortfolioSnapshot.opened ⟨[], 10000⟩ .btc (fun _ _ _ => 1) .btc)
        (.btc (some 2200)) := by
  have happroved : (GridOpeningLimits.quarter.evaluateNewGrid (fun _ _ _ => 1) (some {})
      ⟨[], 10000⟩ (.btc (some 2200))).approved = true := by decide +kernel
  obtain ⟨hcaps, hshare⟩ := withinGridCaps_of_approved happroved .btc
  exact ⟨hcaps, hshare (by norm_num)⟩

/-- Without a portfolio engine the scheduler gives the value as zero, and the grid is approved
whatever share of the value is allowed. -/
theorem not_withinEquityShare_of_approved :
    ¬ ∀ (limits : GridOpeningLimits) (ratioPower : ℚ → ℕ → ℕ → ℚ) (costs : Option PaperLimits)
      (s : GridPortfolioSnapshot) (q : GridProposal) (plan : GridPlan),
      (limits.evaluateNewGrid ratioPower costs s q).approved = true →
        WithinGridCaps limits (s.opened plan ratioPower q.parameters) q ∧
          WithinEquityShare limits (s.opened plan ratioPower q.parameters) q := by
  intro h
  obtain ⟨-, hshare⟩ := h .quarter (fun _ _ _ => 1) (some {}) (approvalSnapshot none [])
    (.btc (directionalExposureUsd none)) .btc (by decide +kernel)
  obtain ⟨d, hd, -⟩ := hshare (1 / 4) rfl
  cases hd

end Sgr
