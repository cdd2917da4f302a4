import Sgr.MarketData.GridSuitability
import Sgr.Orchestrator.GridExits
import Sgr.Risk.GridApproval

/-!
# The grid strategies

`evaluate` of the three strategies in `sgr/strategy/futures_grid.py`. The range, the target and
the stop of a grid are set around the close of the features: so a grid that a candle has opened
has nothing against it until the price has moved as far, and of the checks of the risk engine
only those can reject it that look at what is open already and at the costs.
-/

open Collection

namespace Sgr

/-- `GridStrategyDefaults`. -/
structure GridStrategyDefaults where
  gridCount : ℕ := 10
  rangeAtrMultiplier : ℚ := 3
  leverage : ℚ := 2
  positionSizeUsd : ℚ := 20
  takeProfitPct : ℚ := 3 / 100
  stopLossPct : ℚ := 8 / 100
  maximumHoldingTimeSeconds : ℤ := 60 * 60 * 24 * 3

/-- `_defaults`. -/
def gridDefaults : GridStrategyDefaults := {}

theorem two_le_gridCount_gridDefaults : 2 ≤ gridDefaults.gridCount := by decide

theorem one_le_leverage_gridDefaults : 1 ≤ gridDefaults.leverage := by norm_num [gridDefaults]

/-- Half of the width of the range. -/
def halfRange (atr : ℚ) : ℚ := atr * gridDefaults.rangeAtrMultiplier

theorem halfRange_pos {atr : ℚ} (h : 0 < atr) : 0 < halfRange atr :=
  mul_pos h (by norm_num [gridDefaults])

/-- `lower`. -/
def gridLower (atr price : ℚ) : ℚ := max (price - halfRange atr) (price * (1 / 2))

theorem gridLower_pos {atr price : ℚ} (h : 0 < atr ∧ 0 < price) : 0 < gridLower atr price :=
  lt_max_of_lt_right (mul_pos h.2 one_half_pos)

theorem gridLower_lt {atr price : ℚ} (h : 0 < atr ∧ 0 < price) :
    gridLower atr price < price + halfRange atr := by
  have hhalf := halfRange_pos h.1
  exact max_lt (by linarith) (by linarith [h.2])

/-- `_build_parameters`. -/
def buildParameters (context : MarketContext) (direction : GridDirection)
    (hdirection : direction ≠ .neutral) : Option FuturesGridParameters :=
  context.primary.indicators.atr14.bind fun atr =>
    let price := context.primary.close
    if h : 0 < atr ∧ 0 < price then
      some
        { gridLowerPrice := gridLower atr price
          gridUpperPrice := price + halfRange atr
          gridCount := gridDefaults.gridCount
          longOrShort := direction
          leverage := gridDefaults.leverage
          positionSize := gridDefaults.positionSizeUsd
          takeProfit := some
            (if direction = .long then price * (1 + gridDefaults.takeProfitPct)
              else price * (1 - gridDefaults.takeProfitPct))
          stopLoss := some
            (if direction = .long then price * (1 - gridDefaults.stopLossPct)
              else price * (1 + gridDefaults.stopLossPct))
          maximumHoldingTime := some gridDefaults.maximumHoldingTimeSeconds
          lower_pos := gridLower_pos h
          lower_lt_upper := gridLower_lt h
          two_le_gridCount := two_le_gridCount_gridDefaults
          one_le_leverage := one_le_leverage_gridDefaults
          not_neutral := hdirection }
    else none

/-- The strategies of the module. -/
inductive FuturesGridStrategy
  | long
  | short
  | adaptive
  deriving DecidableEq, Repr

/-- The `GridDecision` of a strategy. -/
structure GridEvaluation where
  direction : GridDirection
  parameters : Option FuturesGridParameters
  confidence : ℚ
  reasons : List SuitabilityReason

/-- The decision as the scheduler reads it. -/
def GridEvaluation.toDecision (ratioPower : ℚ → ℕ → ℕ → ℚ) (e : GridEvaluation) : GridDecision where
  direction := e.direction
  parameters := e.parameters.map fun p => ⟨p.longOrShort, p.stored, p.computeLevels ratioPower⟩

namespace FuturesGridStrategy

/-- `name`. -/
def name : FuturesGridStrategy → String
  | .long => "futures_grid_long_v1"
  | .short => "futures_grid_short_v1"
  | .adaptive => "futures_grid_adaptive_v1"

/-- `_decide_direction`. -/
def decideDirection (strategy : FuturesGridStrategy) (score : GridSuitabilityScore) :
    GridDirection :=
  if !score.isSuitable then .neutral
  else
    match strategy with
    | .long => .long
    | .short => .short
    | .adaptive => score.suggestedDirection

/-- `evaluate`. -/
def evaluate (strategy : FuturesGridStrategy) (context : MarketContext)
    (fundingRate : Option ℚ := none) : GridEvaluation :=
  let suitability := computeGridSuitability {} context fundingRate
  let direction := strategy.decideDirection suitability
  if h : direction = .neutral then
    ⟨.neutral, none, suitability.composite, suitability.reasons⟩
  else
    match buildParameters context direction h with
    | none =>
        ⟨.neutral, none, suitability.composite, suitability.reasons ++ [.noParameters]⟩
    | some parameters =>
        ⟨direction, some parameters, suitability.composite, suitability.reasons⟩

/-- A strategy as `_process_symbol` calls it. -/
def call (ratioPower : ℚ → ℕ → ℕ → ℚ) (context : MarketContext) (fundingRate : Option ℚ)
    (strategy : FuturesGridStrategy) : GridStrategyCall :=
  ⟨strategy.name, (strategy.evaluate context fundingRate).toDecision ratioPower⟩

end FuturesGridStrategy

/-! ### What a strategy proposes -/

/-- Parameters that are set around a price. -/
structure GridAround (p : FuturesGridParameters) (price atr : ℚ) : Prop where
  atr_pos : 0 < atr
  price_pos : 0 < price
  lower : p.gridLowerPrice = gridLower atr price
  upper : p.gridUpperPrice = price + halfRange atr
  gridCount : p.gridCount = 10
  leverage : p.leverage = 2
  positionSize : p.positionSize = 20
  takeProfit : p.takeProfit =
    some (if p.longOrShort = .long then price * (1 + 3 / 100) else price * (1 - 3 / 100))
  stopLoss : p.stopLoss =
    some (if p.longOrShort = .long then price * (1 - 8 / 100) else price * (1 + 8 / 100))
  maximumHoldingTime : p.maximumHoldingTime = some 259200

section Proposals

variable {context : MarketContext} {fundingRate : Option ℚ} {strategy : FuturesGridStrategy}
  {p : FuturesGridParameters}

theorem gridAround_of_buildParameters {direction : GridDirection} {h : direction ≠ .neutral}
    (hp : buildParameters context direction h = some p) :
    p.longOrShort = direction ∧
      ∃ atr ∈ context.primary.indicators.atr14, GridAround p context.primary.close atr := by
  obtain ⟨atr, hatr, hbuilt⟩ := Option.bind_eq_some_iff.1 hp
  dsimp only at hbuilt
  split at hbuilt
  next hpos =>
    obtain rfl := Option.some.inj hbuilt
    exact ⟨rfl, atr, hatr, ⟨hpos.1, hpos.2, rfl, rfl, rfl, rfl, rfl, rfl, rfl, rfl⟩⟩
  · cases hbuilt

/-- A strategy that proposes parameters has found the market suitable. -/
theorem gridAround_of_evaluate (hp : p ∈ (strategy.evaluate context fundingRate).parameters) :
    SuitableMarket context fundingRate ∧
      (strategy.evaluate context fundingRate).direction = p.longOrShort ∧
      ∃ atr ∈ context.primary.indicators.atr14, GridAround p context.primary.close atr := by
  unfold FuturesGridStrategy.evaluate at hp ⊢
  dsimp only at hp ⊢
  split at hp
  · cases hp
  next hdirection =>
    have hsuitable : (computeGridSuitability {} context fundingRate).isSuitable = true := by
      by_contra hnot
      simp [FuturesGridStrategy.decideDirection, hnot] at hdirection
    rw [dif_neg hdirection]
    split at hp
    · cases hp
    next parameters hbuilt =>
      obtain rfl := Option.some.inj hp
      obtain ⟨hlong, haround⟩ := gridAround_of_buildParameters hbuilt
      exact ⟨suitableMarket_of_isSuitable hsuitable, hlong.symm, haround⟩

end Proposals

/-! ### What speaks against a grid that has been opened -/

/-- The price has not left the close of the features by as much as the target is away from it,
or half of the range. -/
structure StaysNear (context : MarketContext) (price : ℚ) : Prop where
  target : |price - context.primary.close| < context.primary.close * (3 / 100)
  range : ∀ atr ∈ context.primary.indicators.atr14,
    |price - context.primary.close| ≤ halfRange atr

/-- A state of a grid at a later time, in which it has not lost more than it may. -/
structure GridState.Later (limits : GridRiskLimits) (g g' : GridState) : Prop where
  parameters : g'.parameters = g.parameters
  direction : g'.direction = g.direction
  openedAt : g'.openedAt = g.openedAt
  loss : -limits.maxGridLossUsd ≤ g'.realizedPnl

/-- The limits let through whatever market is suitable for a grid. -/
structure GridRiskLimits.AdmitSuitable (limits : GridRiskLimits) : Prop where
  funding : 30 ≤ limits.maxFundingCostPct * 100 * 3 * 365
  volatility : 8 / 100 ≤ limits.maxVolatilityAtrPct

section Opened

variable {cfg : GridSchedulerConfig} {c : CandleCall} {s : GridScheduler} {g g' : GridState}
  {context : MarketContext} {fundingRate : Option ℚ} {p : FuturesGridParameters} {atr price : ℚ}

theorem get?_onPriceTick_of_eq_none {ctl : GridController} {id : UUID}
    (h : ctl.grids.get? id = none) (id' : UUID) (tick : TickCall) (price : ℚ) :
    (ctl.onPriceTick id' tick price).grids.get? id = none := by
  unfold GridController.onPriceTick
  split
  · exact h
  next g hg =>
    have hid : (Sgr.onPriceTick tick price ⟨g, ctl.gate⟩).1.grid.id = g.id :=
      (sameRun_onPriceTick ⟨g, ctl.gate⟩ tick price).id
    have hne : id ≠ g.id := by
      rintro rfl
      rw [ctl.keyed id' g hg, hg] at h
      cases h
    rw [GridController.get?_put, hid, if_neg hne]
    exact h

/-- A grid that is new after a candle is the one that the candle has opened. -/
theorem openedGrid_of_onCandleEvent {id : UUID} (hnew : s.ctl.grids.get? id = none)
    (hg : (s.onCandleEvent cfg c).ctl.grids.get? id = some g) :
    ∃ name q, s.proposal c = some (name, q) ∧ g = openedGrid cfg c name q id := by
  have hstep := candleStep_onCandleEvent cfg c s
  generalize s.onCandleEvent cfg c = t at hstep hg
  cases hstep with
  | rests =>
      rw [hnew] at hg
      cases hg
  | ticks id' =>
      rw [get?_onPriceTick_of_eq_none hnew] at hg
      cases hg
  | @opens name q id' _ hproposal _ =>
      rw [GridController.get?_put] at hg
      split at hg
      next hid =>
        have hid : id = id' := hid
        subst hid
        exact ⟨name, q, hproposal, (Option.some.inj hg).symm⟩
      · rw [hnew] at hg
        cases hg

/-- What is proposed for a candle comes from one of the strategies. -/
theorem evaluate_of_proposal {ratioPower : ℚ → ℕ → ℕ → ℚ} {strategies : List FuturesGridStrategy}
    (hcall : c.strategies =
      strategies.map (FuturesGridStrategy.call ratioPower context fundingRate))
    {name : String} {q : ProposedGrid} (h : s.proposal c = some (name, q)) :
    ∃ strategy ∈ strategies, ∃ p ∈ (strategy.evaluate context fundingRate).parameters,
      q.longOrShort = p.longOrShort ∧ q.parameters = p.stored := by
  obtain ⟨call, hmem, hsome⟩ := List.exists_of_findSome?_eq_some h
  obtain ⟨q', hq', hpair⟩ := Option.map_eq_some_iff.1 hsome
  cases hpair
  have hmem := (List.mem_filter.1 hmem).1
  rw [hcall] at hmem
  obtain ⟨strategy, hstrategy, rfl⟩ := List.mem_map.1 hmem
  unfold GridDecision.proposed at hq'
  split at hq'
  · cases hq'
  · obtain ⟨p, hp, rfl⟩ := Option.map_eq_some_iff.1 hq'
    exact ⟨strategy, hstrategy, p, hp, rfl, rfl⟩

/-- A target that is not zero is kept. -/
theorem filter_ne_zero {target : Option ℚ} {x : ℚ} (h : target = some x) (hpos : 0 < x) :
    (target.filter fun x => x ≠ 0) = some x := by
  rw [h]
  exact Option.filter_eq_some_iff.2 ⟨rfl, decide_eq_true hpos.ne'⟩

/-- Neither the stop nor the target is hit near the price around which they are set. -/
theorem GridAround.not_hits (h : GridAround p price atr) (hneutral : p.longOrShort ≠ .neutral)
    (hparameters : g.parameters = p.stored) (hdirection : g.direction = p.longOrShort) {r : ℚ}
    (hnear : |r - price| < price * (3 / 100)) :
    g.hitsStopLoss r = false ∧ g.hitsTakeProfit r = false := by
  obtain ⟨hbelow, habove⟩ := abs_lt.1 hnear
  have hprice := h.price_pos
  have hstop : g.parameters.stopLoss =
      some (if p.longOrShort = .long then price * (1 - 8 / 100) else price * (1 + 8 / 100)) := by
    rw [hparameters]
    exact filter_ne_zero h.stopLoss (by split <;> linarith)
  have htarget : g.parameters.takeProfit =
      some (if p.longOrShort = .long then price * (1 + 3 / 100) else price * (1 - 3 / 100)) := by
    rw [hparameters]
    exact filter_ne_zero h.takeProfit (by split <;> linarith)
  unfold GridState.hitsStopLoss GridState.hitsTakeProfit GridState.hits
  rw [hstop, htarget, hdirection]
  cases hlong : p.longOrShort with
  | long =>
      rw [Option.any_some, Option.any_some, if_pos rfl, if_pos rfl, Bool.or_eq_false_iff,
        Bool.or_eq_false_iff]
      refine ⟨⟨?_, rfl⟩, ⟨rfl, ?_⟩⟩
      · exact Bool.and_eq_false_imp.2 fun _ => decide_eq_false (by linarith)
      · exact Bool.and_eq_false_imp.2 fun _ => decide_eq_false (by linarith)
  | short =>
      have hne : GridDirection.short ≠ .long := by decide
      rw [Option.any_some, Option.any_some, if_neg hne, if_neg hne, Bool.or_eq_false_iff,
        Bool.or_eq_false_iff]
      refine ⟨⟨rfl, ?_⟩, ⟨?_, rfl⟩⟩
      · exact Bool.and_eq_false_imp.2 fun _ => decide_eq_false (by linarith)
      · exact Bool.and_eq_false_imp.2 fun _ => decide_eq_false (by linarith)
  | neutral => exact absurd hlong hneutral

/-- The range has not been left, whatever the buffer is. -/
theorem GridAround.not_breaksOut (h : GridAround p price atr)
    (hparameters : g.parameters = p.stored)
    (limits : GridRiskLimits) {r : ℚ} (hnear : |r - price| < price * (3 / 100))
    (hrange : |r - price| ≤ halfRange atr) : g.breaksOut limits r = false := by
  obtain ⟨hbelow, -⟩ := abs_lt.1 hnear
  obtain ⟨hlow, hhigh⟩ := abs_le.1 hrange
  have hprice := h.price_pos
  have hlower : p.gridLowerPrice ≤ r := by
    rw [h.lower]
    exact max_le (by linarith) (by linarith)
  have hupper : r ≤ p.gridUpperPrice := by
    rw [h.upper]
    linarith
  have hbuffer : 0 ≤ (p.gridUpperPrice - p.gridLowerPrice) * limits.rangeBreakoutBufferFactor :=
    mul_nonneg (by linarith [p.lower_lt_upper]) limits.rangeBreakoutBufferFactor_nonneg
  unfold GridState.breaksOut
  rw [hparameters]
  dsimp only [FuturesGridParameters.stored]
  rw [Bool.or_eq_false_iff]
  exact ⟨decide_eq_false (by linarith), decide_eq_false (by linarith)⟩

/-- When the features propose a grid and a candle opens it, nothing speaks against the grid with
these features, for as long as it may be held and the price stays near their close. -/
theorem checkOngoingGrid_of_opened {limits : GridRiskLimits} {ratioPower : ℚ → ℕ → ℕ → ℚ}
    {strategies : List FuturesGridStrategy} {id : UUID} {now : Timestamp}
    (hlimits : limits.AdmitSuitable)
    (hcall : c.strategies =
      strategies.map (FuturesGridStrategy.call ratioPower context fundingRate))
    (hnew : s.ctl.grids.get? id = none)
    (hg : (s.onCandleEvent cfg c).ctl.grids.get? id = some g)
    (hlater : g.Later limits g') (hnear : StaysNear context price) (hnow : now - c.now < 259200) :
    checkOngoingGrid limits g'
      { price := price
        fundingRateAnnualizedPct := fundingRate
        volatilityAtrPct := context.primary.indicators.atrPct
        now := now } = [] := by
  obtain ⟨name, q, hproposal, rfl⟩ := openedGrid_of_onCandleEvent hnew hg
  obtain ⟨strategy, -, p, hp, hdirection, hparameters⟩ := evaluate_of_proposal hcall hproposal
  obtain ⟨hmarket, -, atr, hatr, haround⟩ := gridAround_of_evaluate hp
  have hstored : g'.parameters = p.stored := hlater.parameters.trans hparameters
  obtain ⟨hstop, htarget⟩ := haround.not_hits p.not_neutral hstored
    (hlater.direction.trans hdirection) hnear.target
  have hbreak := haround.not_breaksOut hstored limits hnear.target (hnear.range atr hatr)
  have hloss : ¬ g'.realizedPnl < -limits.maxGridLossUsd := not_lt.2 hlater.loss
  have hfunding : (fundingRate.any fun rate =>
      decide (limits.maxFundingCostPct * 100 * 3 * 365 < |rate|)) = false := by
    refine (Option.any_eq_false _ _).2 fun rate hrate => decide_eq_false_iff_not.2 ?_
    linarith [hmarket.funding rate hrate, hlimits.funding]
  have hvolatility : (context.primary.indicators.atrPct.any fun atr =>
      decide (limits.maxVolatilityAtrPct < atr)) = false := by
    obtain ⟨share, hshare, -, hlt⟩ := hmarket.atrPct
    rw [Option.mem_def.1 hshare, Option.any_some]
    exact decide_eq_false (by linarith [hlimits.volatility])
  have hoverdue : g'.isOverdue now = false := by
    have htime : p.stored.maximumHoldingTime = some 259200 := haround.maximumHoldingTime
    unfold GridState.isOverdue
    rw [hstored, hlater.openedAt, htime, Option.any_some]
    exact decide_eq_false (not_le.2 hnow)
  simp only [checkOngoingGrid, decide_eq_false hloss, hstop, htarget, hfunding, hvolatility,
    hbreak, hoverdue]
  rfl

end Opened

/-! ### A calm market -/

/-- A bar of a market that moves sideways. -/
def calmFeatures : FeatureSet where
  symbol := btcUsdt
  timestamp := 0
  timeframe := "1h"
  close := 100
  volume := 2000
  indicators :=
    { rsi14 := none, rsi7 := none, macdLine := none, macdSignal := none, macdHistogram := none
      adx14 := some 12, diPlus := some 18, diMinus := some 15, atr14 := some 3
      atrPct := some (3 / 100), bbUpper := none, bbMiddle := none, bbLower := none
      bbWidth := some (5 / 100), bbPosition := none, kcUpper := none, kcLower := none, ema9 := none
      ema21 := none, ema50 := none, ema200 := none, sma20 := none, vwap := none
      volumeSma20 := none, volumeRatio := none, obv := none }
  returns1 := none
  returns5 := none
  returns10 := none
  returns20 := none

def calmContext : MarketContext := ⟨btcUsdt, 0, calmFeatures, .ranging⟩

/-- A candle that opens the grid of the adaptive strategy. -/
def calmCandle : CandleCall where
  symbol := btcUsdt
  close := 100
  tick := .completely
  strategies := [.adaptive].map (FuturesGridStrategy.call (fun _ _ _ => 1) calmContext none)
  opening := .approved 7

theorem admitSuitable_quarter : GridOpeningLimits.quarter.toGridRiskLimits.AdmitSuitable :=
  ⟨by norm_num [GridOpeningLimits.quarter], by norm_num [GridOpeningLimits.quarter]⟩

theorem staysNear_calmContext : StaysNear calmContext 99 := by
  refine ⟨by decide +kernel, fun atr hatr => ?_⟩
  obtain rfl := Option.some.inj hatr
  decide +kernel

theorem checkOngoingGrid_of_opened_calmCandle :
    ∃ g, ((GridScheduler.start none).onCandleEvent .paper calmCandle).ctl.grids.get? 7 = some g ∧
      checkOngoingGrid GridOpeningLimits.quarter.toGridRiskLimits g
        { price := 99, volatilityAtrPct := some (3 / 100), now := 3600 } = [] := by
  obtain ⟨g, hloss⟩ := Option.any_eq_true _ _ |>.1
    (show (((GridScheduler.start none).onCandleEvent .paper calmCandle).ctl.grids.get? 7).any
      (fun g => decide (-100 ≤ g.realizedPnl)) = true by decide +kernel)
  exact ⟨g, hloss.1, checkOngoingGrid_of_opened admitSuitable_quarter rfl rfl hloss.1
    ⟨rfl, rfl, rfl, of_decide_eq_true hloss.2⟩ staysNear_calmContext (by decide)⟩

end Sgr
