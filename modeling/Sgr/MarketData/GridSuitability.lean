import Sgr.Backtesting.Simulator
import Sgr.Grid.Types

/-!
# The suitability of a market for a grid

`compute_grid_suitability` of `sgr/market_data/grid_suitability.py`. Four components speak for a
grid and two against it, and the weakest of the four counts a second time: so a market that is
suitable has no component that fails.
-/

namespace Sgr

/-- Why a score is what it is, with the figures of the text. -/
inductive SuitabilityReason
  | adxMissing
  | strongTrend (adx : ℚ)
  | atrMissing
  | calm (atr : ℚ)
  | wild (atr : ℚ)
  | thin (volume least : ℚ)
  | expensive (rate most : ℚ)
  | diverging (gap : ℚ)
  | upwardBias
  | downwardBias
  | belowThreshold (composite threshold : ℚ)
  /-- Added by `evaluate` of the strategies. -/
  | noParameters
  deriving DecidableEq, Repr

/-- `GridSuitabilityScore`. -/
structure GridSuitabilityScore where
  rangeQuality : ℚ
  volatilityQuality : ℚ
  liquidityScore : ℚ
  fundingCostScore : ℚ
  trendRisk : ℚ
  breakoutRisk : ℚ
  composite : ℚ
  isSuitable : Bool
  suggestedDirection : GridDirection
  reasons : List SuitabilityReason

/-- What `compute_grid_suitability` is called with besides the context. -/
structure SuitabilityLimits where
  minLiquidityVolume : ℚ := 100000
  maxFundingAnnualizedPct : ℚ := 50
  suitabilityThreshold : ℚ := 55 / 100

/-- `_clamp` with its defaults. -/
def clamp (value : ℚ) : ℚ := max 0 (min 1 value)

/-- A reason, where it applies. -/
def noteIf (applies : Bool) (reason : SuitabilityReason) : List SuitabilityReason :=
  if applies then [reason] else []

/-! ### The components -/

/-- The range quality that the average directional index alone gives. -/
def adxQuality (adx : ℚ) : ℚ := clamp (1 - (adx - 10) / (30 - 10))

/-- `range_quality`. -/
def rangeQuality (ind : IndicatorValues) : ℚ :=
  match ind.adx14, ind.bbWidth with
  | none, _ => 0
  | some adx, none => adxQuality adx
  | some adx, some width => clamp ((adxQuality adx + clamp (1 - width / (15 / 100))) / 2)

def rangeReasons (ind : IndicatorValues) : List SuitabilityReason :=
  match ind.adx14 with
  | none => [.adxMissing]
  | some adx => noteIf (30 ≤ adx) (.strongTrend adx)

/-- `volatility_quality`, with its peak in the middle between the bounds. -/
def volatilityQuality (ind : IndicatorValues) : ℚ :=
  match ind.atrPct with
  | none => 0
  | some atr =>
      if atr < 3 / 1000 then clamp (atr / (3 / 1000))
      else if 8 / 100 < atr then 0
      else
        let mid := (3 / 1000 + 8 / 100) / 2
        let span := (8 / 100 - 3 / 1000) / 2
        clamp (1 - |atr - mid| / span)

def volatilityReasons (ind : IndicatorValues) : List SuitabilityReason :=
  match ind.atrPct with
  | none => [.atrMissing]
  | some atr => noteIf (atr < 3 / 1000) (.calm atr) ++ noteIf (8 / 100 < atr) (.wild atr)

/-- `quote_volume`. -/
def quoteVolume (features : FeatureSet) : ℚ := features.close * features.volume

/-- `liquidity_score`. -/
def liquidityScore (limits : SuitabilityLimits) (features : FeatureSet) : ℚ :=
  if limits.minLiquidityVolume ≤ quoteVolume features then 1
  else clamp (quoteVolume features / limits.minLiquidityVolume)

/-- `funding_cost_score`. Without features of a future there is no funding. -/
def fundingCostScore (limits : SuitabilityLimits) (rate : Option ℚ) : ℚ :=
  match rate with
  | none => 1
  | some rate =>
      if limits.maxFundingAnnualizedPct ≤ |rate| then 0
      else clamp (1 - |rate| / limits.maxFundingAnnualizedPct)

/-- `breakout_risk`. -/
def breakoutRisk (ind : IndicatorValues) : ℚ :=
  match ind.diPlus, ind.diMinus with
  | some plus, some minus => clamp (|plus - minus| / 40)
  | _, _ => 3 / 10

def breakoutReasons (ind : IndicatorValues) : List SuitabilityReason :=
  match ind.diPlus, ind.diMinus with
  | some plus, some minus => noteIf (6 / 10 < breakoutRisk ind) (.diverging |plus - minus|)
  | _, _ => []

/-! ### The score -/

/-- `composite`, of the components and of the risks. -/
def compositeScore (range volatility liquidity funding trend breakout : ℚ) : ℚ :=
  let avgPositive := (range + volatility + liquidity + funding) / 4
  let avgRisk := (trend + breakout) / 2
  let weakestPositive := min (min (min range volatility) liquidity) funding
  clamp (5 / 10 * avgPositive + 3 / 10 * weakestPositive - 2 / 10 * avgRisk)

/-- `suggested_direction` of a suitable market, with its reason. -/
def suggestion (ind : IndicatorValues) : GridDirection × List SuitabilityReason :=
  match ind.adx14, ind.diPlus, ind.diMinus with
  | some adx, some plus, some minus =>
      if 20 ≤ adx ∧ plus ≠ 0 ∧ minus ≠ 0 then
        if minus < plus then (.long, [.upwardBias]) else (.short, [.downwardBias])
      else (.long, [])
  | _, _, _ => (.long, [])

/-- `compute_grid_suitability`; the funding rate is that of `context.primary.futures`, which no
one fills in. The components are rounded after the decision. -/
def computeGridSuitability (limits : SuitabilityLimits) (context : MarketContext)
    (fundingRate : Option ℚ := none) : GridSuitabilityScore :=
  let ind := context.primary.indicators
  let range := rangeQuality ind
  let volatility := volatilityQuality ind
  let liquidity := liquidityScore limits context.primary
  let funding := fundingCostScore limits fundingRate
  let trend := clamp (1 - range)
  let breakout := breakoutRisk ind
  let composite := compositeScore range volatility liquidity funding trend breakout
  let isSuitable := decide (limits.suitabilityThreshold ≤ composite)
  let rounded := Arithmetic.quantized 4
  { rangeQuality := rounded range
    volatilityQuality := rounded volatility
    liquidityScore := rounded liquidity
    fundingCostScore := rounded funding
    trendRisk := rounded trend
    breakoutRisk := rounded breakout
    composite := rounded composite
    isSuitable := isSuitable
    suggestedDirection := if isSuitable then (suggestion ind).1 else .neutral
    reasons :=
      rangeReasons ind ++ volatilityReasons ind ++
        noteIf (quoteVolume context.primary < limits.minLiquidityVolume)
          (.thin (quoteVolume context.primary) limits.minLiquidityVolume) ++
        (fundingRate.toList.flatMap fun rate =>
          noteIf (limits.maxFundingAnnualizedPct ≤ |rate|)
            (.expensive |rate| limits.maxFundingAnnualizedPct)) ++
        breakoutReasons ind ++
        (if isSuitable then (suggestion ind).2
          else [.belowThreshold composite limits.suitabilityThreshold]) }

/-! ### What a suitable market is -/

theorem clamp_nonneg (x : ℚ) : 0 ≤ clamp x := le_max_left _ _

theorem clamp_le_one (x : ℚ) : clamp x ≤ 1 := max_le zero_le_one (min_le_left _ _)

/-- A positive bound is reached after the clamp only where it is reached before. -/
theorem le_of_le_clamp {a x : ℚ} (ha : 0 < a) (h : a ≤ clamp x) : a ≤ x := by
  rcases le_max_iff.1 h with hzero | hmin
  · exact absurd ha (not_lt.2 hzero)
  · exact hmin.trans (min_le_right _ _)

theorem rangeQuality_mem (ind : IndicatorValues) : 0 ≤ rangeQuality ind ∧ rangeQuality ind ≤ 1 := by
  unfold rangeQuality
  split
  · exact ⟨le_rfl, zero_le_one⟩
  · exact ⟨clamp_nonneg _, clamp_le_one _⟩
  · exact ⟨clamp_nonneg _, clamp_le_one _⟩

theorem volatilityQuality_le_one (ind : IndicatorValues) : volatilityQuality ind ≤ 1 := by
  unfold volatilityQuality
  split
  · exact zero_le_one
  · split_ifs
    · exact clamp_le_one _
    · exact zero_le_one
    · exact clamp_le_one _

theorem liquidityScore_le_one (limits : SuitabilityLimits) (features : FeatureSet) :
    liquidityScore limits features ≤ 1 := by
  unfold liquidityScore
  split_ifs
  · exact le_rfl
  · exact clamp_le_one _

theorem fundingCostScore_le_one (limits : SuitabilityLimits) (rate : Option ℚ) :
    fundingCostScore limits rate ≤ 1 := by
  unfold fundingCostScore
  split
  · exact le_rfl
  · split_ifs
    · exact zero_le_one
    · exact clamp_le_one _

theorem breakoutRisk_nonneg (ind : IndicatorValues) : 0 ≤ breakoutRisk ind := by
  unfold breakoutRisk
  split
  · exact clamp_nonneg _
  · norm_num

/-- The bounds of the components behind a composite score of at least the threshold. -/
structure StrongComponents (range volatility liquidity funding : ℚ) : Prop where
  range : 11 / 21 ≤ range
  volatility : 7 / 17 ≤ volatility
  liquidity : 7 / 17 ≤ liquidity
  funding : 7 / 17 ≤ funding

/-- No component makes up for another one; the range counts a third time, as a risk. -/
theorem strong_of_compositeScore {range volatility liquidity funding breakout : ℚ}
    (hrange : 0 ≤ range ∧ range ≤ 1) (hvolatility : volatility ≤ 1) (hliquidity : liquidity ≤ 1)
    (hfunding : funding ≤ 1) (hbreakout : 0 ≤ breakout)
    (h : 55 / 100 ≤
      compositeScore range volatility liquidity funding (clamp (1 - range)) breakout) :
    StrongComponents range volatility liquidity funding := by
  have hraw := le_of_le_clamp (by norm_num) h
  have htrend : 1 - range ≤ clamp (1 - range) :=
    le_max_of_le_right (le_min (by linarith) le_rfl)
  set weakest := min (min (min range volatility) liquidity) funding with hweakest
  have hleFunding : weakest ≤ funding := min_le_right _ _
  have hleLiquidity : weakest ≤ liquidity := (min_le_left _ _).trans (min_le_right _ _)
  have hleInner : weakest ≤ min range volatility := (min_le_left _ _).trans (min_le_left _ _)
  have hleRange : weakest ≤ range := hleInner.trans (min_le_left _ _)
  have hleVolatility : weakest ≤ volatility := hleInner.trans (min_le_right _ _)
  obtain ⟨-, hrange⟩ := hrange
  exact
    { range := by linarith
      volatility := by linarith
      liquidity := by linarith
      funding := by linarith }

/-- What a market has that is suitable. -/
structure SuitableMarket (context : MarketContext) (fundingRate : Option ℚ) : Prop where
  adx : ∃ adx ∈ context.primary.indicators.adx14, adx < 30
  atrPct : ∃ atr ∈ context.primary.indicators.atrPct, 0 < atr ∧ atr < 8 / 100
  volume : 41176 < quoteVolume context.primary
  funding : ∀ rate ∈ fundingRate, |rate| < 30

section Components

variable {ind : IndicatorValues}

theorem adx_of_rangeQuality (h : 11 / 21 ≤ rangeQuality ind) : ∃ adx ∈ ind.adx14, adx < 30 := by
  have hbelow {adx : ℚ} (hadx : 1 / 21 ≤ adxQuality adx) : adx < 30 := by
    have hraw := le_of_le_clamp (by norm_num) hadx
    linarith
  unfold rangeQuality at h
  split at h
  · norm_num at h
  · case h_2 adx hadx _ => exact ⟨adx, hadx, hbelow (le_trans (by norm_num) h)⟩
  · case h_3 adx width hadx _ =>
      have hmean := le_of_le_clamp (by norm_num) h
      have hbands := clamp_le_one (1 - width / (15 / 100))
      exact ⟨adx, hadx, hbelow (by linarith)⟩

theorem atrPct_of_volatilityQuality (h : 7 / 17 ≤ volatilityQuality ind) :
    ∃ atr ∈ ind.atrPct, 0 < atr ∧ atr < 8 / 100 := by
  unfold volatilityQuality at h
  split at h
  · norm_num at h
  · case h_2 atr hatr =>
      refine ⟨atr, hatr, ?_⟩
      split_ifs at h with hcalm hwild
      · have hraw := le_of_le_clamp (by norm_num) h
        exact ⟨by linarith, by linarith⟩
      · norm_num at h
      · have hraw := le_of_le_clamp (by norm_num) h
        rw [show ((8 : ℚ) / 100 - 3 / 1000) / 2 = 77 / 2000 by norm_num] at hraw
        have hdistance := le_abs_self (atr - (3 / 1000 + 8 / 100) / 2)
        exact ⟨by linarith, by linarith⟩

theorem volume_of_liquidityScore {features : FeatureSet}
    (h : 7 / 17 ≤ liquidityScore {} features) : 41176 < quoteVolume features := by
  unfold liquidityScore at h
  split_ifs at h with henough
  · exact lt_of_lt_of_le (by norm_num) henough
  · have hraw := le_of_le_clamp (by norm_num) h
    dsimp only at hraw
    linarith

theorem rate_of_fundingCostScore {rate : ℚ} (h : 7 / 17 ≤ fundingCostScore {} (some rate)) :
    |rate| < 30 := by
  simp only [fundingCostScore] at h
  split_ifs at h with hexpensive
  · norm_num at h
  · have hraw := le_of_le_clamp (by norm_num) h
    linarith

end Components

/-- A market is suitable only where each of its components is. -/
theorem suitableMarket_of_isSuitable {context : MarketContext} {fundingRate : Option ℚ}
    (h : (computeGridSuitability {} context fundingRate).isSuitable = true) :
    SuitableMarket context fundingRate := by
  have hstrong := strong_of_compositeScore (rangeQuality_mem context.primary.indicators)
    (volatilityQuality_le_one _) (liquidityScore_le_one {} context.primary)
    (fundingCostScore_le_one {} fundingRate) (breakoutRisk_nonneg _) (of_decide_eq_true h)
  refine ⟨adx_of_rangeQuality hstrong.range, atrPct_of_volatilityQuality hstrong.volatility,
    volume_of_liquidityScore hstrong.liquidity, fun rate hrate => ?_⟩
  have hfunding := hstrong.funding
  rw [Option.mem_def.1 hrate] at hfunding
  exact rate_of_fundingCostScore hfunding

end Sgr
