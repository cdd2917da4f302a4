import Sgr.Backtesting.Simulator

/-!
# The strategies of the source

`generate_signal` of the five strategies that trade in one direction, in `sgr/strategy/`: each
adds up the weights of the conditions that the indicators meet, and the share of the highest sum
is its confidence. The grids of `sgr/strategy/futures_grid.py` give no signal. Whoever computes
features passes no order book to them.
-/

namespace Sgr

/-- The default of `size_hint` passes its check. -/
theorem sizeHint_default : (0 : ℚ) ≤ 1 ∧ (1 : ℚ) ≤ 1 := ⟨zero_le_one, le_rfl⟩

/-- `_signal`; a confidence outside of the unit interval raises, as other exceptions do, and the
caller counts an exception as no signal. -/
def makeSignal (name : String) (id : UUID) (context : MarketContext)
    (direction : SignalDirection) (confidence : ℚ) (metadata : SignalMetadata := {}) :
    Option Signal :=
  if h : 0 ≤ confidence ∧ confidence ≤ 1 then
    some
      { id := id
        strategyName := name
        symbol := context.symbol
        direction := direction
        confidence := confidence
        regime := context.regime
        metadata := metadata
        confidence_mem := h
        sizeHint_mem := sizeHint_default }
  else none

/-- The weight of a condition that is met. -/
def points (met : Bool) (weight : ℚ) : ℚ := if met then weight else 0

/-- `round(price, 2) if price else None`. -/
def roundedPrice (price : Option ℚ) : Option ℚ :=
  (price.filter fun x => x ≠ 0).map (Arithmetic.quantized 2)

/-- A distance of a multiple of the average true range, where it is known and not zero. -/
def stopDistance (ind : IndicatorValues) (factor : ℚ) : Option ℚ :=
  (ind.atr14.filter fun atr => atr ≠ 0).map fun atr => atr * factor

/-! ### `trend_following_v1` -/

/-- `TrendFollowingParams`. -/
structure TrendFollowingParams where
  rsiMinLong : ℚ := 50
  rsiMaxShort : ℚ := 50
  adxMin : ℚ := 25
  volumeRatioMin : ℚ := 8 / 10
  minConfidence : ℚ := 55 / 100

namespace TrendFollowingParams

variable (p : TrendFollowingParams)

/-- `max_score`. -/
def maxScore : ℚ := 2 + 2 + 15 / 10 + 1 + 1 + 5 / 10 + 1

/-- The points for the strength of the trend. -/
def adxPoints (ind : IndicatorValues) : ℚ :=
  match ind.adx14 with
  | none => 0
  | some adx => if p.adxMin ≤ adx then 15 / 10 else if 20 ≤ adx then 75 / 100 else 0

/-- `score` of `_evaluate_long`. -/
def scoreLong (ind : IndicatorValues) (close : ℚ) : ℚ :=
  (if ind.rsi14.any (p.rsiMinLong < ·) then 2 + points (ind.rsi14.any (60 < ·)) (5 / 10) else 0) +
  (if exceeds ind.ema9 ind.ema21 then 2 + points (exceeds ind.ema21 ind.ema50) (5 / 10) else 0) +
  p.adxPoints ind +
  points (ind.vwap.any fun vwap => vwap ≠ 0 ∧ vwap < close) 1 +
  points (ind.volumeRatio.any (p.volumeRatioMin ≤ ·)) 1 +
  points (ind.bbPosition.any fun b => 4 / 10 < b ∧ b < 85 / 100) (5 / 10) +
  points (ind.diPlus.any fun a => ind.diMinus.any (· < a)) 1

/-- `score` of `_evaluate_short`. -/
def scoreShort (ind : IndicatorValues) (close : ℚ) : ℚ :=
  (if ind.rsi14.any (· < p.rsiMaxShort) then 2 + points (ind.rsi14.any (· < 40)) (5 / 10) else 0) +
  (if exceeds ind.ema21 ind.ema9 then 2 + points (exceeds ind.ema50 ind.ema21) (5 / 10) else 0) +
  p.adxPoints ind +
  points (ind.vwap.any fun vwap => vwap ≠ 0 ∧ close < vwap) 1 +
  points (ind.volumeRatio.any (p.volumeRatioMin ≤ ·)) 1 +
  points (ind.bbPosition.any fun b => 15 / 100 < b ∧ b < 6 / 10) (5 / 10) +
  points (ind.diMinus.any fun a => ind.diPlus.any (· < a)) 1

/-- `confidence` of a score: a weak trend halves it. -/
def confidence (ind : IndicatorValues) (score : ℚ) : ℚ :=
  if ind.adx14.any (· < p.adxMin) then score / maxScore * (5 / 10) else score / maxScore

/-- `_evaluate_long` and `_evaluate_short` after the score. -/
def evaluated (name : String) (id : UUID) (context : MarketContext)
    (direction : SignalDirection) (score : ℚ) : Option Signal :=
  let confidence := p.confidence context.primary.indicators score
  if confidence < p.minConfidence then none
  else makeSignal name id context direction (min confidence 1)

/-- `validate_context`. -/
def validateContext (context : MarketContext) : Bool :=
  let ind := context.primary.indicators
  ind.rsi14.isSome && ind.adx14.isSome && ind.ema9.isSome && ind.ema21.isSome &&
    decide (0 < context.primary.close)

/-- `generate_signal`. -/
def generateSignal (name : String) (id : UUID) (context : MarketContext) : Option Signal :=
  let ind := context.primary.indicators
  let close := context.primary.close
  if !validateContext context then none
  else if context.regime = .trendingUp then
    p.evaluated name id context .long (p.scoreLong ind close)
  else if context.regime = .trendingDown then
    p.evaluated name id context .short (p.scoreShort ind close)
  else none

end TrendFollowingParams

/-! ### `mean_reversion_v1` -/

/-- `MeanReversionParams`. -/
structure MeanReversionParams where
  rsiOversold : ℚ := 35
  rsiOverbought : ℚ := 65
  bbPositionLong : ℚ := 15 / 100
  bbPositionShort : ℚ := 85 / 100
  minConfidence : ℚ := 55 / 100
  requireImbalance : Bool := true

namespace MeanReversionParams

variable (p : MeanReversionParams)

/-- `max_score`. -/
def maxScore : ℚ := 25 / 10 + 2 + 15 / 10 + 1 + 1 + 5 / 10

/-- `_score_long`; the imbalance is that of the order book. -/
def scoreLong (ind : IndicatorValues) (imbalance : Option ℚ) : ℚ :=
  (if ind.rsi14.any (· < p.rsiOversold) then 25 / 10 else points (ind.rsi14.any (· < 40)) 1) +
  (if ind.bbPosition.any (· < p.bbPositionLong) then 2
    else points (ind.bbPosition.any (· < 25 / 100)) 1) +
  points (ind.macdHistogram.any (· < 0)) (15 / 10) +
  (if imbalance.any (1 / 10 < ·) then 1 else points (!p.requireImbalance) (5 / 10)) +
  points (ind.bbWidth.any (· < 4 / 100)) 1 +
  points (ind.adx14.any (· < 20)) (5 / 10)

/-- `_score_short`. -/
def scoreShort (ind : IndicatorValues) (imbalance : Option ℚ) : ℚ :=
  (if ind.rsi14.any (p.rsiOverbought < ·) then 25 / 10 else points (ind.rsi14.any (60 < ·)) 1) +
  (if ind.bbPosition.any (p.bbPositionShort < ·) then 2
    else points (ind.bbPosition.any (75 / 100 < ·)) 1) +
  points (ind.macdHistogram.any (0 < ·)) (15 / 10) +
  (if imbalance.any (· < -1 / 10) then 1 else points (!p.requireImbalance) (5 / 10)) +
  points (ind.bbWidth.any (· < 4 / 100)) 1 +
  points (ind.adx14.any (· < 20)) (5 / 10)

/-- `validate_context`. -/
def validateContext (context : MarketContext) : Bool :=
  let ind := context.primary.indicators
  ind.rsi14.isSome && ind.bbPosition.isSome && ind.atr14.isSome &&
    decide (0 < context.primary.close)

/-- The target is the middle band, the stop at a distance from the close. -/
def metadata (ind : IndicatorValues) (stop : ℚ → ℚ) : SignalMetadata where
  targetPrice := roundedPrice ind.bbMiddle
  stopPrice := roundedPrice ((stopDistance ind (15 / 10)).map stop)

/-- `generate_signal`. -/
def generateSignal (name : String) (id : UUID) (context : MarketContext) : Option Signal :=
  let ind := context.primary.indicators
  let close := context.primary.close
  let longConf := p.scoreLong ind none / maxScore
  let shortConf := p.scoreShort ind none / maxScore
  if !validateContext context then none
  else if context.regime ≠ .ranging then none
  else if shortConf < longConf ∧ p.minConfidence ≤ longConf then
    makeSignal name id context .long (min longConf 1) (metadata ind fun d => close - d)
  else if p.minConfidence ≤ shortConf ∧ longConf < shortConf then
    makeSignal name id context .short (min shortConf 1) (metadata ind fun d => close + d)
  else none

end MeanReversionParams

/-! ### `momentum_v1` -/

/-- `MomentumParams`. -/
structure MomentumParams where
  returns5Min : ℚ := 1 / 100
  rsiMomentumLow : ℚ := 55
  rsiMomentumHigh : ℚ := 80
  volumeRatioMin : ℚ := 11 / 10
  minConfidence : ℚ := 55 / 100

namespace MomentumParams

variable (p : MomentumParams)

/-- `max_score`. -/
def maxScore : ℚ := 25 / 10 + 15 / 10 + 2 + 2 + 15 / 10 + 5 / 10

/-- The points for the volume and for the strength of the trend. -/
def confirmation (ind : IndicatorValues) : ℚ :=
  points (ind.volumeRatio.any (p.volumeRatioMin ≤ ·)) (15 / 10) +
  points (ind.adx14.any (18 < ·)) (5 / 10)

/-- `score` of `_evaluate_long`. -/
def scoreLong (features : FeatureSet) : ℚ :=
  let ind := features.indicators
  (if features.returns5.any (p.returns5Min < ·) then 25 / 10
    else points (features.returns5.any (0 < ·)) 1) +
  points (features.returns10.any (0 < ·)) (15 / 10) +
  points (ind.rsi14.any fun r => p.rsiMomentumLow < r ∧ r < p.rsiMomentumHigh) 2 +
  points (ind.macdHistogram.any (0 < ·)) 2 + p.confirmation ind

/-- `score` of `_evaluate_short`. -/
def scoreShort (features : FeatureSet) : ℚ :=
  let ind := features.indicators
  (if features.returns5.any (· < -p.returns5Min) then 25 / 10
    else points (features.returns5.any (· < 0)) 1) +
  points (features.returns10.any (· < 0)) (15 / 10) +
  points (ind.rsi14.any fun r => 100 - p.rsiMomentumHigh < r ∧ r < 100 - p.rsiMomentumLow) 2 +
  points (ind.macdHistogram.any (· < 0)) 2 + p.confirmation ind

/-- `_evaluate_long` and `_evaluate_short` after the score. -/
def evaluated (name : String) (id : UUID) (context : MarketContext)
    (direction : SignalDirection) (score : ℚ) : Option Signal :=
  let confidence := score / maxScore
  if confidence < p.minConfidence then none
  else makeSignal name id context direction (min confidence 1)

/-- `validate_context`. -/
def validateContext (context : MarketContext) : Bool :=
  let features := context.primary
  features.indicators.rsi14.isSome && features.returns5.isSome && features.returns10.isSome &&
    decide (0 < features.close)

/-- `generate_signal`. -/
def generateSignal (name : String) (id : UUID) (context : MarketContext) : Option Signal :=
  if !validateContext context then none
  else if context.regime = .trendingUp then
    p.evaluated name id context .long (p.scoreLong context.primary)
  else if context.regime = .trendingDown then
    p.evaluated name id context .short (p.scoreShort context.primary)
  else none

end MomentumParams

/-! ### `breakout_v1` -/

/-- `BreakoutParams`. -/
structure BreakoutParams where
  bbPositionBreakoutHigh : ℚ := 90 / 100
  bbPositionBreakoutLow : ℚ := 10 / 100
  bbWidthExpansionMin : ℚ := 45 / 1000
  volumeRatioMin : ℚ := 12 / 10
  rsiExhaustionHigh : ℚ := 75
  rsiExhaustionLow : ℚ := 25
  minConfidence : ℚ := 55 / 100

namespace BreakoutParams

variable (p : BreakoutParams)

/-- `max_score`. -/
def maxScore : ℚ := 25 / 10 + 2 + 15 / 10 + 15 / 10 + 1 + 5 / 10

/-- `_score_long`. -/
def scoreLong (ind : IndicatorValues) : ℚ :=
  points (ind.bbPosition.any (p.bbPositionBreakoutHigh ≤ ·)) (25 / 10) +
  points (ind.bbWidth.any (p.bbWidthExpansionMin ≤ ·)) 2 +
  points (ind.kcUpper.any fun k => ind.bbUpper.any (k < ·)) (15 / 10) +
  points (ind.volumeRatio.any (p.volumeRatioMin ≤ ·)) (15 / 10) +
  points (ind.rsi14.any fun r => 55 < r ∧ r < p.rsiExhaustionHigh) 1 +
  points (ind.adx14.any (18 < ·)) (5 / 10)

/-- `_score_short`. -/
def scoreShort (ind : IndicatorValues) : ℚ :=
  points (ind.bbPosition.any (· ≤ p.bbPositionBreakoutLow)) (25 / 10) +
  points (ind.bbWidth.any (p.bbWidthExpansionMin ≤ ·)) 2 +
  points (ind.kcLower.any fun k => ind.bbLower.any (· < k)) (15 / 10) +
  points (ind.volumeRatio.any (p.volumeRatioMin ≤ ·)) (15 / 10) +
  points (ind.rsi14.any fun r => p.rsiExhaustionLow < r ∧ r < 45) 1 +
  points (ind.adx14.any (18 < ·)) (5 / 10)

/-- `validate_context`. -/
def validateContext (context : MarketContext) : Bool :=
  let ind := context.primary.indicators
  ind.bbPosition.isSome && ind.bbWidth.isSome && ind.atr14.isSome &&
    decide (0 < context.primary.close)

/-- The stop and the target, at one and at two average true ranges from the close. -/
def metadata (ind : IndicatorValues) (stop target : ℚ → ℚ) : SignalMetadata where
  targetPrice := roundedPrice ((stopDistance ind 1).map target)
  stopPrice := roundedPrice ((stopDistance ind 1).map stop)

/-- `generate_signal`. -/
def generateSignal (name : String) (id : UUID) (context : MarketContext) : Option Signal :=
  let ind := context.primary.indicators
  let close := context.primary.close
  let longConf := p.scoreLong ind / maxScore
  let shortConf := p.scoreShort ind / maxScore
  if !validateContext context then none
  else if context.regime ≠ .breakout then none
  else if p.minConfidence ≤ longConf ∧ shortConf < longConf then
    makeSignal name id context .long (min longConf 1)
      (metadata ind (fun d => close - d) fun d => close + d * 2)
  else if p.minConfidence ≤ shortConf ∧ longConf < shortConf then
    makeSignal name id context .short (min shortConf 1)
      (metadata ind (fun d => close + d) fun d => close - d * 2)
  else none

end BreakoutParams

/-! ### `volatility_adjusted_momentum_v1` -/

/-- `VolAdjustedMomentumParams`. -/
structure VolAdjustedMomentumParams where
  returns5Min : ℚ := 2 / 100
  rsiMomentumLow : ℚ := 58
  rsiMomentumHigh : ℚ := 78
  volumeRatioMin : ℚ := 13 / 10
  minConfidence : ℚ := 55 / 100
  atrPctReference : ℚ := 5 / 100

namespace VolAdjustedMomentumParams

variable (p : VolAdjustedMomentumParams)

/-- `max_score`. -/
def maxScore : ℚ := 25 / 10 + 15 / 10 + 2 + 2 + 2

/-- `_score`. -/
def score (features : FeatureSet) (long : Bool) : ℚ :=
  let ind := features.indicators
  let sign : ℚ := if long then 1 else -1
  let rsiLow := if long then p.rsiMomentumLow else 100 - p.rsiMomentumHigh
  let rsiHigh := if long then p.rsiMomentumHigh else 100 - p.rsiMomentumLow
  points (features.returns5.any fun r => p.returns5Min < sign * r) (25 / 10) +
  points (features.returns10.any fun r => 0 < sign * r) (15 / 10) +
  points (ind.rsi14.any fun r => rsiLow < r ∧ r < rsiHigh) 2 +
  points (ind.macdHistogram.any fun m => 0 < sign * m) 2 +
  points (ind.volumeRatio.any (p.volumeRatioMin ≤ ·)) 2

/-- `damping_factor`. -/
def dampingFactor (atrPct : ℚ) : ℚ :=
  1 + max (atrPct - p.atrPctReference) 0 / p.atrPctReference

/-- `validate_context`. -/
def validateContext (context : MarketContext) : Bool :=
  let features := context.primary
  features.indicators.rsi14.isSome && features.indicators.atrPct.isSome &&
    features.returns5.isSome && decide (0 < features.close)

/-- `generate_signal`; a division by zero in `_dampen` raises. -/
def generateSignal (name : String) (id : UUID) (context : MarketContext) : Option Signal :=
  let atrPct := (context.primary.indicators.atrPct.filter fun a => a ≠ 0).getD p.atrPctReference
  let longConf := p.score context.primary true / maxScore / p.dampingFactor atrPct
  let shortConf := p.score context.primary false / maxScore / p.dampingFactor atrPct
  if !validateContext context then none
  else if context.regime ≠ .highVolatility then none
  else if p.atrPctReference = 0 ∨ p.dampingFactor atrPct = 0 then none
  else if p.minConfidence ≤ longConf ∧ shortConf < longConf then
    makeSignal name id context .long (min longConf 1)
  else if p.minConfidence ≤ shortConf ∧ longConf < shortConf then
    makeSignal name id context .short (min shortConf 1)
  else none

end VolAdjustedMomentumParams

/-! ### The classes -/

/-- The classes that `sgr/strategy/` registers; the grids differ by what they evaluate to. -/
inductive StrategyClass
  | trendFollowing (p : TrendFollowingParams)
  | meanReversion (p : MeanReversionParams)
  | momentum (p : MomentumParams)
  | breakout (p : BreakoutParams)
  | volatilityAdjustedMomentum (p : VolAdjustedMomentumParams)
  | futuresGrid

namespace StrategyClass

/-- `supported_regimes`. -/
def supportedRegimes : StrategyClass → List MarketRegime
  | trendFollowing _ | momentum _ => [.trendingUp, .trendingDown]
  | meanReversion _ => [.ranging]
  | breakout _ => [.breakout]
  | volatilityAdjustedMomentum _ => [.highVolatility]
  | futuresGrid => [.ranging, .lowVolatility, .trendingUp, .trendingDown]

/-- The class is a `GridTradingStrategy`. -/
def isGrid : StrategyClass → Bool
  | futuresGrid => true
  | _ => false

/-- `generate_signal` of an instance under a name. -/
def generateSignal (name : String) (id : UUID) (context : MarketContext) :
    StrategyClass → Option Signal
  | trendFollowing p => p.generateSignal name id context
  | meanReversion p => p.generateSignal name id context
  | momentum p => p.generateSignal name id context
  | breakout p => p.generateSignal name id context
  | volatilityAdjustedMomentum p => p.generateSignal name id context
  | futuresGrid => none

/-- `min_confidence`; the grids have none. -/
def minConfidence : StrategyClass → Option ℚ
  | trendFollowing p => some p.minConfidence
  | meanReversion p => some p.minConfidence
  | momentum p => some p.minConfidence
  | breakout p => some p.minConfidence
  | volatilityAdjustedMomentum p => some p.minConfidence
  | futuresGrid => none

end StrategyClass

/-! ### What a signal says -/

section Signals

variable {name : String} {id : UUID} {context : MarketContext} {s : Signal}

theorem makeSignal_eq_some {direction : SignalDirection} {confidence : ℚ}
    {metadata : SignalMetadata}
    (h : makeSignal name id context direction confidence metadata = some s) :
    s.strategyName = name ∧ s.symbol = context.symbol ∧ s.direction = direction ∧
      s.confidence = confidence ∧ s.regime = context.regime := by
  unfold makeSignal at h
  split at h
  · cases h
    exact ⟨rfl, rfl, rfl, rfl, rfl⟩
  · cases h

/-- What is known of a signal that a strategy gives in a context: it comes in a regime that the
strategy supports, it opens a position, and a trend says in which direction. -/
structure StrategyClass.Signals (c : StrategyClass) (name : String) (context : MarketContext)
    (s : Signal) : Prop where
  name : s.strategyName = name
  symbol : s.symbol = context.symbol
  regime : s.regime = context.regime
  supported : context.regime ∈ c.supportedRegimes
  opens : s.direction = .long ∨ s.direction = .short
  up : context.regime = .trendingUp → s.direction = .long
  down : context.regime = .trendingDown → s.direction = .short
  confident : ∃ q, c.minConfidence = some q ∧ min q 1 ≤ s.confidence

/-- A signal in a direction that the trend, if there is one, does not contradict. -/
theorem signals_of_makeSignal {c : StrategyClass} {direction : SignalDirection}
    {confidence q : ℚ} {metadata : SignalMetadata}
    (h : makeSignal name id context direction (min confidence 1) metadata = some s)
    (hsupported : context.regime ∈ c.supportedRegimes)
    (hopens : direction = .long ∨ direction = .short)
    (hup : context.regime = .trendingUp → direction = .long)
    (hdown : context.regime = .trendingDown → direction = .short)
    (hmin : c.minConfidence = some q) (hq : q ≤ confidence) : c.Signals name context s := by
  obtain ⟨hname, hsymbol, hdirection, hconfidence, hregime⟩ := makeSignal_eq_some h
  exact
    { name := hname
      symbol := hsymbol
      regime := hregime
      supported := hsupported
      opens := hdirection ▸ hopens
      up := hdirection ▸ hup
      down := hdirection ▸ hdown
      confident := ⟨q, hmin, hconfidence ▸ min_le_min_right 1 hq⟩ }

/-- A signal of a strategy that follows the trend. -/
theorem signals_of_trending {c : StrategyClass} {direction : SignalDirection} {confidence q : ℚ}
    (hc : c.supportedRegimes = [.trendingUp, .trendingDown]) (hmin : c.minConfidence = some q)
    (htrend : context.regime = .trendingUp ∧ direction = .long ∨
      context.regime = .trendingDown ∧ direction = .short)
    (hq : ¬ confidence < q)
    (h : makeSignal name id context direction (min confidence 1) = some s) :
    c.Signals name context s := by
  rcases htrend with ⟨hregime, rfl⟩ | ⟨hregime, rfl⟩
  · exact signals_of_makeSignal h (by simp [hc, hregime]) (.inl rfl) (fun _ => rfl)
      (fun hdown => by simp [hregime] at hdown) hmin (not_lt.1 hq)
  · exact signals_of_makeSignal h (by simp [hc, hregime]) (.inr rfl)
      (fun hup => by simp [hregime] at hup) (fun _ => rfl) hmin (not_lt.1 hq)

/-- A signal of a strategy that weighs both directions in a regime that is no trend. -/
theorem signals_of_weighed {c : StrategyClass} {regime : MarketRegime} {confidence q : ℚ}
    {direction : SignalDirection} {metadata : SignalMetadata}
    (hc : c.supportedRegimes = [regime]) (hmin : c.minConfidence = some q)
    (hregime : ¬ context.regime ≠ regime)
    (htrend : regime ≠ .trendingUp ∧ regime ≠ .trendingDown)
    (hopens : direction = .long ∨ direction = .short) (hq : q ≤ confidence)
    (h : makeSignal name id context direction (min confidence 1) metadata = some s) :
    c.Signals name context s := by
  obtain rfl := not_not.1 hregime
  exact signals_of_makeSignal h (by simp [hc]) hopens (fun hup => absurd hup htrend.1)
    (fun hdown => absurd hdown htrend.2) hmin hq

theorem signals_of_trendFollowing {p : TrendFollowingParams}
    (h : p.generateSignal name id context = some s) :
    (StrategyClass.trendFollowing p).Signals name context s := by
  simp only [TrendFollowingParams.generateSignal, TrendFollowingParams.evaluated] at h
  split at h
  · cases h
  split at h
  next hregime =>
    split at h
    · cases h
    next hq => exact signals_of_trending rfl rfl (.inl ⟨hregime, rfl⟩) hq h
  split at h
  next hregime =>
    split at h
    · cases h
    next hq => exact signals_of_trending rfl rfl (.inr ⟨hregime, rfl⟩) hq h
  · cases h

theorem signals_of_momentum {p : MomentumParams}
    (h : p.generateSignal name id context = some s) :
    (StrategyClass.momentum p).Signals name context s := by
  simp only [MomentumParams.generateSignal, MomentumParams.evaluated] at h
  split at h
  · cases h
  split at h
  next hregime =>
    split at h
    · cases h
    next hq => exact signals_of_trending rfl rfl (.inl ⟨hregime, rfl⟩) hq h
  split at h
  next hregime =>
    split at h
    · cases h
    next hq => exact signals_of_trending rfl rfl (.inr ⟨hregime, rfl⟩) hq h
  · cases h

theorem signals_of_meanReversion {p : MeanReversionParams}
    (h : p.generateSignal name id context = some s) :
    (StrategyClass.meanReversion p).Signals name context s := by
  simp only [MeanReversionParams.generateSignal] at h
  split at h
  · cases h
  split at h
  · cases h
  next hregime =>
    split at h
    next hlong => exact signals_of_weighed rfl rfl hregime (by decide) (.inl rfl) hlong.2 h
    split at h
    next hshort => exact signals_of_weighed rfl rfl hregime (by decide) (.inr rfl) hshort.1 h
    · cases h

theorem signals_of_breakout {p : BreakoutParams}
    (h : p.generateSignal name id context = some s) :
    (StrategyClass.breakout p).Signals name context s := by
  simp only [BreakoutParams.generateSignal] at h
  split at h
  · cases h
  split at h
  · cases h
  next hregime =>
    split at h
    next hlong => exact signals_of_weighed rfl rfl hregime (by decide) (.inl rfl) hlong.1 h
    split at h
    next hshort => exact signals_of_weighed rfl rfl hregime (by decide) (.inr rfl) hshort.1 h
    · cases h

theorem signals_of_volatilityAdjustedMomentum {p : VolAdjustedMomentumParams}
    (h : p.generateSignal name id context = some s) :
    (StrategyClass.volatilityAdjustedMomentum p).Signals name context s := by
  simp only [VolAdjustedMomentumParams.generateSignal] at h
  split at h
  · cases h
  split at h
  · cases h
  next hregime =>
    split at h
    · cases h
    split at h
    next hlong => exact signals_of_weighed rfl rfl hregime (by decide) (.inl rfl) hlong.1 h
    split at h
    next hshort => exact signals_of_weighed rfl rfl hregime (by decide) (.inr rfl) hshort.1 h
    · cases h

/-- What a signal says, whatever the parameters of its strategy are. -/
theorem signals_of_generateSignal {c : StrategyClass}
    (h : c.generateSignal name id context = some s) : c.Signals name context s := by
  cases c with
  | trendFollowing p => exact signals_of_trendFollowing h
  | meanReversion p => exact signals_of_meanReversion h
  | momentum p => exact signals_of_momentum h
  | breakout p => exact signals_of_breakout h
  | volatilityAdjustedMomentum p => exact signals_of_volatilityAdjustedMomentum h
  | futuresGrid => cases h

end Signals

end Sgr
