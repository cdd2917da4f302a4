import Mathlib.Data.Rat.Sqrt
import Sgr.MarketData.FeatureEngineer

/-!
# The features of a back-test

`_precompute_all_features` of `sgr/backtesting/simulator.py` computes the indicators of a
series once and reads a row off for each bar. As every indicator is causal, the row of a bar
is what the feature engineer computes from the candles up to it.
-/

open Arithmetic Collection

namespace Sgr

/-- `_at`. -/
def Line.at (xs : Line) (i : ℕ) : Option ℚ := xs[i]?.join

/-- `_at_dec`. -/
def Line.atDec (xs : Line) (i : ℕ) : Option ℚ := (xs.at i).map (Arithmetic.quantized 8)

/-- The indicators of a row. -/
def IndicatorArrays.row (a : IndicatorArrays) (i : ℕ) (candle : Candle) : IndicatorValues where
  rsi14 := a.rsi14.at i
  rsi7 := a.rsi7.at i
  macdLine := a.macd.line.at i
  macdSignal := a.macd.signal.at i
  macdHistogram := a.macd.histogram.at i
  adx14 := a.adx.adx.at i
  diPlus := a.adx.diPlus.at i
  diMinus := a.adx.diMinus.at i
  atr14 := a.atr.atDec i
  atrPct := atrShare (a.atr.atDec i) candle.closePrice
  bbUpper := a.bollinger.upper.atDec i
  bbMiddle := a.bollinger.middle.atDec i
  bbLower := a.bollinger.lower.atDec i
  bbWidth := bandWidth (a.bollinger.upper.at i) (a.bollinger.middle.at i) (a.bollinger.lower.at i)
  bbPosition := bandPosition candle.closePrice (a.bollinger.upper.at i)
    (a.bollinger.middle.at i) (a.bollinger.lower.at i)
  kcUpper := a.keltner.1.atDec i
  kcLower := a.keltner.2.atDec i
  ema9 := a.ema9.atDec i
  ema21 := a.ema21.atDec i
  ema50 := a.ema50.atDec i
  ema200 := a.ema200.atDec i
  sma20 := a.sma20.atDec i
  vwap := a.vwap.atDec i
  volumeSma20 := a.volumeSma.atDec i
  volumeRatio := ratioToAverage candle.volume (a.volumeSma.at i)
  obv := deltaToAverage (a.obv[i]?.getD 0) (a.obvSma.at i)

/-- `(c[i] - c[i - k]) / c[i - k]`, where there are so many candles. -/
def returnAt (candles : List Candle) (i : ℕ) (candle : Candle) (k : ℕ) : Option ℚ :=
  if k ≤ i then (candles[i - k]?).map fun c => changeOf c.closePrice candle.closePrice else none

/-- The row of a bar, where there are `MIN_CANDLES` candles. -/
def featureRow (a : IndicatorArrays) (candles : List Candle) (i : ℕ) (candle : Candle) :
    Option FeatureSet :=
  if i + 1 < minCandles then none
  else some
    { symbol := candle.symbol
      timestamp := candle.timestamp
      timeframe := candle.timeframe
      close := candle.closePrice
      volume := candle.volume
      indicators := a.row i candle
      returns1 := returnAt candles i candle 1
      returns5 := returnAt candles i candle 5
      returns10 := returnAt candles i candle 10
      returns20 := returnAt candles i candle 20 }

/-- `_precompute_all_features`. -/
def precomputeAllFeatures (sqrt : ℚ → ℚ) (candles : List Candle) : List (Option FeatureSet) :=
  candles.zipIdx.map fun c => featureRow (indicatorArrays sqrt candles) candles c.2 c.1

/-! ### A row and its prefix -/

section Prefix

variable {sqrt : ℚ → ℚ} {candles : List Candle} {f : List Candle → Line} {i : ℕ}

theorem last_take (hf : Causal f) (hi : i < candles.length) :
    (f (candles.take (i + 1))).last = (f candles).at i :=
  congrArg Option.join (hf.getLast?_take hi)

theorem lastDec_take (hf : Causal f) (hi : i < candles.length) :
    (f (candles.take (i + 1))).lastDec = (f candles).atDec i :=
  congrArg (Option.map (Arithmetic.quantized 8)) (last_take hf hi)

/-- An average that is left out in a short series is missing there anyway. -/
theorem ema_candles_eq (candles : List Candle) (period : ℕ) :
    (if period ≤ candles.length then ema (candles.map Candle.closePrice) period
      else .missing candles.length) = ema (candles.map Candle.closePrice) period := by
  split
  · rfl
  next hshort =>
    have hfew : (candles.map Candle.closePrice).length < period := by
      rw [List.length_map]
      exact not_le.1 hshort
    rw [ema, seededAverage, smoothed_of_lt hfew, List.length_map, Line.missing]

/-- What is causal in the closes is causal in the candles. -/
theorem causal_close {g : List ℚ → Line} (hg : Causal g) :
    Causal fun candles : List Candle => g (candles.map Candle.closePrice) :=
  hg.comp (causal_map _)

/-- Every array depends at each place on the candles up to it. -/
structure CausalArrays (a : List Candle → IndicatorArrays) : Prop where
  rsi14 : Causal fun cs => (a cs).rsi14
  rsi7 : Causal fun cs => (a cs).rsi7
  macdLine : Causal fun cs => (a cs).macd.line
  macdSignal : Causal fun cs => (a cs).macd.signal
  macdHistogram : Causal fun cs => (a cs).macd.histogram
  atr : Causal fun cs => (a cs).atr
  adx : Causal fun cs => (a cs).adx.adx
  diPlus : Causal fun cs => (a cs).adx.diPlus
  diMinus : Causal fun cs => (a cs).adx.diMinus
  bbUpper : Causal fun cs => (a cs).bollinger.upper
  bbMiddle : Causal fun cs => (a cs).bollinger.middle
  bbLower : Causal fun cs => (a cs).bollinger.lower
  kcUpper : Causal fun cs => (a cs).keltner.1
  kcLower : Causal fun cs => (a cs).keltner.2
  ema9 : Causal fun cs => (a cs).ema9
  ema21 : Causal fun cs => (a cs).ema21
  ema50 : Causal fun cs => (a cs).ema50
  ema200 : Causal fun cs => (a cs).ema200
  sma20 : Causal fun cs => (a cs).sma20
  vwap : Causal fun cs => (a cs).vwap
  volumeSma : Causal fun cs => (a cs).volumeSma
  obv : Causal fun cs => (a cs).obv
  obvSma : Causal fun cs => (a cs).obvSma

theorem causalArrays_indicatorArrays (sqrt : ℚ → ℚ) : CausalArrays (indicatorArrays sqrt) where
  rsi14 := causal_close (causal_calcRsi (by norm_num))
  rsi7 := causal_close (causal_calcRsi (by norm_num))
  macdLine := causal_close (causal_macdLine (by norm_num) (by norm_num) 9)
  macdSignal := causal_close (causal_macdSignal (by norm_num) (by norm_num) (by norm_num))
  macdHistogram := causal_close (causal_macdHistogram (by norm_num) (by norm_num) (by norm_num))
  atr := causal_calcAtr (by norm_num)
  adx := causal_adx (by norm_num)
  diPlus := causal_diPlus (by norm_num)
  diMinus := causal_diMinus (by norm_num)
  bbUpper := causal_close (causal_bands sqrt 20 _)
  bbMiddle := causal_close (causal_sma 20)
  bbLower := causal_close (causal_bands sqrt 20 _)
  kcUpper := causal_keltner (by norm_num) (by norm_num) _
  kcLower := causal_keltner (by norm_num) (by norm_num) _
  ema9 := causal_close (causal_ema (by norm_num))
  ema21 := causal_close (causal_ema (by norm_num))
  ema50 := by
    simp only [indicatorArrays, ema_candles_eq]
    exact causal_close (causal_ema (by norm_num))
  ema200 := by
    simp only [indicatorArrays, ema_candles_eq]
    exact causal_close (causal_ema (by norm_num))
  sma20 := causal_close (causal_sma 20)
  vwap := causal_calcVwap
  volumeSma := (causal_sma 20).comp (causal_map _)
  obv := causal_calcObv
  obvSma := (causal_sma 20).comp causal_calcObv

/-- The last indicators of a prefix stand in the row of its last candle. -/
theorem indicators_take (sqrt : ℚ → ℚ) (hi : i < candles.length) (candle : Candle) :
    computeIndicators sqrt (candles.take (i + 1)) candle =
      (indicatorArrays sqrt candles).row i candle := by
  have h := causalArrays_indicatorArrays sqrt
  have hobv : (calcObv (candles.take (i + 1))).getLastD 0 = (calcObv candles)[i]?.getD 0 := by
    rw [List.getLastD_eq_getLast?, causal_calcObv.getLast?_take hi]
  unfold computeIndicators IndicatorArrays.row
  simp only [IndicatorValues.mk.injEq]
  refine ⟨(last_take h.rsi14 hi :), (last_take h.rsi7 hi :), (last_take h.macdLine hi :),
    (last_take h.macdSignal hi :), (last_take h.macdHistogram hi :), (last_take h.adx hi :),
    (last_take h.diPlus hi :), (last_take h.diMinus hi :), (lastDec_take h.atr hi :), ?_,
    (lastDec_take h.bbUpper hi :), (lastDec_take h.bbMiddle hi :),
    (lastDec_take h.bbLower hi :), ?_, ?_,
    (lastDec_take h.kcUpper hi :), (lastDec_take h.kcLower hi :), (lastDec_take h.ema9 hi :),
    (lastDec_take h.ema21 hi :), (lastDec_take h.ema50 hi :), (lastDec_take h.ema200 hi :),
    (lastDec_take h.sma20 hi :), (lastDec_take h.vwap hi :),
    (lastDec_take h.volumeSma hi :), ?_, ?_⟩
  · rw [lastDec_take h.atr hi]
  · rw [last_take h.bbUpper hi, last_take h.bbMiddle hi, last_take h.bbLower hi]
  · rw [last_take h.bbUpper hi, last_take h.bbMiddle hi, last_take h.bbLower hi]
  · rw [last_take h.volumeSma hi]
  · rw [last_take h.obvSma hi]
    exact congrArg (deltaToAverage · _) hobv

theorem returnOver_take (hi : i < candles.length) (candle : Candle) (k : ℕ) :
    returnOver (candles.take (i + 1)) candle k = returnAt candles i candle k := by
  have hlength : (candles.take (i + 1)).length = i + 1 := by
    rw [List.length_take, Nat.min_eq_left hi]
  unfold returnOver returnAt
  rw [hlength, Nat.add_sub_add_right]
  by_cases hk : k ≤ i
  · rw [if_pos hk, if_pos (Nat.succ_le_succ hk), List.getElem?_take_of_lt (by omega)]
  · rw [if_neg hk, if_neg (by omega)]

theorem precomputeAllFeatures_getElem? (sqrt : ℚ → ℚ) (hi : i < candles.length) :
    (precomputeAllFeatures sqrt candles)[i]? =
      some (featureRow (indicatorArrays sqrt candles) candles i candles[i]) := by
  rw [precomputeAllFeatures, List.getElem?_map, List.getElem?_zipIdx,
    List.getElem?_eq_getElem hi, Option.map_some, Option.map_some, zero_add]

/-- From `MIN_CANDLES` candles on there are features. -/
theorem isSome_featureRow {a : IndicatorArrays} {candle : Candle} (hmin : minCandles ≤ i + 1) :
    (featureRow a candles i candle).isSome := by
  rw [featureRow, if_neg (not_lt.2 hmin), Option.isSome_some]

/-- The features of a prefix are the row of its last candle. -/
theorem compute_take (sqrt : ℚ → ℚ) (hmin : minCandles ≤ i + 1) (hi : i < candles.length) :
    compute sqrt (candles.take (i + 1)) =
      featureRow (indicatorArrays sqrt candles) candles i candles[i] := by
  have hlength : (candles.take (i + 1)).length = i + 1 := by
    rw [List.length_take, Nat.min_eq_left hi]
  have hlast : (candles.take (i + 1)).getLast? = some candles[i] := by
    rw [List.getLast?_eq_getElem?, hlength, Nat.add_sub_cancel,
      List.getElem?_take_of_lt (Nat.lt_succ_self i), List.getElem?_eq_getElem hi]
  have hfifty : 50 ≤ i + 1 := hmin
  rw [compute, hlength, if_neg (by omega), hlast, Option.map_some, featureRow,
    if_neg (not_lt.2 hmin)]
  simp only [indicators_take sqrt hi, returnOver_take hi]

/-- From `MIN_CANDLES` candles on, the row of a bar is what the feature engineer computes from
the candles up to the bar. -/
theorem precomputeAllFeatures_eq_compute (sqrt : ℚ → ℚ) (candles : List Candle) (i : ℕ)
    (hmin : minCandles ≤ i + 1) (hi : i < candles.length) :
    ∃ features, compute sqrt (candles.take (i + 1)) = some features ∧
      (precomputeAllFeatures sqrt candles)[i]? = some (some features) := by
  have hsome : (featureRow (indicatorArrays sqrt candles) candles i candles[i]).isSome :=
    isSome_featureRow hmin
  obtain ⟨features, hfeatures⟩ := Option.isSome_iff_exists.1 hsome
  refine ⟨features, ?_, ?_⟩
  · rw [compute_take sqrt hmin hi, hfeatures]
  · rw [precomputeAllFeatures_getElem? sqrt hi, hfeatures]

end Prefix

/-- The candle of an hour; the closes lie above and below their mean in turns. -/
def hourCandle (hour : ℕ) : Candle where
  symbol := ⟨"BTC", "USDT", .binance, .spot⟩
  timestamp := 3600 * hour
  timeframe := "1h"
  openPrice := 101
  high := 103
  low := 99
  closePrice := 101 + (-1) ^ hour
  volume := 1
  highGteLow := by norm_num

theorem precomputeAllFeatures_eq_compute_hourCandle :
    ∃ features,
      compute Rat.sqrt (((List.range 60).map hourCandle).take 50) = some features ∧
        (precomputeAllFeatures Rat.sqrt ((List.range 60).map hourCandle))[49]? =
          some (some features) :=
  precomputeAllFeatures_eq_compute _ _ 49 (by decide) (by simp)

end Sgr
