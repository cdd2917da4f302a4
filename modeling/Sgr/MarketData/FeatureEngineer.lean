import Sgr.Arithmetic.Decimal
import Sgr.MarketData.Indicators

/-!
# The feature engineer

`FeatureEngineer.compute` of `sgr/market_data/feature_engineering.py`: the features of the
last candle of a series, without an order book. Every indicator is computed over the whole
series, and its last value is taken.
-/

open Arithmetic

namespace Sgr

/-- `IndicatorValues`; `None` is `none`. -/
structure IndicatorValues where
  rsi14 : Option ℚ
  rsi7 : Option ℚ
  macdLine : Option ℚ
  macdSignal : Option ℚ
  macdHistogram : Option ℚ
  adx14 : Option ℚ
  diPlus : Option ℚ
  diMinus : Option ℚ
  atr14 : Option ℚ
  atrPct : Option ℚ
  bbUpper : Option ℚ
  bbMiddle : Option ℚ
  bbLower : Option ℚ
  bbWidth : Option ℚ
  bbPosition : Option ℚ
  kcUpper : Option ℚ
  kcLower : Option ℚ
  ema9 : Option ℚ
  ema21 : Option ℚ
  ema50 : Option ℚ
  ema200 : Option ℚ
  sma20 : Option ℚ
  vwap : Option ℚ
  volumeSma20 : Option ℚ
  volumeRatio : Option ℚ
  obv : Option ℚ
  deriving DecidableEq

/-- `FeatureSet`. -/
structure FeatureSet where
  symbol : Symbol
  timestamp : Timestamp
  timeframe : String
  close : ℚ
  volume : ℚ
  indicators : IndicatorValues
  returns1 : Option ℚ
  returns5 : Option ℚ
  returns10 : Option ℚ
  returns20 : Option ℚ
  regime : MarketRegime := .unknown
  deriving DecidableEq

/-- `MIN_CANDLES`. -/
def minCandles : ℕ := 50

/-- The arrays that the indicators of a series are read from. -/
structure IndicatorArrays where
  rsi14 : Line
  rsi7 : Line
  macd : Macd
  atr : Line
  adx : Adx
  bollinger : Bands
  keltner : Line × Line
  ema9 : Line
  ema21 : Line
  ema50 : Line
  ema200 : Line
  sma20 : Line
  vwap : Line
  volumeSma : Line
  obv : List ℚ
  obvSma : Line

/-- The arrays of a series of candles; `sqrt` is the square root. -/
def indicatorArrays (sqrt : ℚ → ℚ) (candles : List Candle) : IndicatorArrays :=
  let close := candles.map Candle.closePrice
  let n := candles.length
  { rsi14 := calcRsi close 14
    rsi7 := calcRsi close 7
    macd := calcMacd close 12 26 9
    atr := calcAtr candles 14
    adx := calcAdx candles 14
    bollinger := calcBollingerBands sqrt close 20 2
    keltner := calcKeltnerChannels candles 20 10 2
    ema9 := ema close 9
    ema21 := ema close 21
    ema50 := if 50 ≤ n then ema close 50 else .missing n
    ema200 := if 200 ≤ n then ema close 200 else .missing n
    sma20 := sma close 20
    vwap := calcVwap candles
    volumeSma := sma (candles.map Candle.volume) 20
    obv := calcObv candles
    obvSma := sma (calcObv candles) 20 }

/-! ### Values that are derived from others -/

/-- `atr_pct`; an average true range of zero counts as none. -/
def atrShare (atr : Option ℚ) (close : ℚ) : Option ℚ :=
  atr.bind fun atr => if atr ≠ 0 ∧ 0 < close then some (atr / close) else none

/-- The bands, where none of them is zero and the middle is positive. -/
def usableBands (upper middle lower : Option ℚ) : Option (ℚ × ℚ × ℚ) :=
  upper.bind fun u => middle.bind fun m => lower.bind fun l =>
    if u ≠ 0 ∧ m ≠ 0 ∧ l ≠ 0 ∧ 0 < m then some (u, m, l) else none

/-- `bb_width`. -/
def bandWidth (upper middle lower : Option ℚ) : Option ℚ :=
  (usableBands upper middle lower).map fun b => (b.1 - b.2.2) / b.2.1

/-- `bb_position`. -/
def bandPosition (close : ℚ) (upper middle lower : Option ℚ) : Option ℚ :=
  (usableBands upper middle lower).bind fun b =>
    if b.1 ≠ b.2.2 then some ((close - b.2.2) / (b.1 - b.2.2)) else none

/-- `volume_ratio`. -/
def ratioToAverage (volume : ℚ) (average : Option ℚ) : Option ℚ :=
  average.bind fun a => if 0 < a then some (volume / a) else none

/-- The distance of the `OBV` from its average, as a share of the average. -/
def deltaToAverage (obv : ℚ) (average : Option ℚ) : Option ℚ :=
  average.bind fun a => if a ≠ 0 then some ((obv - a) / |a|) else none

/-- The change from one close to another. -/
def changeOf (previous close : ℚ) : ℚ := (close - previous) / previous

/-! ### The last candle -/

/-- `_last`. -/
def Line.last (xs : Line) : Option ℚ := xs.getLast?.join

/-- `_last_dec`. -/
def Line.lastDec (xs : Line) : Option ℚ := xs.last.map (Arithmetic.quantized 8)

/-- `_compute_indicators`, for a series that is not empty. -/
def computeIndicators (sqrt : ℚ → ℚ) (candles : List Candle) (lastCandle : Candle) :
    IndicatorValues :=
  let a := indicatorArrays sqrt candles
  { rsi14 := a.rsi14.last
    rsi7 := a.rsi7.last
    macdLine := a.macd.line.last
    macdSignal := a.macd.signal.last
    macdHistogram := a.macd.histogram.last
    adx14 := a.adx.adx.last
    diPlus := a.adx.diPlus.last
    diMinus := a.adx.diMinus.last
    atr14 := a.atr.lastDec
    atrPct := atrShare a.atr.lastDec lastCandle.closePrice
    bbUpper := a.bollinger.upper.lastDec
    bbMiddle := a.bollinger.middle.lastDec
    bbLower := a.bollinger.lower.lastDec
    bbWidth := bandWidth a.bollinger.upper.last a.bollinger.middle.last a.bollinger.lower.last
    bbPosition := bandPosition lastCandle.closePrice a.bollinger.upper.last
      a.bollinger.middle.last a.bollinger.lower.last
    kcUpper := a.keltner.1.lastDec
    kcLower := a.keltner.2.lastDec
    ema9 := a.ema9.lastDec
    ema21 := a.ema21.lastDec
    ema50 := a.ema50.lastDec
    ema200 := a.ema200.lastDec
    sma20 := a.sma20.lastDec
    vwap := a.vwap.lastDec
    volumeSma20 := a.volumeSma.lastDec
    volumeRatio := ratioToAverage lastCandle.volume a.volumeSma.last
    obv := deltaToAverage (a.obv.getLastD 0) a.obvSma.last }

/-- `(close[-1] - close[-k - 1]) / close[-k - 1]`, where there are so many candles. -/
def returnOver (candles : List Candle) (lastCandle : Candle) (k : ℕ) : Option ℚ :=
  if k + 1 ≤ candles.length then
    (candles[candles.length - (k + 1)]?).map fun c =>
      changeOf c.closePrice lastCandle.closePrice
  else none

/-- `compute`, without an order book; `none` is the exception for fewer than two candles. -/
def compute (sqrt : ℚ → ℚ) (candles : List Candle) : Option FeatureSet :=
  if candles.length < 2 then none
  else candles.getLast?.map fun lastCandle =>
    { symbol := lastCandle.symbol
      timestamp := lastCandle.timestamp
      timeframe := lastCandle.timeframe
      close := lastCandle.closePrice
      volume := lastCandle.volume
      indicators := computeIndicators sqrt candles lastCandle
      returns1 := returnOver candles lastCandle 1
      returns5 := returnOver candles lastCandle 5
      returns10 := returnOver candles lastCandle 10
      returns20 := returnOver candles lastCandle 20 }

end Sgr
