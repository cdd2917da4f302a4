import Mathlib.Algebra.BigOperators.Group.List.Basic
import Mathlib.Algebra.Order.Group.Unbundled.Abs
import Mathlib.Tactic.NormNum
import Sgr.Collection.Causal
import Sgr.Core.Types

/-!
# Technical indicators

The indicator functions of `sgr/market_data/feature_engineering.py`, over exact numbers and
with the square root as a parameter. An array has a value or nothing at each place: `NaN` is
`none`. Each indicator is causal, whatever its warm-up, its seed and its gaps are.
-/

open Collection

namespace Sgr

/-- An array; `NaN` is `none`. -/
abbrev Line := List (Option ℚ)

namespace Line

/-- An array without a value: `np.full(n, np.nan)`. -/
def missing (n : ℕ) : Line := List.replicate n none

/-- An operation on arrays of one length; what is missing in one is missing in the result. -/
def op (f : ℚ → ℚ → ℚ) (xs ys : Line) : Line := List.zipWith (Option.map₂ f) xs ys

end Line

/-- `np.mean`. -/
def mean (xs : List ℚ) : ℚ := xs.sum / xs.length

/-- `np.std` with `ddof=0`. -/
def std (sqrt : ℚ → ℚ) (xs : List ℚ) : ℚ :=
  sqrt (mean (xs.map fun x => (x - mean xs) ^ 2))

/-! ### Averages -/

/-- An average that is seeded with the mean of the first `period` values. -/
def seededAverage (alpha : ℚ) (period : ℕ) (values : List ℚ) : Line :=
  smoothed mean (fun last value => value * alpha + last * (1 - alpha)) period values

/-- `_ema`. -/
def ema (values : List ℚ) (period : ℕ) : Line := seededAverage (2 / (period + 1)) period values

/-- `_rma`. -/
def rma (values : List ℚ) (period : ℕ) : Line := seededAverage (1 / period) period values

/-- The last `period` values at each place where there are so many. -/
def rolling (v : List ℚ → ℚ) (values : List ℚ) (period : ℕ) : Line :=
  (List.range values.length).map fun i =>
    if i + 1 < period then none else some (v ((values.take (i + 1)).drop (i + 1 - period)))

/-- `_sma`. -/
def sma (values : List ℚ) (period : ℕ) : Line :=
  if values.length < period then .missing values.length else rolling mean values period

/-- `np.cumsum`. -/
def cumsum (values : List ℚ) : List ℚ := running (· + ·) 0 values

/-- The values of an average over what stands in an array, put back into their places: the
first `period - 1` of them are missing. -/
def realigned (period : ℕ) (valid average : Line) : Line :=
  if valid.reduceOption.length < period then .missing valid.length
  else scatter valid (Line.missing (period - 1) ++ average.drop (period - 1))

/-! ### Indicators -/

/-- `100 - 100 / (1 + rs)`. Without a loss `rs` is infinite and the quotient is zero. -/
def rsiOf (gain loss : ℚ) : ℚ := if loss = 0 then 100 else 100 - 100 / (1 + gain / loss)

/-- `calc_rsi`. -/
def calcRsi (close : List ℚ) (period : ℕ) : Line :=
  if close.length < period + 1 then .missing close.length
  else
    let delta := neighbours (fun x y => y - x) close
    let gains := delta.map fun d => if 0 < d then d else 0
    let losses := delta.map fun d => if d < 0 then -d else 0
    padFirst close (Line.op rsiOf (rma gains period) (rma losses period))

/-- The three arrays of `calc_macd`. -/
structure Macd where
  line : Line
  signal : Line
  histogram : Line

/-- `calc_macd`. -/
def calcMacd (close : List ℚ) (fast slow signal : ℕ) : Macd :=
  let line := Line.op (· - ·) (ema close fast) (ema close slow)
  let signalFull := realigned signal line (ema line.reduceOption signal)
  ⟨line, signalFull, Line.op (· - ·) line signalFull⟩

/-- `_true_range`. -/
def trueRange (bars : List Candle) : List ℚ :=
  withFirst (fun bar => bar.high - bar.low)
    (fun previous bar => max (bar.high - bar.low)
      (max |bar.high - previous.closePrice| |bar.low - previous.closePrice|)) bars

/-- `calc_atr`. -/
def calcAtr (bars : List Candle) (period : ℕ) : Line := rma (trueRange bars) period

/-- `DI+` or `DI-`: a share of the average true range, where the range is positive. -/
def diOf (atr smooth : Option ℚ) : Option ℚ :=
  atr.bind fun atr => if 0 < atr then smooth.map fun smooth => 100 * smooth / atr else none

/-- `DX`, where the sum of both is positive. -/
def dxOf (plus minus : Option ℚ) : Option ℚ :=
  plus.bind fun plus => minus.bind fun minus =>
    if 0 < plus + minus then some (100 * |plus - minus| / (plus + minus)) else none

/-- The three arrays of `calc_adx`. -/
structure Adx where
  adx : Line
  diPlus : Line
  diMinus : Line

/-- `calc_adx`. -/
def calcAdx (bars : List Candle) (period : ℕ) : Adx :=
  let upMove := fun previous bar : Candle => bar.high - previous.high
  let downMove := fun previous bar : Candle => -(bar.low - previous.low)
  let dmPlus := neighbours (fun previous bar =>
    if downMove previous bar < upMove previous bar ∧ 0 < upMove previous bar then
      upMove previous bar else 0) bars
  let dmMinus := neighbours (fun previous bar =>
    if upMove previous bar < downMove previous bar ∧ 0 < downMove previous bar then
      downMove previous bar else 0) bars
  let atr := rma (trueRange bars) period
  let diPlus := padFirst bars (List.zipWith diOf atr.tail (rma dmPlus period))
  let diMinus := padFirst bars (List.zipWith diOf atr.tail (rma dmMinus period))
  let dx := padFirst bars (List.zipWith dxOf diPlus.tail diMinus.tail)
  ⟨realigned period dx (rma dx.reduceOption period), diPlus, diMinus⟩

/-- The three arrays of `calc_bollinger_bands`. -/
structure Bands where
  upper : Line
  middle : Line
  lower : Line

/-- `calc_bollinger_bands`. -/
def calcBollingerBands (sqrt : ℚ → ℚ) (close : List ℚ) (period : ℕ) (stdDev : ℚ) : Bands :=
  let middle := sma close period
  let deviation := rolling (std sqrt) close period
  ⟨Line.op (fun m s => m + stdDev * s) middle deviation, middle,
    Line.op (fun m s => m - stdDev * s) middle deviation⟩

/-- The upper and the lower array of `calc_keltner_channels`. -/
def calcKeltnerChannels (bars : List Candle) (emaPeriod atrPeriod : ℕ) (multiplier : ℚ) :
    Line × Line :=
  let average := ema (bars.map Candle.closePrice) emaPeriod
  let atr := calcAtr bars atrPeriod
  (Line.op (fun e a => e + multiplier * a) average atr,
    Line.op (fun e a => e - multiplier * a) average atr)

/-- `calc_vwap`. -/
def calcVwap (bars : List Candle) : Line :=
  let typicalVolume := bars.map fun bar => (bar.high + bar.low + bar.closePrice) / 3 * bar.volume
  List.zipWith (fun tpv volume => if 0 < volume then some (tpv / volume) else none)
    (cumsum typicalVolume) (cumsum (bars.map Candle.volume))

/-- `calc_obv`. -/
def calcObv (bars : List Candle) : List ℚ :=
  runningPairs (fun obv previous bar =>
    if previous.closePrice < bar.closePrice then obv + bar.volume
    else if bar.closePrice < previous.closePrice then obv - bar.volume
    else obv) 0 bars

/-! ### Causality -/

section Causality

variable {α : Type*} {period : ℕ}

theorem causal_ema (hperiod : 0 < period) : Causal fun values => ema values period :=
  causal_smoothed _ _ hperiod

theorem causal_rma (hperiod : 0 < period) : Causal fun values => rma values period :=
  causal_smoothed _ _ hperiod

theorem causal_op {f g : List α → Line} (hf : Causal f) (hg : Causal g) (h : ℚ → ℚ → ℚ) :
    Causal fun xs => Line.op h (f xs) (g xs) :=
  hf.zipWith hg _

theorem causal_rolling (v : List ℚ → ℚ) (period : ℕ) :
    Causal fun values => rolling v values period := by
  have hlength : ∀ (values : List ℚ) (i : ℕ), i < values.length →
      (values.take (i + 1)).length = i + 1 := by
    intro values i hi
    rw [List.length_take, Nat.min_eq_left hi]
  have hstart : (fun values => rolling v values period) = fun values =>
      (List.range values.length).map fun i =>
        (fun xs : List ℚ => if xs.length < period then none
          else some (v (xs.drop (xs.length - period)))) (values.take (i + 1)) := by
    funext values
    refine List.map_congr_left fun i hi => ?_
    dsimp only
    rw [hlength values i (List.mem_range.1 hi)]
  rw [hstart]
  exact causal_prefixes fun xs : List ℚ =>
    if xs.length < period then none else some (v (xs.drop (xs.length - period)))

/-- Without enough values there is no window. -/
theorem sma_eq_rolling (values : List ℚ) (period : ℕ) :
    sma values period = rolling mean values period := by
  unfold sma
  split
  next hshort =>
    apply List.ext_getElem
    · simp [Line.missing, rolling]
    · intro i hi _
      have hi : i < values.length := by simpa [Line.missing] using hi
      have hlt : i + 1 < period := lt_of_le_of_lt hi hshort
      simp [Line.missing, rolling, hlt]
  next => rfl

theorem causal_sma (period : ℕ) : Causal fun values => sma values period := by
  simp only [sma_eq_rolling]
  exact causal_rolling mean period

theorem causal_cumsum : Causal cumsum := causal_running _ 0

/-- The first values of an average are missing. -/
theorem seededAverage_eq (alpha : ℚ) {values : List ℚ} (h : ¬ values.length < period) :
    seededAverage alpha period values =
      Line.missing (period - 1) ++ (seededAverage alpha period values).drop (period - 1) := by
  have hdrop : ∀ rest : Line, (Line.missing (period - 1) ++ rest).drop (period - 1) = rest := by
    intro rest
    rw [List.drop_append_of_le_length (by simp [Line.missing]), Line.missing,
      List.drop_replicate, Nat.sub_self, List.replicate_zero, List.nil_append]
  rw [seededAverage, smoothed, if_neg h]
  exact (congrArg _ (hdrop _)).symm

/-- Put back into their places, the values of an average stand where the series has values. -/
theorem realigned_eq_scatter (alpha : ℚ) (valid : Line) :
    realigned period valid (seededAverage alpha period valid.reduceOption) =
      scatter valid (seededAverage alpha period valid.reduceOption) := by
  unfold realigned
  split
  next hshort =>
    rw [seededAverage, smoothed_of_lt hshort, scatter_replicate_none]
    simp [Line.missing, List.map_const']
  next henough => rw [← seededAverage_eq alpha henough]

theorem causal_realigned {f : List α → Line} (hf : Causal f) (alpha : ℚ)
    (hperiod : 0 < period) :
    Causal fun xs =>
      realigned period (f xs) (seededAverage alpha period (f xs).reduceOption) := by
  simp only [realigned_eq_scatter]
  exact (Causal.scatter (causal_smoothed _ _ hperiod)).comp hf

theorem op_missing_left (f : ℚ → ℚ → ℚ) (n : ℕ) (ys : Line) (h : ys.length = n) :
    Line.op f (.missing n) ys = .missing n := by
  apply List.ext_getElem
  · simp [Line.op, Line.missing, h]
  · intro i _ _
    simp [Line.op, Line.missing]

/-- With too few values the averages of the gains and of the losses are missing as well. -/
theorem calcRsi_eq (close : List ℚ) (period : ℕ) :
    calcRsi close period = padFirst close
      (Line.op rsiOf
        (rma ((neighbours (fun x y => y - x) close).map fun d => if 0 < d then d else 0) period)
        (rma ((neighbours (fun x y => y - x) close).map fun d => if d < 0 then -d else 0)
          period)) := by
  unfold calcRsi
  split
  next hshort =>
    cases close with
    | nil => rfl
    | cons x xs =>
        have hdelta : (neighbours (fun x y : ℚ => y - x) (x :: xs)).length = xs.length := by
          simp [neighbours]
        have hfew : xs.length < period := by
          rw [List.length_cons] at hshort
          omega
        have hgains : ∀ g : ℚ → ℚ,
            rma ((neighbours (fun x y => y - x) (x :: xs)).map g) period =
              .missing xs.length := by
          intro g
          rw [rma, seededAverage, smoothed_of_lt (by rw [List.length_map, hdelta]; exact hfew),
            List.length_map, hdelta, Line.missing]
        rw [hgains, hgains, op_missing_left _ _ _ (by simp [Line.missing])]
        rfl
  next => rfl

theorem causal_calcRsi (hperiod : 0 < period) : Causal fun close => calcRsi close period := by
  simp only [calcRsi_eq]
  have haverage : ∀ g : ℚ → ℚ, Causal fun delta : List ℚ => rma (delta.map g) period :=
    fun g => (causal_rma hperiod).comp (causal_map g)
  exact (causal_op (haverage _) (haverage _) rsiOf).padFirst fun x y => y - x

theorem causal_macdLine {fast slow : ℕ} (hfast : 0 < fast) (hslow : 0 < slow) (signal : ℕ) :
    Causal fun close => (calcMacd close fast slow signal).line :=
  causal_op (causal_ema hfast) (causal_ema hslow) _

theorem causal_macdSignal {fast slow signal : ℕ} (hfast : 0 < fast) (hslow : 0 < slow)
    (hsignal : 0 < signal) : Causal fun close => (calcMacd close fast slow signal).signal :=
  causal_realigned (causal_macdLine hfast hslow signal) _ hsignal

theorem causal_macdHistogram {fast slow signal : ℕ} (hfast : 0 < fast) (hslow : 0 < slow)
    (hsignal : 0 < signal) : Causal fun close => (calcMacd close fast slow signal).histogram :=
  causal_op (causal_macdLine hfast hslow signal) (causal_macdSignal hfast hslow hsignal) _

theorem causal_calcAtr (hperiod : 0 < period) : Causal fun bars => calcAtr bars period :=
  (causal_rma hperiod).comp (causal_withFirst _ _)

theorem diOf_none (atr : Option ℚ) : diOf atr none = none := by
  cases atr <;> simp [diOf]

theorem dxOf_none (plus : Option ℚ) : dxOf plus none = none := by
  cases plus <;> rfl

/-- `DI+` and `DI-` at a place come from the averages at that place. -/
theorem causal_di (hperiod : 0 < period) (move : Candle → Candle → ℚ) :
    Causal fun bars => padFirst bars
      (List.zipWith diOf (calcAtr bars period).tail (rma (neighbours move bars) period)) := by
  have heq : (fun bars => padFirst bars
      (List.zipWith diOf (calcAtr bars period).tail (rma (neighbours move bars) period))) =
      fun bars => List.zipWith diOf (calcAtr bars period)
        (padFirst bars (rma (neighbours move bars) period)) := by
    funext bars
    exact padFirst_zipWith_tail diOf_none ((causal_calcAtr hperiod).length bars) _
  rw [heq]
  exact (causal_calcAtr hperiod).zipWith ((causal_rma hperiod).padFirst move) diOf

theorem causal_diPlus (hperiod : 0 < period) : Causal fun bars => (calcAdx bars period).diPlus :=
  causal_di hperiod _

theorem causal_diMinus (hperiod : 0 < period) :
    Causal fun bars => (calcAdx bars period).diMinus :=
  causal_di hperiod _

theorem causal_adx (hperiod : 0 < period) : Causal fun bars => (calcAdx bars period).adx := by
  have heq : (fun bars => padFirst bars (List.zipWith dxOf (calcAdx bars period).diPlus.tail
      (calcAdx bars period).diMinus.tail)) =
      fun bars => List.zipWith dxOf (calcAdx bars period).diPlus
        (calcAdx bars period).diMinus := by
    funext bars
    rw [padFirst_zipWith_tail dxOf_none ((causal_diPlus hperiod).length bars)]
    exact congrArg _ (padFirst_tail_padFirst bars _)
  have hdx : Causal fun bars => padFirst bars
      (List.zipWith dxOf (calcAdx bars period).diPlus.tail
        (calcAdx bars period).diMinus.tail) := by
    rw [heq]
    exact (causal_diPlus hperiod).zipWith (causal_diMinus hperiod) dxOf
  exact causal_realigned hdx _ hperiod

theorem causal_bands (sqrt : ℚ → ℚ) (period : ℕ) (f : ℚ → ℚ → ℚ) :
    Causal fun close => Line.op f (sma close period) (rolling (std sqrt) close period) :=
  causal_op (causal_sma period) (causal_rolling _ period) f

theorem causal_keltner {emaPeriod atrPeriod : ℕ} (hema : 0 < emaPeriod) (hatr : 0 < atrPeriod)
    (f : ℚ → ℚ → ℚ) :
    Causal fun bars =>
      Line.op f (ema (bars.map Candle.closePrice) emaPeriod) (calcAtr bars atrPeriod) :=
  causal_op ((causal_ema hema).comp (causal_map _)) (causal_calcAtr hatr) f

theorem causal_calcVwap : Causal calcVwap :=
  (causal_cumsum.comp (causal_map _)).zipWith (causal_cumsum.comp (causal_map _)) _

theorem causal_calcObv : Causal calcObv := by
  unfold calcObv
  exact causal_runningPairs _ 0

end Causality

end Sgr
