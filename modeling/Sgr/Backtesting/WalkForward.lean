import Sgr.Backtesting.CashBalance

/-!
# The walk-forward analysis

`WalkForwardAnalyzer` of `sgr/backtesting/validation.py`. A split has a slice in sample, from
the first bar to its end, and one out of sample after it. A slice is simulated when it has
twice the bars of the warm-up, each for itself.
-/

open Arithmetic

namespace Sgr

/-- `period_name`. -/
inductive SplitPeriod
  | inSample
  | outOfSample
  deriving DecidableEq, Repr

/-- A slice that is simulated: the candles from `start` to `stop`, in its configuration. -/
structure EvaluatedSlice where
  split : ℕ
  period : SplitPeriod
  start : ℕ
  stop : ℕ
  config : BacktestConfig
  candles : List Candle

/-- An index belongs to a slice. -/
def EvaluatedSlice.Covers (a : EvaluatedSlice) (j : ℕ) : Prop := a.start ≤ j ∧ j < a.stop

/-- `WalkForwardResult`, with results of the type `ρ`. -/
structure WalkForwardResult (ρ : Type*) where
  nSplits : ℕ
  splitResults : List ρ
  isConsistent : Bool
  consistencyScore : ℚ
  inSampleSharpe : ℚ
  outOfSampleSharpe : ℚ
  degradationFactor : ℚ
  recommendation : String

namespace WalkForward

/-- `split_size`. -/
def splitSize (totalBars nSplits : ℕ) : ℕ := totalBars / (nSplits + 1)

/-- `oos_size`. -/
def oosSize (totalBars nSplits : ℕ) : ℕ := max (splitSize totalBars nSplits / 6) (warmupBars * 2)

/-- `is_end`, where the slice out of sample starts. -/
def isEnd (totalBars nSplits i : ℕ) : ℕ := (i + 1) * splitSize totalBars nSplits

/-- `oos_end`. -/
def oosEnd (totalBars nSplits i : ℕ) : ℕ :=
  min (isEnd totalBars nSplits i + oosSize totalBars nSplits) totalBars

/-- The first index of a slice. -/
def sliceStart (totalBars nSplits i : ℕ) : SplitPeriod → ℕ
  | .inSample => 0
  | .outOfSample => isEnd totalBars nSplits i

/-- The index after the last one of a slice. -/
def sliceStop (totalBars nSplits i : ℕ) : SplitPeriod → ℕ
  | .inSample => isEnd totalBars nSplits i
  | .outOfSample => oosEnd totalBars nSplits i

/-- `split_config`. -/
def splitConfig (cfg : BacktestConfig) (first last : Candle) : BacktestConfig where
  startDate := first.timestamp
  endDate := last.timestamp
  symbols := cfg.symbols
  timeframe := cfg.timeframe
  initialCapital := cfg.initialCapital
  makerFee := cfg.makerFee
  takerFee := cfg.takerFee
  slippagePct := cfg.slippagePct
  strategyNames := cfg.strategyNames

/-- The slice of a split in a period, where it is long enough. -/
def evaluatedSlice (cfg : BacktestConfig) (candles : List Candle) (nSplits i : ℕ)
    (period : SplitPeriod) : Option EvaluatedSlice :=
  let start := sliceStart candles.length nSplits i period
  let stop := sliceStop candles.length nSplits i period
  let candlesSlice := (candles.take stop).drop start
  if candlesSlice.length < warmupBars * 2 then none
  else candlesSlice.head?.bind fun first => candlesSlice.getLast?.map fun last =>
    { split := i
      period := period
      start := start
      stop := stop
      config := splitConfig cfg first last
      candles := candlesSlice }

/-- The slices of a split that are simulated. -/
def splitSlices (cfg : BacktestConfig) (candles : List Candle) (nSplits i : ℕ) :
    List EvaluatedSlice :=
  if oosEnd candles.length nSplits i ≤ isEnd candles.length nSplits i ∨
      isEnd candles.length nSplits i ≤ warmupBars then []
  else [.inSample, .outOfSample].filterMap (evaluatedSlice cfg candles nSplits i)

/-- The slices that are simulated, in the order of the loop. -/
def evaluatedSlices (cfg : BacktestConfig) (candles : List Candle) (nSplits : ℕ) :
    List EvaluatedSlice :=
  if candles.length < warmupBars then []
  else (List.range nSplits).flatMap (splitSlices cfg candles nSplits)

/-- `_insufficient_data_result`. -/
def insufficientDataResult (ρ : Type*) : WalkForwardResult ρ where
  nSplits := 0
  splitResults := []
  isConsistent := false
  consistencyScore := 0
  inSampleSharpe := 0
  outOfSampleSharpe := 0
  degradationFactor := 0
  recommendation := "FAIL: Insufficient data for Walk-Forward Analysis."

section Run

variable {ρ : Type*} (evaluate : BacktestConfig → List Candle → ρ) (sharpe : ρ → ℚ)

/-- The results of the slices of a period. -/
def resultsOf (slices : List EvaluatedSlice) (period : SplitPeriod) : List ρ :=
  (slices.filter fun a => a.period = period).map fun a => evaluate a.config a.candles

/-- `run`, where `evaluate` simulates and analyzes a slice and `sharpe` is the Sharpe ratio of a
result. -/
def run (cfg : BacktestConfig) (candles : List Candle) (nSplits : ℕ) : WalkForwardResult ρ :=
  let slices := evaluatedSlices cfg candles nSplits
  let splitResults := resultsOf evaluate slices .outOfSample
  if splitResults.isEmpty then insufficientDataResult ρ
  else
    let avgIsSharpe := mean ((resultsOf evaluate slices .inSample).map sharpe)
    let avgOosSharpe := mean (splitResults.map sharpe)
    let degradation := if 0 < avgIsSharpe then avgOosSharpe / avgIsSharpe else 0
    let positiveOos := splitResults.countP fun r => 0 < sharpe r
    let isConsistent := splitResults.all (fun r => 0 < sharpe r) && decide (1 / 2 < degradation)
    { nSplits := splitResults.length
      splitResults := splitResults
      isConsistent := isConsistent
      consistencyScore := Arithmetic.quantized 3 (positiveOos / splitResults.length)
      inSampleSharpe := Arithmetic.quantized 3 avgIsSharpe
      outOfSampleSharpe := Arithmetic.quantized 3 avgOosSharpe
      degradationFactor := Arithmetic.quantized 3 degradation
      recommendation :=
        if isConsistent then "PASS: Walk-Forward consistent. Proceed to Paper Trading."
        else if 3 / 10 < degradation then
          "MARGINAL: Some OOS degradation. Extended Paper Trading recommended."
        else "FAIL: Significant OOS degradation detected. Possible overfitting." }

/-- The results that are returned are those of the slices out of sample. -/
theorem splitResults_run (cfg : BacktestConfig) (candles : List Candle) (nSplits : ℕ) :
    (run evaluate sharpe cfg candles nSplits).splitResults =
      resultsOf evaluate (evaluatedSlices cfg candles nSplits) .outOfSample := by
  rw [run]
  split
  next hnone => exact (List.isEmpty_iff.1 hnone).symm
  · rfl

end Run

/-! ### The slices that are simulated -/

/-- A period of a split is simulated. -/
def Evaluates (totalBars nSplits i : ℕ) (period : SplitPeriod) : Prop :=
  warmupBars ≤ totalBars ∧ i < nSplits ∧
    isEnd totalBars nSplits i < oosEnd totalBars nSplits i ∧
    warmupBars < isEnd totalBars nSplits i ∧
    warmupBars * 2 ≤
      sliceStop totalBars nSplits i period - sliceStart totalBars nSplits i period

instance decidableEvaluates (totalBars nSplits i : ℕ) (period : SplitPeriod) :
    Decidable (Evaluates totalBars nSplits i period) := by
  unfold Evaluates
  infer_instance

variable {cfg : BacktestConfig} {candles : List Candle} {nSplits i : ℕ} {period : SplitPeriod}
  {a b : EvaluatedSlice}

theorem sliceStop_le (h : isEnd candles.length nSplits i < oosEnd candles.length nSplits i) :
    sliceStop candles.length nSplits i period ≤ candles.length := by
  have hoos : oosEnd candles.length nSplits i ≤ candles.length := min_le_right _ _
  cases period with
  | inSample => exact (h.trans_le hoos).le
  | outOfSample => exact hoos

/-- What a slice that is simulated is like. -/
structure IsSlice (cfg : BacktestConfig) (candles : List Candle) (nSplits : ℕ)
    (a : EvaluatedSlice) : Prop where
  evaluates : Evaluates candles.length nSplits a.split a.period
  start : a.start = sliceStart candles.length nSplits a.split a.period
  stop : a.stop = sliceStop candles.length nSplits a.split a.period
  length : a.candles.length = a.stop - a.start
  config : ∃ first last, a.config = splitConfig cfg first last

theorem isSlice_of_mem (h : a ∈ evaluatedSlices cfg candles nSplits) :
    IsSlice cfg candles nSplits a := by
  rw [evaluatedSlices] at h
  split at h
  · cases h
  next hwarm =>
    obtain ⟨i, hi, h⟩ := List.mem_flatMap.1 h
    rw [splitSlices] at h
    split at h
    · cases h
    next hskip =>
      rw [not_or, not_le, not_le] at hskip
      obtain ⟨period, -, h⟩ := List.mem_filterMap.1 h
      simp only [evaluatedSlice, Option.ite_none_left_eq_some, not_lt] at h
      obtain ⟨hlong, h⟩ := h
      obtain ⟨first, -, h⟩ := Option.bind_eq_some_iff.1 h
      obtain ⟨last, -, rfl⟩ := Option.map_eq_some_iff.1 h
      have hlength : ((candles.take (sliceStop candles.length nSplits i period)).drop
          (sliceStart candles.length nSplits i period)).length =
            sliceStop candles.length nSplits i period -
              sliceStart candles.length nSplits i period := by
        rw [List.length_drop, List.length_take, min_eq_left (sliceStop_le hskip.1)]
      rw [hlength] at hlong
      exact ⟨⟨not_lt.1 hwarm, List.mem_range.1 hi, hskip.1, hskip.2, hlong⟩, rfl, rfl, hlength,
        first, last, rfl⟩

theorem mem_periods (period : SplitPeriod) :
    period ∈ [SplitPeriod.inSample, SplitPeriod.outOfSample] := by
  cases period <;> simp

theorem exists_slice_of_evaluates (h : Evaluates candles.length nSplits i period) :
    ∃ a ∈ evaluatedSlices cfg candles nSplits, a.split = i ∧ a.period = period := by
  obtain ⟨hwarm, hi, hoos, his, hlong⟩ := h
  have hlength : ((candles.take (sliceStop candles.length nSplits i period)).drop
      (sliceStart candles.length nSplits i period)).length =
        sliceStop candles.length nSplits i period -
          sliceStart candles.length nSplits i period := by
    rw [List.length_drop, List.length_take, min_eq_left (sliceStop_le hoos)]
  have hne : (candles.take (sliceStop candles.length nSplits i period)).drop
      (sliceStart candles.length nSplits i period) ≠ [] := by
    rw [← List.length_pos_iff, hlength]
    simp only [warmupBars] at hlong
    omega
  have hfirst := List.head?_eq_some_head hne
  have hlast := List.getLast?_eq_some_getLast hne
  obtain ⟨a, ha, hsplit, hperiod⟩ : ∃ a, evaluatedSlice cfg candles nSplits i period = some a ∧
      a.split = i ∧ a.period = period := by
    simp only [evaluatedSlice, hlength, if_neg (not_lt.2 hlong), hfirst, hlast,
      Option.bind_some, Option.map_some, Option.some_inj, exists_eq_left', and_self]
  refine ⟨a, ?_, hsplit, hperiod⟩
  rw [evaluatedSlices, if_neg (not_lt.2 hwarm), List.mem_flatMap]
  refine ⟨i, List.mem_range.2 hi, ?_⟩
  rw [splitSlices, if_neg (not_or.2 ⟨not_le.2 hoos, not_le.2 his⟩), List.mem_filterMap]
  exact ⟨period, mem_periods period, ha⟩

/-! ### What is asked of the slices -/

/-- A slice is simulated in the configuration of the caller: all of it but the dates and the
numbers of further validations. -/
structure SimulatedAs (config cfg : BacktestConfig) : Prop where
  symbols : config.symbols = cfg.symbols
  timeframe : config.timeframe = cfg.timeframe
  initialCapital : config.initialCapital = cfg.initialCapital
  makerFee : config.makerFee = cfg.makerFee
  takerFee : config.takerFee = cfg.takerFee
  slippagePct : config.slippagePct = cfg.slippagePct
  strategyNames : config.strategyNames = cfg.strategyNames
  maxPositionPct : config.maxPositionPct = cfg.maxPositionPct
  maxPortfolioHeat : config.maxPortfolioHeat = cfg.maxPortfolioHeat
  maxDrawdownLimit : config.maxDrawdownLimit = cfg.maxDrawdownLimit
  atrStopMultiplier : config.atrStopMultiplier = cfg.atrStopMultiplier
  maxHoldingBars : config.maxHoldingBars = cfg.maxHoldingBars

/-- The slices of an analysis are sound. -/
structure SoundSlices (cfg : BacktestConfig) (slices : List EvaluatedSlice) : Prop where
  disjoint : ∀ a ∈ slices, ∀ b ∈ slices, a.split = b.split → a.period ≠ b.period →
    ∀ j, ¬ (a.Covers j ∧ b.Covers j)
  separate : ∀ a ∈ slices, ∀ b ∈ slices, a.period = .outOfSample → b.period = .outOfSample →
    a.split ≠ b.split → ∀ j, ¬ (a.Covers j ∧ b.Covers j)
  tradable : ∀ a ∈ slices, ∀ sqrt, barInputs sqrt a.candles ≠ []
  sameSplits : (∃ a ∈ slices, a.period = .outOfSample) → ∀ i,
    (∃ a ∈ slices, a.period = .inSample ∧ a.split = i) ↔
      ∃ a ∈ slices, a.period = .outOfSample ∧ a.split = i
  config : ∀ a ∈ slices, SimulatedAs a.config cfg

/-- What the configuration of a slice leaves at its default has its default. -/
structure HasDefaultLimits (cfg : BacktestConfig) : Prop where
  maxPositionPct : cfg.maxPositionPct = 1 / 10
  maxPortfolioHeat : cfg.maxPortfolioHeat = 7 / 10
  maxDrawdownLimit : cfg.maxDrawdownLimit = 15 / 100
  atrStopMultiplier : cfg.atrStopMultiplier = 5 / 2
  maxHoldingBars : cfg.maxHoldingBars = 20

theorem simulatedAs_splitConfig (first last : Candle) :
    SimulatedAs (splitConfig cfg first last) cfg ↔ HasDefaultLimits cfg := by
  constructor
  · intro h
    exact ⟨h.maxPositionPct.symm, h.maxPortfolioHeat.symm, h.maxDrawdownLimit.symm,
      h.atrStopMultiplier.symm, h.maxHoldingBars.symm⟩
  · intro h
    exact ⟨rfl, rfl, rfl, rfl, rfl, rfl, rfl, h.maxPositionPct.symm, h.maxPortfolioHeat.symm,
      h.maxDrawdownLimit.symm, h.atrStopMultiplier.symm, h.maxHoldingBars.symm⟩

/-- What a back-test reads of its configuration is what the slice is asked to agree in. -/
theorem SimulatedAs.run {μ : Type*} {config : BacktestConfig} (h : SimulatedAs config cfg)
    (sqrt : ℚ → ℚ) (strategies : List (BacktestStrategy μ)) (m : μ)
    (candlesBySymbol : String → List Candle) :
    config.run sqrt strategies m candlesBySymbol = cfg.run sqrt strategies m candlesBySymbol := by
  cases config
  cases cfg
  obtain ⟨rfl, rfl, rfl, rfl, rfl, rfl, rfl, rfl, rfl, rfl, rfl, rfl⟩ := h
  rfl

theorem disjoint_of_isSlice (ha : IsSlice cfg candles nSplits a)
    (hb : IsSlice cfg candles nSplits b) (hsplit : a.split = b.split)
    (hperiod : a.period ≠ b.period) (j : ℕ) : ¬ (a.Covers j ∧ b.Covers j) := by
  rintro ⟨⟨hastart, hastop⟩, hbstart, hbstop⟩
  rw [ha.start] at hastart
  rw [ha.stop] at hastop
  rw [hb.start, ← hsplit] at hbstart
  rw [hb.stop, ← hsplit] at hbstop
  cases hpa : a.period with
  | inSample =>
      cases hpb : b.period with
      | inSample => exact hperiod (hpa.trans hpb.symm)
      | outOfSample =>
          rw [hpa] at hastop
          rw [hpb] at hbstart
          exact absurd hastop (not_lt.2 hbstart)
  | outOfSample =>
      cases hpb : b.period with
      | inSample =>
          rw [hpa] at hastart
          rw [hpb] at hbstop
          exact absurd hbstop (not_lt.2 hastart)
      | outOfSample => exact hperiod (hpa.trans hpb.symm)

theorem tradable_of_isSlice (h : IsSlice cfg candles nSplits a) (sqrt : ℚ → ℚ) :
    barInputs sqrt a.candles ≠ [] := by
  rw [Ne, barInputs_eq_nil_iff, h.length, h.start, h.stop]
  have hlong := h.evaluates.2.2.2.2
  simp only [warmupBars] at hlong ⊢
  omega

/-! ### The arithmetic of the splits -/

section Arithmetic

variable {totalBars : ℕ}

theorem isEnd_zero : isEnd totalBars nSplits 0 = splitSize totalBars nSplits := by
  rw [isEnd, zero_add, one_mul]

theorem isEnd_succ :
    isEnd totalBars nSplits (i + 1) =
      isEnd totalBars nSplits i + splitSize totalBars nSplits := by
  rw [isEnd, isEnd, Nat.succ_mul]

theorem isEnd_add_le {j : ℕ} (h : i < j) :
    isEnd totalBars nSplits i + splitSize totalBars nSplits ≤ isEnd totalBars nSplits j := by
  rw [← isEnd_succ]
  exact Nat.mul_le_mul_right _ (by omega)

/-- A split ends a split size before the end of the series, or earlier. -/
theorem isEnd_add_splitSize_le (h : i < nSplits) :
    isEnd totalBars nSplits i + splitSize totalBars nSplits ≤ totalBars := by
  rw [← isEnd_succ]
  calc (i + 1 + 1) * splitSize totalBars nSplits
      ≤ (nSplits + 1) * (totalBars / (nSplits + 1)) := Nat.mul_le_mul_right _ (by omega)
    _ ≤ totalBars := Nat.mul_div_le _ _

theorem evaluates_outOfSample_iff :
    Evaluates totalBars nSplits i .outOfSample ↔ i < nSplits ∧
      warmupBars < isEnd totalBars nSplits i ∧
        isEnd totalBars nSplits i + warmupBars * 2 ≤ totalBars := by
  have hoos : warmupBars * 2 ≤ oosSize totalBars nSplits := le_max_right _ _
  simp only [Evaluates, sliceStop, sliceStart, oosEnd, warmupBars] at hoos ⊢
  omega

theorem evaluates_inSample_iff :
    Evaluates totalBars nSplits i .inSample ↔ i < nSplits ∧
      warmupBars * 2 ≤ isEnd totalBars nSplits i := by
  constructor
  · rintro ⟨-, hi, -, -, hlong⟩
    exact ⟨hi, hlong⟩
  · rintro ⟨hi, hlong⟩
    have hoos : warmupBars * 2 ≤ oosSize totalBars nSplits := le_max_right _ _
    have hend : isEnd totalBars nSplits i + splitSize totalBars nSplits ≤ totalBars :=
      isEnd_add_splitSize_le hi
    have hpos : 0 < splitSize totalBars nSplits := by
      by_contra hzero
      rw [isEnd, Nat.le_zero.1 (not_lt.1 hzero), mul_zero] at hlong
      exact absurd hlong (by decide)
    simp only [Evaluates, sliceStop, sliceStart, oosEnd, warmupBars] at hlong hoos ⊢
    omega

/-- Large splits are simulated in both periods. -/
theorem evaluates_of_large (h : warmupBars * 2 ≤ splitSize totalBars nSplits)
    (hi : i < nSplits) (period : SplitPeriod) : Evaluates totalBars nSplits i period := by
  have hend : isEnd totalBars nSplits i + splitSize totalBars nSplits ≤ totalBars :=
    isEnd_add_splitSize_le hi
  have hfirst : splitSize totalBars nSplits ≤ isEnd totalBars nSplits i :=
    Nat.le_mul_of_pos_left _ (Nat.succ_pos i)
  cases period with
  | inSample => exact evaluates_inSample_iff.2 ⟨hi, h.trans hfirst⟩
  | outOfSample =>
      refine evaluates_outOfSample_iff.2 ⟨hi, ?_, by omega⟩
      simp only [warmupBars] at h ⊢
      omega

/-- Small splits of which one is simulated out of sample are not all simulated in both periods, or
two that follow each other are simulated out of sample. -/
theorem exists_of_small (h : splitSize totalBars nSplits < warmupBars * 2)
    (hoos : Evaluates totalBars nSplits i .outOfSample)
    (hsame : ∀ j, Evaluates totalBars nSplits j .inSample ↔
      Evaluates totalBars nSplits j .outOfSample) :
    ∃ j, Evaluates totalBars nSplits j .outOfSample ∧
      Evaluates totalBars nSplits (j + 1) .outOfSample := by
  have his := evaluates_inSample_iff.1 ((hsame i).2 hoos)
  obtain ⟨hi, hwarm, hlong⟩ := evaluates_outOfSample_iff.1 hoos
  cases i with
  | zero =>
      rw [isEnd_zero] at his
      exact absurd his.2 (not_le.2 h)
  | succ k =>
      by_cases hk : warmupBars < isEnd totalBars nSplits k
      · refine ⟨k, evaluates_outOfSample_iff.2 ⟨by omega, hk, ?_⟩, hoos⟩
        rw [isEnd_succ] at hlong
        omega
      · -- the second of splits with as many bars as the warm-up, which a third one follows
        have hsize : splitSize totalBars nSplits = 200 := by
          rw [isEnd_succ] at his
          have hfirst : splitSize totalBars nSplits ≤ isEnd totalBars nSplits k :=
            Nat.le_mul_of_pos_left _ (Nat.succ_pos k)
          simp only [warmupBars] at his hk
          omega
        have hzero : k = 0 := by
          rw [isEnd, hsize] at hk
          simp only [warmupBars] at hk
          omega
        subst hzero
        rw [isEnd, hsize] at hlong
        have htotal : totalBars < (nSplits + 1) * (splitSize totalBars nSplits + 1) :=
          Nat.lt_mul_div_succ _ (Nat.succ_pos nSplits)
        rw [hsize] at htotal
        simp only [warmupBars] at hlong
        refine ⟨1, hoos, (hsame 2).1 (evaluates_inSample_iff.2 ⟨by omega, ?_⟩)⟩
        rw [isEnd, hsize]
        decide

end Arithmetic

/-! ### When the slices are sound -/

/-- Two slices out of sample that follow each other overlap when the splits are small. -/
theorem overlap_of_small (ha : IsSlice cfg candles nSplits a) (hb : IsSlice cfg candles nSplits b)
    (hsmall : splitSize candles.length nSplits < warmupBars * 2) (hnext : b.split = a.split + 1)
    (hperiod : a.period = .outOfSample) (hperiod' : b.period = .outOfSample) :
    a.Covers b.start ∧ b.Covers b.start := by
  have hoos : warmupBars * 2 ≤ oosSize candles.length nSplits := le_max_right _ _
  have hend := hb.evaluates
  rw [hperiod', hnext, evaluates_outOfSample_iff, isEnd_succ] at hend
  rw [EvaluatedSlice.Covers, EvaluatedSlice.Covers, ha.start, ha.stop, hb.start, hb.stop, hperiod,
    hperiod', hnext]
  simp only [sliceStart, sliceStop, oosEnd, isEnd_succ, warmupBars] at *
  omega

theorem separate_of_large (h : warmupBars * 2 ≤ splitSize candles.length nSplits)
    (ha : IsSlice cfg candles nSplits a) (hb : IsSlice cfg candles nSplits b)
    (hperiod : a.period = .outOfSample) (hperiod' : b.period = .outOfSample)
    (hsplit : a.split < b.split) (j : ℕ) : ¬ (a.Covers j ∧ b.Covers j) := by
  have hoos : oosSize candles.length nSplits ≤ splitSize candles.length nSplits :=
    max_le (Nat.div_le_self _ _) h
  have hnext : isEnd candles.length nSplits a.split + splitSize candles.length nSplits ≤
      isEnd candles.length nSplits b.split := isEnd_add_le hsplit
  rw [EvaluatedSlice.Covers, EvaluatedSlice.Covers, ha.start, ha.stop, hb.start, hb.stop, hperiod,
    hperiod']
  simp only [sliceStart, sliceStop, oosEnd]
  omega

/-- What is simulated is in the slices. -/
theorem exists_mem_iff (period : SplitPeriod) (i : ℕ) :
    (∃ a ∈ evaluatedSlices cfg candles nSplits, a.period = period ∧ a.split = i) ↔
      Evaluates candles.length nSplits i period := by
  constructor
  · rintro ⟨a, ha, rfl, rfl⟩
    exact (isSlice_of_mem ha).evaluates
  · intro h
    obtain ⟨a, ha, hsplit, hperiod⟩ := exists_slice_of_evaluates h
    exact ⟨a, ha, hperiod, hsplit⟩

/-- Sound slices are of large splits, or none is out of sample. -/
theorem SoundSlices.splits (h : SoundSlices cfg (evaluatedSlices cfg candles nSplits)) :
    warmupBars * 2 ≤ splitSize candles.length nSplits ∨
      ∀ i, ¬ Evaluates candles.length nSplits i .outOfSample := by
  by_contra hnot
  rw [not_or, not_le, not_forall] at hnot
  obtain ⟨hsmall, i, hi⟩ := hnot
  have hoos := not_not.1 hi
  obtain ⟨a, ha, hperiod, -⟩ := (exists_mem_iff .outOfSample i).2 hoos
  obtain ⟨j, hj, hnext⟩ := exists_of_small hsmall hoos fun j => by
    rw [← exists_mem_iff, ← exists_mem_iff]
    exact h.sameSplits ⟨a, ha, hperiod⟩ j
  obtain ⟨b, hb, hbperiod, rfl⟩ := (exists_mem_iff .outOfSample j).2 hj
  obtain ⟨c, hc, hcperiod, hcsplit⟩ := (exists_mem_iff .outOfSample (b.split + 1)).2 hnext
  exact h.separate b hb c hc hbperiod hcperiod (by omega) c.start
    (overlap_of_small (isSlice_of_mem hb) (isSlice_of_mem hc) hsmall hcsplit hbperiod hcperiod)

/-- Sound slices have a configuration with the default limits, or there are none. -/
theorem SoundSlices.limits (h : SoundSlices cfg (evaluatedSlices cfg candles nSplits)) :
    HasDefaultLimits cfg ∨ ∀ i period, ¬ Evaluates candles.length nSplits i period := by
  by_contra hnot
  rw [not_or, not_forall] at hnot
  obtain ⟨hlimits, i, hi⟩ := hnot
  rw [not_forall] at hi
  obtain ⟨period, hi⟩ := hi
  obtain ⟨a, ha, -, -⟩ := (exists_mem_iff period i).2 (not_not.1 hi)
  obtain ⟨first, last, hconfig⟩ := (isSlice_of_mem ha).config
  have hsimulated := h.config a ha
  rw [hconfig] at hsimulated
  exact hlimits ((simulatedAs_splitConfig first last).1 hsimulated)

/-- The slices of an analysis are sound exactly if the splits have twice the bars of the warm-up,
or none is simulated out of sample, and the limits of the configuration are the defaults, or
none is simulated at all. -/
theorem soundSlices_iff (cfg : BacktestConfig) (candles : List Candle) (nSplits : ℕ) :
    SoundSlices cfg (evaluatedSlices cfg candles nSplits) ↔
      (warmupBars * 2 ≤ splitSize candles.length nSplits ∨
        ∀ i, ¬ Evaluates candles.length nSplits i .outOfSample) ∧
      (HasDefaultLimits cfg ∨ ∀ i period, ¬ Evaluates candles.length nSplits i period) := by
  refine ⟨fun h => ⟨h.splits, h.limits⟩, ?_⟩
  rintro ⟨hsplits, hlimits⟩
  have hlarge {a : EvaluatedSlice} (ha : a ∈ evaluatedSlices cfg candles nSplits)
      (hperiod : a.period = .outOfSample) :
      warmupBars * 2 ≤ splitSize candles.length nSplits :=
    hsplits.resolve_right fun hnone =>
      hnone _ ((exists_mem_iff .outOfSample a.split).1 ⟨a, ha, hperiod, rfl⟩)
  refine ⟨fun a ha b hb => disjoint_of_isSlice (isSlice_of_mem ha) (isSlice_of_mem hb), ?_,
    fun a ha => tradable_of_isSlice (isSlice_of_mem ha), ?_, ?_⟩
  · intro a ha b hb hperiod hperiod' hne j
    rcases lt_or_gt_of_ne hne with hlt | hgt
    · exact separate_of_large (hlarge ha hperiod) (isSlice_of_mem ha) (isSlice_of_mem hb) hperiod
        hperiod' hlt j
    · rw [and_comm]
      exact separate_of_large (hlarge ha hperiod) (isSlice_of_mem hb) (isSlice_of_mem ha) hperiod'
        hperiod hgt j
  · rintro ⟨a, ha, hperiod⟩ i
    rw [exists_mem_iff, exists_mem_iff]
    exact ⟨fun h => evaluates_of_large (hlarge ha hperiod) h.2.1 _,
      fun h => evaluates_of_large (hlarge ha hperiod) h.2.1 _⟩
  · intro a ha
    obtain ⟨first, last, hconfig⟩ := (isSlice_of_mem ha).config
    rcases hlimits with hdefault | hnone
    · rw [hconfig]
      exact (simulatedAs_splitConfig first last).2 hdefault
    · exact absurd (isSlice_of_mem ha).evaluates (hnone _ _)

/-- Six splits of 2000 bars overlap, and six of 4320 bars forget how long a position may be
held. -/
theorem not_soundSlices :
    (¬ ∀ (candles : List Candle) (nSplits : ℕ),
      SoundSlices .btc (evaluatedSlices .btc candles nSplits)) ∧
    ¬ ∀ (cfg : BacktestConfig) (candles : List Candle) (nSplits : ℕ),
      warmupBars * 2 ≤ splitSize candles.length nSplits →
        SoundSlices cfg (evaluatedSlices cfg candles nSplits) := by
  have hlength (n : ℕ) : ((List.range n).map flatCandle).length = n := by simp
  constructor
  · intro h
    have hsplits := (h ((List.range 2000).map flatCandle) 6).splits
    rw [hlength] at hsplits
    rcases hsplits with hlarge | hnone
    · revert hlarge
      decide
    · exact hnone 0 (by decide)
  · intro h
    have hlimits := (h { BacktestConfig.btc with maxHoldingBars := 10 }
      ((List.range 4320).map flatCandle) 6 (by rw [hlength]; decide)).limits
    rw [hlength] at hlimits
    rcases hlimits with hdefault | hnone
    · exact absurd hdefault.maxHoldingBars (by decide)
    · exact hnone 0 .inSample (by decide)

end WalkForward

end Sgr
