import Sgr.Arithmetic.Decimal
import Sgr.Backtesting.Drawdown
import Sgr.MarketData.Indicators

/-!
# The figures of a back-test

`PerformanceAnalyzer` of `sgr/backtesting/performance.py` and `is_acceptable` of its result. The
gates for live trading read the figures themselves, `is_acceptable` reads them as the result has
rounded them. The floats are exact here, and the square root is a parameter.
-/

open Arithmetic

namespace Sgr

/-- `is_winner`. -/
def BacktestTrade.isWinner (t : BacktestTrade) : Bool := 0 < t.netPnl

/-- `_ANNUALIZATION_FACTOR`, with its default. -/
def annualizationFactor (timeframe : String) : ℕ :=
  match timeframe with
  | "1m" => 525600
  | "5m" => 105120
  | "15m" => 35040
  | "1h" => 8760
  | "4h" => 2190
  | "1d" => 365
  | _ => 8760

/-- `np.std` with `ddof=1`. -/
def sampleStd (sqrt : ℚ → ℚ) (xs : List ℚ) : ℚ :=
  sqrt ((xs.map fun x => (x - mean xs) ^ 2).sum / (xs.length - 1))

/-- `_sharpe`. -/
def sharpeRatio (sqrt : ℚ → ℚ) (returns : List ℚ) (annFactor : ℕ) : ℚ :=
  if returns.length < 2 then 0
  else if sampleStd sqrt returns = 0 then 0
  else mean returns / sampleStd sqrt returns * sqrt annFactor

/-- `bar_returns`. -/
def barReturns (equityValues : List ℚ) : List ℚ :=
  List.zipWith (fun value next => (next - value) / value) equityValues equityValues.tail

/-- What `_trade_stats` answers; `none` is an infinite factor. -/
structure TradeStats where
  profitFactor : Option ℚ
  hitRatePct : ℚ
  expectedValue : ℚ
  winning : ℕ
  losing : ℕ
  avgWinner : ℚ
  avgLoser : ℚ
  avgHoldingBars : ℚ
  totalFees : ℚ
  totalSlippage : ℚ
  deriving DecidableEq, Repr

/-- `_trade_stats`. -/
def tradeStats (trades : List BacktestTrade) : TradeStats :=
  if trades.isEmpty then ⟨some 0, 0, 0, 0, 0, 0, 0, 0, 0, 0⟩
  else
    let winners := trades.filter BacktestTrade.isWinner
    let losers := trades.filter fun t => !t.isWinner
    let grossProfit := (winners.map BacktestTrade.netPnl).sum
    let grossLoss := |(losers.map BacktestTrade.netPnl).sum|
    { profitFactor := if 0 < grossLoss then some (grossProfit / grossLoss) else none
      hitRatePct := winners.length / trades.length * 100
      expectedValue := (trades.map BacktestTrade.netPnl).sum / trades.length
      winning := winners.length
      losing := losers.length
      avgWinner := if winners.isEmpty then 0 else grossProfit / winners.length
      avgLoser := if losers.isEmpty then 0 else grossLoss / losers.length
      avgHoldingBars := (trades.map BacktestTrade.holdingBars).sum / trades.length
      totalFees := (trades.map BacktestTrade.fees).sum
      totalSlippage := (trades.map BacktestTrade.slippage).sum }

/-- The arguments of `_check_go_live_gates`. -/
structure GoLiveFigures where
  sharpe : ℚ
  profitFactor : Option ℚ
  maxDdPct : ℚ
  hitRate : ℚ
  totalTrades : ℕ
  deriving DecidableEq, Repr

/-- The figures of the trades and the equity curve of a back-test. -/
def goLiveFigures (sqrt : ℚ → ℚ) (trades : List BacktestTrade) (curve : List EquityCurvePoint)
    (cfg : BacktestConfig) : GoLiveFigures :=
  let equityValues := curve.map EquityCurvePoint.portfolioValue
  { sharpe := sharpeRatio sqrt (barReturns equityValues) (annualizationFactor cfg.timeframe)
    profitFactor := (tradeStats trades).profitFactor
    maxDdPct := (maxDrawdown equityValues curve).1
    hitRate := (tradeStats trades).hitRatePct
    totalTrades := trades.length }

/-- The text of a factor with two places. -/
def factorText : Option ℚ → String
  | none => "inf"
  | some x => fixedText 2 x

/-- A gate that blocks says why. -/
def blockerOf (blocks : Bool) (text : String) : List String := if blocks then [text] else []

/-- `_check_go_live_gates`. -/
def GoLiveFigures.blockers (f : GoLiveFigures) : List String :=
  blockerOf (f.sharpe < 1) ("Sharpe " ++ fixedText 2 f.sharpe ++ " < 1.0 (minimum)") ++
  blockerOf (f.profitFactor.any fun x => x < 13 / 10)
    ("Profit Factor " ++ factorText f.profitFactor ++ " < 1.3") ++
  blockerOf (20 < f.maxDdPct) ("Max Drawdown " ++ fixedText 1 f.maxDdPct ++ "% > 20%") ++
  blockerOf (f.hitRate < 40) ("Hit Rate " ++ fixedText 1 f.hitRate ++ "% < 40%") ++
  blockerOf (f.totalTrades < 30)
    ("Only " ++ toString f.totalTrades ++ " trades (min 30 for statistical significance)")

/-- What the validation reads of a `BacktestResult`. -/
structure BacktestResult where
  totalReturnPct : ℚ
  sharpeRatio : ℚ
  maxDrawdownPct : ℚ
  maxDrawdownDurationDays : ℤ
  /-- `none` is the infinite factor of a back-test without losses. -/
  profitFactor : Option ℚ
  hitRatePct : ℚ
  totalTrades : ℕ
  winningTrades : ℕ
  losingTrades : ℕ
  goLiveEligible : Bool
  goLiveBlockers : List String
  deriving DecidableEq, Repr

namespace BacktestResult

/-- `is_acceptable`. -/
def isAcceptable (b : BacktestResult) : Bool :=
  decide (1 ≤ b.sharpeRatio) && b.profitFactor.all (fun x => 13 / 10 ≤ x) &&
    decide (b.maxDrawdownPct ≤ 20) && decide (40 ≤ b.hitRatePct) && decide (30 ≤ b.totalTrades)

/-- `_empty_result`. -/
def empty : BacktestResult where
  totalReturnPct := 0
  sharpeRatio := 0
  maxDrawdownPct := 0
  maxDrawdownDurationDays := 0
  profitFactor := some 0
  hitRatePct := 0
  totalTrades := 0
  winningTrades := 0
  losingTrades := 0
  goLiveEligible := false
  goLiveBlockers := ["No trades generated"]

end BacktestResult

/-- `analyze`. -/
def analyze (sqrt : ℚ → ℚ) (trades : List BacktestTrade) (curve : List EquityCurvePoint)
    (cfg : BacktestConfig) : BacktestResult :=
  if trades.isEmpty && curve.isEmpty then .empty
  else
    let equityValues := curve.map EquityCurvePoint.portfolioValue
    let final := equityValues.getLastD cfg.initialCapital
    let tradeStats := tradeStats trades
    let figures := goLiveFigures sqrt trades curve cfg
    { totalReturnPct := quantized 2 ((final - cfg.initialCapital) / cfg.initialCapital * 100)
      sharpeRatio := quantized 3 figures.sharpe
      maxDrawdownPct := quantized 2 figures.maxDdPct
      maxDrawdownDurationDays := (maxDrawdown equityValues curve).2
      profitFactor := tradeStats.profitFactor.map (quantized 3)
      hitRatePct := quantized 1 tradeStats.hitRatePct
      totalTrades := trades.length
      winningTrades := tradeStats.winning
      losingTrades := tradeStats.losing
      goLiveEligible := figures.blockers.isEmpty
      goLiveBlockers := figures.blockers }

/-! ### The gates and the rounding -/

/-- The figures pass the gates up to a part `t` of the unit to which the result rounds each. -/
structure GoLiveFigures.Passes (t : ℚ) (f : GoLiveFigures) : Prop where
  sharpe : 1 - t / 1000 ≤ f.sharpe
  profitFactor : ∀ x, f.profitFactor = some x → 13 / 10 - t / 1000 ≤ x
  maxDdPct : f.maxDdPct ≤ 20 + t / 100
  hitRate : 40 - t / 10 ≤ f.hitRate
  totalTrades : 30 ≤ f.totalTrades

section Gates

variable {sqrt : ℚ → ℚ} {trades : List BacktestTrade} {curve : List EquityCurvePoint}
  {cfg : BacktestConfig} {f : GoLiveFigures} {n : ℤ}

theorem blockerOf_eq_nil_iff {blocks : Bool} {text : String} :
    blockerOf blocks text = [] ↔ blocks = false := by
  cases blocks <;> simp [blockerOf]

theorem any_lt_eq_false_iff {factor : Option ℚ} {bound : ℚ} :
    factor.any (fun x => x < bound) = false ↔ ∀ x, factor = some x → bound ≤ x := by
  cases factor with
  | none => simp
  | some x => simp

/-- No gate blocks exactly when the figures pass. -/
theorem GoLiveFigures.blockers_eq_nil_iff : f.blockers = [] ↔ f.Passes 0 := by
  simp only [blockers, List.append_eq_nil_iff, blockerOf_eq_nil_iff, decide_eq_false_iff_not,
    not_lt, any_lt_eq_false_iff]
  constructor
  · rintro ⟨⟨⟨⟨hsharpe, hfactor⟩, hdd⟩, hhit⟩, htrades⟩
    exact ⟨by linarith, fun x hx => by linarith [hfactor x hx], by linarith, by linarith, htrades⟩
  · rintro ⟨hsharpe, hfactor, hdd, hhit, htrades⟩
    exact ⟨⟨⟨⟨by linarith, fun x hx => by linarith [hfactor x hx]⟩, by linarith⟩, by linarith⟩,
      htrades⟩

theorem GoLiveFigures.Passes.mono {t u : ℚ} (h : f.Passes t) (htu : t ≤ u) : f.Passes u where
  sharpe := by linarith [h.sharpe]
  profitFactor x hx := by linarith [h.profitFactor x hx]
  maxDdPct := by linarith [h.maxDdPct]
  hitRate := by linarith [h.hitRate]
  totalTrades := h.totalTrades

theorem totalTrades_analyze : (analyze sqrt trades curve cfg).totalTrades = trades.length := by
  rw [analyze]
  split
  next hempty =>
    obtain ⟨htrades, -⟩ := Bool.and_eq_true_iff.1 hempty
    rw [List.isEmpty_iff.1 htrades]
    rfl
  · rfl

/-- The result has no blocker exactly when the figures pass. -/
theorem goLiveBlockers_analyze_eq_nil_iff :
    (analyze sqrt trades curve cfg).goLiveBlockers = [] ↔
      (goLiveFigures sqrt trades curve cfg).Passes 0 := by
  rw [analyze]
  split
  next hempty =>
    obtain ⟨htrades, -⟩ := Bool.and_eq_true_iff.1 hempty
    refine iff_of_false (List.cons_ne_nil _ _) fun h => ?_
    have hcount := h.totalTrades
    rw [List.isEmpty_iff.1 htrades] at hcount
    exact absurd hcount (Nat.not_succ_le_zero 29)
  · exact GoLiveFigures.blockers_eq_nil_iff

/-- A figure is rounded to at least an even number of units when it is at most half a unit
below. -/
theorem le_quantized_iff (places : ℕ) (x : ℚ) (hn : n % 2 = 0) :
    n / 10 ^ places ≤ quantized places x ↔ (n - 1 / 2) / 10 ^ places ≤ x := by
  have hpos : (0 : ℚ) < 10 ^ places := by positivity
  rw [quantized, div_le_div_iff_of_pos_right hpos, Int.cast_le, ← not_lt,
    roundHalfEven_lt_iff hn, not_lt, div_le_iff₀ hpos]

theorem quantized_le_iff (places : ℕ) (x : ℚ) (hn : n % 2 = 0) :
    quantized places x ≤ n / 10 ^ places ↔ x ≤ (n + 1 / 2) / 10 ^ places := by
  have hpos : (0 : ℚ) < 10 ^ places := by positivity
  rw [quantized, div_le_div_iff_of_pos_right hpos, Int.cast_le, roundHalfEven_le_iff hn,
    le_div_iff₀ hpos]

/-- What passes is acceptable when half a unit of the rounding is forgiven. -/
theorem isAcceptable_analyze_iff :
    (analyze sqrt trades curve cfg).isAcceptable = true ↔
      (goLiveFigures sqrt trades curve cfg).Passes (1 / 2) := by
  have hsharpe (x : ℚ) : 1 ≤ quantized 3 x ↔ 1 - 1 / 2 / 1000 ≤ x := by
    have h := le_quantized_iff 3 x (n := 1000) rfl
    norm_num at h ⊢
    exact h
  have hfactor (x : ℚ) : 13 / 10 ≤ quantized 3 x ↔ 13 / 10 - 1 / 2 / 1000 ≤ x := by
    have h := le_quantized_iff 3 x (n := 1300) rfl
    norm_num at h ⊢
    exact h
  have hdd (x : ℚ) : quantized 2 x ≤ 20 ↔ x ≤ 20 + 1 / 2 / 100 := by
    have h := quantized_le_iff 2 x (n := 2000) rfl
    norm_num at h ⊢
    exact h
  have hhit (x : ℚ) : 40 ≤ quantized 1 x ↔ 40 - 1 / 2 / 10 ≤ x := by
    have h := le_quantized_iff 1 x (n := 400) rfl
    norm_num at h ⊢
    exact h
  rw [analyze]
  split
  next hempty =>
    obtain ⟨htrades, -⟩ := Bool.and_eq_true_iff.1 hempty
    refine iff_of_false (by decide +kernel) fun h => ?_
    have hcount := h.totalTrades
    rw [List.isEmpty_iff.1 htrades] at hcount
    exact absurd hcount (Nat.not_succ_le_zero 29)
  next hsome =>
    simp only [BacktestResult.isAcceptable, Bool.and_eq_true, decide_eq_true_eq, Option.all_map,
      hsharpe, hdd, hhit, hfactor, Option.all_eq_true]
    constructor
    · rintro ⟨⟨⟨⟨h1, h2⟩, h3⟩, h4⟩, h5⟩
      exact ⟨h1, h2, h3, h4, h5⟩
    · rintro ⟨h1, h2, h3, h4, h5⟩
      exact ⟨⟨⟨⟨h1, h2⟩, h3⟩, h4⟩, h5⟩

end Gates

end Sgr
