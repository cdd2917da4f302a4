import Sgr.Backtesting.MonteCarlo
import Sgr.Backtesting.Performance
import Sgr.Backtesting.WalkForward
import Sgr.Strategy.Startup

/-!
# The decision about going live

`_run_full_validation_body` and `_make_decision` of the `BacktestingEngine` in
`sgr/backtesting/engine.py`. Two gates read the same back-test: the report says GO when nothing
blocks, and the runner of the validations lets a strategy go live by what the result has rounded.
The simulator is a parameter here, and it does not raise.
-/

open Arithmetic

namespace Sgr

/-- `go_live_decision`. -/
inductive GoLiveDecision
  | go
  | conditional
  | noGo
  deriving DecidableEq, Repr

/-- `FullValidationReport`, without the arguments of the validation that it repeats. -/
structure FullValidationReport where
  backtest : BacktestResult
  walkForward : Option (WalkForwardResult BacktestResult)
  monteCarlo : Option MonteCarloResult
  goLiveDecision : GoLiveDecision
  decisionSummary : String
  blockers : List String
  warnings : List String

/-- What the runner of the validations reads of a report. -/
def FullValidationReport.validationReport (r : FullValidationReport) : ValidationReport where
  isAcceptable := r.backtest.isAcceptable
  walkForward := r.walkForward.map WalkForwardResult.isConsistent

/-- The blockers of a walk-forward. -/
def walkForwardBlockers (wf : WalkForwardResult BacktestResult) : List String :=
  blockerOf (!wf.isConsistent)
    ("Walk-Forward inconsistent (degradation: " ++ percentText 1 wf.degradationFactor ++ ")")

/-- The warnings of a walk-forward. -/
def walkForwardWarnings (wf : WalkForwardResult BacktestResult) : List String :=
  blockerOf (wf.isConsistent && decide (wf.degradationFactor < 7 / 10))
    ("Walk-Forward degradation " ++ percentText 1 wf.degradationFactor ++ " — monitor closely")

/-- The blockers of a Monte Carlo analysis. -/
def monteCarloBlockers (mc : MonteCarloResult) : List String :=
  blockerOf (25 < mc.percentile95MaxDrawdownPct)
    ("Monte Carlo P95 Drawdown " ++ fixedText 1 mc.percentile95MaxDrawdownPct ++ "% > 25%") ++
  blockerOf (5 / 100 < mc.ruinProbability)
    ("Ruin probability " ++ percentText 1 mc.ruinProbability ++ " > 5%")

/-- The warnings of a Monte Carlo analysis. -/
def monteCarloWarnings (mc : MonteCarloResult) : List String :=
  blockerOf (mc.percentile5ReturnPct < -20)
    ("Monte Carlo P5 scenario: " ++ fixedText 1 mc.percentile5ReturnPct ++ "% return")

/-- `decision` and `summary`. -/
def decisionOf (backtest : BacktestResult) (blockers : List String) : GoLiveDecision × String :=
  if blockers.isEmpty then
    (.go, "All gates passed. Sharpe " ++ fixedText 2 backtest.sharpeRatio ++ ", MaxDD " ++
      fixedText 1 backtest.maxDrawdownPct ++ "%, PF " ++ factorText backtest.profitFactor ++
      ". Proceed to Paper Trading (minimum 4 weeks).")
  else if blockers.length ≤ 2 ∧ 7 / 10 < backtest.sharpeRatio then
    (.conditional, "Marginal result. " ++ toString blockers.length ++
      " blocker(s). Parameter optimization and extended Paper Trading recommended.")
  else
    (.noGo, "Strategy does not meet Go-Live requirements. " ++ toString blockers.length ++
      " blocker(s). Do not proceed to Live Trading.")

/-- `_make_decision`. -/
def makeDecision (backtest : BacktestResult)
    (walkForward : Option (WalkForwardResult BacktestResult))
    (monteCarlo : Option MonteCarloResult) : FullValidationReport :=
  let blockers := backtest.goLiveBlockers ++ (walkForward.map walkForwardBlockers).getD [] ++
    (monteCarlo.map monteCarloBlockers).getD []
  { backtest := backtest
    walkForward := walkForward
    monteCarlo := monteCarlo
    goLiveDecision := (decisionOf backtest blockers).1
    decisionSummary := (decisionOf backtest blockers).2
    blockers := blockers
    warnings := (walkForward.map walkForwardWarnings).getD [] ++
      (monteCarlo.map monteCarloWarnings).getD [] }

/-- The report when no candle could be loaded. -/
def noDataReport : FullValidationReport where
  backtest := .empty
  walkForward := none
  monteCarlo := none
  goLiveDecision := .noGo
  decisionSummary := "No historical data available."
  blockers := ["Data loading failed"]
  warnings := []

/-- What a validation uses: the simulator on the candles of the symbols, the square root and the
random generator of the Monte Carlo analysis. -/
structure BacktestingEngine where
  simulate : BacktestConfig → List (String × List Candle) →
    List BacktestTrade × List EquityCurvePoint
  sqrt : ℚ → ℚ
  rng : Generator

namespace BacktestingEngine

variable (engine : BacktestingEngine) (cfg : BacktestConfig)
  (candlesBySymbol : List (String × List Candle))

/-- The simulator and the analyzer on some candles. -/
def evaluate (cfg : BacktestConfig) (candlesBySymbol : List (String × List Candle)) :
    BacktestResult :=
  let outcome := engine.simulate cfg candlesBySymbol
  analyze engine.sqrt outcome.1 outcome.2 cfg

/-- `run` of the walk-forward analysis with `n_splits=6`, on the first symbol. -/
def walkForwardOf : WalkForwardResult BacktestResult :=
  let primarySymbol := cfg.symbols.headD ""
  WalkForward.run (fun config candles => engine.evaluate config [(primarySymbol, candles)])
    BacktestResult.sharpeRatio cfg ((candlesBySymbol.lookup primarySymbol).getD []) 6

/-- `_run_full_validation_body`; nothing is answered when the Monte Carlo analysis raises. -/
def runFullValidationBody (runWalkForward runMonteCarlo : Bool) (monteCarloRuns : ℕ) :
    Option FullValidationReport :=
  if candlesBySymbol.all (fun p => p.2.isEmpty) then some noDataReport
  else
    let trades := (engine.simulate cfg candlesBySymbol).1
    let backtest := engine.evaluate cfg candlesBySymbol
    let walkForward := if runWalkForward && decide (20 ≤ backtest.totalTrades) then
        some (engine.walkForwardOf cfg candlesBySymbol) else none
    if runMonteCarlo && !trades.isEmpty then
      (MonteCarlo.run engine.sqrt engine.rng trades cfg.initialCapital monteCarloRuns).map
        fun mc => makeDecision backtest walkForward (some mc)
    else some (makeDecision backtest walkForward none)

/-- The report of the runner of the validations, which asks for a walk-forward only. -/
def runnerReport : Option FullValidationReport :=
  engine.runFullValidationBody cfg candlesBySymbol true false 1000

end BacktestingEngine

/-! ### The two gates -/

section Gates

variable {backtest : BacktestResult} {blockers : List String}
  {walkForward : Option (WalkForwardResult BacktestResult)} {monteCarlo : Option MonteCarloResult}

theorem decisionOf_eq_go_iff : (decisionOf backtest blockers).1 = .go ↔ blockers = [] := by
  rw [decisionOf]
  split
  next hnone => exact iff_of_true rfl (List.isEmpty_iff.1 hnone)
  next hsome =>
    refine iff_of_false ?_ fun h => hsome (List.isEmpty_iff.2 h)
    split <;> exact nofun

theorem goLiveDecision_eq_go_iff :
    (makeDecision backtest walkForward monteCarlo).goLiveDecision = .go ↔
      backtest.goLiveBlockers = [] ∧ (walkForward.map walkForwardBlockers).getD [] = [] ∧
        (monteCarlo.map monteCarloBlockers).getD [] = [] := by
  rw [makeDecision, decisionOf_eq_go_iff, List.append_eq_nil_iff, List.append_eq_nil_iff, and_assoc]

theorem walkForwardBlockers_eq_nil_iff {wf : WalkForwardResult BacktestResult} :
    walkForwardBlockers wf = [] ↔ wf.isConsistent = true := by
  rw [walkForwardBlockers, blockerOf_eq_nil_iff, Bool.not_eq_false']

theorem canGoLive_iff {r : FullValidationReport} :
    (toValidationStatus r.validationReport).canGoLive = true ↔
      r.backtest.isAcceptable = true ∧
        ∃ wf, r.walkForward = some wf ∧ wf.isConsistent = true := by
  simp only [ValidationStatus.canGoLive, toValidationStatus, FullValidationReport.validationReport,
    Bool.and_true, Bool.and_eq_true, Option.any_map, Option.any_eq_true, id]

namespace BacktestingEngine

variable {engine : BacktestingEngine} {cfg : BacktestConfig}
  {candlesBySymbol : List (String × List Candle)} {runWalkForward : Bool}

/-- The walk-forward of a validation, if it is asked for and there are enough trades. -/
def walkForwardAsked (engine : BacktestingEngine) (cfg : BacktestConfig)
    (candlesBySymbol : List (String × List Candle)) (runWalkForward : Bool) :
    Option (WalkForwardResult BacktestResult) :=
  if runWalkForward && decide (20 ≤ (engine.evaluate cfg candlesBySymbol).totalTrades) then
    some (engine.walkForwardOf cfg candlesBySymbol) else none

theorem all_isEmpty_eq_false (h : ∃ p ∈ candlesBySymbol, p.2 ≠ []) :
    ¬ candlesBySymbol.all (fun p => p.2.isEmpty) = true := by
  obtain ⟨p, hp, hne⟩ := h
  exact fun hall => hne (List.isEmpty_iff.1 (List.all_eq_true.1 hall p hp))

/-- Without a Monte Carlo analysis. -/
theorem runFullValidationBody_false (h : ∃ p ∈ candlesBySymbol, p.2 ≠ []) (n : ℕ) :
    engine.runFullValidationBody cfg candlesBySymbol runWalkForward false n =
      some (makeDecision (engine.evaluate cfg candlesBySymbol)
        (engine.walkForwardAsked cfg candlesBySymbol runWalkForward) none) := by
  rw [runFullValidationBody, if_neg (all_isEmpty_eq_false h)]
  rfl

/-- With a Monte Carlo analysis of some trades. -/
theorem runFullValidationBody_true (h : ∃ p ∈ candlesBySymbol, p.2 ≠ []) {n : ℕ}
    (htrades : (engine.simulate cfg candlesBySymbol).1 ≠ []) :
    engine.runFullValidationBody cfg candlesBySymbol runWalkForward true n =
      (MonteCarlo.run engine.sqrt engine.rng (engine.simulate cfg candlesBySymbol).1
        cfg.initialCapital n).map fun mc =>
          makeDecision (engine.evaluate cfg candlesBySymbol)
            (engine.walkForwardAsked cfg candlesBySymbol runWalkForward) (some mc) := by
  have hsome : (engine.simulate cfg candlesBySymbol).1.isEmpty = false :=
    List.isEmpty_eq_false_iff.2 htrades
  rw [runFullValidationBody, if_neg (all_isEmpty_eq_false h)]
  simp only [hsome, Bool.not_false, Bool.and_true, if_true]
  rfl

/-- There is a walk-forward where the figures pass, as they ask for more trades. -/
theorem walkForwardAsked_of_passes {t : ℚ}
    (h : (goLiveFigures engine.sqrt (engine.simulate cfg candlesBySymbol).1
      (engine.simulate cfg candlesBySymbol).2 cfg).Passes t) :
    engine.walkForwardAsked cfg candlesBySymbol true =
      some (engine.walkForwardOf cfg candlesBySymbol) := by
  have hcount : 30 ≤ (engine.simulate cfg candlesBySymbol).1.length := h.totalTrades
  have hmany : 20 ≤ (engine.evaluate cfg candlesBySymbol).totalTrades := by
    rw [evaluate, totalTrades_analyze]
    omega
  rw [walkForwardAsked, decide_eq_true hmany, Bool.and_true, if_pos rfl]

section MonteCarlo

variable {sqrt : ℚ → ℚ} {initial : ℚ} {pnls : List ℚ} {mc : MonteCarloResult}

/-- Losses of a quarter of the capital are too small for a blocker. -/
theorem monteCarloBlockers_eq_nil (hinitial : 0 < initial)
    (h : MonteCarlo.Figures sqrt initial pnls mc)
    (hlosses : MonteCarlo.lossesOf pnls ≤ initial / 4) : monteCarloBlockers mc = [] := by
  have hbound : MonteCarlo.lossesOf pnls / initial * 100 ≤ 25 := by
    have hratio : MonteCarlo.lossesOf pnls / initial ≤ 1 / 4 :=
      (div_le_iff₀ hinitial).2 (by linarith)
    linarith
  have hdrawdown : mc.percentile95MaxDrawdownPct ≤ 25 :=
    calc mc.percentile95MaxDrawdownPct
        ≤ Arithmetic.quantized 2 (MonteCarlo.lossesOf pnls / initial * 100) :=
          h.percentile95MaxDrawdownPct.2
      _ ≤ Arithmetic.quantized 2 25 := quantized_mono hbound
      _ = 25 := by exact_mod_cast MonteCarlo.quantized_intCast 2 25
  have hruin : mc.ruinProbability = 0 := h.ruinProbability_eq_zero (by linarith)
  rw [monteCarloBlockers, List.append_eq_nil_iff, blockerOf_eq_nil_iff, blockerOf_eq_nil_iff,
    decide_eq_false_iff_not, decide_eq_false_iff_not, hruin]
  exact ⟨not_lt.2 hdrawdown, by norm_num⟩

/-- A ruin in every order of the trades is a blocker. -/
theorem monteCarloBlockers_ne_nil (h : MonteCarlo.Figures sqrt initial pnls mc)
    (hsum : pnls.sum < -(initial / 2)) : monteCarloBlockers mc ≠ [] := by
  rw [monteCarloBlockers, Ne, List.append_eq_nil_iff, blockerOf_eq_nil_iff, blockerOf_eq_nil_iff,
    decide_eq_false_iff_not, decide_eq_false_iff_not, h.ruinProbability_eq_one hsum]
  rintro ⟨-, hruin⟩
  exact hruin (by norm_num)

theorem monteCarloWarnings_eq_nil_iff (h : MonteCarlo.Figures sqrt initial pnls mc) :
    monteCarloWarnings mc = [] ↔ -20 ≤ Arithmetic.quantized 2 (pnls.sum / initial * 100) := by
  rw [monteCarloWarnings, blockerOf_eq_nil_iff, decide_eq_false_iff_not, not_lt,
    h.percentile5ReturnPct]

end MonteCarlo

end BacktestingEngine

end Gates

/-- An engine whose simulator makes the same trades on all candles. -/
def BacktestingEngine.fixed : BacktestingEngine where
  simulate _ _ := (twelveTrades, [])
  sqrt := Rat.sqrt
  rng := .reversing

end Sgr
