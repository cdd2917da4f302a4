import Sgr.Backtesting.Performance
import Sgr.Strategy.SignalFlow

/-!
# Regimes that no back-test knows

The live engine classifies a regime by `classify_regime`, the simulator of the back-tests by
`_detect_regime_simple`, which knows no breakout. A strategy for breakouts only is thus never
asked in a back-test: it makes no trade, its validation fails, and after a start of the worker it
is inactive unless the operator overrides the validation.
-/

open Concurrency

namespace Sgr

/-- The regimes that the simulator knows. -/
def simulatedRegimes : List MarketRegime :=
  [.trendingUp, .trendingDown, .ranging, .highVolatility, .unknown]

theorem volatilityRegime_mem (ind : IndicatorValues) : volatilityRegime ind ∈ simulatedRegimes := by
  unfold volatilityRegime
  split <;> decide

theorem detectRegimeSimple_mem (features : FeatureSet) :
    detectRegimeSimple features ∈ simulatedRegimes := by
  unfold detectRegimeSimple
  dsimp only
  split
  · split
    · split
      · decide
      split
      · decide
      · exact volatilityRegime_mem _
    split
    · decide
    · exact volatilityRegime_mem _
  · decide

section Simulator

variable {μ : Type*} {strategies : List (BacktestStrategy μ)} {cfg : BacktestConfig}
  {s t : BacktestState μ}

/-- No strategy supports a regime that the simulator knows. -/
def Untested (strategies : List (BacktestStrategy μ)) : Prop :=
  ∀ strategy ∈ strategies, ∀ regime ∈ simulatedRegimes, regime ∉ strategy.supportedRegimes

theorem collectSignals_of_untested (h : Untested strategies) {regime : MarketRegime}
    (hregime : regime ∈ simulatedRegimes) (context : MarketContext) (m : μ) :
    collectSignals context regime strategies m = (m, []) := by
  induction strategies with
  | nil => rfl
  | cons strategy strategies ih =>
      rw [collectSignals, if_neg (h strategy List.mem_cons_self regime hregime)]
      exact ih fun strategy' hmem => h strategy' (List.mem_cons_of_mem _ hmem)

/-- No position is open and no trade has been made. -/
structure Untraded (s : BacktestState μ) : Prop where
  position : s.position = none
  closedTrades : s.closedTrades = []

/-- A bar leaves a simulator of untested strategies without a position. -/
theorem Untraded.barStep (h : Untested strategies) (hs : Untraded s) {b : BarInput}
    (hstep : cfg.barStep strategies s b = some t) : Untraded t := by
  cases hfeatures : b.features with
  | none =>
      rw [BacktestConfig.barStep, hfeatures] at hstep
      cases hstep
      exact hs
  | some features =>
      rw [BacktestConfig.barStep_of_features cfg hfeatures] at hstep
      have hexits : cfg.afterExits b features s = some (s.updatePositions b.bar.closePrice) := by
        rw [BacktestConfig.afterExits, BacktestConfig.checkExits, BacktestState.updatePositions,
          hs.position]
        rfl
      have hsignal : ∀ m, Sgr.generateSignal strategies (BacktestConfig.contextAt b features)
          (BacktestConfig.contextAt b features).regime m = (m, none) := by
        intro m
        have hcollects : collectSignals (BacktestConfig.contextAt b features)
            (BacktestConfig.contextAt b features).regime strategies m = (m, []) :=
          collectSignals_of_untested h (detectRegimeSimple_mem features) _ m
        rw [generateSignal, hcollects]
        rfl
      have hentry : cfg.checkEntry strategies b (BacktestConfig.contextAt b features)
          (s.updatePositions b.bar.closePrice) =
            some { s.updatePositions b.bar.closePrice with memory := s.memory } := by
        rw [BacktestConfig.checkEntry, BacktestState.updatePositions, hs.position]
        simp only [Option.map_none, hsignal]
      rw [hexits, Option.bind_some, hentry, Option.map_some, Option.some_inj] at hstep
      subst hstep
      refine ⟨?_, hs.closedTrades⟩
      simp only [BacktestConfig.recordBar, BacktestState.recordEquity,
        BacktestState.updatePositions, hs.position, Option.map_none]

/-- A back-test of untested strategies makes no trade. -/
theorem trades_eq_nil_of_untested (h : Untested strategies) {sqrt : ℚ → ℚ} {m : μ}
    {candlesBySymbol : String → List Candle} {outcome : BacktestOutcome}
    (hrun : cfg.run sqrt strategies m candlesBySymbol = some outcome) : outcome.trades = [] := by
  obtain ⟨symbol, -, hsome⟩ := Option.bind_eq_some_iff.1 hrun
  obtain ⟨last, hlast, rfl⟩ := Option.map_eq_some_iff.1 hsome
  obtain ⟨s, hs, hclose⟩ := Option.bind_eq_some_iff.1 hlast
  have huntraded : Untraded s := (cfg.simulator strategies).run_invariant Untraded
    (fun s b t hs hstep => hs.barStep h hstep) ⟨rfl, rfl⟩ hs
  have hsame : last = s := by
    rw [BacktestConfig.closeAtEnd, huntraded.position] at hclose
    cases hlast : (candlesBySymbol symbol).getLast? <;> rw [hlast] at hclose <;>
      exact (Option.some.inj hclose).symm
  rw [hsame]
  exact huntraded.closedTrades

end Simulator

/-! ### The validation -/

/-- A strategy of the source as the simulator asks it. -/
def StrategyClass.simulated (c : StrategyClass) (name : String) (ids : String → UUID) :
    BacktestStrategy Unit where
  supportedRegimes := c.supportedRegimes
  generateSignal m context := (m, c.generateSignal name (ids name) context)

/-- The reports on a strategy come from the simulator and the analyzer of its figures. -/
def ReportsSimulation (env : StartupEnv) (name : String) (c : StrategyClass)
    (ids : String → UUID) : Prop :=
  ∀ report, env.backtest name [name] = .ok report →
    ∃ (cfg : BacktestConfig) (sqrt : ℚ → ℚ) (candlesBySymbol : String → List Candle)
      (outcome : BacktestOutcome),
        cfg.run sqrt [c.simulated name ids] () candlesBySymbol = some outcome ∧
          report.isAcceptable =
            (analyze sqrt outcome.trades outcome.equityCurve cfg).isAcceptable

theorem not_canGoLive_of_untested {env : StartupEnv} {name : String} {c : StrategyClass}
    {ids : String → UUID} (huntested : Untested [c.simulated name ids])
    (hreports : ReportsSimulation env name c ids) (hoverride : name ∉ env.overrides) :
    (env.verdict name false).canGoLive = false := by
  rw [StartupEnv.verdict, if_neg hoverride, StartupEnv.answered, if_neg Bool.false_ne_true]
  cases hanswer : env.backtest name [name] with
  | error text => rfl
  | ok report =>
      obtain ⟨cfg, sqrt, candles, outcome, hrun, haccept⟩ := hreports report hanswer
      have hrejected : report.isAcceptable = false := by
        rw [haccept, trades_eq_nil_of_untested huntested hrun, Bool.eq_false_iff]
        intro hacceptable
        exact Nat.not_succ_le_zero 29 (isAcceptable_analyze_iff.1 hacceptable).totalTrades
      simp [ValidationStatus.canGoLive, toValidationStatus, hrejected]

/-- A breakout is not among the regimes that the simulator knows. -/
theorem untested_breakout (p : BreakoutParams) (name : String) (ids : String → UUID) :
    Untested [(StrategyClass.breakout p).simulated name ids] := by
  intro strategy hstrategy regime hregime hsupported
  rw [List.mem_singleton.1 hstrategy] at hsupported
  rw [List.mem_singleton.1 hsupported] at hregime
  revert hregime
  decide

/-- A start at which the back-test of `breakout_v1` has no trade. -/
def breakoutStart : StartupEnv where
  classes := [("breakout_v1", false, [.breakout])]
  backtest _ _ := .ok ⟨false, none⟩
  gridBacktest _ := .error "no history"
  overrides := []
  setValidated _ := true
  activeNames := some ["breakout_v1"]

end Sgr
