import Mathlib.Data.List.MinMax
import Sgr.Backtesting.HistoryLoader

/-!
# The windows of the parameter search

`optimize_strategy_parameters` back-tests the candidates of a strategy on the first part of the
history of a symbol, and the runner validates the best of them on the rest. Both are loaded by
one loader, which takes the bars from the start of a window to its end, both included: a bar at
the instant where the search ends can be in both.
-/

open Collection

namespace Sgr

/-! ### The search space -/

/-- The values that are tried for the parameters of a strategy. -/
abbrev SearchSpace := List (String × List ℚ)

/-- The parameters of a candidate. -/
abbrev Overrides := List (String × ℚ)

/-- `PARAMETER_SEARCH_SPACE`. -/
def parameterSearchSpace : String → Option SearchSpace
  | "mean_reversion_v1" =>
      some [("rsi_oversold", [30, 35, 40]), ("min_confidence", [45 / 100, 55 / 100, 65 / 100])]
  | "trend_following_v1" =>
      some [("adx_min", [20, 25, 30]), ("min_confidence", [45 / 100, 55 / 100, 65 / 100])]
  | "breakout_v1" =>
      some [("bb_width_expansion_min", [35 / 1000, 45 / 1000, 55 / 1000]),
        ("min_confidence", [45 / 100, 55 / 100, 65 / 100])]
  | "momentum_v1" =>
      some [("returns_5_min", [5 / 1000, 1 / 100, 2 / 100]),
        ("min_confidence", [45 / 100, 55 / 100, 65 / 100])]
  | "volatility_adjusted_momentum_v1" =>
      some [("returns_5_min", [1 / 100, 2 / 100, 3 / 100]),
        ("min_confidence", [45 / 100, 55 / 100, 65 / 100])]
  | _ => none

/-- `_param_grid`. -/
def paramGrid (space : SearchSpace) : List Overrides :=
  space.foldl (fun combos entry =>
    combos.flatMap fun combo => entry.2.map fun value => combo ++ [(entry.1, value)]) [[]]

/-! ### A back-test -/

/-- What is read of the result of a back-test. -/
structure BacktestReport where
  totalTrades : ℕ
  sharpeRatio : ℚ
  totalReturnPct : ℚ
  maxDrawdownPct : ℚ
  deriving DecidableEq

/-- `_empty_result`. -/
def emptyReport : BacktestReport := ⟨0, 0, 0, 0⟩

/-- The market, the strategy and its back-test: over the bars of a window, with the parameters of
a candidate or with its own ones. An error is the text of the exception. -/
structure ValidationSetup where
  market : SymbolFeed
  strategyName : String
  hasParams : Bool
  backtest : Option Overrides → HistoryWindow → List HistoryBar → Except String BacktestReport

/-- How `run_full_validation` ends: its report, the bars that it loaded, and the cache. -/
structure FullValidation where
  report : Except String BacktestReport
  loaded : List HistoryBar
  cache : HistoryCache

/-- `run_full_validation`, as far as the back-test. -/
def runFullValidation (setup : ValidationSetup) (e : LoadEnv) (parameters : Option Overrides)
    (w : HistoryWindow) (cache : HistoryCache) : Option FullValidation :=
  (loadPublicHistory e setup.market w cache).map fun
    | (.error text, cache) => ⟨.error text, [], cache⟩
    | (.ok bars, cache) =>
        ⟨if bars.isEmpty then .ok emptyReport else setup.backtest parameters w bars, bars, cache⟩

/-! ### The search -/

/-- `ParameterCandidate`. -/
structure ParameterCandidate where
  overrides : Overrides
  sharpeRatio : ℚ
  totalTrades : ℕ
  totalReturnPct : ℚ
  maxDrawdownPct : ℚ
  disqualifiedReason : Option String := none

/-- `qualifies`. -/
def ParameterCandidate.qualifies (c : ParameterCandidate) : Bool := c.disqualifiedReason.isNone

/-- `MIN_CANDLES_FOR_OPTIMIZATION`. -/
def minCandlesForOptimization : ℤ := 2200

/-- `MIN_TRADES_FOR_CANDIDATE`. -/
def minTradesForCandidate : ℕ := 10

/-- The candidate of a back-test. -/
def candidateOf (overrides : Overrides) : Except String BacktestReport → ParameterCandidate
  | .ok bt =>
      { overrides := overrides
        sharpeRatio := bt.sharpeRatio
        totalTrades := bt.totalTrades
        totalReturnPct := bt.totalReturnPct
        maxDrawdownPct := bt.maxDrawdownPct
        disqualifiedReason := if bt.totalTrades < minTradesForCandidate then
          some "too_few_trades_in_optimization_window" else none }
  | .error text =>
      { overrides := overrides
        sharpeRatio := -999
        totalTrades := 0
        totalReturnPct := 0
        maxDrawdownPct := 0
        disqualifiedReason := some ((("technical_error: " ++ text).take 200).toString) }

/-- What the loop over the candidates has found, and the bars that were loaded for them. -/
structure SearchState where
  candidates : List ParameterCandidate
  searched : List (List HistoryBar)
  cache : HistoryCache

/-- The loop over the candidates; the loads of the `n`-th one meet `envs n`. -/
def searchLoop (setup : ValidationSetup) (envs : ℕ → LoadEnv) (w : HistoryWindow) :
    ℕ → List Overrides → SearchState → Option SearchState
  | _, [], s => some s
  | n, overrides :: combos, s =>
      (runFullValidation setup (envs n) (some overrides) w s.cache).bind fun v =>
        searchLoop setup envs w (n + 1) combos
          ⟨s.candidates ++ [candidateOf overrides v.report], s.searched ++ [v.loaded], v.cache⟩

/-- `OptimizationResult`. -/
structure OptimizationResult where
  strategyName : String
  symbol : String
  performed : Bool
  skipReason : Option String := none
  bestOverrides : Overrides := []
  candidatesTried : ℕ := 0
  candidates : List ParameterCandidate := []
  optimizationWindow : Option HistoryWindow := none
  validationWindow : Option HistoryWindow := none

/-- The days from the start to the end, and the part of them that `OPTIMIZATION_WINDOW_FRACTION`
gives to the search. -/
def HistoryWindow.totalDays (full : HistoryWindow) : ℤ := (full.stop - full.start) / dayLength

/-- `opt_days`. -/
def HistoryWindow.optDays (full : HistoryWindow) : ℤ := full.totalDays * 35 / 100

/-- `opt_end`. -/
def HistoryWindow.optEnd (full : HistoryWindow) : ℤ := full.start + full.optDays * dayLength

/-- The window of the search. -/
def HistoryWindow.optimization (full : HistoryWindow) : HistoryWindow := ⟨full.start, full.optEnd⟩

/-- The window of the validation. -/
def HistoryWindow.validation (full : HistoryWindow) : HistoryWindow := ⟨full.optEnd, full.stop⟩

/-- `approx_candles`. -/
def HistoryWindow.approxCandles (full : HistoryWindow) (timeframe : String) : ℤ :=
  if timeframe = "1h" then full.totalDays * 24 else full.totalDays

/-- The result of a search that has gone through its candidates. -/
def searchResult (setup : ValidationSetup) (full : HistoryWindow)
    (candidates : List ParameterCandidate) : OptimizationResult :=
  let best := (candidates.filter ParameterCandidate.qualifies).argmax ParameterCandidate.sharpeRatio
  { strategyName := setup.strategyName
    symbol := setup.market.symbol
    performed := true
    skipReason := if best.isNone then some "no_candidate_reached_minimum_trade_count" else none
    bestOverrides := (best.map ParameterCandidate.overrides).getD []
    candidatesTried := candidates.length
    candidates := candidates
    optimizationWindow := some full.optimization
    validationWindow := some full.validation }

/-- `optimize_strategy_parameters`, with the bars it loads and the cache it leaves. -/
def optimizeStrategyParameters (setup : ValidationSetup) (envs : ℕ → LoadEnv)
    (full : HistoryWindow) (cache : HistoryCache) :
    Option (OptimizationResult × SearchState) :=
  let skipped (reason : String) : OptimizationResult :=
    { strategyName := setup.strategyName
      symbol := setup.market.symbol
      performed := false
      skipReason := some reason }
  match parameterSearchSpace setup.strategyName with
  | none => some (skipped "no_search_space_defined_for_strategy", ⟨[], [], cache⟩)
  | some space =>
      if full.approxCandles setup.market.timeframe < minCandlesForOptimization then
        some (skipped "insufficient_history_for_optimization_split", ⟨[], [], cache⟩)
      else
        (searchLoop setup envs full.optimization 0 (paramGrid space) ⟨[], [], cache⟩).map fun s =>
          (searchResult setup full s.candidates, s)

/-! ### The validation -/

/-- The validation of a strategy whose back-test returned a report. -/
structure StrategyValidation where
  optimization : OptimizationResult
  searched : List (List HistoryBar)
  parameters : Option Overrides
  window : HistoryWindow
  validated : List HistoryBar
  report : BacktestReport

/-- The step of `_validate_symbol` for one strategy, up to the report of its validation. The
loads of the search meet `envs`, the one of the validation meets `e`. -/
def validateStrategy (setup : ValidationSetup) (envs : ℕ → LoadEnv) (e : LoadEnv)
    (full : HistoryWindow) (cache : HistoryCache) : Option (Except String StrategyValidation) :=
  let optimized := if setup.hasParams then optimizeStrategyParameters setup envs full cache
    else some
      ({ strategyName := setup.strategyName
         symbol := setup.market.symbol
         performed := false
         skipReason := some "strategy_has_no_params_attribute" }, ⟨[], [], cache⟩)
  optimized.bind fun (result, s) =>
    let chosen := result.performed && !result.bestOverrides.isEmpty
    let parameters := if chosen then some result.bestOverrides else none
    let w := if chosen then result.validationWindow.getD full else full
    (runFullValidation setup e parameters w s.cache).map fun v =>
      v.report.map fun report => ⟨result, s.searched, parameters, w, v.loaded, report⟩

/-- No bar of the search is among those of the validation. -/
def StrategyValidation.Disjoint (v : StrategyValidation) : Prop :=
  ∀ bars ∈ v.searched, ∀ x ∈ bars, ∀ y ∈ v.validated, x.timestamp ≠ y.timestamp

/-! ### What a window is loaded from -/

/-- The series that a load returns when nothing is remembered. -/
def LoadEnv.loaded (e : LoadEnv) (f : SymbolFeed) (w : HistoryWindow) :
    Option (List HistoryBar) :=
  match e.load f w with
  | some (.ok bars) => some bars
  | _ => none

/-- The series of a window: the one that is remembered under its dates, else that of the first
load that succeeds. -/
def windowBars (f : SymbolFeed) (w : HistoryWindow) (cache : HistoryCache)
    (envs : List LoadEnv) : Option (List HistoryBar) :=
  match cache.get? (cacheKey f w) with
  | some bars => some bars
  | none => (envs.find? fun e => (e.loaded f w).isSome).bind fun e => e.loaded f w

/-- What the series of a window is taken from. -/
def windowSource (f : SymbolFeed) (w : HistoryWindow) (cache : HistoryCache)
    (envs : List LoadEnv) : Option HistorySource :=
  match cache.get? (cacheKey f w) with
  | some bars => some (.remembered bars)
  | none => (envs.find? fun e => (e.loaded f w).isSome).map fun e => e.source f w

/-- The environments of the loads of the search. -/
def searchEnvs (setup : ValidationSetup) (envs : ℕ → LoadEnv) : List LoadEnv :=
  match parameterSearchSpace setup.strategyName with
  | none => []
  | some space => (List.range (paramGrid space).length).map envs

/-- The instants at which both windows can have a bar. When neither series is remembered, they
are the end of the search and those before it in its millisecond. -/
def commonInstants (full : HistoryWindow) (s v : HistorySource) : Set ℤ :=
  {t | s.IsRemembered ∨ v.IsRemembered ∨
    wholeMillisecond full.optEnd ≤ t ∧ t ≤ full.optEnd}

/-- No bar at these instants is in the sources of both windows. -/
def SharesNoBar (has : HistorySource → HistoryWindow → ℤ → Prop) (setup : ValidationSetup)
    (envs : ℕ → LoadEnv) (e : LoadEnv) (full : HistoryWindow) (cache : HistoryCache) : Prop :=
  ∀ s ∈ windowSource setup.market full.optimization cache (searchEnvs setup envs),
    ∀ v ∈ windowSource setup.market full.validation cache [e],
      ∀ t ∈ commonInstants full s v, ¬ (has s full.optimization t ∧ has v full.validation t)

section Windows

variable {f : SymbolFeed} {w : HistoryWindow} {cache : HistoryCache} {e : LoadEnv}
  {envs : List LoadEnv} {bars : List HistoryBar} {s : HistorySource} {t : ℤ}

theorem load_eq_of_loaded (h : e.loaded f w = some bars) : e.load f w = some (.ok bars) := by
  rw [LoadEnv.loaded] at h
  split at h
  next hload =>
    cases h
    exact hload
  next => cases h

theorem windowBars_of_get? (h : cache.get? (cacheKey f w) = some bars) :
    windowBars f w cache envs = some bars := by
  rw [windowBars, h]

theorem windowBars_nil (h : cache.get? (cacheKey f w) = none) :
    windowBars f w cache [] = none := by
  rw [windowBars, h]
  rfl

theorem windowBars_cons (h : cache.get? (cacheKey f w) = none) :
    windowBars f w cache (e :: envs) = (e.loaded f w).or (windowBars f w cache envs) := by
  rw [windowBars, windowBars, h]
  cases hloaded : e.loaded f w with
  | some bars => simp [hloaded]
  | none => simp [hloaded]

/-- A window with a source has a series, and the other way round. -/
theorem windowSource_cases (h : windowSource f w cache envs = some s) :
    (∃ bars, s = .remembered bars ∧ windowBars f w cache envs = some bars) ∨
    ∃ e ∈ envs, ∃ bars, s = e.source f w ∧ e.load f w = some (.ok bars) ∧
      windowBars f w cache envs = some bars := by
  rw [windowSource] at h
  rw [windowBars]
  cases hcache : cache.get? (cacheKey f w) with
  | some bars =>
      rw [hcache] at h
      cases h
      exact .inl ⟨bars, rfl, rfl⟩
  | none =>
      rw [hcache] at h
      obtain ⟨e, hfind, rfl⟩ := Option.map_eq_some_iff.1 h
      have hsome := List.find?_some hfind
      obtain ⟨bars, hbars⟩ := Option.isSome_iff_exists.1 hsome
      refine .inr ⟨e, List.mem_of_find?_eq_some hfind, bars, rfl, load_eq_of_loaded hbars, ?_⟩
      rw [hfind]
      exact hbars

theorem exists_windowBars (h : windowSource f w cache envs = some s) :
    ∃ bars, windowBars f w cache envs = some bars := by
  rcases windowSource_cases h with ⟨bars, -, hbars⟩ | ⟨e, -, bars, -, -, hbars⟩
  · exact ⟨bars, hbars⟩
  · exact ⟨bars, hbars⟩

theorem exists_windowSource (h : windowBars f w cache envs = some bars) :
    ∃ s, windowSource f w cache envs = some s := by
  rw [windowBars] at h
  rw [windowSource]
  cases hcache : cache.get? (cacheKey f w) with
  | some bars => exact ⟨_, rfl⟩
  | none =>
      rw [hcache] at h
      obtain ⟨e, hfind, -⟩ := Option.bind_eq_some_iff.1 h
      exact ⟨e.source f w, congrArg (Option.map _) hfind⟩

/-- Every bar of the series is one that its source offers. -/
theorem offers_of_windowBars (hserves : ∀ e ∈ envs, e.ServesHistory)
    (hsource : windowSource f w cache envs = some s)
    (hbars : windowBars f w cache envs = some bars)
    (ht : t ∈ bars.map HistoryBar.timestamp) : s.Offers w t := by
  rcases windowSource_cases hsource with ⟨bars', rfl, hbars'⟩ | ⟨e, he, bars', rfl, hload, hbars'⟩
  · cases hbars.symm.trans hbars'
    exact ⟨ht, trivial⟩
  · cases hbars.symm.trans hbars'
    exact LoadEnv.offers_of_load (hserves e he) hload ht

/-- What the source of a window offers lies in it, unless the series is remembered. -/
theorem isRemembered_or_mem_window (hsource : windowSource f w cache envs = some s)
    (hoffers : s.Offers w t) :
    s.IsRemembered ∨ wholeMillisecond w.start ≤ t ∧ t ≤ w.stop := by
  rcases windowSource_cases hsource with ⟨bars, rfl, -⟩ | ⟨e, -, bars, rfl, -⟩
  · exact .inl trivial
  · exact .inr (LoadEnv.mem_window_of_offers hoffers)

/-- The bars of the series are those that its source has for the window. -/
theorem mem_times_windowBars_iff (hserves : ∀ e ∈ envs, e.ServesHistory)
    (hapart : ∀ e ∈ envs, e.BarsApart f.timeframe) (hlt : w.start < w.stop)
    (hsource : windowSource f w cache envs = some s)
    (hbars : windowBars f w cache envs = some bars) :
    t ∈ bars.map HistoryBar.timestamp ↔ s.Has f.timeframe w t := by
  rcases windowSource_cases hsource with ⟨bars', rfl, hbars'⟩ | ⟨e, he, bars', rfl, hload, hbars'⟩
  · cases hbars.symm.trans hbars'
    exact ⟨fun ht => ⟨⟨ht, trivial⟩, id⟩, fun ht => ht.1.1⟩
  · cases hbars.symm.trans hbars'
    exact LoadEnv.mem_times_load_iff (hserves e he) (hapart e he) hlt hload

end Windows

/-! ### The search -/

section Search

variable {setup : ValidationSetup} {envs : ℕ → LoadEnv} {e : LoadEnv} {full w : HistoryWindow}
  {cache : HistoryCache} {parameters : Option Overrides} {combos : List Overrides}
  {s s' : SearchState} {v : FullValidation} {n : ℕ} {t : ℤ}

/-- A validation remembers its series, if it was not remembered before and the load succeeds. -/
theorem runFullValidation_cases (h : runFullValidation setup e parameters w cache = some v) :
    (cache.get? (cacheKey setup.market w) = some v.loaded ∧ v.cache = cache) ∨
    (cache.get? (cacheKey setup.market w) = none ∧ e.loaded setup.market w = some v.loaded ∧
      v.cache = cache.set (cacheKey setup.market w) v.loaded) ∨
    (cache.get? (cacheKey setup.market w) = none ∧ e.loaded setup.market w = none ∧
      v.loaded = [] ∧ v.cache = cache ∧ ∃ text, v.report = .error text) := by
  rw [runFullValidation, loadPublicHistory] at h
  cases hcache : cache.get? (cacheKey setup.market w) with
  | some bars =>
      rw [hcache] at h
      cases h
      exact .inl ⟨rfl, rfl⟩
  | none =>
      rw [hcache] at h
      rw [LoadEnv.loaded]
      cases hload : e.load setup.market w with
      | none =>
          rw [hload] at h
          cases h
      | some answer =>
          rw [hload] at h
          cases answer with
          | ok bars =>
              cases h
              exact .inr (.inl ⟨rfl, rfl, rfl⟩)
          | error text =>
              cases h
              exact .inr (.inr ⟨rfl, rfl, rfl, rfl, text, rfl⟩)

/-- The bars of a back-test and of those after it are those of the series of the window. -/
theorem loaded_or_windowBars_iff (h : runFullValidation setup e parameters w cache = some v)
    (envs : List LoadEnv) : (t ∈ v.loaded.map HistoryBar.timestamp ∨ envs ≠ [] ∧
        ∃ bars ∈ windowBars setup.market w v.cache envs, t ∈ bars.map HistoryBar.timestamp) ↔
      ∃ bars ∈ windowBars setup.market w cache (e :: envs), t ∈ bars.map HistoryBar.timestamp := by
  rcases runFullValidation_cases h with ⟨hcache, hv⟩ | ⟨hcache, hloaded, hv⟩ |
    ⟨hcache, hloaded, hnil, hv, -⟩
  · rw [hv, windowBars_of_get? hcache, windowBars_of_get? hcache]
    simp
  · have hset : v.cache.get? (cacheKey setup.market w) = some v.loaded := by
      rw [hv, Dict.get?_set_self]
    rw [windowBars_of_get? hset, windowBars_cons hcache, hloaded]
    simp
  · rw [hv, hnil, windowBars_cons hcache, hloaded, Option.none_or]
    cases envs with
    | nil => simp [windowBars_nil hcache]
    | cons e envs => simp

/-- The bars of a search are those of the series of its window. -/
theorem searchLoop_spec (h : searchLoop setup envs w n combos s = some s') :
    (∀ t, (∃ bars ∈ s'.searched, t ∈ bars.map HistoryBar.timestamp) ↔
      (∃ bars ∈ s.searched, t ∈ bars.map HistoryBar.timestamp) ∨
        (List.range' n combos.length).map envs ≠ [] ∧ ∃ bars ∈ windowBars setup.market w s.cache
          ((List.range' n combos.length).map envs), t ∈ bars.map HistoryBar.timestamp) ∧
    ∀ key ≠ cacheKey setup.market w, s'.cache.get? key = s.cache.get? key := by
  induction combos generalizing n s with
  | nil =>
      cases h
      exact ⟨fun t => by simp, fun key _ => rfl⟩
  | cons overrides combos ih =>
      obtain ⟨v, hv, hrest⟩ := Option.bind_eq_some_iff.1 h
      obtain ⟨htimes, hkeys⟩ := ih hrest
      refine ⟨fun t => ?_, fun key hkey => (hkeys key hkey).trans ?_⟩
      · rw [htimes, List.length_cons, List.range'_succ, List.map_cons,
          ← loaded_or_windowBars_iff hv]
        simp only [List.mem_append, List.mem_singleton, or_and_right, exists_or, exists_eq_left,
          or_assoc, ne_eq, reduceCtorEq, not_false_eq_true, true_and]
      · rcases runFullValidation_cases hv with ⟨-, hv⟩ | ⟨-, -, hv⟩ | ⟨-, -, -, hv, -⟩
        · rw [hv]
        · rw [hv, Dict.get?_set_of_ne _ hkey]
        · rw [hv]

/-- The series of a validation that returns a report. -/
theorem windowBars_of_report {report : BacktestReport}
    (h : runFullValidation setup e parameters w cache = some v) (hreport : v.report = .ok report) :
    windowBars setup.market w cache [e] = some v.loaded := by
  rcases runFullValidation_cases h with ⟨hcache, -⟩ | ⟨hcache, hloaded, -⟩ |
    ⟨-, -, -, -, text, htext⟩
  · exact windowBars_of_get? hcache
  · rw [windowBars_cons hcache, hloaded, Option.some_or]
  · rw [hreport] at htext
    cases htext

/-- A search that is performed has enough history and goes through all candidates. -/
theorem optimizeStrategyParameters_cases {result : OptimizationResult}
    (h : optimizeStrategyParameters setup envs full cache = some (result, s))
    (hperformed : result.performed) :
    ∃ space, parameterSearchSpace setup.strategyName = some space ∧
      minCandlesForOptimization ≤ full.approxCandles setup.market.timeframe ∧
      searchLoop setup envs full.optimization 0 (paramGrid space) ⟨[], [], cache⟩ = some s ∧
      result.validationWindow = some full.validation := by
  rw [optimizeStrategyParameters] at h
  cases hspace : parameterSearchSpace setup.strategyName with
  | none =>
      rw [hspace] at h
      cases h
      cases hperformed
  | some space =>
      simp only [hspace] at h
      split at h
      next =>
        cases h
        cases hperformed
      next hlong =>
        obtain ⟨s, hloop, hresult⟩ := Option.map_eq_some_iff.1 h
        cases hresult
        exact ⟨space, rfl, not_lt.1 hlong, hloop, rfl⟩

/-- A validation with chosen parameters comes after a search, and on the rest of the history. -/
theorem validateStrategy_cases {e : LoadEnv} {r : StrategyValidation}
    (h : validateStrategy setup envs e full cache = some (.ok r)) (hchosen : r.parameters.isSome) :
    ∃ space s, parameterSearchSpace setup.strategyName = some space ∧
      minCandlesForOptimization ≤ full.approxCandles setup.market.timeframe ∧
      searchLoop setup envs full.optimization 0 (paramGrid space) ⟨[], [], cache⟩ = some s ∧
      r.searched = s.searched ∧
      windowBars setup.market full.validation s.cache [e] = some r.validated := by
  obtain ⟨⟨result, s⟩, hoptimized, hvalidated⟩ := Option.bind_eq_some_iff.1 h
  obtain ⟨v, hv, hreport⟩ := Option.map_eq_some_iff.1 hvalidated
  cases hok : v.report with
  | error text =>
      rw [hok] at hreport
      cases hreport
  | ok report =>
      rw [hok] at hreport
      cases hreport
      by_cases hresult : (result.performed && !result.bestOverrides.isEmpty) = true
      · have hperformed : result.performed := (Bool.and_eq_true_iff.1 hresult).1
        have hsearch : optimizeStrategyParameters setup envs full cache = some (result, s) := by
          cases hparams : setup.hasParams with
          | true => rwa [hparams, if_pos rfl] at hoptimized
          | false =>
              rw [hparams, if_neg Bool.false_ne_true] at hoptimized
              cases hoptimized
              cases hperformed
        obtain ⟨space, hspace, hlong, hloop, hwindow⟩ :=
          optimizeStrategyParameters_cases hsearch hperformed
        simp only [hresult, if_true, hwindow, Option.getD_some] at hv
        exact ⟨space, s, hspace, hlong, hloop, rfl, windowBars_of_report hv hok⟩
      · simp [hresult] at hchosen

/-- A history that is long enough is split on different days. -/
theorem HistoryWindow.split_of_long {timeframe : String}
    (h : minCandlesForOptimization ≤ full.approxCandles timeframe) :
    full.start < full.optEnd ∧ full.optEnd < full.stop ∧
      dateOf full.start ≠ dateOf full.optEnd := by
  have hdays : 92 ≤ full.totalDays := by
    simp only [minCandlesForOptimization, HistoryWindow.approxCandles] at h
    split at h <;> omega
  have hopt : full.totalDays * 35 / 100 = full.optDays := rfl
  have htotal : full.totalDays * dayLength ≤ full.stop - full.start :=
    Int.ediv_mul_le _ (by decide)
  have hdate : dateOf full.optEnd = dateOf full.start + full.optDays :=
    Int.add_mul_ediv_right _ _ (by decide)
  have hend : full.optEnd = full.start + full.optDays * dayLength := rfl
  simp only [dayLength, microseconds] at htotal hend
  exact ⟨by omega, by omega, by omega⟩

theorem length_paramGrid {name : String} {space : SearchSpace}
    (h : parameterSearchSpace name = some space) : (paramGrid space).length = 9 := by
  unfold parameterSearchSpace at h
  split at h <;> cases h <;> rfl

/-- The bars of the search are those of the series of its window. -/
theorem exists_mem_searched_iff {e : LoadEnv} {r : StrategyValidation}
    (h : validateStrategy setup envs e full cache = some (.ok r)) (hchosen : r.parameters.isSome) :
    ((∃ bars ∈ r.searched, t ∈ bars.map HistoryBar.timestamp) ↔
      ∃ bars ∈ windowBars setup.market full.optimization cache (searchEnvs setup envs),
        t ∈ bars.map HistoryBar.timestamp) ∧
    windowBars setup.market full.validation cache [e] = some r.validated := by
  obtain ⟨space, s, hspace, hlong, hloop, hsearched, hvalidated⟩ :=
    validateStrategy_cases h hchosen
  obtain ⟨htimes, hkeys⟩ := searchLoop_spec hloop
  have henvs : searchEnvs setup envs = (List.range' 0 (paramGrid space).length).map envs := by
    rw [searchEnvs, hspace, ← List.range_eq_range']
  have hne : (List.range' 0 (paramGrid space).length).map envs ≠ [] := by
    rw [length_paramGrid hspace]
    exact List.cons_ne_nil _ _
  have hkey : cacheKey setup.market full.validation ≠ cacheKey setup.market full.optimization :=
    fun hkey => (HistoryWindow.split_of_long hlong).2.2 (congrArg HistoryKey.startDate hkey).symm
  constructor
  · rw [hsearched, htimes, henvs]
    simp [hne]
  · rw [windowBars, hkeys _ hkey] at hvalidated
    exact hvalidated

theorem forall_mem_searchEnvs {p : LoadEnv → Prop} (h : ∀ n, p (envs n)) :
    ∀ e ∈ searchEnvs setup envs, p e := by
  intro e he
  rw [searchEnvs] at he
  cases hspace : parameterSearchSpace setup.strategyName with
  | none =>
      rw [hspace] at he
      cases he
  | some space =>
      rw [hspace] at he
      obtain ⟨n, -, rfl⟩ := List.mem_map.1 he
      exact h n

/-- Bars of both sources are at one of the common instants. -/
theorem mem_commonInstants {e : LoadEnv} {s v : HistorySource} {searched : List LoadEnv}
    (hs : windowSource setup.market full.optimization cache searched = some s)
    (hv : windowSource setup.market full.validation cache [e] = some v)
    (hsearch : s.Offers full.optimization t) (hvalidation : v.Offers full.validation t) :
    t ∈ commonInstants full s v := by
  rcases isRemembered_or_mem_window hs hsearch with hremembered | hbefore
  · exact .inl hremembered
  · rcases isRemembered_or_mem_window hv hvalidation with hremembered | hafter
    · exact .inr (.inl hremembered)
    · exact .inr (.inr ⟨hafter.1, hbefore.2⟩)

/-- A validation of chosen parameters whose sources share no bar has none of the search. -/
theorem disjoint_of_sharesNoBar {e : LoadEnv} {r : StrategyValidation}
    {has : HistorySource → HistoryWindow → ℤ → Prop}
    (h : validateStrategy setup envs e full cache = some (.ok r)) (hchosen : r.parameters.isSome)
    (hoffers : ∀ s w t, has s w t → s.Offers w t)
    (hsearch : ∀ s bars t,
      windowSource setup.market full.optimization cache (searchEnvs setup envs) = some s →
      windowBars setup.market full.optimization cache (searchEnvs setup envs) = some bars →
      t ∈ bars.map HistoryBar.timestamp → has s full.optimization t)
    (hvalidation : ∀ v bars t, windowSource setup.market full.validation cache [e] = some v →
      windowBars setup.market full.validation cache [e] = some bars →
      t ∈ bars.map HistoryBar.timestamp → has v full.validation t)
    (hnone : SharesNoBar has setup envs e full cache) : r.Disjoint := by
  intro searched hsearched x hx y hy hxy
  obtain ⟨hiff, hvalidated⟩ := exists_mem_searched_iff (t := x.timestamp) h hchosen
  obtain ⟨bars, hbars, hmem⟩ := hiff.1 ⟨searched, hsearched, List.mem_map_of_mem hx⟩
  obtain ⟨s, hs⟩ := exists_windowSource hbars
  obtain ⟨v, hv⟩ := exists_windowSource hvalidated
  have hmem' : x.timestamp ∈ r.validated.map HistoryBar.timestamp := by
    rw [hxy]
    exact List.mem_map_of_mem hy
  have hhas := hsearch s bars x.timestamp hs hbars hmem
  have hhas' := hvalidation v r.validated x.timestamp hv hvalidated hmem'
  exact hnone s hs v hv x.timestamp
    (mem_commonInstants hs hv (hoffers _ _ _ hhas) (hoffers _ _ _ hhas')) ⟨hhas, hhas'⟩

/-- Sources that share a bar give it to the search and to the validation. -/
theorem sharesNoBar_of_disjoint {e : LoadEnv} {r : StrategyValidation}
    (henvs : ∀ n, (envs n).ServesHistory) (he : e.ServesHistory)
    (hapart : ∀ n, (envs n).BarsApart setup.market.timeframe)
    (hapart' : e.BarsApart setup.market.timeframe)
    (h : validateStrategy setup envs e full cache = some (.ok r)) (hchosen : r.parameters.isSome)
    (hdisjoint : r.Disjoint) :
    SharesNoBar (fun s => s.Has setup.market.timeframe) setup envs e full cache := by
  intro s hs v hv t _ ⟨hsearch, hvalidation⟩
  obtain ⟨space, _, -, hlong, -⟩ := validateStrategy_cases h hchosen
  obtain ⟨hiff, hvalidated⟩ := exists_mem_searched_iff (t := t) h hchosen
  obtain ⟨hlt, hlt', -⟩ := HistoryWindow.split_of_long hlong
  obtain ⟨bars, hbars⟩ := exists_windowBars hs
  have hmem := (mem_times_windowBars_iff (forall_mem_searchEnvs henvs)
    (forall_mem_searchEnvs hapart) hlt hs hbars).2 hsearch
  have hmem' := (mem_times_windowBars_iff (List.forall_mem_singleton.2 he)
    (List.forall_mem_singleton.2 hapart') hlt' hv hvalidated).2 hvalidation
  obtain ⟨searched, hsearched, htime⟩ := hiff.2 ⟨bars, hbars, hmem⟩
  obtain ⟨x, hx, rfl⟩ := List.mem_map.1 htime
  obtain ⟨y, hy, hxy⟩ := List.mem_map.1 hmem'
  exact hdisjoint searched hsearched x hx y hy hxy.symm

end Search

/-! ### An hourly market -/

section Hourly

theorem hourlyLow_le_high : (100 : ℚ) ≤ 100 := le_rfl

/-- The candle of an hour, at a price that does not change. -/
def hourlyRow (k : ℕ) : OhlcvRow where
  openPrice := 100
  high := 100
  low := 100
  closePrice := 100
  volume := 1
  highGteLow := hourlyLow_le_high
  milliseconds := k * 3600000

/-- An exchange with the candles of some hours, and a table without rows. -/
def hourlyEnv (hours : ℕ) : LoadEnv where
  stored := .ok []
  markets := .ok ["BTC/USDT"]
  history _ := (List.range hours).map hourlyRow
  fetchOhlcv _ since limit :=
    .ok ((((List.range hours).map hourlyRow).filter fun r => since ≤ r.milliseconds).take limit)

/-- A strategy of which every back-test has 30 trades. -/
def hourlySetup : ValidationSetup where
  market := ⟨"BTC/USDT", "1h", .binance⟩
  strategyName := "mean_reversion_v1"
  hasParams := true
  backtest _ _ _ := .ok ⟨30, 1, 5, 3⟩

/-- A span of 92 days; the search gets the first 32 of them. -/
def span (start : ℤ) : HistoryWindow := ⟨start, start + 92 * dayLength⟩

variable {hours : ℕ} {t : ℤ} {w : HistoryWindow}

theorem servesHistory_hourlyEnv (hours : ℕ) : (hourlyEnv hours).ServesHistory where
  ascends _ := List.pairwise_map.2 (List.pairwise_lt_range.imp fun h => by
    simp only [hourlyRow]
    omega)
  answers _ _ _ _ h := (Except.ok.inj h).symm

theorem barsApart_hourlyEnv (hours : ℕ) :
    (hourlyEnv hours).BarsApart hourlySetup.market.timeframe := by
  intro _
  refine List.pairwise_map.2 (List.pairwise_map.2 (List.pairwise_lt_range.imp fun h => ?_))
  simp only [hourlyRow, OhlcvRow.bar, hourlySetup, barLength, timeframeToSeconds, microseconds]
  omega

theorem source_hourlyEnv (hours : ℕ) (w : HistoryWindow) :
    (hourlyEnv hours).source hourlySetup.market w =
      .exchange (((List.range hours).map hourlyRow).map OhlcvRow.bar) := by
  rfl

/-- The exchange offers the whole hours of a window, up to the last one it has. -/
theorem offers_hourlyEnv_iff :
    ((hourlyEnv hours).source hourlySetup.market w).Offers w t ↔
      (∃ k < hours, t = (k : ℕ) * 3600000000) ∧ wholeMillisecond w.start ≤ t ∧ t ≤ w.stop := by
  rw [source_hourlyEnv]
  refine and_congr ?_ Iff.rfl
  simp only [HistorySource.bars, List.map_map, List.mem_map, List.mem_range, Function.comp_apply,
    OhlcvRow.bar, hourlyRow]
  refine exists_congr fun k => and_congr_right fun _ => ?_
  omega

/-- Every window of the market has a series. -/
theorem exists_load_hourlyEnv (hours : ℕ) (w : HistoryWindow) :
    ∃ bars, (hourlyEnv hours).load hourlySetup.market w = some (.ok bars) :=
  LoadEnv.exists_load_eq (servesHistory_hourlyEnv hours) rfl rfl fun _ _ _ => ⟨_, rfl⟩

/-- A back-test over a series that is not empty, and that is remembered from then on. -/
theorem runFullValidation_of_load {setup : ValidationSetup} {e : LoadEnv} {bt : BacktestReport}
    {bars : List HistoryBar} {cache : HistoryCache} (parameters : Option Overrides)
    (hload : e.load setup.market w = some (.ok bars)) (hne : bars ≠ [])
    (hbt : setup.backtest parameters w bars = .ok bt)
    (hcache : cache.get? (cacheKey setup.market w) = none ∨
      cache.get? (cacheKey setup.market w) = some bars) :
    ∃ v, runFullValidation setup e parameters w cache = some v ∧ v.report = .ok bt ∧
      v.cache.get? (cacheKey setup.market w) = some bars := by
  rcases hcache with hcache | hcache
  · refine ⟨⟨.ok bt, bars, cache.set (cacheKey setup.market w) bars⟩, ?_, rfl,
      Dict.get?_set_self _ _ _⟩
    simp [runFullValidation, loadPublicHistory, hcache, hload, hne, hbt]
  · refine ⟨⟨.ok bt, bars, cache⟩, ?_, rfl, hcache⟩
    simp [runFullValidation, loadPublicHistory, hcache, hne, hbt]

/-- A search over such a series has the back-tests of all candidates. -/
theorem searchLoop_of_load {setup : ValidationSetup} {e : LoadEnv} {bt : BacktestReport}
    {bars : List HistoryBar} (combos : List Overrides) (n : ℕ) (s : SearchState)
    (hload : e.load setup.market w = some (.ok bars)) (hne : bars ≠ [])
    (hbt : ∀ parameters, setup.backtest parameters w bars = .ok bt)
    (hcache : s.cache.get? (cacheKey setup.market w) = none ∨
      s.cache.get? (cacheKey setup.market w) = some bars) :
    ∃ s', searchLoop setup (fun _ => e) w n combos s = some s' ∧
      s'.candidates = s.candidates ++
        combos.map fun overrides => candidateOf overrides (.ok bt) := by
  induction combos generalizing n s with
  | nil => exact ⟨s, rfl, (List.append_nil _).symm⟩
  | cons overrides combos ih =>
      obtain ⟨v, hv, hreport, hkeep⟩ :=
        runFullValidation_of_load (some overrides) hload hne (hbt _) hcache
      obtain ⟨s', hs', hcandidates⟩ := ih (n + 1)
        ⟨s.candidates ++ [candidateOf overrides v.report], s.searched ++ [v.loaded], v.cache⟩
        (.inr hkeep)
      refine ⟨s', by rw [searchLoop, hv, Option.bind_some, hs'], ?_⟩
      rw [hcandidates, hreport, List.append_assoc, List.map_cons, List.singleton_append]

/-- The parameters that a search has chosen are validated on the rest of the history. -/
theorem validateStrategy_of_chosen {setup : ValidationSetup} {envs : ℕ → LoadEnv} {e : LoadEnv}
    {full : HistoryWindow} {cache : HistoryCache} {result : OptimizationResult} {s : SearchState}
    {v : FullValidation} {report : BacktestReport} (hparams : setup.hasParams = true)
    (hsearch : optimizeStrategyParameters setup envs full cache = some (result, s))
    (hperformed : result.performed = true) (hbest : result.bestOverrides.isEmpty = false)
    (hwindow : result.validationWindow = some full.validation)
    (hv : runFullValidation setup e (some result.bestOverrides) full.validation s.cache = some v)
    (hreport : v.report = .ok report) :
    validateStrategy setup envs e full cache = some (.ok ⟨result, s.searched,
      some result.bestOverrides, full.validation, v.loaded, report⟩) := by
  simp only [validateStrategy, hparams, if_true, hsearch, Option.bind_some, hperformed, hbest,
    Bool.not_false, Bool.and_self, hwindow, Option.getD_some, hv, Option.map_some, hreport]
  rfl

/-- A back-test of the hourly market returns a report. -/
theorem exists_report_hourly (hours : ℕ) (w : HistoryWindow) (parameters : Option Overrides)
    (cache : HistoryCache) :
    ∃ v report, runFullValidation hourlySetup (hourlyEnv hours) parameters w cache = some v ∧
      v.report = .ok report := by
  obtain ⟨bars, hload⟩ := exists_load_hourlyEnv hours w
  have hreport : ∀ bars : List HistoryBar, ∃ report, (if bars.isEmpty then .ok emptyReport
      else hourlySetup.backtest parameters w bars : Except String BacktestReport) = .ok report :=
    fun bars => by
      split
      next => exact ⟨_, rfl⟩
      next => exact ⟨_, rfl⟩
  rw [runFullValidation, loadPublicHistory]
  cases hcache : cache.get? (cacheKey hourlySetup.market w) with
  | some bars =>
      obtain ⟨report, hreport⟩ := hreport bars
      exact ⟨_, report, rfl, hreport⟩
  | none =>
      obtain ⟨report, hreport⟩ := hreport bars
      exact ⟨_, report, congrArg (Option.map _) (congrArg (Option.map _) hload), hreport⟩

theorem totalDays_span (start : ℤ) : (span start).totalDays = 92 := by
  rw [HistoryWindow.totalDays, span, add_sub_cancel_left]
  rfl

theorem optEnd_span (start : ℤ) : (span start).optEnd = start + 32 * dayLength := by
  rw [HistoryWindow.optEnd, HistoryWindow.optDays, totalDays_span]
  rfl

/-- The first candidate is chosen, and validated. -/
theorem exists_validateStrategy_hourly {start : ℤ} {bars : List HistoryBar}
    (hload : (hourlyEnv hours).load hourlySetup.market (span start).optimization =
      some (.ok bars)) (hne : bars ≠ []) :
    ∃ r, validateStrategy hourlySetup (fun _ => hourlyEnv hours) (hourlyEnv hours) (span start)
      .empty = some (.ok r) ∧ r.parameters.isSome := by
  obtain ⟨space, hspace⟩ : ∃ space, parameterSearchSpace hourlySetup.strategyName = some space :=
    ⟨_, rfl⟩
  have hlong : ¬ (span start).approxCandles hourlySetup.market.timeframe <
      minCandlesForOptimization := by
    rw [HistoryWindow.approxCandles, totalDays_span]
    decide
  obtain ⟨s, hs, hcandidates⟩ := searchLoop_of_load (paramGrid space) 0
    ⟨[], [], .empty⟩ hload hne (fun _ => rfl) (.inl rfl)
  have hsearch : optimizeStrategyParameters hourlySetup (fun _ => hourlyEnv hours) (span start)
      .empty = some (searchResult hourlySetup (span start) s.candidates, s) := by
    rw [optimizeStrategyParameters, hspace]
    simp only [hlong, if_false, hs, Option.map_some]
  have hbest : (searchResult hourlySetup (span start) s.candidates).bestOverrides.isEmpty =
      false := by
    cases hspace
    rw [hcandidates]
    rfl
  obtain ⟨v, report, hv, hreport⟩ := exists_report_hourly hours (span start).validation
    (some (searchResult hourlySetup (span start) s.candidates).bestOverrides) s.cache
  exact ⟨_, validateStrategy_of_chosen rfl hsearch rfl hbest rfl hv hreport, rfl⟩

/-- Neither window of the market is remembered at the start. -/
theorem windowSource_hourly {envs : List LoadEnv} :
    windowSource hourlySetup.market w .empty (hourlyEnv hours :: envs) =
      some ((hourlyEnv hours).source hourlySetup.market w) := by
  obtain ⟨bars, hload⟩ := exists_load_hourlyEnv hours w
  simp [windowSource, LoadEnv.loaded, hload]

theorem windowSource_searchEnvs_hourly {w : HistoryWindow} :
    windowSource hourlySetup.market w .empty (searchEnvs hourlySetup fun _ => hourlyEnv hours) =
      some ((hourlyEnv hours).source hourlySetup.market w) :=
  windowSource_hourly

/-- The search in the hourly market has the hour after its start. -/
theorem ne_nil_of_load_hourly {start : ℤ} {bars : List HistoryBar} (hhours : 1 < hours)
    (hstart : 0 ≤ start) (hstart' : start ≤ 3600000000)
    (hload : (hourlyEnv hours).load hourlySetup.market (span start).optimization =
      some (.ok bars)) : bars ≠ [] := by
  have hend := optEnd_span start
  simp only [dayLength, microseconds] at hend
  have hlt : (span start).start < (span start).optEnd := by
    change start < (span start).optEnd
    omega
  have hmem : 3600000000 ∈ bars.map HistoryBar.timestamp := by
    refine (LoadEnv.mem_times_load_iff (servesHistory_hourlyEnv hours) (barsApart_hourlyEnv hours)
      hlt hload).2 ⟨offers_hourlyEnv_iff.2 ⟨⟨1, hhours, by simp⟩, ?_, ?_⟩, fun hmisses => ?_⟩
    · exact ((wholeMillisecond_lowersWithin "1h").le start).trans hstart'
    · change 3600000000 ≤ (span start).optEnd
      omega
    · rw [source_hourlyEnv] at hmisses
      have hstop : 3600000000 = (span start).optEnd := hmisses.1
      omega
  rintro rfl
  cases hmem

/-- The chosen parameters of the hourly market are validated. -/
theorem exists_validated_hourly (hours : ℕ) (start : ℤ) (hhours : 1 < hours) (hstart : 0 ≤ start)
    (hstart' : start ≤ 3600000000) :
    ∃ r, validateStrategy hourlySetup (fun _ => hourlyEnv hours) (hourlyEnv hours) (span start)
      .empty = some (.ok r) ∧ r.parameters.isSome := by
  obtain ⟨bars, hload⟩ := exists_load_hourlyEnv hours (span start).optimization
  exact exists_validateStrategy_hourly hload (ne_nil_of_load_hourly hhours hstart hstart' hload)

/-- The search from the start of the history has the 768 candles before its last one. -/
theorem length_rowsBefore_hourly : (rowsBefore HistoryBar.timestamp wholeMillisecond
    (span 0).optimization.stop (span 0).optimization.start
    (((List.range 2256).map hourlyRow).map OhlcvRow.bar)).length = 768 := by
  decide +kernel

end Hourly

end Sgr
