import Sgr.Strategy.SignalEngine
import Sgr.Strategy.Startup

/-!
# Which signals are published

What `StrategyEngine.process` publishes does not hang on the order in which the strategies were
imported. Between the strategies of the source there is never a conflict to resolve, so the
simulator of the back-tests, which resolves conflicts in its own way, chooses the same signal.
-/

open Collection

namespace Sgr

/-- A signal opens a position. -/
def Signal.Opens (s : Signal) : Prop := s.direction = .long ∨ s.direction = .short

section Published

variable (cfg : SignalConfig) (generate : String → MarketContext → Option Signal)
  (r : StrategyRegistry) (gate : SymbolStrategyGate) (answer : Option (List ValidationRow))
  (now : Timestamp) (features : FeatureSet) (regime : MarketRegime)

/-- A strategy that is asked gives a signal that is confident enough. -/
structure Gives (gate : SymbolStrategyGate) (context : MarketContext) (name : String)
    (raw : Signal) : Prop where
  asked : Asked cfg r gate context name
  signal : generate name context = some raw
  confident : 5 / 10 ≤ raw.confidence

variable {cfg generate r} in
theorem mem_collected_iff {gate : SymbolStrategyGate} {context : MarketContext} {raw : Signal} :
    raw ∈ collected cfg generate r gate context ↔
      ∃ name, Gives cfg generate r gate context name raw := by
  rw [mem_collected]
  exact exists_congr fun name => ⟨fun h => ⟨h.1, h.2.1, h.2.2⟩, fun h => ⟨h.1, h.2, h.3⟩⟩

/-- A published signal is that of a strategy that is asked, with at least its confidence, and no
strategy that is asked wants the opposite. Another order of the registrations gives a signal of
the same direction and confidence, and asking further strategies does not turn its direction. -/
theorem published_signal {s : Signal}
    (h : (process cfg generate r gate answer now (some features) regime).2 = some s) :
    let context := features.context (cycleRegime features regime)
    let gate' := gate.refreshIfStale answer now
    (∃ name raw, Gives cfg generate r gate' context name raw ∧ s.Boosts raw) ∧
      (∀ name raw, Gives cfg generate r gate' context name raw → raw.Opens →
        raw.direction = s.direction) ∧
      (∀ r' : StrategyRegistry, r.entries.Perm r'.entries →
        ∃ s', (process cfg generate r' gate answer now (some features) regime).2 = some s' ∧
          s'.direction = s.direction ∧ s'.confidence = s.confidence) ∧
      ∀ r' : StrategyRegistry, s.Opens →
        (∀ name, Asked cfg r gate' context name → Asked cfg r' gate' context name) →
          ∀ s', (process cfg generate r' gate answer now (some features) regime).2 = some s' →
            s'.direction = s.direction := by
  simp only [process_snd] at h ⊢
  obtain ⟨⟨raw, hraw, hboosts⟩, hall⟩ := aggregate_eq_some h
  obtain ⟨name, hgives⟩ := mem_collected_iff.1 hraw
  refine ⟨⟨name, raw, hgives, hboosts⟩, ?_, ?_, ?_⟩
  · intro name raw hgives hopens
    exact hall raw (mem_collected_iff.2 ⟨name, hgives⟩) hopens
  · exact fun r' hperm => aggregate_perm_eq_some (collected_perm hperm) h
  · intro r' hopens hasked s' hs'
    refine aggregate_of_subset (fun raw hraw => ?_) h hs' hopens
    obtain ⟨name, hgives⟩ := mem_collected_iff.1 hraw
    exact mem_collected_iff.2 ⟨name, hasked name hgives.asked, hgives.signal, hgives.confident⟩

end Published

/-! ### The strategies of the source -/

/-- Parameters for the strategies of the source. -/
structure SourceParams where
  breakout : BreakoutParams := {}
  meanReversion : MeanReversionParams := {}
  momentum : MomentumParams := {}
  trendFollowing : TrendFollowingParams := {}
  volatilityAdjustedMomentum : VolAdjustedMomentumParams := {}

namespace SourceParams

variable (params : SourceParams)

/-- The strategies that the imports of `lifespan` register. -/
def strategies : List (String × StrategyClass) :=
  [("breakout_v1", .breakout params.breakout), ("futures_grid_long_v1", .futuresGrid),
    ("futures_grid_short_v1", .futuresGrid), ("futures_grid_adaptive_v1", .futuresGrid),
    ("mean_reversion_v1", .meanReversion params.meanReversion),
    ("momentum_v1", .momentum params.momentum),
    ("trend_following_v1", .trendFollowing params.trendFollowing),
    ("volatility_adjusted_momentum_v1",
      .volatilityAdjustedMomentum params.volatilityAdjustedMomentum)]

/-- The class of a name. -/
def classOf (name : String) : Option StrategyClass :=
  (params.strategies.find? fun c => c.1 == name).map Prod.snd

/-- `generate_signal` by name; `ids` are the ids that the signals draw. -/
def generate (ids : String → UUID) (name : String) (context : MarketContext) : Option Signal :=
  (params.classOf name).bind fun c => c.generateSignal name (ids name) context

end SourceParams

section Source

variable {params : SourceParams} {ids : String → UUID} {name name' : String}
  {context : MarketContext} {s t : Signal}

theorem generate_eq_some (h : params.generate ids name context = some s) :
    ∃ c, (name, c) ∈ params.strategies ∧ c.Signals name context s := by
  obtain ⟨c, hc, hsignal⟩ := Option.bind_eq_some_iff.1 h
  obtain ⟨⟨n, c'⟩, hfound, rfl⟩ := Option.map_eq_some_iff.1 hc
  obtain rfl : n = name := by simpa using List.find?_some hfound
  exact ⟨c', List.mem_of_find?_eq_some hfound, signals_of_generateSignal hsignal⟩

/-- Strategies that give signals support no quiet market, no crisis and no unknown regime. -/
theorem StrategyClass.Signals.not_mem_unsupported {c : StrategyClass}
    (h : c.Signals name context s) : context.regime ∉ [.lowVolatility, .crisis, .unknown] := by
  obtain ⟨q, hq, -⟩ := h.confident
  have hsupported := h.supported
  intro hregime
  cases c with
  | futuresGrid => cases hq
  | _ =>
      revert hsupported hregime
      generalize context.regime = regime
      cases regime <;> simp [StrategyClass.supportedRegimes]

/-- The strategy of a regime that is no trend. -/
def soleStrategy : MarketRegime → String
  | .ranging => "mean_reversion_v1"
  | .breakout => "breakout_v1"
  | _ => "volatility_adjusted_momentum_v1"

/-- The strategies that give signals outside of the trends have the regime to themselves. -/
theorem eq_soleStrategy {c : StrategyClass} {q : ℚ} {regime : MarketRegime}
    (hmem : (name, c) ∈ params.strategies) (hmin : c.minConfidence = some q)
    (hregime : regime ∈ c.supportedRegimes) (hup : regime ≠ .trendingUp)
    (hdown : regime ≠ .trendingDown) : name = soleStrategy regime := by
  have htrend : ¬ (regime = .trendingUp ∨ regime = .trendingDown) := not_or.2 ⟨hup, hdown⟩
  simp only [SourceParams.strategies, List.mem_cons, List.not_mem_nil, or_false,
    Prod.mk.injEq] at hmem
  rcases hmem with ⟨rfl, rfl⟩ | ⟨-, rfl⟩ | ⟨-, rfl⟩ | ⟨-, rfl⟩ | ⟨rfl, rfl⟩ | ⟨-, rfl⟩ |
    ⟨-, rfl⟩ | ⟨rfl, rfl⟩
  · rw [List.mem_singleton.1 hregime]
    rfl
  · cases hmin
  · cases hmin
  · cases hmin
  · rw [List.mem_singleton.1 hregime]
    rfl
  · exact absurd (by simpa [StrategyClass.supportedRegimes] using hregime) htrend
  · exact absurd (by simpa [StrategyClass.supportedRegimes] using hregime) htrend
  · rw [List.mem_singleton.1 hregime]
    rfl

/-- Outside of the trends one strategy of the source gives signals. -/
theorem name_eq_of_generate (h : params.generate ids name context = some s)
    (h' : params.generate ids name' context = some t) (hup : context.regime ≠ .trendingUp)
    (hdown : context.regime ≠ .trendingDown) : name = name' := by
  obtain ⟨c, hmem, hc⟩ := generate_eq_some h
  obtain ⟨c', hmem', hc'⟩ := generate_eq_some h'
  obtain ⟨q, hq, -⟩ := hc.confident
  obtain ⟨q', hq', -⟩ := hc'.confident
  rw [eq_soleStrategy hmem hq hc.supported hup hdown,
    eq_soleStrategy hmem' hq' hc'.supported hup hdown]

/-- Signals of the source in one context have one direction. -/
theorem direction_eq_of_generate (h : params.generate ids name context = some s)
    (h' : params.generate ids name' context = some t) : s.direction = t.direction := by
  obtain ⟨c, -, hc⟩ := generate_eq_some h
  obtain ⟨c', -, hc'⟩ := generate_eq_some h'
  by_cases hup : context.regime = .trendingUp
  · rw [hc.up hup, hc'.up hup]
  by_cases hdown : context.regime = .trendingDown
  · rw [hc.down hdown, hc'.down hdown]
  · obtain rfl := name_eq_of_generate h h' hup hdown
    rw [h, Option.some_inj] at h'
    rw [h']

/-- The collected signals of the source are all long or all short. -/
theorem collected_opens {cfg : SignalConfig} {r : StrategyRegistry} {gate : SymbolStrategyGate}
    (hs : s ∈ collected cfg (params.generate ids) r gate context) : s.Opens := by
  obtain ⟨name, hgives⟩ := mem_collected_iff.1 hs
  obtain ⟨c, -, hc⟩ := generate_eq_some hgives.signal
  exact hc.opens

theorem direction_eq_of_collected {cfg : SignalConfig} {r : StrategyRegistry}
    {gate : SymbolStrategyGate} (hs : s ∈ collected cfg (params.generate ids) r gate context)
    (ht : t ∈ collected cfg (params.generate ids) r gate context) : s.direction = t.direction := by
  obtain ⟨name, hgives⟩ := mem_collected_iff.1 hs
  obtain ⟨name', hgives'⟩ := mem_collected_iff.1 ht
  exact direction_eq_of_generate hgives.signal hgives'.signal

/-- The strategies of the source never contradict each other, whatever their parameters are and
whichever of them are active: a signal is published whenever one of those that are asked gives
one. It is long in a rising trend and short in a falling one, and in the regimes that no strategy
supports there is none. -/
theorem process_sourceStrategies (params : SourceParams) (ids : String → UUID)
    (cfg : SignalConfig) (r : StrategyRegistry) (gate : SymbolStrategyGate)
    (answer : Option (List ValidationRow)) (now : Timestamp) (features : FeatureSet)
    (regime : MarketRegime) :
    let context := features.context (cycleRegime features regime)
    let published :=
      (process cfg (params.generate ids) r gate answer now (some features) regime).2
    (published.isSome ↔ ∃ name raw,
      Gives cfg (params.generate ids) r (gate.refreshIfStale answer now) context name raw) ∧
      ∀ s, published = some s → s.Opens ∧
        (context.regime = .trendingUp → s.direction = .long) ∧
        (context.regime = .trendingDown → s.direction = .short) ∧
        context.regime ∉ [.lowVolatility, .crisis, .unknown] := by
  simp only [process_snd]
  refine ⟨?_, fun s hs => ?_⟩
  · rw [← not_iff_not, Bool.not_eq_true, Option.isSome_eq_false_iff, Option.isNone_iff_eq_none,
      aggregate_eq_none_iff fun s hs => collected_opens hs]
    constructor
    · rintro (hnil | ⟨s, hs, t, ht, hlong, hshort⟩) ⟨name, raw, hgives⟩
      · have hmem := mem_collected_iff.2 ⟨name, hgives⟩
        rw [hnil] at hmem
        cases hmem
      · rw [direction_eq_of_collected hs ht, hshort] at hlong
        cases hlong
    · intro hnone
      refine .inl (List.eq_nil_iff_forall_not_mem.2 fun s hs => hnone ?_)
      obtain ⟨name, hgives⟩ := mem_collected_iff.1 hs
      exact ⟨name, s, hgives⟩
  · obtain ⟨⟨raw, hraw, hboosts⟩, -⟩ := aggregate_eq_some hs
    obtain ⟨name, hgives⟩ := mem_collected_iff.1 hraw
    obtain ⟨c, hmem, hc⟩ := generate_eq_some hgives.signal
    rw [Signal.Opens, hboosts.direction]
    exact ⟨hc.opens, hc.up, hc.down, hc.not_mem_unsupported⟩

/-- After a start of the worker a signal is published only for a strategy whose own validation
has passed at this start, or that the operator has overridden, in a regime that it supports. -/
theorem published_of_startup {env : StartupEnv} {r : StrategyRegistry}
    (hstart : startup env = some r) (cfg : SignalConfig) (gate : SymbolStrategyGate)
    (answer : Option (List ValidationRow)) (now : Timestamp) (features : FeatureSet)
    (regime : MarketRegime)
    (h : (process cfg (params.generate ids) r gate answer now (some features) regime).2 = some s) :
    ∃ isGrid regimes, env.classOf s.strategyName = some (isGrid, regimes) ∧
      cycleRegime features regime ∈ regimes ∧
        (s.strategyName ∈ env.overrides ∨
          (env.answered s.strategyName isGrid).canGoLive = true) := by
  rw [process_snd] at h
  obtain ⟨⟨raw, hraw, hboosts⟩, -⟩ := aggregate_eq_some h
  obtain ⟨name, hgives⟩ := mem_collected_iff.1 hraw
  obtain ⟨c, -, hc⟩ := generate_eq_some hgives.signal
  rw [hboosts.strategyName, hc.name]
  have hactive := hgives.asked.active
  obtain ⟨e, he, -⟩ := StrategyRegistry.isActive_eq_true_iff.1 hactive
  have hview : r.view name = some e.core := by
    rw [StrategyRegistry.view, he]
    rfl
  rw [view_of_startup hstart] at hview
  obtain ⟨⟨isGrid, regimes⟩, hclass, hentry⟩ := Option.map_eq_some_iff.1 hview
  rw [isActive_of_startup hstart, hclass, Option.any_some] at hactive
  refine ⟨isGrid, regimes, hclass, ?_, ?_⟩
  · have hregimes : e.supportedRegimes = regimes :=
      congrArg RegisteredStrategy.supportedRegimes hentry.symm
    exact hregimes ▸ hgives.asked.supported e he
  · by_cases hoverride : name ∈ env.overrides
    · exact .inl hoverride
    · rw [StartupEnv.verdict, if_neg hoverride] at hactive
      exact .inr hactive

/-! ### The simulator -/

/-- The active strategies of a registry as the simulator asks them. -/
def simulated (params : SourceParams) (ids : String → UUID) (r : StrategyRegistry) :
    List (BacktestStrategy Unit) :=
  (r.entries.filter fun e => e.2.isActive).map fun e =>
    { supportedRegimes := e.2.supportedRegimes
      generateSignal := fun m context => (m, params.generate ids e.1 context) }

/-- What the simulator collects in a context: the signals of the strategies that are active and
support the regime, with its own bound for the confidence. -/
theorem collectSignals_simulated (ids : String → UUID) (es : List (String × RegisteredStrategy)) :
    (collectSignals context context.regime (es.map fun e =>
      ({ supportedRegimes := e.2.supportedRegimes
         generateSignal := fun m context => (m, params.generate ids e.1 context) } :
        BacktestStrategy Unit)) ()).2 =
      (es.filter fun e => decide (context.regime ∈ e.2.supportedRegimes)).filterMap fun e =>
        (params.generate ids e.1 context).filter fun s => 55 / 100 ≤ s.confidence := by
  induction es with
  | nil => rfl
  | cons e es ih =>
      rw [List.map_cons, collectSignals]
      split
      next hregime =>
        rw [List.filter_cons_of_pos (by simpa using hregime), List.filterMap_cons]
        simp only [ih]
        cases (params.generate ids e.1 context).filter fun s => 55 / 100 ≤ s.confidence <;> rfl
      next hregime =>
        rw [List.filter_cons_of_neg (by simpa using hregime)]
        exact ih

/-- Without a conflict the simulator chooses the most confident signal, and so does the live
engine, which boosts it. -/
theorem aggregate_boosts_bestSignal {signals : List Signal} {direction : SignalDirection}
    (hopens : direction = .long ∨ direction = .short)
    (hall : ∀ s ∈ signals, s.direction = direction) :
    (aggregate signals).isSome = (bestSignal signals).isSome ∧
      ∀ s b, aggregate signals = some s → bestSignal signals = some b → s.Boosts b := by
  have hnot : ∀ d, d ≠ direction → inDirection d signals = [] := by
    intro d hd
    rw [List.eq_nil_iff_forall_not_mem]
    intro s hs
    obtain ⟨hmem, hdirection⟩ := mem_inDirection.1 hs
    exact hd (hdirection.symm.trans (hall s hmem))
  have hself : inDirection direction signals = signals :=
    List.filter_eq_self.2 fun s hs => decide_eq_true (hall s hs)
  have hcandidates : candidates signals = signals := by
    unfold candidates
    rcases hopens with rfl | rfl
    · rw [hself, hnot .short (by decide), hnot .close (by decide)]
      split
      next => rfl
      next hnil => rw [if_neg (by simp), not_not.1 hnil]
    · rw [hself, hnot .long (by decide), hnot .close (by decide), if_neg (by simp)]
      split
      next => rfl
      next hnil => rw [not_not.1 hnil]
  have hconflict : ¬ (inDirection .long signals ≠ [] ∧ inDirection .short signals ≠ []) := by
    rintro ⟨hlong, hshort⟩
    rcases hopens with rfl | rfl
    · exact hshort (hnot .short (by decide))
    · exact hlong (hnot .long (by decide))
  have hbest : bestSignal signals = signals.argmax Signal.confidence := by
    rw [bestSignal, if_neg]
    rintro ⟨hlong, hshort⟩
    obtain ⟨s, hs, hslong⟩ := List.any_eq_true.1 hlong
    obtain ⟨t, ht, htshort⟩ := List.any_eq_true.1 hshort
    exact hconflict ⟨inDirection_ne_nil_iff.2 ⟨s, hs, of_decide_eq_true hslong⟩,
      inDirection_ne_nil_iff.2 ⟨t, ht, of_decide_eq_true htshort⟩⟩
  rw [aggregate, if_neg hconflict, hcandidates, hbest, boostedBest]
  refine ⟨Option.isSome_map, fun s b hs hb => ?_⟩
  rw [hb, Option.map_some, Option.some_inj] at hs
  subst hs
  split
  · exact ⟨rfl, rfl, rfl, rfl, rfl, rfl, rfl, le_boostedConfidence b signals⟩
  · exact ⟨rfl, rfl, rfl, rfl, rfl, rfl, rfl, le_rfl⟩

/-- What the live engine collects when nothing but the registry holds strategies back. -/
theorem collected_eq {generate : String → MarketContext → Option Signal} {r : StrategyRegistry}
    {gate : SymbolStrategyGate}
    (hgate : ∀ name, gate.isAllowed context.symbol.ccxtSymbol name = true) :
    collected {} generate r gate context =
      ((r.entries.filter fun e => e.2.isActive).filter fun e =>
        decide (context.regime ∈ e.2.supportedRegimes)).filterMap fun e =>
          (generate e.1 context).filter fun s => 5 / 10 ≤ s.confidence := by
  have hallows : ∀ name, gateAllows {} gate context.symbol.ccxtSymbol name = true := by
    intro name
    rw [gateAllows, hgate, Bool.or_true]
  have hasked : askedNames {} r gate context = r.getActive (some context.regime) := by
    rw [askedNames, activeStrategies, List.filter_eq_self.2 fun name _ => hallows name]
    exact List.filter_eq_self.2 fun name _ => rfl
  rw [collected, hasked, StrategyRegistry.getActive, List.filterMap_map, List.filter_filter]
  congr 1
  exact List.filter_congr fun e _ => by rw [Option.all_some, Bool.and_comm]

end Source

/-! ### A rising trend -/

/-- A bar of a rising trend on which `trend_following_v1` gives a signal. -/
def risingFeatures : FeatureSet where
  symbol := btcUsdt
  timestamp := 0
  timeframe := "1h"
  close := 100
  volume := 1
  indicators :=
    { rsi14 := some 62, rsi7 := none, macdLine := none, macdSignal := none, macdHistogram := none
      adx14 := some 30, diPlus := some 25, diMinus := some 15, atr14 := some 2
      atrPct := some (2 / 100), bbUpper := none, bbMiddle := none, bbLower := none
      bbWidth := none, bbPosition := none, kcUpper := none, kcLower := none, ema9 := some 101
      ema21 := some 100, ema50 := none, ema200 := none, sma20 := none, vwap := none
      volumeSma20 := none, volumeRatio := some 1, obv := none }
  returns1 := none
  returns5 := none
  returns10 := none
  returns20 := none

/-- A registry in which only `trend_following_v1` is active. -/
def trendRegistry : StrategyRegistry :=
  (Dict.empty.set "breakout_v1" { supportedRegimes := [.breakout] }).set "trend_following_v1"
    { supportedRegimes := [.trendingUp, .trendingDown], isActive := true, isValidated := true }

theorem published_signal_rising : ∃ s,
    (process {} (({} : SourceParams).generate fun _ => 1) trendRegistry .init none 0
      (some risingFeatures) .unknown).2 = some s ∧
    ∃ name raw, Gives {} (({} : SourceParams).generate fun _ => 1) trendRegistry
      (SymbolStrategyGate.init.refreshIfStale none 0)
      (risingFeatures.context (cycleRegime risingFeatures .unknown)) name raw ∧ s.Boosts raw := by
  obtain ⟨s, hs⟩ := Option.isSome_iff_exists.1
    (show (process {} (({} : SourceParams).generate fun _ => 1) trendRegistry .init none 0
      (some risingFeatures) .unknown).2.isSome = true by decide +kernel)
  exact ⟨s, hs, (published_signal {} _ trendRegistry .init none 0 risingFeatures .unknown hs).1⟩

/-- A start at which `trend_following_v1` passes its back-test. -/
def trendStart : StartupEnv where
  classes := [("trend_following_v1", false, [.trendingUp, .trendingDown])]
  backtest _ _ := .ok ⟨true, some true⟩
  gridBacktest _ := .error "no history"
  overrides := []
  setValidated _ := true
  activeNames := none

theorem published_of_startup_trendStart : ∃ r s, startup trendStart = some r ∧
    (process {} (({} : SourceParams).generate fun _ => 1) r .init none 0
      (some risingFeatures) .unknown).2 = some s ∧
    ∃ isGrid, (trendStart.answered s.strategyName isGrid).canGoLive = true := by
  have hruns : ((startup trendStart).bind fun r => (process {} (({} : SourceParams).generate
      fun _ => 1) r .init none 0 (some risingFeatures) .unknown).2).isSome = true := by
    decide +kernel
  obtain ⟨s, hs⟩ := Option.isSome_iff_exists.1 hruns
  obtain ⟨r, hr, hs⟩ := Option.bind_eq_some_iff.1 hs
  obtain ⟨isGrid, regimes, -, -, hpassed⟩ :=
    published_of_startup hr {} .init none 0 risingFeatures .unknown hs
  exact ⟨r, s, hr, hs, isGrid, hpassed.resolve_left (by simp [trendStart])⟩

/-- The parameters of the source ask for the confidence of the simulator. -/
theorem minConfidence_sourceParams {name : String} {c : StrategyClass} {q : ℚ}
    (hmem : (name, c) ∈ ({} : SourceParams).strategies) (hq : c.minConfidence = some q) :
    55 / 100 ≤ q := by
  simp only [SourceParams.strategies, List.mem_cons, List.not_mem_nil, or_false,
    Prod.mk.injEq] at hmem
  rcases hmem with ⟨-, rfl⟩ | ⟨-, rfl⟩ | ⟨-, rfl⟩ | ⟨-, rfl⟩ | ⟨-, rfl⟩ | ⟨-, rfl⟩ |
    ⟨-, rfl⟩ | ⟨-, rfl⟩ <;> cases hq <;> exact le_rfl

end Sgr
