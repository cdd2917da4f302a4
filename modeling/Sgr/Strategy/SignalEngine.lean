import Sgr.Strategy.Registry
import Sgr.Strategy.Strategies
import Sgr.Strategy.SymbolGate

/-!
# The strategy engine

`classify_regime` of `sgr/strategy/regime_classifier.py`, and `StrategyEngine.process` and
`_aggregate` of `sgr/strategy/engine.py`: the active strategies of a regime are asked in the order
of their registration, and one signal comes out of theirs.
-/

open Collection

namespace Sgr

/-- `classify_regime`: the regime and how sure it is. -/
def classifyRegime (ind : IndicatorValues) : MarketRegime × ℚ :=
  match ind.adx14, ind.atrPct with
  | some adx, some atrPct =>
      if 5 / 100 < atrPct then (.highVolatility, min (5 / 10 + (atrPct - 5 / 100)) (9 / 10))
      else if (ind.bbWidth.any fun width => 45 / 1000 < width) ∧
          (ind.bbPosition.any fun b => b ≤ 5 / 100 ∨ 95 / 100 ≤ b) then
        (.breakout, 6 / 10)
      else
        let confidence := min (5 / 10 + (adx - 25) / 50) (9 / 10)
        if 25 < adx ∧ (ind.diPlus.any fun a => ind.diMinus.any (· < a)) then
          (.trendingUp, confidence)
        else if 25 < adx ∧ (ind.diMinus.any fun a => ind.diPlus.any (· < a)) then
          (.trendingDown, confidence)
        else if adx < 20 then
          if atrPct < 12 / 1000 then (.lowVolatility, 55 / 100) else (.ranging, 6 / 10)
        else (.unknown, 3 / 10)
  | _, _ => (.unknown, 0)

/-! ### Signals become one -/

/-- The mean confidence of signals. -/
def avgConfidence (signals : List Signal) : ℚ :=
  (signals.map Signal.confidence).sum / signals.length

theorem avgConfidence_nonneg (signals : List Signal) : 0 ≤ avgConfidence signals := by
  refine div_nonneg (List.sum_nonneg fun x hx => ?_) (Nat.cast_nonneg _)
  obtain ⟨s, -, rfl⟩ := List.mem_map.1 hx
  exact s.confidence_mem.1

/-- `boosted`. -/
def boostedConfidence (best : Signal) (candidates : List Signal) : ℚ :=
  min (best.confidence * (11 / 10) + avgConfidence candidates * (1 / 10)) 1

theorem le_boostedConfidence (best : Signal) (candidates : List Signal) :
    best.confidence ≤ boostedConfidence best candidates := by
  refine le_min ?_ best.confidence_mem.2
  linarith [best.confidence_mem.1, avgConfidence_nonneg candidates]

/-- The best signal where several candidates agree. -/
def Signal.boosted (best : Signal) (candidates : List Signal) : Signal :=
  { best with
    confidence := boostedConfidence best candidates
    confidence_mem :=
      ⟨best.confidence_mem.1.trans (le_boostedConfidence best candidates), min_le_right _ _⟩ }

/-- The signals in a direction. -/
def inDirection (direction : SignalDirection) (signals : List Signal) : List Signal :=
  signals.filter fun s => s.direction = direction

/-- `candidates`. -/
def candidates (signals : List Signal) : List Signal :=
  if inDirection .long signals ≠ [] then inDirection .long signals
  else if inDirection .short signals ≠ [] then inDirection .short signals
  else inDirection .close signals

/-- The best candidate, with the boost of the others. -/
def boostedBest (candidates : List Signal) : Option Signal :=
  (candidates.argmax Signal.confidence).map fun best =>
    if 1 < candidates.length then best.boosted candidates else best

/-- `_aggregate`. -/
def aggregate (signals : List Signal) : Option Signal :=
  if inDirection .long signals ≠ [] ∧ inDirection .short signals ≠ [] then none
  else boostedBest (candidates signals)

/-! ### The signal of a candle -/

/-- `paper_test_strategy_allowlist` and `paper_test_disable_symbol_gate`. -/
structure SignalConfig where
  strategyAllowlist : Option (List String) := none
  disableSymbolGate : Bool := false

/-- `_PAPER_TEST_SYMBOL_GATE_ALLOWLIST`. -/
def symbolGateAllowlist : List String :=
  ["BTC/USDT", "ETH/USDT", "SOL/USDT", "XRP/USDT", "BNB/USDT", "ADA/USDT", "AVAX/USDT",
    "DOT/USDT", "NEAR/USDT", "LINK/USDT", "FET/USDT", "RENDER/USDT", "INJ/USDT", "SUI/USDT",
    "APT/USDT", "TIA/USDT", "1000PEPE/USDT", "DOGE/USDT", "1000SHIB/USDT", "1000FLOKI/USDT",
    "WIF/USDT", "1000BONK/USDT", "XAU/USDT", "XAG/USDT"]

namespace SymbolStrategyGate

/-- `stale`. -/
def stale (g : SymbolStrategyGate) (now : Timestamp) : Bool :=
  g.lastRefreshedAt.all fun t => 15 * 60 < now - t

/-- `refresh_if_stale`, with what the query would answer. -/
def refreshIfStale (g : SymbolStrategyGate) (answer : Option (List ValidationRow))
    (now : Timestamp) : SymbolStrategyGate :=
  if g.stale now then g.refresh answer now else g

end SymbolStrategyGate

/-- The regime of a cycle: a caller that knows none leaves it to the classifier. -/
def cycleRegime (features : FeatureSet) (regime : MarketRegime) : MarketRegime :=
  if regime = .unknown then (classifyRegime features.indicators).1 else regime

/-- The context of the features in a regime. -/
def FeatureSet.context (features : FeatureSet) (regime : MarketRegime) : MarketContext where
  symbol := features.symbol
  timestamp := features.timestamp
  primary := { features with regime := regime }
  regime := regime

/-- The active strategies of a regime that the configuration lets through. -/
def activeStrategies (cfg : SignalConfig) (r : StrategyRegistry) (regime : MarketRegime) :
    List String :=
  (r.getActive (some regime)).filter fun name => cfg.strategyAllowlist.all (name ∈ ·)

/-- The gate of the symbols lets a strategy through. -/
def gateAllows (cfg : SignalConfig) (gate : SymbolStrategyGate) (symbol name : String) : Bool :=
  (cfg.disableSymbolGate && decide (symbol ∈ symbolGateAllowlist)) || gate.isAllowed symbol name

/-- The strategies that are asked in a context, in the order of their registration. -/
def askedNames (cfg : SignalConfig) (r : StrategyRegistry) (gate : SymbolStrategyGate)
    (context : MarketContext) : List String :=
  (activeStrategies cfg r context.regime).filter (gateAllows cfg gate context.symbol.ccxtSymbol)

/-- `signals`. -/
def collected (cfg : SignalConfig) (generate : String → MarketContext → Option Signal)
    (r : StrategyRegistry) (gate : SymbolStrategyGate) (context : MarketContext) : List Signal :=
  (askedNames cfg r gate context).filterMap fun name =>
    (generate name context).filter fun s => 5 / 10 ≤ s.confidence

/-- `process`: the gate after it, which is refreshed when there are strategies to ask, and the
signal that is published. -/
def process (cfg : SignalConfig) (generate : String → MarketContext → Option Signal)
    (r : StrategyRegistry) (gate : SymbolStrategyGate) (answer : Option (List ValidationRow))
    (now : Timestamp) (features : Option FeatureSet) (regime : MarketRegime) :
    SymbolStrategyGate × Option Signal :=
  match features with
  | none => (gate, none)
  | some features =>
      let context := features.context (cycleRegime features regime)
      if activeStrategies cfg r context.regime = [] then (gate, none)
      else
        let gate' := gate.refreshIfStale answer now
        (gate', aggregate (collected cfg generate r gate' context))

/-! ### The signal that comes out -/

section Aggregate

variable {signals signals' : List Signal} {s t best : Signal} {direction : SignalDirection}

theorem mem_inDirection : s ∈ inDirection direction signals ↔
    s ∈ signals ∧ s.direction = direction := by
  rw [inDirection, List.mem_filter, decide_eq_true_iff]

theorem inDirection_ne_nil_iff : inDirection direction signals ≠ [] ↔
    ∃ s ∈ signals, s.direction = direction := by
  constructor
  · intro h
    obtain ⟨s, hs⟩ := List.exists_mem_of_ne_nil _ h
    exact ⟨s, mem_inDirection.1 hs⟩
  · rintro ⟨s, hs⟩
    exact List.ne_nil_of_mem (mem_inDirection.2 hs)

/-- A signal as it is but for its confidence, which may have grown. -/
structure Signal.Boosts (best s : Signal) : Prop where
  id : best.id = s.id
  strategyName : best.strategyName = s.strategyName
  symbol : best.symbol = s.symbol
  direction : best.direction = s.direction
  regime : best.regime = s.regime
  metadata : best.metadata = s.metadata
  sizeHint : best.sizeHint = s.sizeHint
  le : s.confidence ≤ best.confidence

/-- What `boostedBest` returns is a candidate but for its confidence. -/
theorem boostedBest_eq_some {candidates : List Signal} (h : boostedBest candidates = some best) :
    ∃ s ∈ candidates, best.Boosts s := by
  obtain ⟨s, hs, rfl⟩ := Option.map_eq_some_iff.1 h
  refine ⟨s, List.argmax_mem hs, ?_⟩
  split
  · exact ⟨rfl, rfl, rfl, rfl, rfl, rfl, rfl, le_boostedConfidence s candidates⟩
  · exact ⟨rfl, rfl, rfl, rfl, rfl, rfl, rfl, le_rfl⟩

/-- The confidence that comes out does not depend on the order of the candidates. -/
theorem confidence_boostedBest_perm {candidates candidates' : List Signal}
    (h : candidates.Perm candidates') :
    (boostedBest candidates).map Signal.confidence =
      (boostedBest candidates').map Signal.confidence := by
  unfold boostedBest
  cases hbest : candidates.argmax Signal.confidence with
  | none =>
      obtain rfl := List.argmax_eq_none.1 hbest
      rw [← h.nil_eq]
      rfl
  | some best =>
      have hmem := List.argmax_mem hbest
      cases hbest' : candidates'.argmax Signal.confidence with
      | none =>
          rw [List.argmax_eq_none] at hbest'
          subst hbest'
          rw [h.eq_nil] at hmem
          cases hmem
      | some best' =>
          have hsame : best.confidence = best'.confidence := le_antisymm
            (List.le_of_mem_argmax (h.mem_iff.1 hmem) hbest')
            (List.le_of_mem_argmax (h.mem_iff.2 (List.argmax_mem hbest')) hbest)
          have havg : avgConfidence candidates = avgConfidence candidates' := by
            rw [avgConfidence, avgConfidence, h.length_eq, (h.map Signal.confidence).sum_eq]
          rw [Option.map_some, Option.map_some, Option.map_some, Option.map_some, h.length_eq]
          split
          · simp only [Signal.boosted, boostedConfidence, hsame, havg]
          · rw [hsame]

theorem candidates_perm (h : signals.Perm signals') :
    (candidates signals).Perm (candidates signals') := by
  have hfilter : ∀ direction, (inDirection direction signals).Perm
      (inDirection direction signals') := fun direction => h.filter _
  have hempty : ∀ direction, inDirection direction signals = [] ↔
      inDirection direction signals' = [] := by
    intro direction
    constructor
    · intro hnil
      exact (hnil ▸ hfilter direction).nil_eq.symm
    · intro hnil
      exact (hnil ▸ hfilter direction).eq_nil
  unfold candidates
  simp only [ne_eq, hempty]
  split
  · exact hfilter .long
  split
  · exact hfilter .short
  · exact hfilter .close

/-- All candidates have one direction. -/
theorem direction_of_mem_candidates (hs : s ∈ candidates signals) (ht : t ∈ candidates signals) :
    s.direction = t.direction := by
  unfold candidates at hs ht
  split at hs
  next hlong =>
    rw [if_pos hlong] at ht
    rw [(mem_inDirection.1 hs).2, (mem_inDirection.1 ht).2]
  next hlong =>
    rw [if_neg hlong] at ht
    split at hs
    next hshort =>
      rw [if_pos hshort] at ht
      rw [(mem_inDirection.1 hs).2, (mem_inDirection.1 ht).2]
    next hshort =>
      rw [if_neg hshort] at ht
      rw [(mem_inDirection.1 hs).2, (mem_inDirection.1 ht).2]

theorem mem_of_mem_candidates (hs : s ∈ candidates signals) : s ∈ signals := by
  unfold candidates at hs
  split at hs
  · exact (mem_inDirection.1 hs).1
  split at hs
  · exact (mem_inDirection.1 hs).1
  · exact (mem_inDirection.1 hs).1

/-- Without a conflict every signal that opens a position is a candidate, and when there is one
the others are not. -/
theorem mem_candidates_of_opens
    (hconflict : ¬ (inDirection .long signals ≠ [] ∧ inDirection .short signals ≠ []))
    (ht : t ∈ signals) (hopens : t.direction = .long ∨ t.direction = .short) :
    t ∈ candidates signals := by
  unfold candidates
  rcases hopens with hlong | hshort
  · rw [if_pos (inDirection_ne_nil_iff.2 ⟨t, ht, hlong⟩)]
    exact mem_inDirection.2 ⟨ht, hlong⟩
  · have hshorts : inDirection .short signals ≠ [] := inDirection_ne_nil_iff.2 ⟨t, ht, hshort⟩
    rw [if_neg fun hlongs => hconflict ⟨hlongs, hshorts⟩, if_pos hshorts]
    exact mem_inDirection.2 ⟨ht, hshort⟩

/-- What `_aggregate` returns is one of the signals but for its confidence, and all signals that
open a position have its direction. -/
theorem aggregate_eq_some (h : aggregate signals = some best) :
    (∃ s ∈ signals, best.Boosts s) ∧
      ∀ t ∈ signals, t.direction = .long ∨ t.direction = .short →
        t.direction = best.direction := by
  unfold aggregate at h
  split at h
  · cases h
  next hconflict =>
    obtain ⟨s, hs, hboosts⟩ := boostedBest_eq_some h
    refine ⟨⟨s, mem_of_mem_candidates hs, hboosts⟩, fun t ht hopens => ?_⟩
    rw [hboosts.direction]
    exact direction_of_mem_candidates (mem_candidates_of_opens hconflict ht hopens) hs

/-- The direction and the confidence do not depend on the order of the signals. -/
theorem aggregate_perm (h : signals.Perm signals') :
    (aggregate signals).map (fun s => (s.direction, s.confidence)) =
      (aggregate signals').map fun s => (s.direction, s.confidence) := by
  have hempty : ∀ direction, inDirection direction signals ≠ [] ↔
      inDirection direction signals' ≠ [] := by
    intro direction
    rw [inDirection_ne_nil_iff, inDirection_ne_nil_iff]
    exact exists_congr fun s => by rw [h.mem_iff]
  have hcandidates := candidates_perm h
  have hconfidence := confidence_boostedBest_perm hcandidates
  unfold aggregate
  simp only [hempty]
  split
  · rfl
  · cases hbest : boostedBest (candidates signals) with
    | none =>
        rw [hbest] at hconfidence
        rw [Option.map_none, eq_comm, Option.map_eq_none_iff] at hconfidence
        rw [hconfidence]
    | some best =>
        rw [hbest, Option.map_some, eq_comm, Option.map_eq_some_iff] at hconfidence
        obtain ⟨best', hbest', hsame⟩ := hconfidence
        obtain ⟨s, hs, hboosts⟩ := boostedBest_eq_some hbest
        obtain ⟨s', hs', hboosts'⟩ := boostedBest_eq_some hbest'
        have hdirection : best.direction = best'.direction := by
          rw [hboosts.direction, hboosts'.direction]
          exact direction_of_mem_candidates hs (hcandidates.mem_iff.2 hs')
        rw [hbest', Option.map_some, Option.map_some, hdirection, hsame]

theorem aggregate_perm_eq_some (h : signals.Perm signals') (hs : aggregate signals = some s) :
    ∃ s', aggregate signals' = some s' ∧ s'.direction = s.direction ∧
      s'.confidence = s.confidence := by
  have hsame := aggregate_perm h
  rw [hs, Option.map_some, eq_comm, Option.map_eq_some_iff] at hsame
  obtain ⟨s', hs', heq⟩ := hsame
  rw [Prod.mk.injEq] at heq
  exact ⟨s', hs', heq.1, heq.2⟩

/-- Signals that come in addition do not turn the direction. -/
theorem aggregate_of_subset (hsub : ∀ s ∈ signals, s ∈ signals') {best' : Signal}
    (h : aggregate signals = some best) (h' : aggregate signals' = some best')
    (hopens : best.direction = .long ∨ best.direction = .short) :
    best'.direction = best.direction := by
  obtain ⟨⟨s, hs, hboosts⟩, -⟩ := aggregate_eq_some h
  obtain ⟨-, hall⟩ := aggregate_eq_some h'
  rw [hboosts.direction] at hopens ⊢
  rw [hall s (hsub s hs) hopens]

/-- No signal comes out of a conflict only, when all signals open a position. -/
theorem aggregate_eq_none_iff (hopens : ∀ s ∈ signals, s.direction = .long ∨ s.direction = .short) :
    aggregate signals = none ↔ signals = [] ∨
      ∃ s ∈ signals, ∃ t ∈ signals, s.direction = .long ∧ t.direction = .short := by
  unfold aggregate
  split
  next hconflict =>
    obtain ⟨⟨s, hs, hlong⟩, t, ht, hshort⟩ :=
      hconflict.imp inDirection_ne_nil_iff.1 inDirection_ne_nil_iff.1
    exact iff_of_true rfl (.inr ⟨s, hs, t, ht, hlong, hshort⟩)
  next hconflict =>
    rw [boostedBest, Option.map_eq_none_iff, List.argmax_eq_none]
    constructor
    · intro hnone
      refine .inl (List.eq_nil_iff_forall_not_mem.2 fun s hs => ?_)
      have hmem := mem_candidates_of_opens hconflict hs (hopens s hs)
      rw [hnone] at hmem
      cases hmem
    · rintro (rfl | ⟨s, hs, t, ht, hlong, hshort⟩)
      · rfl
      · exact absurd ⟨inDirection_ne_nil_iff.2 ⟨s, hs, hlong⟩,
          inDirection_ne_nil_iff.2 ⟨t, ht, hshort⟩⟩ hconflict

end Aggregate

/-! ### The signal of a candle -/

section Process

variable {cfg : SignalConfig} {generate : String → MarketContext → Option Signal}
  {r r' : StrategyRegistry} {gate gate' : SymbolStrategyGate}
  {answer : Option (List ValidationRow)} {now : Timestamp} {features : FeatureSet}
  {regime : MarketRegime} {context : MarketContext} {s : Signal}

theorem mem_getActive {regime : Option MarketRegime} {name : String} :
    name ∈ r.getActive regime ↔ ∃ e, r.get? name = some e ∧ e.isActive = true ∧
      ∀ m ∈ regime, m ∈ e.supportedRegimes := by
  rw [StrategyRegistry.getActive, List.mem_map]
  constructor
  · rintro ⟨⟨k, e⟩, he, rfl⟩
    obtain ⟨hmem, hactive⟩ := List.mem_filter.1 he
    rw [Bool.and_eq_true] at hactive
    refine ⟨e, (r.mem_entries_iff k e).1 hmem, hactive.1, ?_⟩
    rintro m rfl
    simpa using hactive.2
  · rintro ⟨e, hget, hactive, hregime⟩
    refine ⟨(name, e), List.mem_filter.2 ⟨(r.mem_entries_iff name e).2 hget, ?_⟩, rfl⟩
    rw [hactive, Bool.true_and]
    cases regime with
    | none => rfl
    | some m => exact decide_eq_true (hregime m rfl)

/-- A strategy that is asked in a context. -/
structure Asked (cfg : SignalConfig) (r : StrategyRegistry) (gate : SymbolStrategyGate)
    (context : MarketContext) (name : String) : Prop where
  active : r.isActive name = true
  supported : ∀ e, r.get? name = some e → context.regime ∈ e.supportedRegimes
  listed : ∀ names, cfg.strategyAllowlist = some names → name ∈ names
  allowed : gateAllows cfg gate context.symbol.ccxtSymbol name = true

theorem mem_askedNames {name : String} :
    name ∈ askedNames cfg r gate context ↔ Asked cfg r gate context name := by
  rw [askedNames, activeStrategies, List.mem_filter, List.mem_filter, mem_getActive]
  constructor
  · rintro ⟨⟨⟨e, hget, hactive, hregime⟩, hlisted⟩, hallowed⟩
    refine ⟨StrategyRegistry.isActive_eq_true_iff.2 ⟨e, hget, hactive⟩, ?_, ?_, hallowed⟩
    · intro e' he'
      rw [hget, Option.some_inj] at he'
      exact he' ▸ hregime context.regime rfl
    · intro names hnames
      simpa [hnames] using hlisted
  · intro h
    obtain ⟨e, hget, hactive⟩ := StrategyRegistry.isActive_eq_true_iff.1 h.active
    refine ⟨⟨⟨e, hget, hactive, ?_⟩, ?_⟩, h.allowed⟩
    · intro m hm
      rw [← Option.mem_some_iff.1 hm]
      exact h.supported e hget
    · cases hnames : cfg.strategyAllowlist with
      | none => rfl
      | some names => simpa using h.listed names hnames

theorem mem_collected : s ∈ collected cfg generate r gate context ↔
    ∃ name, Asked cfg r gate context name ∧ generate name context = some s ∧
      5 / 10 ≤ s.confidence := by
  rw [collected, List.mem_filterMap]
  refine exists_congr fun name => ?_
  rw [mem_askedNames]
  refine and_congr_right fun _ => ?_
  rw [Option.filter_eq_some_iff, decide_eq_true_iff]

/-- What is collected does not depend on the order of the registrations but for its own order. -/
theorem collected_perm (h : r.entries.Perm r'.entries) :
    (collected cfg generate r gate context).Perm (collected cfg generate r' gate context) :=
  ((((h.filter _).map _).filter _).filter _).filterMap _

/-- The signal of a candle is what the collected signals aggregate to. -/
theorem process_snd : (process cfg generate r gate answer now (some features) regime).2 =
    aggregate (collected cfg generate r (gate.refreshIfStale answer now)
      (features.context (cycleRegime features regime))) := by
  rw [process]
  split
  next hnone => rw [collected, askedNames, hnone]; rfl
  next => rfl

end Process

end Sgr
