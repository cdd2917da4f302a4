import Mathlib.Tactic.Linarith
import Mathlib.Tactic.Ring
import Sgr.Backtesting.Simulator

/-!
# The cash of a back-test

The net profit of a trade is the cash that its position has moved at the entry and at the
exit. After each bar the cash of the simulator is thus the initial capital, with the net
profit of the closed trades and the cash that the open position has moved so far.
-/

open Concurrency

namespace Sgr

/-- The sum of `net_pnl`. -/
def netPnlOf (trades : List BacktestTrade) : ℚ := (trades.map BacktestTrade.netPnl).sum

@[simp] theorem netPnlOf_nil : netPnlOf [] = 0 := rfl

theorem netPnlOf_append (xs ys : List BacktestTrade) :
    netPnlOf (xs ++ ys) = netPnlOf xs + netPnlOf ys := by
  rw [netPnlOf, List.map_append, List.sum_append]
  rfl

@[simp] theorem netPnlOf_singleton (t : BacktestTrade) : netPnlOf [t] = t.netPnl := by
  simp [netPnlOf]

namespace BacktestConfig

variable {μ : Type*} (cfg : BacktestConfig) {strategies : List (BacktestStrategy μ)}
  {s t : BacktestState μ} {pos : SimulatedPosition}

/-! ### What the parts of a bar do -/

/-- The cash that a position has moved when it was opened. -/
def openCash (pos : SimulatedPosition) : ℚ :=
  cfg.entryCash pos.side (pos.quantity * pos.entryPrice)

/-- The net profit of a trade is what its two orders have moved. -/
theorem netPnl_closedTrade (pos : SimulatedPosition) (exitPrice : ℚ) (exitTime : Timestamp)
    (barIndex : ℕ) (reason : String) :
    (cfg.closedTrade pos exitPrice exitTime barIndex reason).netPnl =
      cfg.openCash pos +
        cfg.exitCash pos.side (pos.quantity * cfg.slipped exitPrice (pos.side = .short)) := by
  cases hside : pos.side with
  | long =>
      simp only [closedTrade, openCash, entryCash, exitCash, hside, if_true]
      ring
  | short =>
      simp only [closedTrade, openCash, entryCash, exitCash, hside, reduceCtorEq, if_false]
      ring

/-- An opened position has the notional value it was opened for. -/
theorem openCash_openedPosition {signal : Signal} {entryBar : Candle} {barIndex : ℕ}
    {notional : ℚ}
    (hprice : (cfg.openedPosition signal entryBar barIndex notional).entryPrice ≠ 0) :
    cfg.openCash (cfg.openedPosition signal entryBar barIndex notional) =
      cfg.entryCash (sideOf signal) notional := by
  have hnotional : (cfg.openedPosition signal entryBar barIndex notional).quantity *
      (cfg.openedPosition signal entryBar barIndex notional).entryPrice = notional :=
    div_mul_cancel₀ notional hprice
  rw [openCash, hnotional]
  rfl

variable {cfg}

theorem openPosition_cases {signal : Signal} {entryBar : Candle} {barIndex : ℕ}
    (h : cfg.openPosition signal entryBar barIndex s = some t) :
    t = s ∨ ∃ pos, t = { s with cash := s.cash + cfg.openCash pos, position := some pos } := by
  simp only [openPosition] at h
  split at h
  · exact .inl (Option.some.inj h).symm
  split at h
  · cases h
  next hprice =>
    split at h
    · exact .inl (Option.some.inj h).symm
    split at h
    · exact .inl (Option.some.inj h).symm
    · refine .inr ⟨cfg.openedPosition signal entryBar barIndex
        (cfg.notionalOf signal (s.portfolioValue entryBar.openPrice) s.cash), ?_⟩
      rw [openCash_openedPosition cfg hprice]
      exact (Option.some.inj h).symm

theorem eq_of_closePosition {exitPrice : ℚ} {exitTime : Timestamp} {barIndex : ℕ}
    {reason : String} (h : cfg.closePosition pos exitPrice exitTime barIndex reason s = some t) :
    t =
      { s with
        cash := s.cash +
          cfg.exitCash pos.side (pos.quantity * cfg.slipped exitPrice (pos.side = .short))
        position := none
        closedTrades := s.closedTrades ++
          [cfg.closedTrade pos exitPrice exitTime barIndex reason] } := by
  rw [closePosition, Option.ite_none_left_eq_some] at h
  exact (Option.some.inj h.2).symm

theorem checkExits_cases {b : BarInput} {regime : MarketRegime}
    (h : cfg.checkExits b regime s = some t) :
    t = s ∨ ∃ pos reason, s.position = some pos ∧
      cfg.closePosition pos b.bar.closePrice b.bar.timestamp b.barIdx reason s = some t := by
  rw [checkExits] at h
  split at h
  · exact .inl (Option.some.inj h).symm
  next pos hpos =>
    split at h
    · exact .inl (Option.some.inj h).symm
    next reason _ => exact .inr ⟨pos, reason, hpos, h⟩

theorem checkEntry_cases {b : BarInput} {context : MarketContext}
    (h : cfg.checkEntry strategies b context s = some t) :
    t = s ∨ ∃ m, s.position = none ∧ (t = { s with memory := m } ∨ ∃ signal nextBar,
      cfg.openPosition signal nextBar b.barIdx { s with memory := m } = some t) := by
  simp only [checkEntry] at h
  split at h
  · exact .inl (Option.some.inj h).symm
  next hpos =>
    refine .inr ⟨(generateSignal strategies context context.regime s.memory).1, hpos, ?_⟩
    split at h
    · exact .inr ⟨_, _, h⟩
    · exact .inl (Option.some.inj h).symm

theorem records_closeAtEnd {candles : List Candle} (h : cfg.closeAtEnd candles s = some t) :
    t.equityCurve = s.equityCurve ∧ s.closedTrades <+: t.closedTrades := by
  rw [closeAtEnd] at h
  split at h
  · rw [eq_of_closePosition h]
    exact ⟨rfl, List.prefix_append _ _⟩
  · cases h
    exact ⟨rfl, List.prefix_rfl⟩

/-! ### The balance -/

variable (cfg) in
/-- The cash is the initial capital with what the closed trades have brought and the open
position has moved. -/
def Balanced (s : BacktestState μ) : Prop :=
  s.cash = cfg.initialCapital + netPnlOf s.closedTrades + (s.position.map cfg.openCash).getD 0

theorem balanced_backtestStart (m : μ) : cfg.Balanced (cfg.backtestStart m) := by
  simp [Balanced, backtestStart]

namespace Balanced

theorem updatePositions (h : cfg.Balanced s) (price : ℚ) :
    cfg.Balanced (s.updatePositions price) := by
  rw [Balanced, BacktestState.updatePositions, Option.map_map]
  exact h

theorem closePosition {exitPrice : ℚ} {exitTime : Timestamp} {barIndex : ℕ} {reason : String}
    (h : cfg.Balanced s) (hpos : s.position = some pos)
    (hclose : cfg.closePosition pos exitPrice exitTime barIndex reason s = some t) :
    cfg.Balanced t := by
  have hcash : s.cash = cfg.initialCapital + netPnlOf s.closedTrades + cfg.openCash pos := by
    simpa [Balanced, hpos] using h
  rw [eq_of_closePosition hclose, Balanced]
  simp only [Option.map_none, Option.getD_none, netPnlOf_append, netPnlOf_singleton,
    netPnl_closedTrade]
  linarith

theorem openPosition {signal : Signal} {entryBar : Candle} {barIndex : ℕ}
    (h : cfg.Balanced s) (hpos : s.position = none)
    (hopen : cfg.openPosition signal entryBar barIndex s = some t) : cfg.Balanced t := by
  rcases openPosition_cases hopen with rfl | ⟨pos, rfl⟩
  · exact h
  · have hcash : s.cash = cfg.initialCapital + netPnlOf s.closedTrades := by
      simpa [Balanced, hpos] using h
    rw [Balanced, Option.map_some, Option.getD_some, hcash]

theorem checkExits {b : BarInput} {regime : MarketRegime} (h : cfg.Balanced s)
    (hexits : cfg.checkExits b regime s = some t) : cfg.Balanced t := by
  rcases checkExits_cases hexits with rfl | ⟨pos, reason, hpos, hclose⟩
  · exact h
  · exact h.closePosition hpos hclose

theorem checkEntry {b : BarInput} {context : MarketContext} (h : cfg.Balanced s)
    (hentry : cfg.checkEntry strategies b context s = some t) : cfg.Balanced t := by
  rcases checkEntry_cases hentry with rfl | ⟨m, hpos, rfl | ⟨signal, nextBar, hopen⟩⟩
  · exact h
  · exact h
  · have hmemory : cfg.Balanced { s with memory := m } := h
    exact hmemory.openPosition hpos hopen

theorem barStep {b : BarInput} (h : cfg.Balanced s)
    (hstep : cfg.barStep strategies s b = some t) : cfg.Balanced t := by
  rw [BacktestConfig.barStep] at hstep
  split at hstep
  · cases hstep
    exact h
  next features _ =>
    obtain ⟨s₁, hexits, hrest⟩ := Option.bind_eq_some_iff.1 hstep
    obtain ⟨s₂, hentry, rfl⟩ := Option.map_eq_some_iff.1 hrest
    have hentered := ((h.updatePositions _).checkExits hexits).checkEntry hentry
    exact hentered

theorem run {bs : List BarInput} (h : cfg.Balanced s)
    (hrun : (cfg.simulator strategies).run s bs = some t) : cfg.Balanced t :=
  Machine.run_invariant (cfg.simulator strategies) cfg.Balanced
    (fun _ _ _ hs hnext => hs.barStep hnext) h hrun

theorem closeAtEnd {candles : List Candle} (h : cfg.Balanced s)
    (hclose : cfg.closeAtEnd candles s = some t) : cfg.Balanced t := by
  rw [BacktestConfig.closeAtEnd] at hclose
  split at hclose
  next hpos => exact h.closePosition hpos hclose
  next =>
    cases hclose
    exact h

end Balanced

/-- After the end of a back-test no position is open. -/
theorem position_closeAtEnd {candles : List Candle} (hcandles : candles ≠ [])
    (h : cfg.closeAtEnd candles s = some t) : t.position = none := by
  rw [closeAtEnd, List.getLast?_eq_getLast_of_ne_nil hcandles] at h
  cases hpos : s.position with
  | none =>
      rw [hpos] at h
      cases h
      exact hpos
  | some pos =>
      rw [hpos] at h
      rw [eq_of_closePosition h]

/-- A back-test is its loop and the end. -/
theorem run_eq_some_iff {sqrt : ℚ → ℚ} {m : μ} {candlesBySymbol : String → List Candle}
    {r : BacktestOutcome} :
    cfg.run sqrt strategies m candlesBySymbol = some r ↔
      ∃ symbol s t, cfg.symbols.head? = some symbol ∧
        (cfg.simulator strategies).run (cfg.backtestStart m)
          (barInputs sqrt (candlesBySymbol symbol)) = some s ∧
        cfg.closeAtEnd (candlesBySymbol symbol) s = some t ∧ r = t.outcome := by
  constructor
  · intro h
    obtain ⟨symbol, hsymbol, h⟩ := Option.bind_eq_some_iff.1 h
    obtain ⟨t, hend, rfl⟩ := Option.map_eq_some_iff.1 h
    obtain ⟨s, hloop, hclose⟩ := Option.bind_eq_some_iff.1 hend
    exact ⟨symbol, s, t, hsymbol, hloop, hclose, rfl⟩
  · rintro ⟨symbol, s, t, hsymbol, hloop, hclose, rfl⟩
    simp only [run, hsymbol, Option.bind_some, hloop, hclose, Option.map_some]

/-- After a back-test no position is open. -/
theorem position_of_run {sqrt : ℚ → ℚ} {m : μ} {candles : List Candle}
    (hloop : (cfg.simulator strategies).run (cfg.backtestStart m) (barInputs sqrt candles) =
      some s) (hclose : cfg.closeAtEnd candles s = some t) : t.position = none := by
  by_cases hcandles : candles = []
  · subst hcandles
    cases hloop
    cases hclose
    rfl
  · exact position_closeAtEnd hcandles hclose

/-! ### Runs that do not raise -/

section Raises

theorem isSome_closePosition (hslip : 1 + cfg.slippagePct ≠ 0) (pos : SimulatedPosition)
    (exitPrice : ℚ) (exitTime : Timestamp) (barIndex : ℕ) (reason : String)
    (s : BacktestState μ) :
    (cfg.closePosition pos exitPrice exitTime barIndex reason s).isSome := by
  rw [closePosition, if_neg hslip, Option.isSome_some]

theorem isSome_openPosition {signal : Signal} {entryBar : Candle} {barIndex : ℕ}
    (hprice : ∀ buys, cfg.slipped entryBar.openPrice buys ≠ 0) (s : BacktestState μ) :
    (cfg.openPosition signal entryBar barIndex s).isSome := by
  have hentry (notional : ℚ) :
      (cfg.openedPosition signal entryBar barIndex notional).entryPrice ≠ 0 := hprice _
  simp only [openPosition, if_neg (hentry _)]
  split_ifs <;> rfl

theorem isSome_checkExits (hslip : 1 + cfg.slippagePct ≠ 0) (b : BarInput)
    (regime : MarketRegime) (s : BacktestState μ) : (cfg.checkExits b regime s).isSome := by
  rw [checkExits]
  split
  · rfl
  · split
    · rfl
    · exact isSome_closePosition hslip _ _ _ _ _ _

theorem isSome_checkEntry {b : BarInput}
    (hprice : ∀ next ∈ b.next, ∀ buys, cfg.slipped next.openPrice buys ≠ 0)
    (context : MarketContext) (s : BacktestState μ) :
    (cfg.checkEntry strategies b context s).isSome := by
  rw [checkEntry]
  split
  · rfl
  · dsimp only
    split
    next hnext => exact isSome_openPosition (hprice _ hnext) _
    · rfl

theorem isSome_barStep (hslip : 1 + cfg.slippagePct ≠ 0) {b : BarInput}
    (hprice : ∀ next ∈ b.next, ∀ buys, cfg.slipped next.openPrice buys ≠ 0)
    (s : BacktestState μ) : (cfg.barStep strategies s b).isSome := by
  rw [barStep]
  split
  · rfl
  next features _ =>
    have hexits : (cfg.afterExits b features s).isSome := isSome_checkExits hslip _ _ _
    obtain ⟨s', hs'⟩ := Option.isSome_iff_exists.1 hexits
    rw [hs', Option.bind_some, Option.isSome_map]
    exact isSome_checkEntry hprice _ _

theorem isSome_closeAtEnd (hslip : 1 + cfg.slippagePct ≠ 0) (candles : List Candle)
    (s : BacktestState μ) : (cfg.closeAtEnd candles s).isSome := by
  rw [closeAtEnd]
  split
  · exact isSome_closePosition hslip _ _ _ _ _ _
  · rfl

/-- A back-test comes to its end when slippage takes no price to zero. -/
theorem isSome_run {sqrt : ℚ → ℚ} {m : μ} {candlesBySymbol : String → List Candle}
    {symbol : String} (hsymbol : cfg.symbols.head? = some symbol)
    (hbuys : 1 + cfg.slippagePct ≠ 0) (hsells : 1 - cfg.slippagePct ≠ 0)
    (hopen : ∀ c ∈ candlesBySymbol symbol, c.openPrice ≠ 0) :
    (cfg.run sqrt strategies m candlesBySymbol).isSome := by
  have hprice : ∀ c ∈ candlesBySymbol symbol, ∀ buys, cfg.slipped c.openPrice buys ≠ 0 := by
    intro c hc buys
    cases buys
    · exact mul_ne_zero (hopen c hc) hsells
    · exact mul_ne_zero (hopen c hc) hbuys
  have hstep : ∀ b ∈ barInputs sqrt (candlesBySymbol symbol), ∀ s : BacktestState μ,
      (cfg.barStep strategies s b).isSome := fun b hb s =>
    isSome_barStep hbuys (fun next hnext => hprice next (next_mem_of_mem_barInputs hb hnext)) s
  have hloop := (cfg.simulator strategies).isSome_run hstep (cfg.backtestStart m)
  obtain ⟨s, hs⟩ := Option.isSome_iff_exists.1 hloop
  rw [run, hsymbol, Option.bind_some]
  dsimp only
  rw [hs, Option.bind_some, Option.isSome_map]
  exact isSome_closeAtEnd hbuys _ _

end Raises

/-- A back-test ends with the initial capital and the net profit of its trades; and it comes to
its end, unless slippage takes a price to zero. -/
theorem cash_eq_initialCapital_add_netPnlOf (cfg : BacktestConfig) (sqrt : ℚ → ℚ)
    (strategies : List (BacktestStrategy μ)) (m : μ) (candlesBySymbol : String → List Candle) :
    (∀ r, cfg.run sqrt strategies m candlesBySymbol = some r →
      r.cash = cfg.initialCapital + netPnlOf r.trades) ∧
    ∀ symbol, cfg.symbols.head? = some symbol → 1 + cfg.slippagePct ≠ 0 →
      1 - cfg.slippagePct ≠ 0 → (∀ c ∈ candlesBySymbol symbol, c.openPrice ≠ 0) →
      ∃ r, cfg.run sqrt strategies m candlesBySymbol = some r := by
  constructor
  · intro r hrun
    obtain ⟨symbol, s, t, -, hloop, hclose, rfl⟩ := run_eq_some_iff.1 hrun
    have hbalanced : cfg.Balanced t :=
      ((balanced_backtestStart m).run hloop).closeAtEnd hclose
    rw [Balanced, position_of_run hloop hclose, Option.map_none, Option.getD_none,
      add_zero] at hbalanced
    exact hbalanced
  · intro symbol hsymbol hbuys hsells hopen
    exact Option.isSome_iff_exists.1 (isSome_run hsymbol hbuys hsells hopen)

end BacktestConfig

/-! ### A strategy that always buys -/

/-- The largest confidence, and the size hint that scales nothing. -/
theorem zero_le_one_le_one : (0 : ℚ) ≤ 1 ∧ (1 : ℚ) ≤ 1 := ⟨zero_le_one, le_rfl⟩

/-- The signal to buy. -/
def buySignal : Signal where
  id := 1
  strategyName := "trend_following_v1"
  symbol := ⟨"BTC", "USDT", .binance, .spot⟩
  direction := .long
  confidence := 1
  regime := .unknown
  confidence_mem := zero_le_one_le_one
  sizeHint_mem := zero_le_one_le_one

/-- The strategy, in every regime. -/
def alwaysBuys : BacktestStrategy Unit where
  supportedRegimes := [.trendingUp, .trendingDown, .ranging, .breakout, .highVolatility,
    .lowVolatility, .crisis, .unknown]
  generateSignal m _ := (m, some buySignal)

/-- The strategy signals in every regime. -/
theorem generateSignal_alwaysBuys (context : MarketContext) :
    generateSignal [alwaysBuys] context context.regime () = ((), some buySignal) := by
  have hregime : context.regime ∈ alwaysBuys.supportedRegimes := by
    cases context.regime <;> decide
  have hconfident : (55 / 100 : ℚ) ≤ buySignal.confidence := by decide +kernel
  have hbest : bestSignal [buySignal] = some buySignal := by simp [bestSignal, buySignal]
  simp only [generateSignal, collectSignals, if_pos hregime]
  simp [alwaysBuys, hconfident, hbest, Option.filter]

/-- An hour without any trade. -/
def flatCandle (hour : ℕ) : Candle :=
  { hourCandle hour with
    openPrice := 100, high := 100, low := 100, closePrice := 100, highGteLow := le_rfl }

/-- A back-test over a year. -/
def BacktestConfig.btc : BacktestConfig where
  startDate := 0
  endDate := 31536000
  symbols := ["BTC/USDT"]
  timeframe := "1h"

theorem isSome_run_btc :
    (BacktestConfig.btc.run Rat.sqrt [alwaysBuys] ()
      fun _ => (List.range 300).map hourCandle).isSome :=
  BacktestConfig.isSome_run rfl (by decide +kernel) (by decide +kernel) (by
    intro c hc
    obtain ⟨hour, -, rfl⟩ := List.mem_map.1 hc
    norm_num [hourCandle])

theorem BacktestConfig.cash_eq_initialCapital_add_netPnlOf_btc :
    ((BacktestConfig.btc.run Rat.sqrt [alwaysBuys] ()
        fun _ => (List.range 300).map hourCandle).get isSome_run_btc).cash =
      10000 + netPnlOf ((BacktestConfig.btc.run Rat.sqrt [alwaysBuys] ()
        fun _ => (List.range 300).map hourCandle).get isSome_run_btc).trades :=
  (BacktestConfig.cash_eq_initialCapital_add_netPnlOf .btc Rat.sqrt [alwaysBuys] () _).1 _
    (Option.some_get isSome_run_btc).symm

end Sgr
