import Sgr.Backtesting.Agreement
import Sgr.Backtesting.CashBalance

/-!
# The end of an equity curve

The performance analyzer reads the final capital of a back-test off the last point of its
equity curve. Both simulators record that point before they close what is still open, and the
simulator of a strategy records whole cents. The point agrees with the trades exactly if
closing costs what rounding has dropped.
-/

open Arithmetic Concurrency

namespace Sgr

/-- `final` of `analyze`. -/
def finalCapital (initial : ℚ) (curve : List EquityCurvePoint) : ℚ :=
  (curve.getLast?.map EquityCurvePoint.portfolioValue).getD initial

/-! ### The simulator of a strategy -/

section Strategies

variable {μ : Type*} {cfg : BacktestConfig} {sqrt : ℚ → ℚ}
  {strategies : List (BacktestStrategy μ)} {s t : BacktestState μ} {candles : List Candle}

/-- After each bar the last point of the curve is the value at its close, in whole cents. -/
theorem getLast?_equityCurve {bs : List BarInput} {b : BarInput}
    (hfeatures : ∀ b ∈ bs, b.features.isSome) (hlast : bs.getLast? = some b)
    (hrun : (cfg.simulator strategies).run s bs = some t) :
    t.equityCurve.getLast?.map EquityCurvePoint.portfolioValue =
      some (Arithmetic.quantized 2 (t.portfolioValue b.bar.closePrice)) := by
  induction bs generalizing s with
  | nil => cases hlast
  | cons a bs ih =>
      obtain ⟨r, hr, hrun⟩ := (Machine.run_cons_eq_some_iff _).1 hrun
      cases bs with
      | cons c bs =>
          rw [List.getLast?_cons_cons] at hlast
          exact ih (fun b hb => hfeatures b (List.mem_cons_of_mem a hb)) hlast hrun
      | nil =>
          cases hlast
          cases hrun
          obtain ⟨features, hsome⟩ :=
            Option.isSome_iff_exists.1 (hfeatures a List.mem_cons_self)
          change cfg.barStep strategies s a = some t at hr
          rw [cfg.barStep_of_features hsome] at hr
          obtain ⟨s₁, -, hrest⟩ := Option.bind_eq_some_iff.1 hr
          obtain ⟨s₂, -, rfl⟩ := Option.map_eq_some_iff.1 hrest
          simp [BacktestConfig.recordBar, BacktestState.recordEquity, BacktestState.portfolioValue]

variable (cfg) in
/-- What a position brings less than it is worth when it is closed at a price: slippage and the
fee. -/
def BacktestConfig.closingCost (price : ℚ) (pos : SimulatedPosition) : ℚ :=
  pos.quantity * price *
    (if pos.side = .long then cfg.slippagePct + cfg.takerFee - cfg.slippagePct * cfg.takerFee
      else cfg.slippagePct + cfg.takerFee + cfg.slippagePct * cfg.takerFee)

theorem exitCash_eq (price : ℚ) (pos : SimulatedPosition) :
    cfg.exitCash pos.side (pos.quantity * cfg.slipped price (pos.side = .short)) =
      pos.marketValue price - cfg.closingCost price pos := by
  cases hside : pos.side with
  | long =>
      simp [BacktestConfig.exitCash, BacktestConfig.slipped, SimulatedPosition.marketValue,
        BacktestConfig.closingCost, hside]
      ring
  | short =>
      simp [BacktestConfig.exitCash, BacktestConfig.slipped, SimulatedPosition.marketValue,
        BacktestConfig.closingCost, hside]
      ring

variable (cfg) in
/-- What it costs to close what is open at a price. -/
def BacktestConfig.costToClose (price : ℚ) (s : BacktestState μ) : ℚ :=
  (s.position.map (cfg.closingCost price)).getD 0

/-- The end of a back-test takes the cost of closing from the value at the last close. -/
theorem cash_closeAtEnd {last : Candle} (hlast : candles.getLast? = some last)
    (h : cfg.closeAtEnd candles s = some t) :
    t.cash = s.portfolioValue last.closePrice - cfg.costToClose last.closePrice s := by
  rw [BacktestConfig.closeAtEnd, hlast] at h
  cases hpos : s.position with
  | none =>
      rw [hpos] at h
      cases h
      simp [BacktestState.portfolioValue, BacktestConfig.costToClose, hpos]
  | some pos =>
      rw [hpos] at h
      rw [BacktestConfig.eq_of_closePosition h]
      simp only [BacktestState.portfolioValue, BacktestConfig.costToClose, hpos,
        Option.map_some, Option.getD_some, exitCash_eq]
      ring

theorem closeAtEnd_of_position_eq_none (h : s.position = none) :
    cfg.closeAtEnd candles s = some s := by
  rw [BacktestConfig.closeAtEnd, h]
  cases candles.getLast? <;> rfl

variable (cfg) in
/-- After the last bar the cost of closing what is open is what rounding the value to whole
cents drops. -/
def BacktestConfig.ClosesAsRecorded (candles : List Candle) (s : BacktestState μ) : Prop :=
  warmupBars < candles.length → ∀ last ∈ candles.getLast?,
    cfg.costToClose last.closePrice s =
      s.portfolioValue last.closePrice - Arithmetic.quantized 2 (s.portfolioValue last.closePrice)

theorem finalCapital_iff {m : μ} (hloop : (cfg.simulator strategies).run (cfg.backtestStart m)
      (barInputs sqrt candles) = some s)
    (hclose : cfg.closeAtEnd candles s = some t) :
    finalCapital cfg.initialCapital t.equityCurve =
        cfg.initialCapital + netPnlOf t.closedTrades ↔ cfg.ClosesAsRecorded candles s := by
  have hbalanced : cfg.Balanced t :=
    ((BacktestConfig.balanced_backtestStart m).run hloop).closeAtEnd hclose
  rw [BacktestConfig.Balanced, BacktestConfig.position_of_run hloop hclose, Option.map_none,
    Option.getD_none, add_zero] at hbalanced
  rw [← hbalanced, (BacktestConfig.records_closeAtEnd hclose).1]
  by_cases hwarm : candles.length ≤ warmupBars
  · -- no bar is simulated
    rw [barInputs_eq_nil_iff.2 hwarm] at hloop
    cases hloop
    rw [closeAtEnd_of_position_eq_none rfl] at hclose
    cases hclose
    exact ⟨fun _ hlong => absurd hlong (not_lt.2 hwarm), fun _ => rfl⟩
  · have hinputs : barInputs sqrt candles ≠ [] := fun hnil =>
      hwarm (barInputs_eq_nil_iff.1 hnil)
    obtain ⟨b, hb⟩ := Option.isSome_iff_exists.1 (List.getLast?_isSome.2 hinputs)
    have hlast := bar_of_getLast?_barInputs hb
    have hpoint := getLast?_equityCurve (fun _ => isSome_features) hb hloop
    rw [finalCapital, hpoint, Option.getD_some, cash_closeAtEnd hlast hclose]
    constructor
    · rintro hvalue - last hmem
      rw [hlast] at hmem
      cases hmem
      linarith
    · intro hcost
      have hcost' := hcost (not_le.1 hwarm) b.bar hlast
      linarith

end Strategies

/-! ### The simulator of a grid -/

namespace GridBacktestConfig

variable {cfg : GridBacktestConfig} {r : GridRun}

/-- The realized profit is the net profit of the trades without the funding. -/
def Accounted (r : GridRun) : Prop := r.realizedPnl = netPnlOf r.trades - r.totalFunding

variable (cfg) in
/-- What the open cells have won at a price. -/
def unrealized (price : ℚ) (r : GridRun) : ℚ :=
  ((r.cells.filter CellState.isOpen).map fun c =>
    (price - c.entryPrice) * c.quantity * cfg.sideFactor).sum

variable (cfg) in
/-- The fees of closing the open cells at a price by market orders. -/
def closingFees (price : ℚ) (r : GridRun) : ℚ :=
  ((r.cells.filter CellState.isOpen).map fun c =>
    (c.entryPrice * c.quantity + price * c.quantity) * cfg.takerFee).sum

theorem Accounted.closeCells (h : Accounted r) (exits : CellState → Option ℚ)
    (exitTime : Timestamp) (barIdx : ℕ) (regime : MarketRegime) (reason : String) :
    Accounted (cfg.closeCells exits exitTime barIdx regime reason r) := by
  simp only [Accounted, GridBacktestConfig.closeCells, netPnlOf_append] at h ⊢
  rw [h, netPnlOf, netPnlOf]
  ring

theorem Accounted.barFills (h : Accounted r) (bar : Candle) (barIdx : ℕ)
    (regime : MarketRegime) : Accounted (cfg.barFills bar barIdx regime r) := by
  rw [GridBacktestConfig.barFills]
  split
  · exact h.closeCells _ _ _ _ _
  · have hopened : Accounted (cfg.tryOpenCells bar barIdx r) := h
    exact hopened.closeCells _ _ _ _ _

theorem Accounted.barCourse (h : Accounted r) (bar : Candle) (barIdx : ℕ)
    (regime : MarketRegime) : Accounted (cfg.barCourse bar barIdx regime r) := by
  have hfilled : Accounted (cfg.barFills bar barIdx regime r) := h.barFills bar barIdx regime
  rw [GridBacktestConfig.barCourse, barFunding]
  split
  · simp only [Accounted] at hfilled ⊢
    rw [hfilled]
    ring
  · exact hfilled

/-- Forced closes leave no cell open. -/
theorem unrealized_forceCloseAll (cfg : GridBacktestConfig) (r : GridRun) (price exitPrice : ℚ)
    (exitTime : Timestamp) (barIdx : ℕ) (regime : MarketRegime) (reason : String) :
    cfg.unrealized price (cfg.forceCloseAll exitPrice exitTime barIdx regime reason r) = 0 := by
  have hclosed : (cfg.forceCloseAll exitPrice exitTime barIdx regime reason r).cells.filter
      CellState.isOpen = [] := by
    rw [List.filter_eq_nil_iff]
    intro c hc
    obtain ⟨c', -, rfl⟩ := List.mem_map.1 hc
    cases hopen : c'.isOpen <;> simp [hopen, closeCell]
  rw [unrealized, hclosed]
  rfl

/-- A forced close at the end brings what the cells have won, without the fees. -/
theorem netPnl_closeCell (c : CellState) (price : ℚ) (exitTime : Timestamp) (barIdx : ℕ)
    (regime : MarketRegime) {reason : String} (hreason : reason ≠ "grid_cycle") :
    (cfg.closeCell c price exitTime barIdx regime reason).2.netPnl =
      (price - c.entryPrice) * c.quantity * cfg.sideFactor -
        (c.entryPrice * c.quantity + price * c.quantity) * cfg.takerFee := by
  simp only [closeCell, if_pos hreason]

theorem realizedPnl_forceCloseAll (price : ℚ) (exitTime : Timestamp) (barIdx : ℕ)
    (regime : MarketRegime) {reason : String} (hreason : reason ≠ "grid_cycle") :
    (cfg.forceCloseAll price exitTime barIdx regime reason r).realizedPnl =
      r.realizedPnl + cfg.unrealized price r - cfg.closingFees price r := by
  simp only [forceCloseAll, closeCells, unrealized, closingFees]
  rw [add_sub_assoc]
  congr 1
  induction r.cells with
  | nil => simp
  | cons c cs ih =>
      cases hopen : c.isOpen with
      | false => simpa [hopen] using ih
      | true =>
          simp only [hopen, if_true, Option.map_some, List.filterMap_cons, List.map_cons,
            List.sum_cons, List.filter_cons, ih, netPnl_closeCell c price exitTime barIdx regime
              hreason]
          ring

/-- What the trades of a run bring that is closed at its end. -/
theorem netPnlOf_finishRun (h : Accounted r) (last : Candle) (lastIdx : ℕ)
    (regime : MarketRegime) :
    netPnlOf (cfg.finishRun last lastIdx regime r).trades =
      r.realizedPnl + cfg.unrealized last.closePrice r - cfg.closingFees last.closePrice r +
        r.totalFunding := by
  have hforced : Accounted
      (cfg.forceCloseAll last.closePrice last.timestamp lastIdx regime "backtest_end" r) :=
    h.closeCells _ _ _ _ _
  rw [Accounted, realizedPnl_forceCloseAll _ _ _ _ (by decide)] at hforced
  rw [hforced]
  exact (sub_add_cancel _ _).symm

/-- The state and the reason with which the loop of `run` ends. -/
def loopEnd (cfg : GridBacktestConfig) (candles : List Candle) : GridRun × Option String :=
  match candles with
  | [] => (cfg.runStart, none)
  | first :: _ =>
      cfg.simulateBars first.timestamp (cfg.regimes candles) 0 candles cfg.runStart

/-- After the bars the last point of the curve is the capital with the realized profit and, when
no forced exit has left the loop, with what the open cells have won. -/
theorem getLast?_equityCurve {startTime : Timestamp} {regime : ℕ → MarketRegime}
    {bars : List Candle} {last : Candle} {barIdx : ℕ} {r' : GridRun} {reason : Option String}
    (h : Accounted r) (hlast : bars.getLast? = some last)
    (hrun : cfg.simulateBars startTime regime barIdx bars r = (r', reason)) :
    Accounted r' ∧ r'.equityCurve.getLast?.map EquityCurvePoint.portfolioValue =
      some (cfg.initialCapital + r'.realizedPnl +
        if reason = none then cfg.unrealized last.closePrice r' else 0) := by
  induction bars generalizing barIdx r with
  | nil => cases hlast
  | cons bar bars ih =>
      have hcourse : Accounted (cfg.barCourse bar barIdx (regime barIdx) r) :=
        h.barCourse bar barIdx (regime barIdx)
      rw [simulateBars, simulateBar] at hrun
      cases hexit : cfg.forcedExit startTime bar
          (cfg.barCourse bar barIdx (regime barIdx) r).cells with
      | some exit =>
          rw [hexit] at hrun
          cases hrun
          refine ⟨hcourse.closeCells _ _ _ _ _, ?_⟩
          have hnone := unrealized_forceCloseAll cfg
            (cfg.barCourse bar barIdx (regime barIdx) r) bar.closePrice exit.1 bar.timestamp
            barIdx (regime barIdx) exit.2
          rw [unrealized] at hnone
          simp [addEquityPoint, hnone]
      | none =>
          rw [hexit] at hrun
          dsimp only at hrun
          cases bars with
          | nil =>
              cases hlast
              cases hrun
              refine ⟨hcourse, ?_⟩
              simp [addEquityPoint, unrealized]
          | cons next rest =>
              rw [List.getLast?_cons_cons] at hlast
              have hpoint : Accounted (cfg.addEquityPoint bar
                  (cfg.barCourse bar barIdx (regime barIdx) r)) := hcourse
              exact ih hpoint hlast hrun

/-- The last point of a run that is closed at its end agrees with its trades exactly if closing
the open cells costs no fees. -/
theorem Accounted.finalCapital_finishRun_iff (h : Accounted r) {last : Candle} {lastIdx : ℕ}
    {regime : MarketRegime}
    (hpoint : r.equityCurve.getLast?.map EquityCurvePoint.portfolioValue =
      some (cfg.initialCapital + r.realizedPnl + cfg.unrealized last.closePrice r)) :
    finalCapital cfg.initialCapital (cfg.finishRun last lastIdx regime r).equityCurve =
        cfg.initialCapital + netPnlOf (cfg.finishRun last lastIdx regime r).trades -
          (cfg.finishRun last lastIdx regime r).totalFundingPaid ↔
      cfg.closingFees last.closePrice r = 0 := by
  have hfinal : finalCapital cfg.initialCapital
      (cfg.finishRun last lastIdx regime r).equityCurve =
        cfg.initialCapital + r.realizedPnl + cfg.unrealized last.closePrice r := by
    change finalCapital cfg.initialCapital r.equityCurve = _
    rw [finalCapital, hpoint, Option.getD_some]
  have hfunding : (cfg.finishRun last lastIdx regime r).totalFundingPaid = r.totalFunding := rfl
  rw [hfinal, netPnlOf_finishRun h, hfunding]
  constructor
  · intro hvalue
    linarith
  · intro hfees
    linarith

/-- A forced exit has left the loop, or closing the open cells at the last close costs no
fees. -/
def ClosesFree (cfg : GridBacktestConfig) (candles : List Candle) : Prop :=
  2 ≤ candles.length → (cfg.loopEnd candles).2 = none → ∀ last ∈ candles.getLast?,
    cfg.closingFees last.closePrice (cfg.loopEnd candles).1 = 0

theorem finalCapital_iff (cfg : GridBacktestConfig) (candles : List Candle) :
    finalCapital cfg.initialCapital (cfg.run candles).equityCurve =
        cfg.initialCapital + netPnlOf (cfg.run candles).trades -
          (cfg.run candles).totalFundingPaid ↔ cfg.ClosesFree candles := by
  match candles with
  | [] => simp [run, finalCapital, ClosesFree]
  | [c] => simp [run, finalCapital, ClosesFree]
  | first :: second :: rest =>
      obtain ⟨last, hlast⟩ := Option.isSome_iff_exists.1
        (List.getLast?_isSome.2 (List.cons_ne_nil first (second :: rest)))
      have hgetLastD : rest.getLastD second = last := by
        rw [List.getLast?_cons_cons, List.getLast?_cons] at hlast
        rw [List.getLastD_eq_getLast?]
        exact Option.some.inj hlast
      have hlength : 2 ≤ (first :: second :: rest).length := by simp
      have hstart : Accounted cfg.runStart := by simp [Accounted, runStart]
      rw [ClosesFree, run]
      have hend : cfg.loopEnd (first :: second :: rest) =
        cfg.simulateBars first.timestamp (cfg.regimes (first :: second :: rest)) 0
          (first :: second :: rest) cfg.runStart := rfl
      rw [hend]
      cases hloop : cfg.simulateBars first.timestamp (cfg.regimes (first :: second :: rest)) 0
          (first :: second :: rest) cfg.runStart with
      | mk r reason =>
          obtain ⟨haccounted, hpoint⟩ := getLast?_equityCurve hstart hlast hloop
          cases reason with
          | some reason =>
              have hfinal : finalCapital cfg.initialCapital r.equityCurve =
                  cfg.initialCapital + r.realizedPnl := by
                simp [finalCapital, hpoint]
              simp only [runResult, hfinal, reduceCtorEq, false_imp_iff, imp_true_iff, iff_true]
              rw [haccounted]
              ring
          | none =>
              simp only [hgetLastD]
              rw [haccounted.finalCapital_finishRun_iff hpoint]
              constructor
              · rintro hfees - - last' hmem
                rw [hlast] at hmem
                cases hmem
                exact hfees
              · exact fun hfree => hfree hlength trivial last hlast

end GridBacktestConfig

/-- The last point of a curve agrees with the trades exactly if closing what is open after the
last bar costs nothing but what rounding has dropped; for a grid, exactly if it costs no fees. -/
theorem finalCapital_eq_iff {μ : Type*} (cfg : BacktestConfig) (sqrt : ℚ → ℚ)
    (strategies : List (BacktestStrategy μ)) (m : μ) (candlesBySymbol : String → List Candle)
    {symbol : String} {r : BacktestOutcome} (hsymbol : cfg.symbols.head? = some symbol)
    (hrun : cfg.run sqrt strategies m candlesBySymbol = some r) (gridCfg : GridBacktestConfig)
    (candles : List Candle) :
    (finalCapital cfg.initialCapital r.equityCurve = cfg.initialCapital + netPnlOf r.trades ↔
      ∀ s, (cfg.simulator strategies).run (cfg.backtestStart m)
        (barInputs sqrt (candlesBySymbol symbol)) = some s →
        cfg.ClosesAsRecorded (candlesBySymbol symbol) s) ∧
    (finalCapital gridCfg.initialCapital (gridCfg.run candles).equityCurve =
        gridCfg.initialCapital + netPnlOf (gridCfg.run candles).trades -
          (gridCfg.run candles).totalFundingPaid ↔ gridCfg.ClosesFree candles) := by
  obtain ⟨symbol', s, t, hsymbol', hloop, hclose, rfl⟩ := BacktestConfig.run_eq_some_iff.1 hrun
  rw [hsymbol] at hsymbol'
  cases hsymbol'
  refine ⟨(finalCapital_iff hloop hclose).trans ⟨fun h s' hs' => ?_, fun h => h s hloop⟩,
    gridCfg.finalCapital_iff candles⟩
  rw [hloop] at hs'
  cases hs'
  exact h

theorem finalCapital_eq_iff_btc :
    (finalCapital 10000 ((BacktestConfig.btc.run Rat.sqrt [alwaysBuys] ()
          fun _ => (List.range 300).map hourCandle).get isSome_run_btc).equityCurve =
        10000 + netPnlOf ((BacktestConfig.btc.run Rat.sqrt [alwaysBuys] ()
          fun _ => (List.range 300).map hourCandle).get isSome_run_btc).trades ↔
      ∀ s, (BacktestConfig.btc.simulator [alwaysBuys]).run (BacktestConfig.btc.backtestStart ())
        (barInputs Rat.sqrt ((List.range 300).map hourCandle)) = some s →
        BacktestConfig.btc.ClosesAsRecorded ((List.range 300).map hourCandle) s) ∧
    (finalCapital 10000 (GridBacktestConfig.btc.run [.btc 95 89, .btc 89 101]).equityCurve =
        10000 + netPnlOf (GridBacktestConfig.btc.run [.btc 95 89, .btc 89 101]).trades -
          (GridBacktestConfig.btc.run [.btc 95 89, .btc 89 101]).totalFundingPaid ↔
      GridBacktestConfig.btc.ClosesFree [.btc 95 89, .btc 89 101]) :=
  finalCapital_eq_iff .btc Rat.sqrt [alwaysBuys] () (fun _ => (List.range 300).map hourCandle) rfl
    (Option.some_get isSome_run_btc).symm .btc [.btc 95 89, .btc 89 101]

/-! ### A position and a cell that are open at the end -/

/-- The inputs of the two bars after the warm-up. -/
def flatInputs (f f' : FeatureSet) : BarInput × BarInput :=
  (⟨200, flatCandle 200, some f, ((List.range 15).map (· + 186)).map flatCandle,
      some (flatCandle 201)⟩,
    ⟨201, flatCandle 201, some f', ((List.range 15).map (· + 187)).map flatCandle, none⟩)

theorem barInputs_flatCandle :
    ∃ f f', barInputs Rat.sqrt ((List.range 202).map flatCandle) =
      [(flatInputs f f').1, (flatInputs f f').2] := by
  have hbars : ((List.range 202).map flatCandle).zipIdx.drop warmupBars =
      [(flatCandle 200, 200), (flatCandle 201, 201)] := by decide +kernel
  have hsome (i : ℕ) (hi : i < ((List.range 202).map flatCandle).length)
      (hmin : minCandles ≤ i + 1) : ∃ f,
        (precomputeAllFeatures Rat.sqrt ((List.range 202).map flatCandle))[i]?.join =
          some f := by
    rw [precomputeAllFeatures_getElem? _ hi]
    exact Option.isSome_iff_exists.1 (isSome_featureRow hmin)
  obtain ⟨f, hf⟩ := hsome 200 (by simp) (by decide)
  obtain ⟨f', hf'⟩ := hsome 201 (by simp) (by decide)
  have hwindow : (((List.range 202).map flatCandle).take (200 + 1)).drop (200 - 14) =
      ((List.range 15).map (· + 186)).map flatCandle := by decide +kernel
  have hwindow' : (((List.range 202).map flatCandle).take (201 + 1)).drop (201 - 14) =
      ((List.range 15).map (· + 187)).map flatCandle := by decide +kernel
  have hnext : ((List.range 202).map flatCandle)[200 + 1]? = some (flatCandle 201) := by
    decide +kernel
  have hnext' : ((List.range 202).map flatCandle)[201 + 1]? = none := by decide +kernel
  refine ⟨f, f', ?_⟩
  rw [barInputs, hbars]
  simp only [List.map_cons, List.map_nil, barInput, hf, hf', hwindow, hwindow', hnext, hnext']
  rfl

/-- The position of the strategy that always buys. -/
def flatPosition : SimulatedPosition where
  symbol := "BTC/USDT"
  side := .long
  quantity := 20000 / 2001
  entryPrice := 2001 / 20
  entryTime := 723600
  strategy := "trend_following_v1"
  signalConfidence := 1
  regime := .unknown
  targetPrice := none
  entryBarIndex := 200

/-- The state with the position. -/
def flatState : BacktestState Unit :=
  { BacktestConfig.btc.backtestStart () with cash := 8999, position := some flatPosition }

theorem openPosition_flatCandle :
    BacktestConfig.btc.openPosition buySignal (flatCandle 201) 200
      (BacktestConfig.btc.backtestStart ()) = some flatState := by
  decide +kernel

/-- The bar after the warm-up opens the position. -/
theorem barStep_flatInputs_fst (f f' : FeatureSet) :
    BacktestConfig.btc.barStep [alwaysBuys] (BacktestConfig.btc.backtestStart ())
        (flatInputs f f').1 =
      some (BacktestConfig.recordBar (flatInputs f f').1 flatState) := by
  have hexits : BacktestConfig.btc.afterExits (flatInputs f f').1 f
      (BacktestConfig.btc.backtestStart ()) = some (BacktestConfig.btc.backtestStart ()) := rfl
  have hentry : BacktestConfig.btc.checkEntry [alwaysBuys] (flatInputs f f').1
      (BacktestConfig.contextAt (flatInputs f f').1 f)
      (BacktestConfig.btc.backtestStart ()) = some flatState := by
    rw [BacktestConfig.checkEntry]
    dsimp only [BacktestConfig.backtestStart]
    rw [generateSignal_alwaysBuys]
    exact openPosition_flatCandle
  have hfeatures : (flatInputs f f').1.features = some f := rfl
  rw [BacktestConfig.barStep_of_features _ hfeatures, hexits, Option.bind_some, hentry,
    Option.map_some]

/-- The next bar leaves it open. -/
theorem barStep_flatInputs_snd (f f' : FeatureSet) {s : BacktestState Unit}
    (hs : s.position = some flatPosition) :
    BacktestConfig.btc.barStep [alwaysBuys] s (flatInputs f f').2 =
      some (BacktestConfig.recordBar (flatInputs f f').2 (s.updatePositions 100)) := by
  have hposition : (s.updatePositions 100).position =
      some { flatPosition with maxAdverseExcursion := 1 / 20 } := by
    have hpos : flatPosition.updateExcursions 100 =
        { flatPosition with maxAdverseExcursion := 1 / 20 } := by decide +kernel
    rw [BacktestState.updatePositions, hs, Option.map_some, hpos]
  have hreason (regime : MarketRegime) : BacktestConfig.btc.exitReason 201 100
      (((List.range 15).map (· + 187)).map flatCandle) regime
      { flatPosition with maxAdverseExcursion := 1 / 20 } = none := by
    cases regime <;> decide +kernel
  have hexits : BacktestConfig.btc.afterExits (flatInputs f f').2 f' s =
      some (s.updatePositions 100) := by
    change BacktestConfig.btc.checkExits _ _ (s.updatePositions 100) = _
    rw [BacktestConfig.checkExits, hposition]
    have hexit (regime : MarketRegime) : BacktestConfig.btc.exitAt (flatInputs f f').2 regime
        { flatPosition with maxAdverseExcursion := 1 / 20 } = none :=
      (if_neg (not_not.2 rfl)).trans (hreason regime)
    dsimp only
    rw [hexit]
  have hentry : BacktestConfig.btc.checkEntry [alwaysBuys] (flatInputs f f').2
      (BacktestConfig.contextAt (flatInputs f f').2 f') (s.updatePositions 100) =
      some (s.updatePositions 100) := by
    rw [BacktestConfig.checkEntry, hposition]
  have hfeatures : (flatInputs f f').2.features = some f' := rfl
  rw [BacktestConfig.barStep_of_features _ hfeatures, hexits, Option.bind_some, hentry,
    Option.map_some]

/-- Closing the position costs more than rounding its value drops. -/
theorem not_closesAsRecorded_flatCandle {s : BacktestState Unit} (hcash : s.cash = 8999)
    (hpos : s.position = some { flatPosition with maxAdverseExcursion := 1 / 20 }) :
    ¬ BacktestConfig.btc.ClosesAsRecorded ((List.range 202).map flatCandle) s := by
  intro h
  have hlast : ((List.range 202).map flatCandle).getLast? = some (flatCandle 201) := by
    decide +kernel
  have hcost := h (by simp [warmupBars]) (flatCandle 201) hlast
  rw [BacktestConfig.costToClose, BacktestState.portfolioValue, hcash, hpos, Option.map_some,
    Option.map_some, Option.getD_some, Option.getD_some] at hcost
  revert hcost
  decide +kernel

/-- The back-test ends with the position open. -/
theorem run_flatCandle :
    ∃ s t, (BacktestConfig.btc.simulator [alwaysBuys]).run (BacktestConfig.btc.backtestStart ())
        (barInputs Rat.sqrt ((List.range 202).map flatCandle)) = some s ∧
      BacktestConfig.btc.closeAtEnd ((List.range 202).map flatCandle) s = some t ∧
      ¬ BacktestConfig.btc.ClosesAsRecorded ((List.range 202).map flatCandle) s := by
  obtain ⟨f, f', hinputs⟩ := barInputs_flatCandle
  have hfirst := barStep_flatInputs_fst f f'
  have hsecond := barStep_flatInputs_snd f f'
    (s := BacktestConfig.recordBar (flatInputs f f').1 flatState) rfl
  have hloop : (BacktestConfig.btc.simulator [alwaysBuys]).run
      (BacktestConfig.btc.backtestStart ()) (barInputs Rat.sqrt
        ((List.range 202).map flatCandle)) = some (BacktestConfig.recordBar (flatInputs f f').2
          ((BacktestConfig.recordBar (flatInputs f f').1 flatState).updatePositions 100)) := by
    rw [hinputs, Machine.run_cons_eq_some_iff]
    refine ⟨_, hfirst, ?_⟩
    rw [Machine.run_cons_eq_some_iff]
    exact ⟨_, hsecond, rfl⟩
  have hslip : 1 + BacktestConfig.btc.slippagePct ≠ 0 := by decide +kernel
  obtain ⟨t, ht⟩ := Option.isSome_iff_exists.1 (BacktestConfig.isSome_closeAtEnd hslip
    ((List.range 202).map flatCandle) (BacktestConfig.recordBar (flatInputs f f').2
      ((BacktestConfig.recordBar (flatInputs f f').1 flatState).updatePositions 100)))
  refine ⟨_, t, hloop, ht, not_closesAsRecorded_flatCandle rfl ?_⟩
  have hpos : flatPosition.updateExcursions 100 =
      { flatPosition with maxAdverseExcursion := 1 / 20 } := by decide +kernel
  exact congrArg some hpos

theorem not_finalCapital_eq :
    (¬ ∀ (cfg : BacktestConfig) (sqrt : ℚ → ℚ) (strategies : List (BacktestStrategy Unit))
      (candlesBySymbol : String → List Candle) (r : BacktestOutcome),
      cfg.run sqrt strategies () candlesBySymbol = some r →
      finalCapital cfg.initialCapital r.equityCurve = cfg.initialCapital + netPnlOf r.trades) ∧
    ¬ ∀ (cfg : GridBacktestConfig) (candles : List Candle),
      finalCapital cfg.initialCapital (cfg.run candles).equityCurve =
        cfg.initialCapital + netPnlOf (cfg.run candles).trades -
          (cfg.run candles).totalFundingPaid := by
  constructor
  · intro h
    obtain ⟨s, t, hloop, hclose, hopen⟩ := run_flatCandle
    have hrun : BacktestConfig.btc.run Rat.sqrt [alwaysBuys] ()
        (fun _ => (List.range 202).map flatCandle) = some t.outcome :=
      BacktestConfig.run_eq_some_iff.2 ⟨"BTC/USDT", s, t, rfl, hloop, hclose, rfl⟩
    exact hopen ((finalCapital_iff hloop hclose).1 (h _ _ _ _ _ hrun))
  · intro h
    have hbtc := h .btc [.btc 95 89, .btc 89 95]
    revert hbtc
    decide +kernel

end Sgr
