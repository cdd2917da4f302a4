import Sgr.Backtesting.Agreement
import Sgr.Backtesting.CashBalance

/-!
# Slippage in the grid simulator

A cell is opened at its entry price after slippage, which gives its quantity. When it is
closed, its profit is reckoned from the entry price before slippage. The net profit of a trade
is thus the cash that its prices move exactly in a back-test without slippage.
-/

namespace Sgr

namespace GridBacktestConfig

variable {cfg : GridBacktestConfig} {r : GridRun} {c : CellState} {t : BacktestTrade}

/-! ### Where trades come from -/

variable (cfg) in
/-- A cell of the grid; an open one holds what the position size buys after slippage. -/
structure HoldsOrder (c : CellState) : Prop where
  fresh : ∃ f ∈ cfg.freshCells,
    c.index = f.index ∧ c.entryPrice = f.entryPrice ∧ c.exitPrice = f.exitPrice
  entryPrice_ne : c.isOpen = true → c.entryPrice ≠ 0
  quantity_pos : c.isOpen = true → 0 < c.quantity
  size : c.isOpen = true →
    c.quantity * cfg.applySlippage c.entryPrice true = cfg.parameters.positionSize

variable (cfg) in
/-- A trade of a cell of the grid; a regular exit is filled at its exit price after slippage. -/
structure TradeOf (c : CellState) (t : BacktestTrade) : Prop where
  cell : c ∈ cfg.freshCells
  index : t.gridCellIndex = some c.index
  entryPrice : t.entryPrice = c.entryPrice
  entryPrice_ne : t.entryPrice ≠ 0
  quantity_pos : 0 < t.quantity
  size : t.quantity * cfg.applySlippage c.entryPrice true = cfg.parameters.positionSize
  regular : t.exitReason = "grid_cycle" → t.exitPrice = cfg.applySlippage c.exitPrice false
  fees : t.fees = (t.entryPrice * t.quantity + t.exitPrice * t.quantity) *
    if t.exitReason ≠ "grid_cycle" then cfg.takerFee else cfg.makerFee
  netPnl : t.netPnl = (t.exitPrice - t.entryPrice) * t.quantity * cfg.sideFactor - t.fees

variable (cfg) in
/-- The cells hold their orders, and the trades are of cells of the grid. -/
structure FromCells (r : GridRun) : Prop where
  cells : ∀ c ∈ r.cells, cfg.HoldsOrder c
  trades : ∀ t ∈ r.trades, ∃ c, cfg.TradeOf c t

theorem holdsOrder_of_closed (hfresh : ∃ f ∈ cfg.freshCells,
    c.index = f.index ∧ c.entryPrice = f.entryPrice ∧ c.exitPrice = f.exitPrice)
    (hclosed : c.isOpen = false) : cfg.HoldsOrder c := by
  have hopen : ¬ c.isOpen = true := by
    rw [hclosed]
    decide
  exact ⟨hfresh, fun h => absurd h hopen, fun h => absurd h hopen, fun h => absurd h hopen⟩

theorem holdsOrder_openedCell {bar : Candle} {barIdx : ℕ} {c' : CellState}
    (h : cfg.HoldsOrder c) (hopened : cfg.openedCell bar barIdx c = some c') :
    cfg.HoldsOrder c' := by
  simp only [openedCell] at hopened
  split at hopened
  · cases hopened
  split at hopened
  · cases hopened
  by_cases hfill : 0 < cfg.applySlippage c.entryPrice true
  · rw [if_pos hfill] at hopened
    split at hopened
    · cases hopened
    next hqty =>
      cases hopened
      exact ⟨h.fresh, fun _ => left_ne_zero_of_mul hfill.ne', fun _ => not_le.1 hqty,
        fun _ => div_mul_cancel₀ _ hfill.ne'⟩
  · rw [if_neg hfill, if_pos le_rfl] at hopened
    cases hopened

theorem tradeOf_closeCell (h : cfg.HoldsOrder c) (hopen : c.isOpen = true) {price : ℚ}
    {exitTime : Timestamp} {barIdx : ℕ} {regime : MarketRegime} {reason : String}
    (hregular : reason = "grid_cycle" → price = cfg.applySlippage c.exitPrice false) :
    ∃ f, cfg.TradeOf f (cfg.closeCell c price exitTime barIdx regime reason).2 := by
  obtain ⟨f, hf, hindex, hentry, hexit⟩ := h.fresh
  refine ⟨f, hf, congrArg some hindex, hentry, h.entryPrice_ne hopen, h.quantity_pos hopen, ?_, ?_,
    rfl, rfl⟩
  · rw [← hentry]
    exact h.size hopen
  · rw [← hexit]
    exact hregular

namespace FromCells

theorem runStart (cfg : GridBacktestConfig) : cfg.FromCells cfg.runStart := by
  refine ⟨fun c hc => ?_, fun t ht => absurd ht List.not_mem_nil⟩
  exact holdsOrder_of_closed ⟨c, hc, rfl, rfl, rfl⟩ (isOpen_of_mem_freshCells hc)

theorem tryOpenCells (h : cfg.FromCells r) (bar : Candle) (barIdx : ℕ) :
    cfg.FromCells (cfg.tryOpenCells bar barIdx r) := by
  refine ⟨fun c hc => ?_, h.trades⟩
  obtain ⟨c', hc', rfl⟩ := List.mem_map.1 hc
  cases hopened : cfg.openedCell bar barIdx c' with
  | none => exact h.cells c' hc'
  | some c'' => exact holdsOrder_openedCell (h.cells c' hc') hopened

/-- Cells that are open are closed, at their exit price after slippage when they are closed
regularly. -/
theorem closeCells {exits : CellState → Option ℚ} {exitTime : Timestamp} {barIdx : ℕ}
    {regime : MarketRegime} {reason : String} (h : cfg.FromCells r)
    (hopen : ∀ c price, exits c = some price → c.isOpen = true)
    (hregular : reason = "grid_cycle" →
      ∀ c price, exits c = some price → price = cfg.applySlippage c.exitPrice false) :
    cfg.FromCells (cfg.closeCells exits exitTime barIdx regime reason r) := by
  constructor
  · intro c hc
    obtain ⟨c', hc', rfl⟩ := List.mem_map.1 hc
    cases hexit : exits c' with
    | none => simpa [hexit] using h.cells c' hc'
    | some price =>
        simp only [hexit, Option.map_some, Option.getD_some]
        exact holdsOrder_of_closed (h.cells c' hc').fresh rfl
  · intro t ht
    rcases List.mem_append.1 ht with hold | hnew
    · exact h.trades t hold
    · obtain ⟨p, hp, rfl⟩ := List.mem_map.1 hnew
      obtain ⟨c, hc, hclosed⟩ := List.mem_filterMap.1 hp
      obtain ⟨price, hexit, rfl⟩ := Option.map_eq_some_iff.1 hclosed
      exact tradeOf_closeCell (h.cells c hc) (hopen c price hexit)
        fun hreason => hregular hreason c price hexit

theorem tryCloseCells (h : cfg.FromCells r) (bar : Candle) (barIdx : ℕ)
    (regime : MarketRegime) : cfg.FromCells (cfg.tryCloseCells bar barIdx regime r) := by
  have hexit {c : CellState} {price : ℚ} (hprice : cfg.touchedExit bar c = some price) :
      c.isOpen = true ∧ price = cfg.applySlippage c.exitPrice false := by
    simp only [touchedExit, Option.ite_none_left_eq_some] at hprice
    obtain ⟨hopen, -, hprice⟩ := hprice
    exact ⟨by simpa using hopen, (Option.some.inj hprice).symm⟩
  have hclosed : cfg.FromCells (cfg.closeCells (cfg.touchedExit bar) bar.timestamp barIdx regime
      "grid_cycle" r) :=
    h.closeCells (fun c price hprice => (hexit hprice).1) fun _ c price hprice => (hexit hprice).2
  exact ⟨hclosed.cells, hclosed.trades⟩

theorem forceCloseAll (h : cfg.FromCells r) (price : ℚ) (exitTime : Timestamp) (barIdx : ℕ)
    (regime : MarketRegime) {reason : String} (hreason : reason ≠ "grid_cycle") :
    cfg.FromCells (cfg.forceCloseAll price exitTime barIdx regime reason r) := by
  refine h.closeCells (fun c p hp => ?_) fun hcycle => absurd hcycle hreason
  by_contra hopen
  rw [if_neg hopen] at hp
  cases hp

theorem barCourse (h : cfg.FromCells r) (bar : Candle) (barIdx : ℕ) (regime : MarketRegime) :
    cfg.FromCells (cfg.barCourse bar barIdx regime r) := by
  have hfilled : cfg.FromCells (cfg.barFills bar barIdx regime r) := by
    rw [barFills]
    split
    · exact (h.tryCloseCells bar barIdx regime).tryOpenCells bar barIdx
    · exact (h.tryOpenCells bar barIdx).tryCloseCells bar barIdx regime
  rw [GridBacktestConfig.barCourse, barFunding]
  split
  · exact ⟨hfilled.cells, hfilled.trades⟩
  · exact ⟨hfilled.cells, hfilled.trades⟩

end FromCells

/-- The reason of a forced exit is not that of a regular one. -/
theorem forcedExit_ne {startTime : Timestamp} {bar : Candle} {cells : List CellState}
    {exit : ℚ × String} (h : cfg.forcedExit startTime bar cells = some exit) :
    exit.2 ≠ "grid_cycle" := by
  have hne {price : ℚ} {reason : String} (hreason : reason ≠ "grid_cycle")
      (heq : some (price, reason) = some exit) : exit.2 ≠ "grid_cycle" := by
    rw [← Option.some.inj heq]
    exact hreason
  simp only [forcedExit, Option.orElse_eq_orElse, Option.orElse_eq_or, Option.or_eq_some_iff] at h
  rcases h with h | ⟨-, h | ⟨-, h | ⟨-, h⟩⟩⟩
  · obtain ⟨price, -, h⟩ := Option.bind_eq_some_iff.1 h
    rw [Option.ite_none_right_eq_some] at h
    exact hne (by decide) h.2
  · obtain ⟨reason, hreason, hexit⟩ := Option.map_eq_some_iff.1 h
    refine hne ?_ (congrArg some hexit)
    rw [checkGridLevelExits] at hreason
    split_ifs at hreason <;>
      (rw [← Option.some.inj hreason]
       decide)
  · obtain ⟨limit, -, h⟩ := Option.bind_eq_some_iff.1 h
    rw [Option.ite_none_right_eq_some] at h
    exact hne (by decide) h.2
  · simp only [breakoutExit, Option.ite_none_right_eq_some] at h
    exact hne (by decide) h.2

namespace FromCells

theorem simulateBars {startTime : Timestamp} {regime : ℕ → MarketRegime} {bars : List Candle}
    {barIdx : ℕ} {r' : GridRun} {reason : Option String} (h : cfg.FromCells r)
    (hrun : cfg.simulateBars startTime regime barIdx bars r = (r', reason)) :
    cfg.FromCells r' := by
  induction bars generalizing barIdx r with
  | nil =>
      cases hrun
      exact h
  | cons bar bars ih =>
      have hcourse := h.barCourse bar barIdx (regime barIdx)
      rw [GridBacktestConfig.simulateBars, simulateBar] at hrun
      cases hexit : cfg.forcedExit startTime bar
          (cfg.barCourse bar barIdx (regime barIdx) r).cells with
      | some exit =>
          rw [hexit] at hrun
          cases hrun
          have hforced := hcourse.forceCloseAll exit.1 bar.timestamp barIdx (regime barIdx)
            (forcedExit_ne hexit)
          exact ⟨hforced.cells, hforced.trades⟩
      | none =>
          rw [hexit] at hrun
          have hpoint : cfg.FromCells (cfg.addEquityPoint bar
              (cfg.barCourse bar barIdx (regime barIdx) r)) := ⟨hcourse.cells, hcourse.trades⟩
          exact ih hpoint hrun

/-- The trades of a back-test are of cells of the grid. -/
theorem run (cfg : GridBacktestConfig) (candles : List Candle) :
    ∀ t ∈ (cfg.run candles).trades, ∃ c, cfg.TradeOf c t := by
  match candles with
  | [] => exact fun t ht => absurd ht List.not_mem_nil
  | [_] => exact fun t ht => absurd ht List.not_mem_nil
  | first :: second :: rest =>
      rw [GridBacktestConfig.run]
      cases hloop : cfg.simulateBars first.timestamp (cfg.regimes (first :: second :: rest)) 0
          (first :: second :: rest) cfg.runStart with
      | mk r reason =>
          have hcells := (runStart cfg).simulateBars hloop
          cases reason with
          | some reason => exact hcells.trades
          | none =>
              have hforced := hcells.forceCloseAll (rest.getLastD second).closePrice
                (rest.getLastD second).timestamp ((first :: second :: rest).length - 1)
                (cfg.regimes (first :: second :: rest) ((first :: second :: rest).length - 1))
                (by decide : "backtest_end" ≠ "grid_cycle")
              exact hforced.trades

end FromCells

/-! ### What slippage costs -/

variable (cfg) in
/-- What the two orders of a trade move, at the prices they are filled at. -/
def cashFlow (t : BacktestTrade) : ℚ :=
  (t.exitPrice - cfg.applySlippage t.entryPrice true) * t.quantity * cfg.sideFactor

variable (cfg) in
/-- The net profit of the trade of a cell in a back-test without slippage. -/
def netWithoutSlippage (c : CellState) (t : BacktestTrade) : ℚ :=
  let exitPrice := if t.exitReason = "grid_cycle" then c.exitPrice else t.exitPrice
  let quantity := cfg.parameters.positionSize / c.entryPrice
  (exitPrice - c.entryPrice) * quantity * cfg.sideFactor -
    (c.entryPrice * quantity + exitPrice * quantity) *
      if t.exitReason ≠ "grid_cycle" then cfg.takerFee else cfg.makerFee

variable (cfg) in
/-- The net profit is what the orders move without the fees, and not more than without
slippage. -/
def SlippageCosts (c : CellState) (t : BacktestTrade) : Prop :=
  t.netPnl = cfg.cashFlow t - t.fees ∧ t.netPnl ≤ cfg.netWithoutSlippage c t

/-- A net profit leaves out the slippage of the entry. -/
theorem TradeOf.netPnl_eq (h : cfg.TradeOf c t) :
    t.netPnl = cfg.cashFlow t - t.fees + t.entryPrice * t.quantity * cfg.slippagePct := by
  rw [h.netPnl, cashFlow, applySlippage, sideFactor]
  cases cfg.isLong with
  | true =>
      simp only [if_true]
      ring
  | false =>
      simp only [Bool.true_eq_false, Bool.false_eq_true, if_false]
      ring

theorem TradeOf.netPnl_of_slippagePct_eq_zero (h : cfg.TradeOf c t) (hzero : cfg.slippagePct = 0) :
    t.netPnl = cfg.netWithoutSlippage c t := by
  have hsize := h.size
  rw [applySlippage_of_slippagePct_eq_zero hzero] at hsize
  have hquantity : t.quantity = cfg.parameters.positionSize / c.entryPrice := by
    rw [← hsize, mul_div_cancel_right₀ _ (h.entryPrice ▸ h.entryPrice_ne)]
  have hexit : (if t.exitReason = "grid_cycle" then c.exitPrice else t.exitPrice) =
      t.exitPrice := by
    split
    next hregular =>
      rw [h.regular hregular, applySlippage_of_slippagePct_eq_zero hzero]
    · rfl
  rw [h.netPnl, h.fees, netWithoutSlippage, hexit, ← hquantity, h.entryPrice]

/-- The trades of a back-test are of its cells, and slippage costs what it should in each of them
exactly if there is none. -/
theorem slippageCosts_iff (cfg : GridBacktestConfig) (candles : List Candle) (t : BacktestTrade)
    (ht : t ∈ (cfg.run candles).trades) :
    ∃ c, cfg.TradeOf c t ∧ (cfg.SlippageCosts c t ↔ cfg.slippagePct = 0) := by
  obtain ⟨c, hc⟩ := FromCells.run cfg candles t ht
  refine ⟨c, hc, fun hcosts => ?_, fun hzero => ?_⟩
  · have hnet := hc.netPnl_eq
    rw [← hcosts.1, left_eq_add, mul_eq_zero] at hnet
    exact hnet.resolve_left (mul_ne_zero hc.entryPrice_ne hc.quantity_pos.ne')
  · refine ⟨?_, (hc.netPnl_of_slippagePct_eq_zero hzero).le⟩
    rw [hc.netPnl_eq, hzero, mul_zero, add_zero]

/-- One cell that is bought at 90, with a slippage of a tenth. -/
def slipping : GridBacktestConfig := { GridBacktestConfig.btc with slippagePct := 1 / 10 }

theorem trades_slipping_ne_nil : (slipping.run [.btc 95 89, .btc 89 86]).trades ≠ [] := by
  decide +kernel

theorem slippageCosts_iff_slipping :
    ∃ c, slipping.TradeOf c
        ((slipping.run [.btc 95 89, .btc 89 86]).trades.head trades_slipping_ne_nil) ∧
      (slipping.SlippageCosts c
        ((slipping.run [.btc 95 89, .btc 89 86]).trades.head trades_slipping_ne_nil) ↔
          slipping.slippagePct = 0) :=
  slippageCosts_iff slipping [.btc 95 89, .btc 89 86] _ (List.head_mem trades_slipping_ne_nil)

/-- A cell that is closed at a loss loses less with slippage than without. -/
theorem not_slippageCosts :
    (¬ ∀ (cfg : GridBacktestConfig) (candles : List Candle), ∀ t ∈ (cfg.run candles).trades,
      t.netPnl = cfg.cashFlow t - t.fees) ∧
    ¬ ∀ (cfg : GridBacktestConfig) (candles : List Candle), 0 ≤ cfg.slippagePct →
      ∀ t ∈ (cfg.run candles).trades, ∀ c ∈ cfg.freshCells, t.gridCellIndex = some c.index →
        t.netPnl ≤ cfg.netWithoutSlippage c t := by
  constructor
  · intro h
    have hslipping := h slipping [.btc 95 89, .btc 89 86]
    revert hslipping
    decide +kernel
  · intro h
    have hslipping := h slipping [.btc 95 89, .btc 89 86] (by decide +kernel)
    revert hslipping
    decide +kernel

end GridBacktestConfig

end Sgr
