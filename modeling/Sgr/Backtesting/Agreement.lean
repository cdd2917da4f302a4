import Sgr.Backtesting.GridSimulator
import Sgr.Concurrency.Machine
import Sgr.Grid.PriceTick

/-!
# The grid simulator next to the grid controller

The controller opens a cell when the price crosses its entry level in one direction and
closes it when the price crosses its exit level in the other; a level at the last price
does not count as crossed. The simulator asks only whether the bar touches the level. The
two have the same cells open as long as no bar touches a level that its close, as a tick,
does not cross in the direction of the level.
-/

open Concurrency

namespace Sgr

/-! ### The two next to each other -/

/-- A bar of the simulator with its regime, and the tick of the controller at its close. -/
structure BarTick where
  bar : Candle
  regime : MarketRegime
  call : TickCall
  fees : OrderRequest → ℚ
  fills : call.FillsAll fees

/-- The variables of `run` after some bars, and the grid after their ticks. -/
structure SideBySide where
  barIdx : ℕ := 0
  startTime : Option Timestamp := none
  sim : GridRun
  live : GridWork

/-- The prices of the bar move in one direction only. -/
structure Candle.IsMonotone (bar : Candle) : Prop where
  low : bar.low = min bar.openPrice bar.closePrice
  high : bar.high = max bar.openPrice bar.closePrice

instance (bar : Candle) : Decidable bar.IsMonotone :=
  decidable_of_iff
    (bar.low = min bar.openPrice bar.closePrice ∧ bar.high = max bar.openPrice bar.closePrice)
    ⟨fun h => ⟨h.1, h.2⟩, fun h => ⟨h.1, h.2⟩⟩

/-- One bar after the other: a bar opens at the last price, is monotone and triggers no
forced exit. -/
def sideBySideMachine (cfg : GridBacktestConfig) : Machine SideBySide BarTick where
  next s a :=
    let startTime := s.startTime.getD a.bar.timestamp
    match cfg.simulateBar startTime a.bar s.barIdx a.regime s.sim with
    | (_, some _) => none
    | (r, none) =>
        if s.live.grid.lastPrice = some a.bar.openPrice ∧ a.bar.IsMonotone then
          some
            { barIdx := s.barIdx + 1
              startTime := some startTime
              sim := r
              live := (onPriceTick a.call a.bar.closePrice s.live).1 }
        else none

/-- A run that has not begun, next to a grid that `open_grid` has just built. -/
def sideBySideStart (cfg : GridBacktestConfig) (plan : GridPlan)
    (gate : Option LiveVerificationState) : SideBySide where
  sim := cfg.runStart
  live := ⟨buildGridState (plan.withParameters cfg.ratioPower cfg.parameters), gate⟩

/-- The place of the level that a cell opens at. -/
def GridState.entryPlace (g : GridState) (i : ℕ) : ℕ := if g.direction = .long then i else i + 1

/-- Cell `i` of the grid is open. -/
def GridState.isOpenAt (g : GridState) (i : ℕ) : Bool :=
  decide (i + 1 < g.levels.length) &&
    (g.levels[g.entryPlace i]?).any GridLevelState.isFilled

/-- Cell `i` of the simulator is open. -/
def GridRun.isOpenAt (r : GridRun) (i : ℕ) : Bool := (r.cells[i]?).any CellState.isOpen

/-- The controller and the simulator have the same open cells. -/
def SideBySide.SameOpenCells (s : SideBySide) : Prop :=
  ∀ i, s.live.grid.isOpenAt i = s.sim.isOpenAt i

/-! ### When a bar is followed -/

/-- A tick at the close of the bar crosses the price. -/
def Candle.crosses (bar : Candle) (price : ℚ) : Bool :=
  bar.touches price && price ≠ bar.openPrice

/-- There is a quantity to open at the price with. -/
def GridBacktestConfig.canOpenAt (cfg : GridBacktestConfig) (price : ℚ) : Bool :=
  decide (0 < cfg.parameters.positionSize ∧ 0 < price)

/-- What the cell must be like for the controller to follow the bar. A bar that moves to the
exits touches an entry price only of a cell that is open and whose exit price it does not
cross, and opens at no exit price of an open cell. A bar that moves to the entries touches
an exit price only of a cell that is closed and stays so, and an entry price only of a cell
that is open or that the tick opens. -/
def GridBacktestConfig.Follows (cfg : GridBacktestConfig) (bar : Candle) (blocked : Bool)
    (c : CellState) : Prop :=
  if cfg.movesToExit bar then
    if bar.touches c.entryPrice then c.isOpen = true ∧ bar.crosses c.exitPrice = false
    else c.isOpen = true → c.exitPrice ≠ bar.openPrice
  else if bar.touches c.exitPrice then
    c.isOpen = false ∧ (bar.crosses c.entryPrice = true → blocked = true)
  else
    c.isOpen = false → bar.touches c.entryPrice = true →
      bar.crosses c.entryPrice = true ∧ blocked = false

/-- The controller follows the bar in every cell that can be opened. -/
def FollowsBar (cfg : GridBacktestConfig) (s : SideBySide) (a : BarTick) : Prop :=
  ∀ c ∈ s.sim.cells, cfg.canOpenAt c.entryPrice = true → cfg.Follows a.bar a.call.blocked c

/-! ### The cells of the simulator -/

/-- The prices of the cell. -/
def CellState.prices (c : CellState) : ℚ × ℚ := (c.entryPrice, c.exitPrice)

namespace GridBacktestConfig

variable {cfg : GridBacktestConfig} {bar : Candle} {barIdx : ℕ} {regime : MarketRegime}
  {c : CellState}

/-- A cell after `_try_open_cells`. -/
def cellTriedToOpen (cfg : GridBacktestConfig) (bar : Candle) (barIdx : ℕ) (c : CellState) :
    CellState :=
  (cfg.openedCell bar barIdx c).getD c

/-- A cell after `_try_close_cells`. -/
def cellTriedToClose (cfg : GridBacktestConfig) (bar : Candle) (barIdx : ℕ)
    (regime : MarketRegime) (c : CellState) : CellState :=
  (((cfg.touchedExit bar c).map fun price =>
    cfg.closeCell c price bar.timestamp barIdx regime "grid_cycle").map Prod.fst).getD c

/-- A cell after a bar without a forced exit. -/
def cellAfter (cfg : GridBacktestConfig) (bar : Candle) (barIdx : ℕ) (regime : MarketRegime)
    (c : CellState) : CellState :=
  if cfg.movesToExit bar then
    cfg.cellTriedToOpen bar barIdx (cfg.cellTriedToClose bar barIdx regime c)
  else cfg.cellTriedToClose bar barIdx regime (cfg.cellTriedToOpen bar barIdx c)

theorem cells_barFills (cfg : GridBacktestConfig) (bar : Candle) (barIdx : ℕ)
    (regime : MarketRegime) (r : GridRun) :
    (cfg.barFills bar barIdx regime r).cells =
      r.cells.map (cfg.cellAfter bar barIdx regime) := by
  unfold barFills cellAfter
  split
  · exact List.map_map
  · exact List.map_map

theorem cells_barFunding (cfg : GridBacktestConfig) (bar : Candle) (barIdx : ℕ) (r : GridRun) :
    (cfg.barFunding bar barIdx r).cells = r.cells := by
  unfold barFunding
  split <;> rfl

theorem cells_barCourse (cfg : GridBacktestConfig) (bar : Candle) (barIdx : ℕ)
    (regime : MarketRegime) (r : GridRun) :
    (cfg.barCourse bar barIdx regime r).cells =
      r.cells.map (cfg.cellAfter bar barIdx regime) := by
  rw [barCourse, cells_barFunding, cells_barFills]

/-- A bar that triggers no forced exit. -/
theorem cells_of_simulateBar {startTime : Timestamp} {r r' : GridRun}
    (h : cfg.simulateBar startTime bar barIdx regime r = (r', none)) :
    r'.cells = r.cells.map (cfg.cellAfter bar barIdx regime) := by
  unfold simulateBar at h
  dsimp only at h
  split at h
  · cases h
  · cases h
    exact cells_barCourse cfg bar barIdx regime r

theorem applySlippage_of_slippagePct_eq_zero (h : cfg.slippagePct = 0) (price : ℚ)
    (opening : Bool) : cfg.applySlippage price opening = price := by
  rw [applySlippage, h, mul_zero, add_zero, mul_one]

/-- Without slippage, a cell is opened when it is touched and has a quantity. -/
theorem isOpen_cellTriedToOpen (h : cfg.slippagePct = 0) (bar : Candle) (barIdx : ℕ)
    (c : CellState) :
    (cfg.cellTriedToOpen bar barIdx c).isOpen =
      (c.isOpen || bar.touches c.entryPrice && cfg.canOpenAt c.entryPrice) := by
  unfold cellTriedToOpen openedCell canOpenAt
  rw [applySlippage_of_slippagePct_eq_zero h]
  cases hopen : c.isOpen with
  | true => exact hopen
  | false =>
      cases htouches : bar.touches c.entryPrice with
      | false => simpa using hopen
      | true =>
          by_cases hprice : 0 < c.entryPrice
          · have hqty : cfg.parameters.positionSize / c.entryPrice ≤ 0 ↔
                cfg.parameters.positionSize ≤ 0 := by
              rw [div_le_iff₀ hprice, zero_mul]
            by_cases hsize : 0 < cfg.parameters.positionSize
            · simp [hprice, hsize, hqty, not_le.2 hsize]
            · simp [hprice, hsize, hqty, not_lt.1 hsize, hopen]
          · simp [hprice, hopen]

theorem isOpen_cellTriedToClose (cfg : GridBacktestConfig) (bar : Candle) (barIdx : ℕ)
    (regime : MarketRegime) (c : CellState) :
    (cfg.cellTriedToClose bar barIdx regime c).isOpen =
      (c.isOpen && !bar.touches c.exitPrice) := by
  unfold cellTriedToClose touchedExit
  cases hopen : c.isOpen with
  | false => exact hopen
  | true =>
      cases htouches : bar.touches c.exitPrice with
      | false => exact hopen
      | true => rfl

theorem prices_cellTriedToOpen (cfg : GridBacktestConfig) (bar : Candle) (barIdx : ℕ)
    (c : CellState) : (cfg.cellTriedToOpen bar barIdx c).prices = c.prices := by
  unfold cellTriedToOpen openedCell
  dsimp only
  split_ifs <;> rfl

theorem prices_cellTriedToClose (cfg : GridBacktestConfig) (bar : Candle) (barIdx : ℕ)
    (regime : MarketRegime) (c : CellState) :
    (cfg.cellTriedToClose bar barIdx regime c).prices = c.prices := by
  unfold cellTriedToClose touchedExit
  split_ifs <;> rfl

theorem prices_cellAfter (cfg : GridBacktestConfig) (bar : Candle) (barIdx : ℕ)
    (regime : MarketRegime) (c : CellState) :
    (cfg.cellAfter bar barIdx regime c).prices = c.prices := by
  unfold cellAfter
  split
  · rw [prices_cellTriedToOpen, prices_cellTriedToClose]
  · rw [prices_cellTriedToClose, prices_cellTriedToOpen]

/-- Without slippage, whether a cell is open after a bar. -/
theorem isOpen_cellAfter (h : cfg.slippagePct = 0) (bar : Candle) (barIdx : ℕ)
    (regime : MarketRegime) (c : CellState) :
    (cfg.cellAfter bar barIdx regime c).isOpen =
      if cfg.movesToExit bar then
        c.isOpen && !bar.touches c.exitPrice ||
          bar.touches c.entryPrice && cfg.canOpenAt c.entryPrice
      else
        (c.isOpen || bar.touches c.entryPrice && cfg.canOpenAt c.entryPrice) &&
          !bar.touches c.exitPrice := by
  unfold cellAfter
  split
  · have hentry : (cfg.cellTriedToClose bar barIdx regime c).entryPrice = c.entryPrice :=
      congrArg Prod.fst (prices_cellTriedToClose cfg bar barIdx regime c)
    rw [isOpen_cellTriedToOpen h, isOpen_cellTriedToClose, hentry]
  · have hexit : (cfg.cellTriedToOpen bar barIdx c).exitPrice = c.exitPrice :=
      congrArg Prod.snd (prices_cellTriedToOpen cfg bar barIdx c)
    rw [isOpen_cellTriedToClose, isOpen_cellTriedToOpen h, hexit]

end GridBacktestConfig

/-! ### The cells of the controller -/

section Live

variable {cfg : GridBacktestConfig} {g : GridState} {bar : Candle} {fees : OrderRequest → ℚ}
  {p r : ℚ} {blocked : Bool} {place : ℕ} {entry exit : GridLevelState}

/-- A tick at the close of a monotone bar crosses a level in the direction of the bar. -/
theorem opensAt_eq (h : bar.IsMonotone) (hlong : cfg.isLong = decide (g.direction = .long))
    (level : ℚ) :
    g.opensAt bar.closePrice bar.openPrice level =
      (bar.crosses level && !cfg.movesToExit bar) := by
  obtain ⟨hlow, hhigh⟩ := h
  unfold GridState.opensAt crossed Candle.crosses Candle.touches
    GridBacktestConfig.movesToExit Candle.isUp
  rw [hlow, hhigh, hlong]
  grind

theorem closesAt_eq (h : bar.IsMonotone) (hlong : cfg.isLong = decide (g.direction = .long))
    (level : ℚ) :
    g.closesAt bar.closePrice bar.openPrice level =
      (bar.crosses level && cfg.movesToExit bar) := by
  obtain ⟨hlow, hhigh⟩ := h
  unfold GridState.closesAt crossed Candle.crosses Candle.touches
    GridBacktestConfig.movesToExit Candle.isUp
  rw [hlow, hhigh, hlong]
  grind

/-- A level that is filled holds something. -/
def GridLevelState.HoldsSome (l : GridLevelState) : Prop := l.isFilled = true → 0 < l.quantity

/-- The fill of a closed cell opens it, when there is a quantity to open it with. -/
theorem fillChange_opening (fees : OrderRequest → ℚ) (g : GridState) (place : ℕ)
    (exit : GridLevelState) (hentry : entry.isFilled = false) :
    (fillChange fees g entry (cellFill place entry exit)).after.HoldsSome ∧
      (fillChange fees g entry (cellFill place entry exit)).after.isFilled =
        decide (0 < g.parameters.positionSize ∧ 0 < entry.price) := by
  unfold fillChange levelOrder fillQuantity
  by_cases hsize : 0 < g.parameters.positionSize
  · by_cases hprice : 0 < entry.price
    · have hquantity := div_pos hsize hprice
      simp [cellFill, hentry, openedLevel, GridLevelState.HoldsSome, not_le.2, hsize, hprice,
        hquantity]
    · have hquantity := div_nonpos_of_nonneg_of_nonpos hsize.le (not_lt.1 hprice)
      simp [cellFill, hentry, GridLevelState.HoldsSome, not_le.2, hsize, hprice, hquantity]
  · simp [cellFill, hentry, GridLevelState.HoldsSome, hsize, not_lt.1 hsize]

/-- The fill of an open cell closes it. -/
theorem fillChange_closing (fees : OrderRequest → ℚ) (g : GridState) (place : ℕ)
    (exit : GridLevelState) (hentry : entry.isFilled = true) (hheld : entry.HoldsSome) :
    (fillChange fees g entry (cellFill place entry exit)).after.isFilled = false := by
  have hquantity := hheld hentry
  have heps := gridEpsilon_pos
  simp [fillChange, levelOrder, fillQuantity, cellFill, hentry, closedLevel, not_le.2 hquantity,
    heps.le]

/-- Whether a cell is open after a tick. -/
theorem isFilled_tickChange (fees : OrderRequest → ℚ) (g : GridState) (r p : ℚ)
    (blocked : Bool) (exit : GridLevelState) (hheld : entry.HoldsSome) :
    (tickChange fees g r p blocked entry exit).after.HoldsSome ∧
      (tickChange fees g r p blocked entry exit).after.isFilled =
        if entry.isFilled then !g.closesAt r p exit.price
        else g.opensAt r p entry.price && !blocked &&
          decide (0 < g.parameters.positionSize ∧ 0 < entry.price) := by
  unfold tickChange GridState.fires
  cases hentry : entry.isFilled with
  | true =>
      cases hcloses : g.closesAt r p exit.price with
      | false => simpa using ⟨hheld, hentry⟩
      | true =>
          have hclosed := fillChange_closing fees g 0 exit hentry hheld
          simp [GridLevelState.HoldsSome, hclosed]
  | false =>
      cases hopens : g.opensAt r p entry.price && !blocked with
      | false => simp [GridLevelState.HoldsSome, hentry]
      | true =>
          simp only [Bool.false_eq_true, if_false, if_true, Bool.true_and]
          exact fillChange_opening fees g 0 exit hentry

end Live

/-! ### The invariant -/

/-- The levels and the cells are those of the parameters, what is open can be opened, and a
filled level holds something. -/
structure Aligned (cfg : GridBacktestConfig) (s : SideBySide) : Prop where
  active : s.live.grid.isActive = true
  direction : s.live.grid.direction = cfg.parameters.longOrShort
  size : s.live.grid.parameters.positionSize = cfg.parameters.positionSize
  places : ∀ j, (s.live.grid.coreAt j).map GridLevelState.place =
    (cfg.levels[j]?).map fun price => (j, price)
  held : ∀ j, ∀ l ∈ s.live.grid.coreAt j, l.HoldsSome
  prices : s.sim.cells.map CellState.prices = cfg.freshCells.map CellState.prices
  opened : ∀ c ∈ s.sim.cells, c.isOpen = true → cfg.canOpenAt c.entryPrice = true

/-- The places of the entry level and of the exit level of a cell. -/
def GridState.cellAt (g : GridState) (i : ℕ) : ℕ × ℕ :=
  if g.direction = .long then (i, i + 1) else (i + 1, i)

theorem GridState.cellAt_fst (g : GridState) (i : ℕ) : (g.cellAt i).1 = g.entryPlace i := by
  unfold cellAt entryPlace
  split <;> rfl

theorem GridState.isOpenAt_eq (g : GridState) (i : ℕ) :
    g.isOpenAt i = (decide (i + 1 < g.levels.length) &&
      (g.coreAt (g.cellAt i).1).any GridLevelState.isFilled) := by
  rw [isOpenAt, cellAt_fst, coreAt, Option.any_map]
  rfl

section Aligned

variable {cfg : GridBacktestConfig} {s : SideBySide} {g : GridState} {i : ℕ}

theorem getElem?_freshCells (cfg : GridBacktestConfig) (i : ℕ) :
    (cfg.freshCells[i]?).map CellState.prices =
      (cfg.levels[i]?).bind fun lower => (cfg.levels[i + 1]?).map fun upper =>
        if cfg.isLong then (lower, upper) else (upper, lower) := by
  unfold GridBacktestConfig.freshCells
  rw [List.getElem?_map, List.getElem?_zipIdx, List.zip, List.getElem?_zipWith,
    List.getElem?_tail]
  cases cfg.levels[i]? with
  | none => rfl
  | some lower =>
      cases cfg.levels[i + 1]? with
      | none => rfl
      | some upper => cases cfg.isLong <;> rfl

namespace Aligned

theorem isLong (h : Aligned cfg s) : cfg.isLong = decide (s.live.grid.direction = .long) := by
  rw [GridBacktestConfig.isLong, h.direction]

theorem length_levels (h : Aligned cfg s) : s.live.grid.levels.length = cfg.levels.length := by
  have hsame : ∀ j, s.live.grid.levels.length ≤ j ↔ cfg.levels.length ≤ j := by
    intro j
    have hplace := h.places j
    rw [← List.getElem?_eq_none_iff, ← List.getElem?_eq_none_iff]
    constructor
    · intro hj
      simpa [GridState.coreAt, hj] using hplace.symm
    · intro hj
      simpa [GridState.coreAt, hj] using hplace
  have hlive := hsame s.live.grid.levels.length
  have hsim := hsame cfg.levels.length
  omega

/-- A level of the grid. -/
theorem exists_coreAt (h : Aligned cfg s) {j : ℕ} {price : ℚ} (hj : cfg.levels[j]? = some price) :
    ∃ l, s.live.grid.coreAt j = some l ∧ l.price = price := by
  have hplace := h.places j
  rw [hj, Option.map_some] at hplace
  obtain ⟨l, hl, hlplace⟩ := Option.map_eq_some_iff.1 hplace
  exact ⟨l, hl, congrArg Prod.snd hlplace⟩

/-- A cell of the simulator and its levels in the grid, or none of them. -/
theorem cell (h : Aligned cfg s) (i : ℕ) :
    (s.live.grid.levels.length ≤ i + 1 ∧ s.sim.cells[i]? = none) ∨
      (i + 1 < s.live.grid.levels.length ∧ ∃ c entry exit, s.sim.cells[i]? = some c ∧
        s.live.grid.coreAt (s.live.grid.cellAt i).1 = some entry ∧
        s.live.grid.coreAt (s.live.grid.cellAt i).2 = some exit ∧
        entry.price = c.entryPrice ∧ exit.price = c.exitPrice) := by
  have hprices : (s.sim.cells[i]?).map CellState.prices =
      (cfg.freshCells[i]?).map CellState.prices := by
    rw [← List.getElem?_map, h.prices, List.getElem?_map]
  rw [getElem?_freshCells] at hprices
  rw [h.length_levels]
  by_cases hi : i + 1 < cfg.levels.length
  · right
    have hlower := List.getElem?_eq_getElem (Nat.lt_of_succ_lt hi)
    have hupper := List.getElem?_eq_getElem hi
    rw [hlower, hupper, Option.bind_some, Option.map_some] at hprices
    obtain ⟨c, hc, hcprices⟩ := Option.map_eq_some_iff.1 hprices
    obtain ⟨l, hl, hlprice⟩ := h.exists_coreAt hlower
    obtain ⟨u, hu, huprice⟩ := h.exists_coreAt hupper
    rw [h.isLong] at hcprices
    unfold GridState.cellAt
    refine ⟨hi, c, ?_⟩
    by_cases hlong : s.live.grid.direction = .long
    · rw [decide_eq_true hlong, if_pos rfl] at hcprices
      rw [if_pos hlong]
      exact ⟨l, u, hc, hl, hu, hlprice.trans (congrArg Prod.fst hcprices).symm,
        huprice.trans (congrArg Prod.snd hcprices).symm⟩
    · rw [decide_eq_false hlong, if_neg Bool.false_ne_true] at hcprices
      rw [if_neg hlong]
      exact ⟨u, l, hc, hu, hl, huprice.trans (congrArg Prod.fst hcprices).symm,
        hlprice.trans (congrArg Prod.snd hcprices).symm⟩
  · left
    have hupper : cfg.levels[i + 1]? = none := List.getElem?_eq_none (not_lt.1 hi)
    rw [hupper] at hprices
    refine ⟨not_lt.1 hi, ?_⟩
    cases hlower : cfg.levels[i]? with
    | none => simpa [hlower] using hprices
    | some lower => simpa [hlower] using hprices

/-- The grid has its levels in the order of their indices. -/
theorem inOrder (h : Aligned cfg s) : s.live.grid.InOrder := by
  refine List.ext_getElem? fun j => ?_
  have hplace := congrArg (Option.map Prod.fst) (h.places j)
  simp only [GridState.coreAt, Option.map_map] at hplace
  rw [List.getElem?_map, h.length_levels]
  refine hplace.trans ?_
  by_cases hj : j < cfg.levels.length
  · simp [hj]
  · simp [hj]

theorem cellAt_mem_tickCells (h : Aligned cfg s) (hi : i + 1 < s.live.grid.levels.length) :
    s.live.grid.cellAt i ∈ tickCells s.live.grid :=
  h.inOrder.mem_tickCells_iff.2 ⟨i, hi, rfl⟩

end Aligned

/-! ### One bar -/

/-- What a bar does to the two. -/
structure BarStep (cfg : GridBacktestConfig) (s : SideBySide) (a : BarTick) (t : SideBySide) :
    Prop where
  monotone : a.bar.IsMonotone
  sim : t.sim.cells = s.sim.cells.map (cfg.cellAfter a.bar s.barIdx a.regime)
  live : TicksCells a.fees a.bar.closePrice a.bar.openPrice a.call.blocked
    (tickCells s.live.grid) s.live.grid t.live.grid

variable {a : BarTick} {t : SideBySide}

theorem Aligned.barStep (h : Aligned cfg s) (hnext : (sideBySideMachine cfg).next s a = some t) :
    BarStep cfg s a t := by
  simp only [sideBySideMachine] at hnext
  split at hnext
  · cases hnext
  next r hsim =>
    split at hnext
    next hbar =>
      obtain rfl := Option.some.inj hnext
      obtain ⟨w, hw, -, hticks⟩ := onPriceTick_fillsAll a.fills h.active a.bar.closePrice
      rw [hbar.1, Option.getD_some] at hticks
      refine ⟨hbar.2, GridBacktestConfig.cells_of_simulateBar hsim, ?_⟩
      rw [hw]
      exact hticks
    · cases hnext

namespace BarStep

/-- The entry level of a cell after the tick. -/
theorem coreAt_cellAt (hstep : BarStep cfg s a t) (h : Aligned cfg s) {entry exit : GridLevelState}
    (hi : i + 1 < s.live.grid.levels.length)
    (hentry : s.live.grid.coreAt (s.live.grid.cellAt i).1 = some entry)
    (hexit : s.live.grid.coreAt (s.live.grid.cellAt i).2 = some exit) :
    t.live.grid.coreAt (s.live.grid.cellAt i).1 =
      some (tickChange a.fees s.live.grid a.bar.closePrice a.bar.openPrice a.call.blocked entry
        exit).after := by
  rw [hstep.live.level _ (h.cellAt_mem_tickCells hi), cellChange, hentry, hexit]
  rfl

theorem held (hstep : BarStep cfg s a t) (h : Aligned cfg s) (j : ℕ) :
    ∀ l ∈ t.live.grid.coreAt j, l.HoldsSome := by
  intro l hl
  by_cases hj : j ∈ (tickCells s.live.grid).map Prod.fst
  · obtain ⟨cell, hcell, rfl⟩ := List.mem_map.1 hj
    rw [hstep.live.level cell hcell, cellChange, Option.map_map, Option.mem_map] at hl
    obtain ⟨entry, hentry, rfl⟩ := hl
    have hheld := h.held cell.1 entry hentry
    cases hexit : s.live.grid.coreAt cell.2 with
    | none => simpa [hexit] using hheld
    | some exit =>
        have hafter := isFilled_tickChange a.fees s.live.grid a.bar.closePrice a.bar.openPrice
          a.call.blocked exit hheld
        simpa [hexit] using hafter.1
  · rw [hstep.live.frame j hj] at hl
    exact h.held j l hl

theorem aligned (hstep : BarStep cfg s a t) (hslippage : cfg.slippagePct = 0)
    (h : Aligned cfg s) : Aligned cfg t where
  active := by
    rw [GridState.isActive, hstep.live.course.status]
    exact h.active
  direction := by rw [hstep.live.course.orders.direction, h.direction]
  size := by rw [hstep.live.course.orders.parameters, h.size]
  places := fun j => (hstep.live.places j).trans (h.places j)
  held := hstep.held h
  prices := by
    have hprices : CellState.prices ∘ cfg.cellAfter a.bar s.barIdx a.regime =
        CellState.prices :=
      funext fun c => GridBacktestConfig.prices_cellAfter cfg a.bar s.barIdx a.regime c
    rw [hstep.sim, List.map_map, hprices, h.prices]
  opened := by
    intro c hc hopen
    rw [hstep.sim] at hc
    obtain ⟨c, hmem, rfl⟩ := List.mem_map.1 hc
    have hentry : (cfg.cellAfter a.bar s.barIdx a.regime c).entryPrice = c.entryPrice :=
      congrArg Prod.fst (GridBacktestConfig.prices_cellAfter cfg a.bar s.barIdx a.regime c)
    rw [GridBacktestConfig.isOpen_cellAfter hslippage] at hopen
    rw [hentry]
    have hbefore := h.opened c hmem
    grind

end BarStep

/-- A cell that is open in both or in none stays so exactly when the controller follows the
bar. -/
theorem follows_iff {bar : Candle} {blocked : Bool} {c : CellState} (hbar : bar.IsMonotone)
    (hopened : c.isOpen = true → cfg.canOpenAt c.entryPrice = true) :
    ((if c.isOpen then !(bar.crosses c.exitPrice && cfg.movesToExit bar)
        else bar.crosses c.entryPrice && !cfg.movesToExit bar && !blocked &&
          cfg.canOpenAt c.entryPrice) =
      if cfg.movesToExit bar then
        c.isOpen && !bar.touches c.exitPrice ||
          bar.touches c.entryPrice && cfg.canOpenAt c.entryPrice
      else
        (c.isOpen || bar.touches c.entryPrice && cfg.canOpenAt c.entryPrice) &&
          !bar.touches c.exitPrice) ↔
      (cfg.canOpenAt c.entryPrice = true → cfg.Follows bar blocked c) := by
  have htouches : bar.touches bar.openPrice = true := by
    rw [Candle.touches, hbar.low, hbar.high]
    simp
  unfold GridBacktestConfig.Follows Candle.crosses
  cases hcan : cfg.canOpenAt c.entryPrice with
  | false =>
      cases hopen : c.isOpen with
      | false => simp
      | true =>
          rw [hopened hopen] at hcan
          cases hcan
  | true =>
      cases hexit : cfg.movesToExit bar with
      | true => grind
      | false => grind

/-- After a bar the two still have the same open cells exactly when the controller follows
it. -/
theorem Aligned.sameOpenCells_iff (h : Aligned cfg s) (hslippage : cfg.slippagePct = 0)
    (hsame : s.SameOpenCells) (hnext : (sideBySideMachine cfg).next s a = some t) :
    t.SameOpenCells ↔ FollowsBar cfg s a := by
  have hstep := h.barStep hnext
  have haligned := hstep.aligned hslippage h
  have hcell : t.live.grid.cellAt = s.live.grid.cellAt := by
    unfold GridState.cellAt
    rw [hstep.live.course.orders.direction]
  have hlength : t.live.grid.levels.length = s.live.grid.levels.length := by
    rw [haligned.length_levels, h.length_levels]
  have hpoint : ∀ i, t.live.grid.isOpenAt i = t.sim.isOpenAt i ↔
      ∀ c ∈ s.sim.cells[i]?, cfg.canOpenAt c.entryPrice = true →
        cfg.Follows a.bar a.call.blocked c := by
    intro i
    have hbefore := hsame i
    rw [GridState.isOpenAt_eq, GridRun.isOpenAt] at hbefore
    rw [GridState.isOpenAt_eq, GridRun.isOpenAt, hcell, hlength, hstep.sim, List.getElem?_map]
    rcases h.cell i with ⟨hle, hc⟩ | ⟨hi, c, entry, exit, hc, hentry, hexit, hprice, hprice'⟩
    · simp [hc, Nat.not_lt.2 hle]
    · have hheld := h.held _ entry hentry
      have hfilled : entry.isFilled = c.isOpen := by
        simpa [hc, hi, hentry] using hbefore
      obtain ⟨-, hafter⟩ := isFilled_tickChange a.fees s.live.grid a.bar.closePrice
        a.bar.openPrice a.call.blocked exit hheld
      rw [opensAt_eq hstep.monotone h.isLong, closesAt_eq hstep.monotone h.isLong, hfilled,
        hprice, hprice', h.size] at hafter
      rw [hstep.coreAt_cellAt h hi hentry hexit, hc, Option.map_some, Option.any_some,
        Option.any_some, decide_eq_true hi, Bool.true_and, hafter,
        GridBacktestConfig.isOpen_cellAfter hslippage]
      have hopened := h.opened c (List.mem_of_getElem? hc)
      simp only [Option.mem_some_iff, forall_eq']
      exact follows_iff hstep.monotone hopened
  refine (forall_congr' hpoint).trans ⟨fun hall c hc => ?_, fun hall i c hc => ?_⟩
  · obtain ⟨i, hi⟩ := List.mem_iff_getElem?.1 hc
    exact hall i c hi
  · exact hall c (List.mem_of_getElem? hc)

/-! ### Runs -/

theorem isFilled_of_mem_freshLevels {prices : List ℚ} {l : GridLevelState}
    (h : l ∈ freshLevels prices) : l.isFilled = false := by
  obtain ⟨p, -, rfl⟩ := List.mem_map.1 h
  rfl

theorem isOpen_of_mem_freshCells {c : CellState} (h : c ∈ cfg.freshCells) :
    c.isOpen = false := by
  obtain ⟨p, -, rfl⟩ := List.mem_map.1 h
  split <;> rfl

theorem aligned_sideBySideStart (cfg : GridBacktestConfig) (plan : GridPlan)
    (gate : Option LiveVerificationState) : Aligned cfg (sideBySideStart cfg plan gate) where
  active := rfl
  direction := rfl
  size := rfl
  places := fun j => by
    show (((freshLevels cfg.levels)[j]?).map GridLevelState.core).map GridLevelState.place = _
    rw [freshLevels, List.getElem?_map, List.getElem?_zipIdx, Option.map_map, Option.map_map,
      Option.map_map]
    congr 1
    funext price
    simp [GridLevelState.core, GridLevelState.place]
  held := fun j l hl hfilled => by
    obtain ⟨l', hl', rfl⟩ := Option.mem_map.1 hl
    have hfresh := isFilled_of_mem_freshLevels (List.mem_of_getElem? hl')
    rw [GridLevelState.core, hfresh] at hfilled
    cases hfilled
  prices := rfl
  opened := fun c hc hopen => by
    rw [isOpen_of_mem_freshCells hc] at hopen
    cases hopen

theorem sameOpenCells_sideBySideStart (cfg : GridBacktestConfig) (plan : GridPlan)
    (gate : Option LiveVerificationState) : (sideBySideStart cfg plan gate).SameOpenCells := by
  intro i
  have hlive : (sideBySideStart cfg plan gate).live.grid.isOpenAt i = false := by
    rw [GridState.isOpenAt, Bool.and_eq_false_iff]
    right
    cases hl : (sideBySideStart cfg plan gate).live.grid.levels[
        (sideBySideStart cfg plan gate).live.grid.entryPlace i]? with
    | none => rfl
    | some l => exact isFilled_of_mem_freshLevels (List.mem_of_getElem? hl)
  have hsim : (sideBySideStart cfg plan gate).sim.isOpenAt i = false := by
    rw [GridRun.isOpenAt]
    cases hc : (sideBySideStart cfg plan gate).sim.cells[i]? with
    | none => rfl
    | some c => exact isOpen_of_mem_freshCells (List.mem_of_getElem? hc)
  rw [hlive, hsim]

/-- Without slippage, the controller and the simulator have the same open cells after every
bar exactly when the controller follows every bar. -/
theorem along_sameOpenCells_iff (cfg : GridBacktestConfig) (hslippage : cfg.slippagePct = 0)
    (plan : GridPlan) (gate : Option LiveVerificationState) (bars : List BarTick)
    (hrun : (sideBySideMachine cfg).run (sideBySideStart cfg plan gate) bars = some t) :
    (sideBySideMachine cfg).Along SideBySide.SameOpenCells (sideBySideStart cfg plan gate) bars ↔
      (sideBySideMachine cfg).Guarded (FollowsBar cfg) (sideBySideStart cfg plan gate) bars :=
  (sideBySideMachine cfg).along_iff_guarded
    (fun _ _ _ h hnext => (h.barStep hnext).aligned hslippage h)
    (fun _ _ _ h hsame hnext => h.sameOpenCells_iff hslippage hsame hnext)
    (aligned_sideBySideStart cfg plan gate) (sameOpenCells_sideBySideStart cfg plan gate) hrun

end Aligned

/-! ### What `run` returns -/

section Returns

variable {cfg : GridBacktestConfig} {s t : SideBySide} {bars : List BarTick} {a b : BarTick}

/-- The loop of `run` over bars that trigger no forced exit. -/
theorem simulateBars_of_run {startTime : Timestamp} {regime : ℕ → MarketRegime}
    (hstart : ∀ a ∈ bars.head?, s.startTime.getD a.bar.timestamp = startTime)
    (hregime : ∀ k a, bars[k]? = some a → a.regime = regime (s.barIdx + k))
    (hrun : (sideBySideMachine cfg).run s bars = some t) :
    cfg.simulateBars startTime regime s.barIdx (bars.map BarTick.bar) s.sim = (t.sim, none) := by
  induction bars generalizing s with
  | nil =>
      obtain rfl := Option.some.inj hrun
      rfl
  | cons a bars ih =>
      obtain ⟨u, hnext, hrun⟩ := ((sideBySideMachine cfg).run_cons_eq_some_iff).1 hrun
      have hfirst := hstart a rfl
      have hregime₀ := hregime 0 a rfl
      simp only [sideBySideMachine] at hnext
      split at hnext
      · cases hnext
      next r hsim =>
        split at hnext
        next hbar =>
          obtain rfl := Option.some.inj hnext
          rw [hfirst, hregime₀, Nat.add_zero] at hsim
          rw [List.map_cons, GridBacktestConfig.simulateBars, hsim]
          refine ih (fun a' _ => hfirst) (fun k a' hk => ?_) hrun
          rw [hregime (k + 1) a' hk, Nat.add_assoc, Nat.add_comm 1 k]
        · cases hnext

/-- What `run` returns for bars that trigger no forced exit. -/
theorem run_eq_finishRun (plan : GridPlan) (gate : Option LiveVerificationState)
    (hregime : ∀ k c, (a :: b :: bars)[k]? = some c →
      c.regime = cfg.regimes ((a :: b :: bars).map BarTick.bar) k)
    (hrun : (sideBySideMachine cfg).run (sideBySideStart cfg plan gate) (a :: b :: bars) =
      some t) :
    cfg.run ((a :: b :: bars).map BarTick.bar) =
      cfg.finishRun ((bars.map BarTick.bar).getLastD b.bar) (bars.length + 1)
        (cfg.regimes ((a :: b :: bars).map BarTick.bar) (bars.length + 1)) t.sim := by
  have hbars : cfg.simulateBars a.bar.timestamp
      (cfg.regimes ((a :: b :: bars).map BarTick.bar)) 0 ((a :: b :: bars).map BarTick.bar)
      cfg.runStart = (t.sim, none) := by
    refine simulateBars_of_run (fun c hc => ?_) (fun k c hk => ?_) hrun
    · obtain rfl := Option.some.inj hc
      rfl
    · rw [hregime k c hk]
      exact congrArg _ (Nat.zero_add k).symm
  rw [List.map_cons, List.map_cons] at hbars ⊢
  rw [GridBacktestConfig.run, hbars]
  simp

end Returns

/-! ### Bars for the example grid -/

/-- One cell between 90 and 100, without slippage. -/
def GridBacktestConfig.btc : GridBacktestConfig where
  symbol := "BTC/USDT"
  timeframe := "1h"
  strategyName := "futures_grid"
  parameters :=
    { gridLowerPrice := 90
      gridUpperPrice := 100
      gridCount := 2
      longOrShort := .long
      positionSize := 90
      lower_pos := by decide
      lower_lt_upper := by decide
      two_le_gridCount := by decide
      one_le_leverage := FuturesGridParameters.one_le_default
      not_neutral := by decide }
  slippagePct := 0
  ratioPower := fun _ _ _ => 1
  regimes := fun _ _ => .unknown

/-- A monotone bar. -/
def Candle.btc (openPrice closePrice : ℚ) : Candle where
  symbol := btcUsdt
  timestamp := 0
  timeframe := "1h"
  openPrice := openPrice
  high := max openPrice closePrice
  low := min openPrice closePrice
  closePrice := closePrice
  highGteLow := min_le_max

/-- The bar with a tick whose orders are filled completely. -/
def BarTick.btc (openPrice closePrice : ℚ) : BarTick where
  bar := .btc openPrice closePrice
  regime := .unknown
  call := .completely
  fees := fun _ => 0
  fills := fillsAll_completely

theorem along_sameOpenCells_iff_btc :
    (sideBySideMachine .btc).Along SideBySide.SameOpenCells (sideBySideStart .btc .btc none)
        [.btc 95 89, .btc 89 95] ↔
      (sideBySideMachine .btc).Guarded (FollowsBar .btc) (sideBySideStart .btc .btc none)
        [.btc 95 89, .btc 89 95] :=
  along_sameOpenCells_iff .btc rfl .btc none _
    (Option.some_get (x := (sideBySideMachine .btc).run (sideBySideStart .btc .btc none)
      [.btc 95 89, .btc 89 95]) (by decide +kernel)).symm

/-- A bar that rises through the entry price of a closed cell opens it in the simulator
only. -/
theorem not_along_sameOpenCells :
    ¬ ∀ (cfg : GridBacktestConfig) (plan : GridPlan) (gate : Option LiveVerificationState)
      (bars : List BarTick) (t : SideBySide), cfg.slippagePct = 0 →
      (sideBySideMachine cfg).run (sideBySideStart cfg plan gate) bars = some t →
      (sideBySideMachine cfg).Along SideBySide.SameOpenCells (sideBySideStart cfg plan gate)
        bars := by
  intro h
  have hrun : ((sideBySideMachine .btc).run
      (sideBySideStart .btc { GridPlan.btc with currentPrice := 86 } none)
      [.btc 86 95, .btc 95 96]).isSome = true := by decide +kernel
  have halong := h .btc { GridPlan.btc with currentPrice := 86 } none [.btc 86 95, .btc 95 96] _
    rfl (Option.some_get hrun).symm
  have hdiffer : ((sideBySideMachine .btc).next
      (sideBySideStart .btc { GridPlan.btc with currentPrice := 86 } none) (.btc 86 95)).all
      (fun t => t.live.grid.isOpenAt 0 == t.sim.isOpenAt 0) = false := by decide +kernel
  cases hnext : (sideBySideMachine .btc).next
      (sideBySideStart .btc { GridPlan.btc with currentPrice := 86 } none) (.btc 86 95) with
  | none =>
      rw [hnext] at hdiffer
      cases hdiffer
  | some t =>
      have hopen := Machine.Along.start _ (halong.2 t hnext) 0
      rw [hnext, Option.all_some, hopen, beq_self_eq_true] at hdiffer
      cases hdiffer

end Sgr
