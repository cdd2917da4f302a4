import Mathlib.Data.List.Sort
import Sgr.Concurrency.Pool
import Sgr.Grid.CloseGrid

/-!
# Concurrent calls on a grid

`on_price_tick`, `close_grid` and `monitor_grids` of `sgr/execution/grid_controller.py` as
tasks that share one grid. A call suspends in `_fill_level`, at the rate limiter, at the
engine and at the two writes of the repository, and at its end, when it persists the grid.
The writes go to the fill ledger and to the row of the grid (`GridRepository` of
`sgr/core/repositories.py`).

`booked` is a ghost that records the fills that the calls have booked on the grid.
-/

open Concurrency

namespace Sgr

/-- The set-up of a controller. -/
structure GridConfig where
  /-- `_rate_limiter` is given. -/
  rateLimiter : Bool
  /-- `_grid_repo` is given. -/
  repository : Bool
  /-- What a `Numeric(28, 8)` column keeps of a number. -/
  column : ℚ → ℚ

/-- A call of `_fill_level` for the level at a place of the list. -/
structure LevelFill where
  place : ℕ
  price : ℚ
  opening : Bool
  fillType : String
  deriving DecidableEq

/-- A row of the fill ledger. The fees and the profit are not columns of it: they are
ghosts that say what the fill has brought. -/
structure LedgerFill where
  levelIndex : ℕ
  price : ℚ
  side : Side
  quantity : ℚ
  isOpening : Bool
  filledAt : Timestamp
  orderId : Option UUID
  fees : ℚ
  cyclePnl : ℚ

/-- A fill that is booked on a grid. -/
structure LevelBooking where
  place : ℕ
  opening : Bool
  quantity : ℚ

/-- What the calls on a grid share. -/
structure GridShared where
  work : GridWork
  /-- The rows of the fill ledger, in the order in which they were written. -/
  ledger : List LedgerFill
  /-- The row of the grid. -/
  row : Option GridState
  booked : List LevelBooking

/-! ### The loops -/

/-- The loop that a call is in, with what it has read before. -/
inductive GridLoop
  | tick (price previous : ℚ) (blocked : Bool)
  | close (reason : String) (price : ℚ) (force : Bool)

/-- A loop with the cells that it has still to go through: the places of the level to fill
and of the level that gives the exit price. -/
structure GridFrame where
  loop : GridLoop
  rest : List (ℕ × ℕ)

/-- `_crossed`. -/
def crossed (price previous level : ℚ) : Bool :=
  if price < previous then decide (price ≤ level ∧ level < previous)
  else if previous < price then decide (previous < level ∧ level ≤ price)
  else false

/-- The index of the level at a place. -/
def GridState.indexAt (g : GridState) (i : ℕ) : ℕ :=
  (g.levels[i]?).elim 0 GridLevelState.index

/-- The places of the levels in the order of their indices. -/
def sortedPlaces (g : GridState) : List ℕ :=
  (List.range g.levels.length).insertionSort fun i j => g.indexAt i ≤ g.indexAt j

/-- The cells of `on_price_tick`. -/
def tickCells (g : GridState) : List (ℕ × ℕ) :=
  ((sortedPlaces g).zip (sortedPlaces g).tail).map fun c =>
    if g.direction = .long then c else c.swap

/-- The cells of `close_grid`. -/
def closeCells (g : GridState) : List (ℕ × ℕ) :=
  (List.range g.levels.length).map fun i => (i, i)

/-- What `on_price_tick` does with a cell. -/
def tickFill (g : GridState) (price previous : ℚ) (blocked : Bool) (place : ℕ)
    (entry exit : GridLevelState) : Option LevelFill :=
  let down := decide (price < previous)
  let up := decide (previous < price)
  let long := decide (g.direction = .long)
  if !entry.isFilled && crossed price previous entry.price && !blocked &&
      (if long then down else up) then
    some ⟨place, entry.price, true, gridFillTypeLevelCross⟩
  else if entry.isFilled && crossed price previous exit.price &&
      (if long then up else down) then
    some ⟨place, exit.price, false, gridFillTypeLevelCross⟩
  else none

/-- The call of `_fill_level` that a loop makes for a cell. -/
def GridLoop.fill (loop : GridLoop) (g : GridState) (cell : ℕ × ℕ) : Option LevelFill :=
  match g.levels[cell.1]?, g.levels[cell.2]? with
  | some entry, some exit =>
      match loop with
      | .tick price previous blocked =>
          tickFill g price previous blocked cell.1 entry exit
      | .close _ price force =>
          if entry.isFilled then some ⟨cell.1, price, false, closeFillType force⟩ else none
  | _, _ => none

/-- The order of a call of `_fill_level`. -/
def LevelFill.order (f : LevelFill) (g : GridState) (id : UUID) : Option OrderRequest :=
  (g.levels[f.place]?).bind fun l => levelOrder g l f.price f.opening f.fillType id

/-- What a call does after its loop, up to the persistence of the grid. -/
def GridLoop.finish (loop : GridLoop) (now : Timestamp) (g : GridState) : GridState :=
  match loop with
  | .tick price _ _ => updateMarkToMarket { g with lastPrice := some price } price
  | .close reason price _ =>
      updateMarkToMarket
        { g with status := .closed, closedAt := some now, closeReason := some reason } price

/-! ### The suspension points -/

/-- What follows when `_persist` returns. -/
inductive GridNext
  /-- The rest of `_fill_level` and the loop. -/
  | loop (f : LevelFill) (k : GridFrame)
  | done

/-- The control points of a call. -/
inductive GridPc
  | idle
  /-- `acquire`. -/
  | limiting (f : LevelFill) (o : OrderRequest) (k : GridFrame)
  /-- `execute`. -/
  | executing (f : LevelFill) (o : OrderRequest) (k : GridFrame)
  /-- `record_level_fill`. -/
  | recording (f : LevelFill) (o : OrderRequest) (r : OrderResult) (quantity : ℚ)
      (now : Timestamp) (k : GridFrame)
  /-- The write of `record_level_fill` has ended. -/
  | recorded (f : LevelFill) (o : OrderRequest) (r : OrderResult) (quantity : ℚ)
      (now : Timestamp) (k : GridFrame)
  /-- `upsert` waits for the row of the grid. -/
  | reading (n : GridNext)
  /-- `upsert` writes the values that it has read. -/
  | writing (row : GridState) (n : GridNext)
  /-- `upsert` has ended. -/
  | persisted (n : GridNext)
  | returned
  | raised

/-- What a call waits for. -/
inductive GridEvent
  /-- The call is made; the flag says that the symbol is deactivated. -/
  | called (blocked : Bool)
  | limited (allowed : Bool)
  | executed (answer : ExecuteAnswer)
  /-- The database goes on with the call: it reads, or commits what is written. -/
  | served
  /-- The database gives the call up. -/
  | failed
  | resumed

/-- An event, with the id of the next order and the time. -/
structure GridWake where
  event : GridEvent
  id : UUID := 0
  now : Timestamp := 0

namespace GridShared

variable (cfg : GridConfig)

def grid (s : GridShared) : GridState := s.work.grid

/-- The shared state with another grid. -/
def setGrid (s : GridShared) (g : GridState) : GridShared :=
  { s with work := { s.work with grid := g } }

/-- A loop up to its next suspension. -/
def advance (id : UUID) (now : Timestamp) (s : GridShared) (loop : GridLoop) :
    List (ℕ × ℕ) → GridShared × GridPc
  | [] => (s.setGrid (loop.finish now s.grid),
      if cfg.repository then .reading .done else .returned)
  | cell :: rest =>
      match (loop.fill s.grid cell).bind fun f =>
        (f.order s.grid id).map fun o => (f, o) with
      | none => advance id now s loop rest
      | some (f, o) =>
          (s, if cfg.rateLimiter then .limiting f o ⟨loop, rest⟩
            else .executing f o ⟨loop, rest⟩)

/-- The mutation of `_fill_level`. -/
def book (s : GridShared) (f : LevelFill) (quantity : ℚ) (r : OrderResult)
    (now : Timestamp) : GridShared :=
  match s.grid.levels[f.place]? with
  | none => s
  | some l =>
      { s with
        work :=
          { grid := bookFill s.grid f.place l f.price f.opening quantity r now
            gate :=
              if !f.opening ∧ r.tradingMode = .live then
                s.work.gate.map fun gate =>
                  gate.recordRealizedLoss (-cyclePnl s.grid l f.price quantity r)
              else s.work.gate }
        booked := ⟨f.place, f.opening, quantity⟩ :: s.booked }

/-- The row that `record_level_fill` writes. -/
def ledgerFill (s : GridShared) (f : LevelFill) (o : OrderRequest) (r : OrderResult)
    (quantity : ℚ) (now : Timestamp) : Option LedgerFill :=
  (s.grid.levels[f.place]?).map fun l =>
    { levelIndex := l.index
      price := f.price
      side := o.side
      quantity := cfg.column quantity
      isOpening := f.opening
      filledAt := now
      orderId := some o.id
      fees := r.fees
      cyclePnl := if f.opening then 0 else cyclePnl s.grid l f.price quantity r }

/-- The rest of `_fill_level` after its `_persist`, and the loop. -/
def afterPersist (id : UUID) (now : Timestamp) (s : GridShared) (f : LevelFill)
    (k : GridFrame) : GridShared × GridPc :=
  (s.setGrid (updateMarkToMarket s.grid f.price)).advance cfg id now k.loop k.rest

/-- `_fill_level` from the end of `record_level_fill` on. -/
def afterRecord (id : UUID) (now : Timestamp) (s : GridShared) (f : LevelFill)
    (r : OrderResult) (quantity : ℚ) (filledAt : Timestamp) (k : GridFrame) :
    GridShared × GridPc :=
  if cfg.repository then (s.book f quantity r filledAt, .reading (.loop f k))
  else (s.book f quantity r filledAt).afterPersist cfg id now f k

/-- `on_price_tick` up to its first suspension. -/
def tick (id : UUID) (now : Timestamp) (s : GridShared) (blocked : Bool) (price : ℚ) :
    GridShared × GridPc :=
  if s.grid.isActive then
    s.advance cfg id now (.tick price (s.grid.lastPrice.getD price) blocked)
      (tickCells s.grid)
  else (s, .returned)

/-- `close_grid` up to its first suspension. -/
def close (id : UUID) (now : Timestamp) (s : GridShared) (reason : String) (price : ℚ)
    (force : Bool) : GridShared × GridPc :=
  if s.grid.isActive then
    (s.setGrid { s.grid with status := .closing }).advance cfg id now
      (.close reason price force) (closeCells s.grid)
  else (s, .returned)

end GridShared

/-- What a call reads of the columns of the row that it writes. -/
def GridState.stored (cfg : GridConfig) (g : GridState) : GridState :=
  { g with
    netPositionQty := cfg.column g.netPositionQty
    realizedPnl := cfg.column g.realizedPnl
    unrealizedPnl := cfg.column g.unrealizedPnl
    peakValue := cfg.column g.peakValue
    feesPaid := cfg.column g.feesPaid
    lastPrice := g.lastPrice.map cfg.column }

/-- A call on the grid. -/
inductive GridJob
  /-- The end of `open_grid`, which persists the grid. -/
  | opened
  | tick (price : ℚ)
  | close (reason : String) (price : ℚ) (force : Bool)
  /-- The grid's turn in `monitor_grids`, with the codes of the hard violations that
  `check_ongoing_grid` finds. -/
  | monitor (price : ℚ) (violated : GridState → Option String)

/-- A call up to its first suspension. -/
def gridCall (cfg : GridConfig) (job : GridJob) (id : UUID) (now : Timestamp)
    (s : GridShared) (blocked : Bool) : GridShared × GridPc :=
  match job with
  | .opened => (s, if cfg.repository then .reading .done else .returned)
  | .tick price => s.tick cfg id now blocked price
  | .close reason price force => s.close cfg id now reason price force
  | .monitor price violated =>
      if s.grid.isActive then
        match violated s.grid with
        | some reason => s.close cfg id now reason price true
        | none => s.tick cfg id now blocked price
      else (s, .returned)

/-- A call from one suspension to the next. -/
def gridSegment (cfg : GridConfig) (job : GridJob) :
    Segment GridShared GridPc GridWake := fun s pc w =>
  match pc, w.event with
  | .idle, .called blocked => some (gridCall cfg job w.id w.now s blocked)
  | .limiting f o k, .limited allowed =>
      some (if allowed then (s, .executing f o k)
        else s.advance cfg w.id w.now k.loop k.rest)
  | .executing _ _ _, .executed .raised => some (s, .raised)
  | .executing f o k, .executed (.returned r) =>
      match acceptedFill r with
      | none => some (s.advance cfg w.id w.now k.loop k.rest)
      | some quantity =>
          some (if cfg.repository then (s, .recording f o r quantity w.now k)
            else s.afterRecord cfg w.id w.now f r quantity w.now k)
  | .recording f o r quantity now k, .served =>
      some ({ s with
        ledger := s.ledger ++ (s.ledgerFill cfg f o r quantity now).toList },
        .recorded f o r quantity now k)
  | .recording f o r quantity now k, .failed => some (s, .recorded f o r quantity now k)
  | .recorded f _ r quantity now k, .resumed =>
      some (s.afterRecord cfg w.id w.now f r quantity now k)
  | .reading n, .served => some (s, .writing (s.grid.stored cfg) n)
  | .reading n, .failed => some (s, .persisted n)
  | .writing row n, .served => some ({ s with row := some row }, .persisted n)
  | .writing _ n, .failed => some (s, .persisted n)
  | .persisted (.loop f k), .resumed => some (s.afterPersist cfg w.id w.now f k)
  | .persisted .done, .resumed => some (s, .returned)
  | _, _ => none

/-- The calls on one grid. -/
abbrev gridMachine {ι : Type*} [DecidableEq ι] (cfg : GridConfig) (job : ι → GridJob) :
    Machine (Pool ι GridShared GridPc) (ι × GridWake) :=
  Pool.machine fun i => gridSegment cfg (job i)

/-! ### Where a call is -/

/-- The loop of `close_grid`. -/
def GridLoop.isClose : GridLoop → Bool
  | .tick _ _ _ => false
  | .close _ _ _ => true

/-- The loop can open a level. -/
def GridLoop.opens : GridLoop → Bool
  | .tick _ _ blocked => !blocked
  | .close _ _ _ => false

theorem GridLoop.opens_of_isClose {loop : GridLoop} (h : loop.isClose = true) :
    loop.opens = false := by
  cases loop with
  | tick => cases h
  | close => rfl

/-- The call of `_fill_level` that a loop makes is about the cell. -/
theorem GridLoop.fill_eq_some {loop : GridLoop} {g : GridState} {cell : ℕ × ℕ}
    {f : LevelFill} (h : loop.fill g cell = some f) :
    f.place = cell.1 ∧ (loop.opens = false → f.opening = false) := by
  unfold GridLoop.fill at h
  split at h
  · cases loop with
    | tick price previous blocked =>
        cases blocked
        · simp only [tickFill] at h
          split_ifs at h <;> cases h <;> exact ⟨rfl, fun hopens => nomatch hopens⟩
        · simp only [tickFill, Bool.not_true, Bool.and_false, Bool.false_and,
            Bool.false_eq_true, if_false] at h
          split_ifs at h <;> cases h <;> exact ⟨rfl, fun _ => rfl⟩
    | close reason price force =>
        dsimp only at h
        split at h
        · cases h
          exact ⟨rfl, fun _ => rfl⟩
        · cases h
  · cases h

namespace GridPc

/-- The loop that a call has still to go on with. -/
def frame : GridPc → Option GridFrame
  | .limiting _ _ k => some k
  | .executing _ _ k => some k
  | .recording _ _ _ _ _ k => some k
  | .recorded _ _ _ _ _ k => some k
  | .reading (.loop _ k) => some k
  | .writing _ (.loop _ k) => some k
  | .persisted (.loop _ k) => some k
  | _ => none

@[simp] theorem frame_writing (row : GridState) (n : GridNext) :
    (writing row n).frame = (reading n).frame := by
  cases n with
  | loop f k => rfl
  | done => rfl

@[simp] theorem frame_persisted (n : GridNext) :
    (persisted n).frame = (reading n).frame := by
  cases n with
  | loop f k => rfl
  | done => rfl

/-- The level that a call is filling; its fill is not booked. -/
def fill : GridPc → Option LevelFill
  | .limiting f _ _ => some f
  | .executing f _ _ => some f
  | .recording f _ _ _ _ _ => some f
  | .recorded f _ _ _ _ _ => some f
  | _ => none

/-- What the order of a call has been filled by. -/
def filled : GridPc → Option ℚ
  | .recording _ _ _ quantity _ _ => some quantity
  | .recorded _ _ _ quantity _ _ => some quantity
  | _ => none

/-- The fill that a call books when it is woken. -/
def books (cfg : GridConfig) : GridPc → GridEvent → Option (LevelFill × ℚ)
  | .recorded f _ _ quantity _ _, .resumed => some (f, quantity)
  | .executing f _ _, .executed (.returned r) =>
      if cfg.repository then none else (acceptedFill r).map fun quantity => (f, quantity)
  | _, _ => none

/-- The level that a call gives up when it is woken: the rate limiter denies its order, or
the order is not filled. -/
def givesUp : GridPc → GridEvent → Option LevelFill
  | .limiting f _ _, .limited false => some f
  | .executing f _ _, .executed (.returned r) =>
      if (acceptedFill r).isSome then none else some f
  | _, _ => none

end GridPc

/-! ### What a segment does -/

/-- What a segment of a call does. A call goes on with its loop when it gives a level up,
when it has booked a fill and when it has persisted one. -/
inductive GridStep (cfg : GridConfig) (s : GridShared) :
    GridPc → GridEvent → GridShared → GridPc → Prop
  | starts (job : GridJob) (blocked : Bool) {id : UUID} {now : Timestamp} :
      GridStep cfg s .idle (.called blocked) (gridCall cfg job id now s blocked).1
        (gridCall cfg job id now s blocked).2
  | admits (f : LevelFill) (o : OrderRequest) (k : GridFrame) :
      GridStep cfg s (.limiting f o k) (.limited true) s (.executing f o k)
  | raises (f : LevelFill) (o : OrderRequest) (k : GridFrame) :
      GridStep cfg s (.executing f o k) (.executed .raised) s .raised
  | leaves {pc : GridPc} {e : GridEvent} {f : LevelFill} {k : GridFrame} {id : UUID}
      {now : Timestamp} (hgives : pc.givesUp e = some f) (hframe : pc.frame = some k)
      (hfill : pc.fill = some f) :
      GridStep cfg s pc e (s.advance cfg id now k.loop k.rest).1
        (s.advance cfg id now k.loop k.rest).2
  | fills (f : LevelFill) (o : OrderRequest) (k : GridFrame) (r : OrderResult)
      (quantity : ℚ) (now : Timestamp) (hrepository : cfg.repository = true)
      (hquantity : acceptedFill r = some quantity) :
      GridStep cfg s (.executing f o k) (.executed (.returned r)) s
        (.recording f o r quantity now k)
  | records (f : LevelFill) (o : OrderRequest) (r : OrderResult) (quantity : ℚ)
      (now : Timestamp) (k : GridFrame) :
      GridStep cfg s (.recording f o r quantity now k) .served
        { s with ledger := s.ledger ++ (s.ledgerFill cfg f o r quantity now).toList }
        (.recorded f o r quantity now k)
  | forgets (f : LevelFill) (o : OrderRequest) (r : OrderResult) (quantity : ℚ)
      (now : Timestamp) (k : GridFrame) :
      GridStep cfg s (.recording f o r quantity now k) .failed s
        (.recorded f o r quantity now k)
  | books (f : LevelFill) (o : OrderRequest) (r : OrderResult) (quantity : ℚ)
      (filledAt : Timestamp) (k : GridFrame) {id : UUID} {now : Timestamp} :
      GridStep cfg s (.recorded f o r quantity filledAt k) .resumed
        (s.afterRecord cfg id now f r quantity filledAt k).1
        (s.afterRecord cfg id now f r quantity filledAt k).2
  | booksUnrecorded (f : LevelFill) (o : OrderRequest) (k : GridFrame) (r : OrderResult)
      (quantity : ℚ) (filledAt : Timestamp) {id : UUID} {now : Timestamp}
      (hrepository : ¬ cfg.repository = true) (hquantity : acceptedFill r = some quantity) :
      GridStep cfg s (.executing f o k) (.executed (.returned r))
        (s.afterRecord cfg id now f r quantity filledAt k).1
        (s.afterRecord cfg id now f r quantity filledAt k).2
  | reads (n : GridNext) :
      GridStep cfg s (.reading n) .served s (.writing (s.grid.stored cfg) n)
  | stores (row : GridState) (n : GridNext) :
      GridStep cfg s (.writing row n) .served { s with row := some row } (.persisted n)
  | unread (n : GridNext) : GridStep cfg s (.reading n) .failed s (.persisted n)
  | unstored (row : GridState) (n : GridNext) :
      GridStep cfg s (.writing row n) .failed s (.persisted n)
  | resumes (f : LevelFill) (k : GridFrame) {id : UUID} {now : Timestamp} :
      GridStep cfg s (.persisted (.loop f k)) .resumed (s.afterPersist cfg id now f k).1
        (s.afterPersist cfg id now f k).2
  | returns : GridStep cfg s (.persisted .done) .resumed s .returned

theorem gridStep_of_segment {cfg : GridConfig} {job : GridJob} {s t : GridShared}
    {pc pc' : GridPc} {w : GridWake} (h : gridSegment cfg job s pc w = some (t, pc')) :
    GridStep cfg s pc w.event t pc' := by
  have hpair : ∀ {e : GridEvent} {c : GridShared × GridPc}, w.event = e →
      some c = some (t, pc') → GridStep cfg s pc e c.1 c.2 →
      GridStep cfg s pc w.event t pc' := by
    rintro e c rfl hc hstep
    rwa [Option.some.inj hc] at hstep
  unfold gridSegment at h
  split at h
  next hevent => exact hpair hevent h (.starts job _)
  next allowed hevent =>
    cases allowed with
    | true => exact hpair hevent h (.admits _ _ _)
    | false => exact hpair hevent h (.leaves rfl rfl rfl)
  next hevent => exact hpair hevent h (.raises _ _ _)
  next hevent =>
    split at h
    next hnone => exact hpair hevent h (.leaves (by simp [GridPc.givesUp, hnone]) rfl rfl)
    next quantity hquantity =>
      split at h
      next hrepository =>
        exact hpair hevent h (.fills _ _ _ _ quantity _ hrepository hquantity)
      next hrepository =>
        exact hpair hevent h (.booksUnrecorded _ _ _ _ quantity _ hrepository hquantity)
  next hevent => exact hpair hevent h (.records _ _ _ _ _ _)
  next hevent => exact hpair hevent h (.forgets _ _ _ _ _ _)
  next hevent => exact hpair hevent h (.books _ _ _ _ _ _)
  next n hevent => exact hpair hevent h (.reads n)
  next n hevent => exact hpair hevent h (.unread n)
  next row n hevent => exact hpair hevent h (.stores row n)
  next row n hevent => exact hpair hevent h (.unstored row n)
  next f k hevent => exact hpair hevent h (.resumes f k)
  next hevent => exact hpair hevent h .returns
  next => cases h

/-! ### The start -/

/-- The levels of a grid at the prices that `compute_levels` gives. -/
def freshLevels (prices : List ℚ) : List GridLevelState :=
  prices.zipIdx.map fun p => { index := p.2, price := p.1 }

/-- What `open_grid` builds a grid from. -/
structure GridPlan where
  id : UUID
  symbol : Symbol
  strategyName : String
  tradingMode : TradingMode
  direction : GridDirection
  parameters : GridParameters
  /-- `compute_levels`. -/
  prices : List ℚ
  currentPrice : ℚ
  openedAt : Timestamp := 0

/-- `_build_grid_state`, with the last price that `open_grid` sets. -/
def buildGridState (plan : GridPlan) : GridState where
  id := plan.id
  exchange := plan.symbol.exchange
  symbol := plan.symbol
  strategyName := plan.strategyName
  tradingMode := plan.tradingMode
  direction := plan.direction
  status := .active
  parameters := plan.parameters
  levels := freshLevels plan.prices
  lastPrice := some plan.currentPrice
  openedAt := plan.openedAt

/-- A grid that `open_grid` has just put into the registry. -/
def gridStart {ι : Type*} (plan : GridPlan) (gate : Option LiveVerificationState) :
    Pool ι GridShared GridPc where
  shared := ⟨⟨buildGridState plan, gate⟩, [], none, []⟩
  task _ := .idle

/-! ### The grid of the examples -/

/-- It buys 1 when the price falls to 90 and sells it at 100. -/
def GridPlan.btc : GridPlan where
  id := 7
  symbol := btcUsdt
  strategyName := "futures_grid"
  tradingMode := .paper
  direction := .long
  parameters := { positionSize := 90 }
  prices := [90, 100]
  currentPrice := 95

/-- An order of 1 that has been filled. -/
def OrderResult.filledOne : OrderResult where
  requestId := 0
  exchangeOrderId := "PAPER-0"
  symbol := btcUsdt
  status := .filled
  filledQuantity := 1
  averageFillPrice := some 90
  tradingMode := .paper
  rawResponse := {}

/-- The call is made. -/
def GridWake.call (id : UUID) : GridWake := ⟨.called false, id, 0⟩

/-- Its order is filled. -/
def GridWake.fill : GridWake := ⟨.executed (.returned .filledOne), 0, 0⟩

/-- A controller without a rate limiter and without a repository. -/
def GridConfig.bare : GridConfig := ⟨false, false, id⟩

end Sgr
