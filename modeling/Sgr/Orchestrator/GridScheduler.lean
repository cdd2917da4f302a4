import Sgr.Grid.Controller
import Sgr.Grid.PriceTick

/-!
# The grid scheduler

`GridScheduler` of `sgr/orchestrator/grid_scheduler.py` over the grids of its controller. A
candle gives the active grid of its symbol a price tick, or else asks the grid strategies
for a new grid. `_open_grid_keys` gets the key of each grid that is opened, and loses
none: so the keys are those of the active grids until one of these is closed, or comes back
after a restart.
-/

open Collection Concurrency

namespace Sgr

/-- `symbol_key`. -/
def Symbol.key (s : Symbol) : String := s.exchange.value ++ ":" ++ s.ccxtSymbol

/-- The symbol key of a grid. -/
def GridState.symbolKey (g : GridState) : String := g.exchange.value ++ ":" ++ g.symbol.ccxtSymbol

/-- `open_key`. -/
def openKey (symbolKey strategyName : String) : String := symbolKey ++ ":" ++ strategyName

/-- The key under which a grid counts as open. -/
def GridState.openKey (g : GridState) : String := Sgr.openKey g.symbolKey g.strategyName

/-- The parameters of a grid decision, with their `long_or_short` and `compute_levels`. -/
structure ProposedGrid where
  longOrShort : GridDirection
  parameters : GridParameters
  prices : List ℚ

/-- `GridDecision`. -/
structure GridDecision where
  direction : GridDirection
  parameters : Option ProposedGrid

/-- The grid that a decision proposes. -/
def GridDecision.proposed (d : GridDecision) : Option ProposedGrid :=
  if d.direction = .neutral then none else d.parameters

/-- A strategy of `get_active_grid_strategies`, with its decision about a candle. -/
structure GridStrategyCall where
  name : String
  decision : GridDecision

/-- What `open_grid` comes to. A grid that passes its checks gets an id. -/
inductive GridOpening
  | approved (id : UUID)
  | rejected
  | raised

/-- A candle, with what its processing takes from outside. -/
structure CandleCall where
  symbol : Symbol
  close : ℚ
  now : Timestamp := 0
  tick : TickCall
  /-- `SymbolKillSwitch.is_active`. -/
  isTradable : Bool := true
  /-- The feature store has features. -/
  hasFeatures : Bool := true
  strategies : List GridStrategyCall := []
  /-- There is an `AccountEligibility`. -/
  hasAccount : Bool := true
  opening : GridOpening := .rejected

/-- The controller with the grid of the id after a price tick; an exception ends there. -/
def GridController.onPriceTick (ctl : GridController) (id : UUID) (tick : TickCall) (price : ℚ) :
    GridController :=
  match ctl.grids.get? id with
  | none => ctl
  | some g => ctl.put (Sgr.onPriceTick tick price ⟨g, ctl.gate⟩).1

/-- The set-up of a scheduler. -/
structure GridSchedulerConfig where
  /-- `GRID_SCHEDULER_ENABLED`. -/
  enabled : Bool
  tradingMode : TradingMode

/-- A scheduler with its controller. -/
structure GridScheduler where
  ctl : GridController
  /-- `_open_grid_keys`. -/
  openGridKeys : List String

namespace GridScheduler

/-- The first active grid with the symbol key. -/
def gridOf (s : GridScheduler) (symbolKey : String) : Option GridState :=
  s.ctl.activeGrids.find? fun g => g.symbolKey = symbolKey

/-- The first strategy that proposes a grid under a key that does not count as open. -/
def proposal (s : GridScheduler) (c : CandleCall) : Option (String × ProposedGrid) :=
  (c.strategies.filter fun strategy =>
    Sgr.openKey c.symbol.key strategy.name ∉ s.openGridKeys).findSome? fun strategy =>
      strategy.decision.proposed.map fun p => (strategy.name, p)

/-- `_process_symbol`. -/
def processSymbol (cfg : GridSchedulerConfig) (c : CandleCall) (s : GridScheduler) :
    GridScheduler :=
  match s.gridOf c.symbol.key with
  | some g => { s with ctl := s.ctl.onPriceTick g.id c.tick c.close }
  | none =>
      if !c.hasFeatures || !c.hasAccount then s
      else
        match s.proposal c, c.opening with
        | some (name, p), .approved id =>
            { ctl :=
                s.ctl.put
                  { grid := buildGridState
                      { id := id
                        symbol := c.symbol
                        strategyName := name
                        tradingMode := cfg.tradingMode
                        direction := p.longOrShort
                        parameters := p.parameters
                        prices := p.prices
                        currentPrice := c.close
                        openedAt := c.now }
                    gate := s.ctl.gate }
              openGridKeys := Sgr.openKey c.symbol.key name :: s.openGridKeys }
        | _, _ => s

/-- `on_candle_event`. -/
def onCandleEvent (cfg : GridSchedulerConfig) (c : CandleCall) (s : GridScheduler) :
    GridScheduler :=
  if !cfg.enabled || !c.isTradable then s else s.processSymbol cfg c

end GridScheduler

/-- What happens to a scheduler and to the grids of its controller. -/
inductive SchedulerEvent
  | candle (c : CandleCall)
  /-- A call of `close_grid`, by the kill switch of the symbol or by the liquidator. -/
  | close (id : UUID) (call : CloseCall) (reason : String) (price : ℚ) (force : Bool)
  /-- A new process, with the grids of the rows that `restore_from_persistence` restores. -/
  | restart (restored : List GridState) (gate : Option LiveVerificationState)

/-- The controller with the restored grids. -/
def GridController.restore (ctl : GridController) (restored : List GridState) : GridController :=
  restored.foldl (fun ctl g => ctl.put ⟨g, ctl.gate⟩) ctl

/-- The id of a new grid has not been given before. -/
def CandleCall.IsFresh (c : CandleCall) (s : GridScheduler) : Prop :=
  match c.opening with
  | .approved id => s.ctl.grids.get? id = none
  | _ => True

instance (c : CandleCall) (s : GridScheduler) : Decidable (c.IsFresh s) := by
  unfold CandleCall.IsFresh
  split
  · infer_instance
  · infer_instance

/-- The runs of a scheduler. -/
def schedulerMachine (cfg : GridSchedulerConfig) : Machine GridScheduler SchedulerEvent where
  next s
    | .candle c => if c.IsFresh s then some (s.onCandleEvent cfg c) else none
    | .close id call reason price force =>
        some { s with ctl := (s.ctl.closeGrid id call reason price force).1 }
    | .restart restored gate =>
        if (restored.map GridState.id).Nodup then
          some ⟨(GridController.init gate).restore restored, []⟩
        else none

namespace GridScheduler

/-- A scheduler that has just been constructed. -/
def start (gate : Option LiveVerificationState) : GridScheduler := ⟨.init gate, []⟩

end GridScheduler

end Sgr
