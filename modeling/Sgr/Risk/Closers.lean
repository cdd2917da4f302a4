import Sgr.Exchange.PaperAdapter
import Sgr.Execution.Engine.Basic
import Sgr.Portfolio.Tasks

/-!
# The actors that trade one portfolio

The ticks of `PositionProtectionWatchdog` (`sgr/risk/position_protection.py`), the runs
of `PositionLiquidator` over the positions (`sgr/risk/position_liquidator.py`) and the
cycles of the orchestrator (`sgr/orchestrator/engine.py`), with its price updates, in
PAPER mode. Each reads the positions, submits an order and books its fill in turn. The
engine never looks at the portfolio, so `execute` is one suspension here: it ends with
a simulated fill or without a fill.
-/

open Concurrency

namespace Sgr

/-- `_close_position` of the watchdog and of the liquidator: the order that closes a
position as it was read. -/
def closingOrder (p : Position) (reason : Option ExitReason) (id : UUID) : OrderRequest where
  id := id
  signalId := id
  symbol := p.symbol
  side := p.side.closeSide
  orderType := .market
  quantity := p.quantity
  tradingMode := p.tradingMode
  reduceOnly := true
  metadata := { strategy := some p.strategyName, exitReason := reason }

/-- The closing order of the watchdog. -/
def watchdogOrder (p : Position) (reason : ExitReason) : UUID → OrderRequest :=
  closingOrder p (some reason)

/-- The closing order of the liquidator, which gives no exit reason. -/
def liquidationOrder (p : Position) : UUID → OrderRequest := closingOrder p none

/-- `_check_take_profit`. -/
def checkTakeProfit (p : Position) : Option ExitReason :=
  match p.takeProfitPrice with
  | none => none
  | some target =>
      if p.side = .long then if target ≤ p.currentPrice then some .takeProfit else none
      else if p.currentPrice ≤ target then some .takeProfit
      else none

/-- `_check_stop_loss`. -/
def checkStopLoss (p : Position) : Option ExitReason :=
  match p.stopLossPrice with
  | none => none
  | some stop =>
      if p.side = .long then if p.currentPrice ≤ stop then some .stopLoss else none
      else if stop ≤ p.currentPrice then some .stopLoss
      else none

/-- `_check_regime_exit` asks the feature store for the regime of this position. -/
def asksRegime (featureStore : Bool) (p : Position) : Bool :=
  featureStore && p.entryRegime == some .ranging

/-- `_check_regime_exit` on the answer of the feature store; a failed look-up is
`none`. -/
def checkRegimeExit : Option MarketRegime → Option ExitReason
  | none => none
  | some .unknown => none
  | some .ranging => none
  | some _ => some .regimeChange

/-- `_check_max_holding_time`. -/
def checkMaxHoldingTime (p : Position) (now : Timestamp) : Option ExitReason :=
  match p.maxHoldingUntil with
  | none => none
  | some deadline => if deadline ≤ now then some .maxHoldingTime else none

/-- What the actors do not change. -/
structure ActorConfig where
  portfolio : PortfolioConfig
  paper : PaperLimits := {}
  /-- `protection_cutover_at`, as the watchdog reads it. -/
  cutover : Option Timestamp := some 0
  featureStore : Bool := false

/-- What an actor has submitted to the engine. -/
inductive Submission
  /-- A closing order for a position as it was read. -/
  | close (p : Position) (reason : Option ExitReason)
  /-- The order of a cycle. -/
  | trade (o : OrderRequest)

/-- The submitted order. -/
def Submission.order : Submission → UUID → OrderRequest
  | .close p reason, id => closingOrder p reason id
  | .trade o, _ => o

/-- The submitted order is reduce-only. -/
def Submission.reduceOnly (sub : Submission) : Bool := (sub.order 0).reduceOnly

inductive ActorJob
  /-- `check_positions_once`. -/
  | watchdog
  /-- `on_kill_switch_event` over the positions, for an event of the own tenant with
  `close_positions`. -/
  | liquidator
  /-- `run_cycle`. -/
  | cycle
  /-- `update_prices`. -/
  | prices (prices : String → Option ℚ)

/-- The control points of an actor; `rest` are the positions of its copy that it has not
looked at yet. -/
inductive ActorPc
  | idle
  /-- `get_latest_regime` is awaited. -/
  | regime (p : Position) (rest : List Position) (now : Timestamp)
  /-- The cycle awaits its signal and its approval. -/
  | deciding
  /-- `execute` is awaited. -/
  | executing (sub : Submission) (rest : List Position) (now : Timestamp)
  /-- `on_order_filled` is awaited. -/
  | booking (sub : Submission) (pc : FillPc) (rest : List Position) (now : Timestamp)
  | persistingPrices (left : ℕ)
  | done

/-- The ids and times that the booking of a fill takes from the system. -/
structure FillIds where
  order : UUID
  position : UUID
  trade : UUID
  openedAt : Timestamp
  closedAt : Timestamp

/-- What wakes an actor. -/
inductive ActorEvent
  | start (now : Timestamp)
  | regimeAnswer (regime : Option MarketRegime)
  | noTrade
  | approved (o : OrderRequest)
  /-- The order reaches the paper simulation. -/
  | simulated (ticker : Option Ticker) (ids : FillIds)
  /-- `execute` returns without a fill, or raises. -/
  | notFilled
  | resume

section Segments

variable (cfg : ActorConfig)

/-- `_check_one_position` when neither target nor stop is reached and the regime gives
no reason. -/
def holdingExit (p : Position) (rest : List Position) (now : Timestamp)
    (next : ActorPc) : ActorPc :=
  match checkMaxHoldingTime p now with
  | some reason => .executing (.close p (some reason)) rest now
  | none => next

/-- The loop of `check_positions_once` up to its next suspension. -/
def watchdogNext (now : Timestamp) : List Position → ActorPc
  | [] => .done
  | p :: rest =>
      if cfg.cutover.any fun cutover => p.openedAt < cutover then watchdogNext now rest
      else
        match (checkTakeProfit p).or (checkStopLoss p) with
        | some reason => .executing (.close p (some reason)) rest now
        | none =>
            if asksRegime cfg.featureStore p then .regime p rest now
            else holdingExit p rest now (watchdogNext now rest)

/-- The loop of `on_kill_switch_event` over the positions. -/
def liquidatorNext (now : Timestamp) : List Position → ActorPc
  | [] => .done
  | p :: rest => .executing (.close p none) rest now

/-- What an actor does after it is through with one order. -/
def nextOrder (now : Timestamp) (rest : List Position) : ActorJob → ActorPc
  | .watchdog => watchdogNext cfg now rest
  | .liquidator => liquidatorNext now rest
  | _ => .done

/-- The booking of a fill, by the control point of the handler. An exception ends a
liquidator run; the watchdog goes on with its next position. -/
def bookingNext (job : ActorJob) (sub : Submission) (rest : List Position)
    (now : Timestamp) : FillPc → ActorPc
  | .returned => nextOrder cfg now rest job
  | .raised =>
      match job with
      | .watchdog => watchdogNext cfg now rest
      | _ => .done
  | pc => .booking sub pc rest now

/-- The engine hands the order to the paper simulation: it is a PAPER order and passes
the static checks of the preflight. -/
def reachesSimulation (o : OrderRequest) : Bool :=
  decide (o.tradingMode = .paper) && eligible (staticChecks o)

/-- The fill that `execute` returns for a submission. -/
def submittedFill (sub : Submission) (ticker : Option Ticker) (ids : FillIds) :
    Option FillCall :=
  (simulateOrder cfg.paper (sub.order ids.order) ticker).map fun r =>
    { result := attributed (sub.order ids.order) r
      positionId := ids.position
      tradeId := ids.trade
      openedAt := ids.openedAt
      closedAt := ids.closedAt }

/-- The segments of the actors. -/
def actorSegment (job : ActorJob) : Segment PortfolioState ActorPc ActorEvent :=
  fun s pc e =>
    match pc, e with
    | .idle, .start now =>
        match job with
        | .watchdog =>
            if cfg.cutover.isNone then some (s, .done)
            else some (s, watchdogNext cfg now s.positions.values)
        | .liquidator => some (s, liquidatorNext now s.positions.values)
        | .cycle => some (s, .deciding)
        | .prices prices =>
            some (updatePrices prices s, .persistingPrices (repricedCount prices s))
    | .regime p rest now, .regimeAnswer answer =>
        match checkRegimeExit answer with
        | some reason => some (s, .executing (.close p (some reason)) rest now)
        | none => some (s, holdingExit p rest now (watchdogNext cfg now rest))
    | .deciding, .noTrade => some (s, .done)
    -- the order as the engine quantises it; `build_order_request` leaves `reduce_only`
    -- at its default
    | .deciding, .approved o => some (s, .executing (.trade { o with reduceOnly := false }) [] 0)
    | .executing sub rest now, .simulated ticker ids =>
        if reachesSimulation (sub.order ids.order) then
          match submittedFill cfg sub ticker ids with
          | none => some (s, nextOrder cfg now rest job)
          | some f =>
              some ((fillStart cfg.portfolio f s).1,
                bookingNext cfg job sub rest now (fillStart cfg.portfolio f s).2)
        else none
    | .executing _ rest now, .notFilled => some (s, nextOrder cfg now rest job)
    | .booking sub pc rest now, .resume =>
        (fillResume cfg.portfolio s pc).map fun r =>
          (r.1, bookingNext cfg job sub rest now r.2)
    | .persistingPrices (n + 1), .resume => some (s, .persistingPrices n)
    | _, _ => none

end Segments

/-- The actors of one portfolio as one machine. -/
abbrev actorMachine {ι : Type*} [DecidableEq ι] (cfg : ActorConfig) (job : ι → ActorJob) :
    Machine (Pool ι PortfolioState ActorPc) (ι × ActorEvent) :=
  Pool.machine fun i => actorSegment cfg (job i)

/-- The pool in which no actor has started. -/
def actorStart {ι : Type*} (s : PortfolioState) : Pool ι PortfolioState ActorPc :=
  ⟨s, fun _ => .idle⟩

end Sgr
