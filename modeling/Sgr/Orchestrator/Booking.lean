import Sgr.Accounting.Vouchers
import Sgr.Execution.Engine.Results
import Sgr.Risk.Closers

/-!
# Cycles that execute and book

The end of `_run_cycle_internal` of `sgr/orchestrator/engine.py`: `execute` is awaited and
a result that is FILLED or PARTIALLY_FILLED goes to `on_order_filled`. Any number of
cycles share one engine, one portfolio and one `orders` table, in one process and its
successors after crashes. The orders that `place_order` has created on the exchange are
known by the call that has created them; `place_order` can also answer with an order that
an earlier call has created under the same client order id.

`submitted`, `filled`, `about`, `writer` and `booked` are ghosts: they record what the
exchange and the portfolio have done with the orders, and which order a result is about.
-/

open Collection Concurrency

namespace Sgr

/-- A booking of the portfolio. -/
structure BookedFill (ι : Type*) where
  /-- The order of the cycle that books. -/
  id : UUID
  side : Side
  quantity : ℚ
  /-- The call that has created the order on the exchange. -/
  source : ι
  deriving DecidableEq

/-- The control points of a cycle from `execute` on. -/
inductive CyclePc (ι : Type*)
  /-- `execute` runs. -/
  | executing (p : CallPc)
  /-- `on_order_filled` runs on a result about the order that `source` has created. -/
  | booking (source : ι) (pc : FillPc)
  /-- The cycle has ended, or its process has died. -/
  | done

/-- What the cycles share, and where each of them is. -/
structure TradingState (ι : Type*) where
  engine : EngineState
  portfolio : PortfolioState
  task : ι → CyclePc ι
  /-- The calls that have started `place_order`, newest first. -/
  submitted : List ι
  /-- What the exchange has filled of the order that a call has created. -/
  filled : ι → ℚ
  /-- The order that the result of a call is about. -/
  about : ι → Option ι
  /-- The order that the last update of a row is about. -/
  writer : UUID → Option ι
  /-- The bookings, newest first. -/
  booked : List (BookedFill ι)

/-- What can happen next. -/
inductive TradingAction (ι : Type*)
  /-- An event wakes the `execute` call of a cycle; an answer of `place_order` is about
  the order that the call `about` has created. -/
  | wake (i : ι) (e : CallEvent) (ids : FillIds) (about : ι)
  /-- The handler of a cycle goes on. -/
  | book (i : ι)
  /-- The exchange fills more of the order that a call has created. -/
  | fill (i : ι) (quantity : ℚ)
  /-- `update_prices`. -/
  | prices (prices : String → Option ℚ)
  /-- `KillSwitch.trigger` sets the flag. -/
  | trigger
  /-- The process dies and is started again, with what the new process restores. -/
  | crash (killSwitch : Bool) (verification : Option LiveVerificationState)
      (portfolio : PortfolioState)

/-- `on_order_filled` is called for the results with one of these statuses. -/
def OrderStatus.isBooked : OrderStatus → Bool
  | .filled | .partiallyFilled => true
  | _ => false

/-- The call of `on_order_filled` for a result. -/
def FillIds.call (ids : FillIds) (r : OrderResult) : FillCall where
  result := r
  positionId := ids.position
  tradeId := ids.trade
  openedAt := ids.openedAt
  closedAt := ids.closedAt

/-- What `on_order_filled` books before its first suspension. -/
def bookedAtStart : FillPc → Option (Side × ℚ)
  | .persistingOpen f _ => some (inferSide f.result, f.result.filledQuantity)
  | _ => none

/-- What `on_order_filled` books when it resumes. -/
def bookedOnResume (s : PortfolioState) : FillPc → Option (Side × ℚ)
  | .persistingTrade f existing q =>
      if (bookClose existing q f s).isSome then some (inferSide f.result, q.quantity) else none
  | _ => none

section Trading

variable {ι : Type*} [DecidableEq ι]

namespace TradingState

/-- The log after a step of `i` that books `b` of the order that `source` has created. -/
def log (T : TradingState ι) (o : OrderRequest) (source : ι) (b : Option (Side × ℚ)) :
    List (BookedFill ι) :=
  match b with
  | some b => ⟨o.id, b.1, b.2, source⟩ :: T.booked
  | none => T.booked

/-- The cycle after `execute` has answered `r`. -/
def answered (pcfg : PortfolioConfig) (o : OrderRequest) (T : TradingState ι) (i source : ι)
    (r : OrderResult) (ids : FillIds) : TradingState ι :=
  if r.status.isBooked then
    let c := fillStart pcfg (ids.call r) T.portfolio
    { T with
      portfolio := c.1
      task := Function.update T.task i (.booking source c.2)
      booked := T.log o source (bookedAtStart c.2) }
  else { T with task := Function.update T.task i .done }

/-- The order that the result of the call `i` is about, after the call has gone from `p` to
`q`. -/
def aboutAfter (o : OrderRequest) (T : TradingState ι) (i : ι) (p : CallPc) (e : CallEvent)
    (q : CallPc) (about : ι) : Option ι :=
  match p, e with
  | .safe _ .lookup, .safe .lookupAnswers => T.writer o.id
  | .safe _ .submitting, .safe (.submitReturns _) => some about
  | _, _ => if q.isSubmitting then some i else T.about i

/-- The exchange, the results and the table after the call `i` has gone from `p` to
`q`. -/
def record (o : OrderRequest) (T : TradingState ι) (i : ι) (p : CallPc) (e : CallEvent)
    (q : CallPc) (about : ι) : TradingState ι :=
  { T with
    submitted := if q.isSubmitting then i :: T.submitted else T.submitted
    about := Function.update T.about i (T.aboutAfter o i p e q about)
    writer :=
      match p.updates o e with
      | some id => Function.update T.writer id (T.about i)
      | none => T.writer }

/-- The cycle of `i` after its `execute` call has gone from `p` to `q`. -/
def advance (pcfg : PortfolioConfig) (o : OrderRequest) (T : TradingState ι) (i : ι)
    (p : CallPc) (e : CallEvent) (ids : FillIds) (about : ι) (s : EngineState) (q : CallPc) :
    TradingState ι :=
  let U := { T.record o i p e q about with engine := s }
  match q.answer with
  | some (.returned r) => U.answered pcfg o i ((U.about i).getD i) r ids
  | some .raised => { U with task := Function.update T.task i .done }
  | none => { U with task := Function.update T.task i (.executing q) }

end TradingState

/-- A task after its process has died; a cycle that has not started belongs to a later
process. -/
def CyclePc.crash : CyclePc ι → CyclePc ι
  | .executing .idle => .executing .idle
  | _ => .done

/-- The cycles for the orders `order i` on one engine and one portfolio. -/
def tradingMachine (cfg : EngineConfig) (pcfg : PortfolioConfig) (order : ι → OrderRequest)
    (bypass : ι → Bool) : Machine (TradingState ι) (TradingAction ι) where
  next T
    | .wake i e ids about =>
        match T.task i with
        | .executing p =>
            (callSegment cfg (order i) (bypass i) T.engine p e).map fun c =>
              T.advance pcfg (order i) i p e ids about c.1 c.2
        | _ => none
    | .book i =>
        match T.task i with
        | .booking source pc =>
            (fillResume pcfg T.portfolio pc).map fun c =>
              { T with
                portfolio := c.1
                task := Function.update T.task i (.booking source c.2)
                booked := T.log (order i) source (bookedOnResume T.portfolio pc) }
        | _ => none
    | .fill i quantity =>
        if i ∈ T.submitted ∧ 0 ≤ quantity then
          some { T with filled := Function.update T.filled i (T.filled i + quantity) }
        else none
    | .prices prices => some { T with portfolio := updatePrices prices T.portfolio }
    | .trigger => some { T with engine := { T.engine with killSwitch := true } }
    | .crash killSwitch verification portfolio =>
        some
          { T with
            engine := ⟨T.engine.safety.restart, killSwitch, Dict.empty, verification⟩
            portfolio := portfolio
            task := fun i => (T.task i).crash }

/-- No cycle has started, and the table is empty. -/
def tradingStart (verification : Option LiveVerificationState) (portfolio : PortfolioState) :
    TradingState ι where
  engine := EngineState.init verification
  portfolio := portfolio
  task _ := .executing .idle
  submitted := []
  filled _ := 0
  about _ := none
  writer _ := none
  booked := []

end Trading

/-! ### What is booked and what was filled -/

section Property

variable {ι : Type*} (order : ι → OrderRequest)

/-- What was booked for an id. -/
def TradingState.bookedQuantity (T : TradingState ι) (id : UUID) : ℚ :=
  ((T.booked.filter fun b => b.id = id).map BookedFill.quantity).sum

/-- What the exchange has filled for an id. -/
def TradingState.filledQuantity (T : TradingState ι) (id : UUID) : ℚ :=
  ((T.submitted.filter fun i => (order i).id = id).map T.filled).sum

/-- Nothing is booked for an id beyond what the exchange has filled for it, no order on the
exchange is booked twice, and each is booked with its side. -/
structure BooksFillsOnce (T : TradingState ι) : Prop where
  quantity : ∀ id, T.bookedQuantity id ≤ T.filledQuantity order id
  once : (T.booked.map BookedFill.source).Nodup
  side : ∀ b ∈ T.booked, b.side = (order b.source).side

/-- An answer to the call `i` about the order that the call `j` has created: it carries the
id of the order or one that belongs to no order, and a fill that it reports has taken place
and has the side of the order. -/
structure TruthfulAnswer (T : TradingState ι) (i j : ι) (r : OrderResult) : Prop where
  created : j ∈ T.submitted
  id : (order j).id = (order i).id
  requestId : r.requestId = (order i).id ∨ ∀ k, r.requestId ≠ (order k).id
  quantity : r.status.isBooked = true → r.filledQuantity ≤ T.filled j
  side : r.status.isBooked = true → inferSide r = (order j).side

/-- The answer of an adapter that an action brings: to which call, about whose order, and
the result. -/
def TradingState.answer (T : TradingState ι) : TradingAction ι → Option (ι × ι × OrderResult)
  | .wake i (.safe (.submitReturns r)) _ about => some (i, about, r)
  | .wake i (.polled r) _ _ => (T.about i).map fun j => (i, j, r)
  | _ => none

/-- The adapters answer truthfully. -/
def TruthfulAdapter (T : TradingState ι) (a : TradingAction ι) : Prop :=
  ∀ x ∈ T.answer a, TruthfulAnswer order T x.1 x.2.1 x.2.2

/-- A row whose recovery `on_order_filled` accepts as a fill. -/
def OrderRow.isFill (row : OrderRow) : Bool :=
  row.status = .filled && 0 < row.filledQuantity && row.averageFillPrice.isSome

/-- The order whose fill a cycle has still to book; `about` is the order that its result is
about. -/
def CyclePc.claim (about : Option ι) : CyclePc ι → Option ι
  | .executing p => if p.foundRow.any OrderRow.isFill || p.books then about else none
  | .booking j (.persistingTrade _ _ _) => some j
  | _ => none

namespace TradingState

/-- The order whose fill the cycle `i` has still to book. -/
def carries (T : TradingState ι) (i : ι) : Option ι := (T.task i).claim (T.about i)

/-- The fill of the order is not booked, and no cycle has still to book it. -/
structure Unclaimed (T : TradingState ι) (j : ι) : Prop where
  notBooked : ∀ b ∈ T.booked, b.source ≠ j
  notCarried : ∀ i, T.carries i ≠ some j

end TradingState

/-- The order whose filled row a look-up finds. -/
def TradingState.recovers (T : TradingState ι) : TradingAction ι → Option ι
  | .wake i (.safe .lookupAnswers) _ _ =>
      if (T.engine.safety.orders (order i).id).any OrderRow.isFill then T.writer (order i).id
      else none
  | _ => none

/-- The order of another call that `place_order` answers with. -/
def TradingAction.meets [DecidableEq ι] : TradingAction ι → Option ι
  | .wake i (.safe (.submitReturns _)) _ about => if about = i then none else some about
  | _ => none

/-- A look-up that finds a filled row, and an answer of `place_order` about an order that
another call has created, come only while the fill is not booked and no cycle has still to
book it; the order of the row is a BUY. -/
structure FindsUnclaimedFill [DecidableEq ι] (T : TradingState ι) (a : TradingAction ι) :
    Prop where
  row : ∀ j ∈ T.recovers order a, (order j).side = .buy ∧ T.Unclaimed j
  order : ∀ j ∈ a.meets, T.Unclaimed j

end Property

end Sgr
