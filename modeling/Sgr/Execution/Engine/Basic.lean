import Sgr.Execution.OrderSafety.Basic
import Sgr.Execution.Preflight
import Sgr.Risk.LiveGates

/-!
# The execution engine

`ExecutionEngine.execute` of `sgr/execution/engine.py`, cut at its suspension points:
the gates, the preflight, the leverage, the quantisation, the verification gate, the
safe executor, the fill monitoring and the release at the end. `callSegment` is the
code between two of them; requests that follow each other without touching the
engine's own state are one suspension. `KillSwitch.trigger` runs next to the calls.

The values that the exchange and the other modules answer come with the events.
-/

open Collection Concurrency

namespace Sgr

/-- What a running engine does not change. -/
structure EngineConfig where
  mode : TradingMode
  /-- An order repository is injected. -/
  repo : Bool
  limits : RiskLimitsConfig := {}
  /-- The exchanges for which the pool has an adapter of this mode. -/
  pool : ExchangeID → Bool

/-- A LIVE engine without a repository. -/
def liveEngine : EngineConfig where
  mode := .live
  repo := false
  pool _ := true

/-- What the calls of one engine share. -/
structure EngineState where
  safety : ExecutorState
  /-- `KillSwitch.is_active`. -/
  killSwitch : Bool
  leverageCache : Dict String ℚ
  verification : Option LiveVerificationState

namespace EngineState

/-- A fresh engine. -/
def init (verification : Option LiveVerificationState) : EngineState :=
  ⟨ExecutorState.init, false, Dict.empty, verification⟩

/-- The same engine with another executor state. -/
def withSafety (s : EngineState) (t : ExecutorState) : EngineState := { s with safety := t }

variable (s : EngineState) (t : ExecutorState)

@[simp] theorem withSafety_safety : (s.withSafety t).safety = t := rfl
@[simp] theorem withSafety_killSwitch : (s.withSafety t).killSwitch = s.killSwitch := rfl

end EngineState

/-- The two fields that the quantisation may replace. -/
structure Amount where
  quantity : ℚ
  limitPrice : Option ℚ
  deriving DecidableEq, Repr

/-- The amount of an order. -/
def OrderRequest.amount (o : OrderRequest) : Amount := ⟨o.quantity, o.limitPrice⟩

/-- `order.model_copy(update=...)`. -/
def OrderRequest.withAmount (o : OrderRequest) (a : Amount) : OrderRequest :=
  { o with quantity := a.quantity, limitPrice := a.limitPrice }

@[simp] theorem OrderRequest.withAmount_id (o : OrderRequest) (a : Amount) :
    (o.withAmount a).id = o.id := rfl

/-- `_rejected_result`. -/
def rejectedResult (cfg : EngineConfig) (o : OrderRequest) (reason : String) :
    OrderResult where
  requestId := o.id
  exchangeOrderId := "REJECTED-" ++ toString o.id
  symbol := o.symbol
  status := .rejected
  tradingMode := cfg.mode
  rawResponse := { rejectionReason := some reason }

/-- The text of the `KeyError` of `ExchangePool.get`. -/
def poolError (cfg : EngineConfig) (o : OrderRequest) : String :=
  "'Exchange " ++ o.symbol.exchange.value ++ " (" ++ cfg.mode.value ++
    ") not in pool. Call initialize() first.'"

/-- The keys that `execute` copies from the order into every answer of the
exchange. -/
def attributed (o : OrderRequest) (r : OrderResult) : OrderResult :=
  { r with
    rawResponse :=
      { r.rawResponse with
        strategy := some (o.metadata.strategy.getD "unknown")
        exitReason := o.metadata.exitReason.or r.rawResponse.exitReason
        targetPrice := o.metadata.targetPrice.or r.rawResponse.targetPrice
        stopPrice := o.metadata.stopPrice.or r.rawResponse.stopPrice
        entryRegime := o.metadata.entryRegime.or r.rawResponse.entryRegime } }

@[simp] theorem attributed_status (o : OrderRequest) (r : OrderResult) :
    (attributed o r).status = r.status := rfl

@[simp] theorem attributed_exchangeOrderId (o : OrderRequest) (r : OrderResult) :
    (attributed o r).exchangeOrderId = r.exchangeOrderId := rfl

@[simp] theorem attributed_symbol (o : OrderRequest) (r : OrderResult) :
    (attributed o r).symbol = r.symbol := rfl

/-- `_FILL_POLL_INTERVAL_S`. -/
def fillPollInterval : ℕ := 2

/-- The timeout of the fill monitoring: `_MARKET_ORDER_FAST_TIMEOUT` or
`_FILL_TIMEOUT_S`. -/
def fillTimeout (o : OrderRequest) : ℕ := if o.orderType = .market then 5 else 60

/-- The statuses at which the monitoring stops. -/
def OrderStatus.isFinal : OrderStatus → Bool
  | .filled | .cancelled | .rejected => true
  | _ => false

/-- `_quantize_order` on the answers of `get_exchange_info` and `get_ticker`. Without
an answer the order goes on unchanged. -/
def quantizeOrder (o : OrderRequest) (info : Except String ExchangeInfo)
    (ticker : Except String Ticker) : Amount × Option String :=
  match info with
  | .error _ => (o.amount, none)
  | .ok info =>
      match info.symbolLimits o.symbol.ccxtSymbol with
      | none => (o.amount, none)
      | some limits =>
          match verificationPrice o ticker with
          | .error _ => (o.amount, none)
          | .ok price =>
              match quantizeAndValidate o.quantity price (some limits) with
              | (_, some reason) => (o.amount, some reason)
              | (quantity, none) =>
                  match o.limitPrice with
                  | none => (⟨quantity, none⟩, none)
                  | some limitPrice =>
                      match quantizePrice limitPrice o.side (some limits) with
                      | (_, some reason) => (o.amount, some reason)
                      | (price, none) => (⟨quantity, some price⟩, none)

/-- `_quantize_order` raises on these answers. -/
def quantizeOrderRaises (o : OrderRequest) (info : Except String ExchangeInfo)
    (ticker : Except String Ticker) : Bool :=
  match info with
  | .error _ => false
  | .ok info =>
      match info.symbolLimits o.symbol.ccxtSymbol with
      | none => false
      | some limits =>
          match verificationPrice o ticker with
          | .error _ => false
          | .ok price =>
              quantityRaises o.quantity limits ||
                ((quantizeAndValidate o.quantity price (some limits)).2.isNone &&
                  o.limitPrice.any fun limitPrice => priceRaises limitPrice o.side limits)

/-- The control points of one `execute` call. -/
inductive CallPc
  /-- Not called yet. -/
  | idle
  /-- The preflight awaits the limits of the symbol. -/
  | limits
  /-- The preflight awaits the answers to the LIVE checks. -/
  | live (checks : List PreflightCheckResult)
  /-- `set_leverage` is awaited. -/
  | leverage
  /-- `_quantize_order` awaits the exchange. -/
  | quantize
  /-- The verification gate awaits a price. -/
  | verification (amount : Amount)
  /-- `execute_safely` runs. -/
  | safe (amount : Amount) (p : SafePc)
  /-- `_on_fill` publishes the fill. -/
  | publishing (result : OrderResult)
  /-- `_monitor_fill` sleeps. -/
  | sleeping (result : OrderResult) (elapsed : ℕ)
  /-- `_monitor_fill` awaits `get_order`. -/
  | polling (result : OrderResult) (elapsed : ℕ)
  /-- `_cancel_order` is awaited. -/
  | cancelling (result : OrderResult)
  /-- `_persist_order_status` awaits the database. -/
  | persisting (id : UUID) (result : OrderResult)
  /-- The update has committed or failed; the task has not resumed. -/
  | persisted (result : OrderResult)
  /-- A gate has refused the order; the `finally` block did not run. -/
  | rejected (result : OrderResult)
  /-- The call has returned through its `finally` block. -/
  | returned (result : OrderResult)
  /-- The call has raised before its `try` block. -/
  | raised

/-- What wakes an `execute` call. -/
inductive CallEvent
  /-- The call starts, with the state of the registry and of the adapters. -/
  | call (registry : String → Option StrategyEntry) (connected : ExchangeID → Option Bool)
  | limitsAnswer (info : Except ExchangeError ExchangeInfo)
  | liveAnswer (answers : LiveAnswers) (now : Timestamp)
  | leverageAnswer (answer : Except ExchangeError Unit)
  | quantizeAnswer (info : Except String ExchangeInfo) (ticker : Except String Ticker)
      (now : Timestamp)
  | tickerAnswer (ticker : Except String Ticker) (now : Timestamp)
  /-- A request raises an exception that nobody catches before `_execute_internal`. -/
  | fails
  | safe (e : SafeEvent)
  | published
  | slept
  | polled (result : OrderResult)
  /-- `get_order` raises an `ExchangeError`. -/
  | pollFails
  /-- `get_order` raises another exception. -/
  | pollRaises (error : String)
  | cancelled
  | statusCommits
  | statusFails
  | resume

section Segments

variable (cfg : EngineConfig) (o : OrderRequest)

/-- The `finally` block of `execute`. -/
def finish (s : EngineState) (r : OrderResult) : EngineState × CallPc :=
  (s.withSafety (s.safety.release o.id), .returned r)

/-- `_persist_order_status`, then the return. -/
def persistStatus (s : EngineState) (id : UUID) (r : OrderResult) :
    EngineState × CallPc :=
  if cfg.repo then (s, .persisting id r) else finish o s r

/-- The end of `_monitor_fill`. -/
def monitorEnd (s : EngineState) (r : OrderResult) : EngineState × CallPc :=
  if !r.status.isFinal then (s, .cancelling r)
  else if r.status = .filled then (s, .publishing r)
  else finish o s r

/-- The head of the loop of `_monitor_fill`. -/
def monitorLoop (s : EngineState) (r : OrderResult) (elapsed : ℕ) :
    EngineState × CallPc :=
  if elapsed < fillTimeout o then
    if s.killSwitch then (s, .cancelling r) else (s, .sleeping r elapsed)
  else monitorEnd o s r

/-- `_execute_internal` after `execute_safely` has answered. -/
def handleResult (s : EngineState) (r : OrderResult) : EngineState × CallPc :=
  if r.rawResponse.duplicate || r.rawResponse.unknown then finish o s r
  else if r.status = .filled then (s, .publishing (attributed o r))
  else monitorLoop o s (attributed o r) 0

/-- The engine after a segment of the safe executor. -/
def afterSafe (s : EngineState) (a : Amount) : SafePc → EngineState × CallPc
  | .blocked r | .finished r => handleResult o s r
  | p => (s, .safe a p)

/-- `_execute_internal` up to its first suspension point. -/
def executeInternal (s : EngineState) (a : Amount) : EngineState × CallPc :=
  if cfg.pool o.symbol.exchange then
    let r := safeCall cfg.repo (o.withAmount a) s.safety
    afterSafe o (s.withSafety r.1) a r.2
  else
    finish o s (rejectedResult cfg o ("Execution error: " ++ poolError cfg o))

/-- The verification gate once the price is known, and what follows. -/
def verified (s : EngineState) (a : Amount) (ticker : Except String Ticker)
    (now : Timestamp) : EngineState × CallPc :=
  let r := checkLiveVerificationAllowed (o.withAmount a) s.verification ticker now
  match r.1 with
  | some reason => ({ s with verification := r.2 }, .rejected (rejectedResult cfg o reason))
  | none =>
      executeInternal cfg o
        { s with verification := r.2.map fun g => g.recordOrderSubmitted o.metadata.gridId } a

/-- The verification gate; PAPER orders pass. -/
def verify (s : EngineState) (a : Amount) (now : Timestamp) : EngineState × CallPc :=
  if o.tradingMode ≠ .live then executeInternal cfg o s a
  else if s.verification.isNone || a.limitPrice.isSome then
    verified cfg o s a (.error "") now
  else (s, .verification a)

/-- The start of `_quantize_order`. -/
def startQuantize (s : EngineState) : EngineState × CallPc :=
  if cfg.pool o.symbol.exchange then (s, .quantize) else (s, .raised)

/-- `_ensure_leverage` up to its suspension point. -/
def ensureLeverage (s : EngineState) : EngineState × CallPc :=
  if s.leverageCache.get? o.symbol.str = some cfg.limits.defaultLeverage then
    startQuantize cfg o s
  else if cfg.pool o.symbol.exchange then (s, .leverage)
  else (s, .raised)

/-- `execute` after the preflight. -/
def afterPreflight (s : EngineState) (checks : List PreflightCheckResult)
    (now : Timestamp) : EngineState × CallPc :=
  if !eligible checks then
    (s, .rejected (rejectedResult cfg o
      ("Preflight validation failed: " ++ rejectionSummary checks)))
  else if o.reduceOnly then verify cfg o s o.amount now
  else ensureLeverage cfg o s

/-- `execute` up to the first suspension point of the preflight. Without an adapter
the preflight does not suspend. -/
def start (bypass : Bool) (s : EngineState) (registry : String → Option StrategyEntry)
    (connected : ExchangeID → Option Bool) : EngineState × CallPc :=
  if o.tradingMode ≠ cfg.mode then (s, .raised)
  else
    let gate := checkLiveTradingAllowed o registry connected
    if !gate.allowed then
      (s, .rejected (rejectedResult cfg o (gate.reason.getD "Live trading blocked")))
    else if s.killSwitch && !bypass then
      (s, .rejected (rejectedResult cfg o "Kill switch active"))
    else if cfg.pool o.symbol.exchange then (s, .limits)
    else if cfg.mode = .live then afterPreflight cfg o s (staticChecks o ++ [noAdapterCheck o]) 0
    else afterPreflight cfg o s (staticChecks o) 0

/-- The preflight after the check of the limits. -/
def afterLimits (s : EngineState) (info : Except ExchangeError ExchangeInfo) :
    EngineState × CallPc :=
  let checks := staticChecks o ++ [checkSymbolPrecisionAndLimits o info]
  if cfg.mode = .live then (s, .live (checks ++ [checkKillSwitchInactive s.killSwitch]))
  else afterPreflight cfg o s checks 0

/-- `_ensure_leverage` after the answer of `set_leverage`. -/
def leverageAnswered (s : EngineState) : Except ExchangeError Unit → EngineState × CallPc
  | .ok () =>
      startQuantize cfg o
        { s with leverageCache := s.leverageCache.set o.symbol.str cfg.limits.defaultLeverage }
  | .error e =>
      if e.isNotSupported then
        startQuantize cfg o
          { s with
            leverageCache := s.leverageCache.set o.symbol.str cfg.limits.defaultLeverage }
      else
        (s, .rejected (rejectedResult cfg o ("Could not set leverage: " ++ e.text)))

/-- `execute` after the quantisation. -/
def quantized (s : EngineState) (now : Timestamp) :
    Amount × Option String → EngineState × CallPc
  | (_, some reason) => (s, .rejected (rejectedResult cfg o reason))
  | (a, none) => verify cfg o s a now

/-- `execute` after the answers to `_quantize_order`. -/
def quantizeAnswered (s : EngineState) (info : Except String ExchangeInfo)
    (ticker : Except String Ticker) (now : Timestamp) : EngineState × CallPc :=
  if quantizeOrderRaises o info ticker then (s, .raised)
  else quantized cfg o s now (quantizeOrder o info ticker)

/-- `_monitor_fill` after an answer of `get_order`. -/
def pollAnswered (s : EngineState) (r : OrderResult) (elapsed : ℕ) : EngineState × CallPc :=
  let r := attributed o r
  let s := s.withSafety (s.safety.updateInflight o.id r)
  if !r.status.isFinal then monitorLoop o s r elapsed
  else if r.status = .filled then (s, .publishing r)
  else persistStatus cfg o s o.id r

/-- The segments of `execute` for the order `o`. -/
def callSegment (bypass : Bool) : Segment EngineState CallPc CallEvent
  | s, .idle, .call registry connected => some (start cfg o bypass s registry connected)
  | s, .limits, .limitsAnswer info => some (afterLimits cfg o s info)
  | s, .live checks, .liveAnswer answers now =>
      some (afterPreflight cfg o s (checks ++ liveChecks cfg.limits o answers) now)
  | s, .leverage, .leverageAnswer answer => some (leverageAnswered cfg o s answer)
  | s, .quantize, .quantizeAnswer info ticker now =>
      some (quantizeAnswered cfg o s info ticker now)
  | s, .verification a, .tickerAnswer ticker now => some (verified cfg o s a ticker now)
  -- only errors of the exchange are turned into failed checks
  | s, .limits, .fails => some (s, .raised)
  | s, .live _, .fails => some (s, .raised)
  | s, .safe a p, .safe e =>
      (safeSegment cfg.repo (o.withAmount a) s.safety p e).map fun r =>
        afterSafe o (s.withSafety r.1) a r.2
  | s, .publishing r, .published => some (persistStatus cfg o s r.requestId r)
  | s, .sleeping r elapsed, .slept => some (s, .polling r (elapsed + fillPollInterval))
  | s, .polling _ elapsed, .polled r => some (pollAnswered cfg o s r elapsed)
  | s, .polling r elapsed, .pollFails =>
      some (monitorLoop o (s.withSafety (s.safety.updateInflight o.id r)) r elapsed)
  | s, .polling r _, .pollRaises e =>
      some (finish o (s.withSafety (s.safety.updateInflight o.id r))
        (rejectedResult cfg o ("Execution error: " ++ e)))
  | s, .cancelling r, .cancelled => some (persistStatus cfg o s o.id r)
  | s, .persisting id r, .statusCommits =>
      some (s.withSafety (s.safety.updateStatus id { r with exchangeOrderId := "" }),
        .persisted r)
  | s, .persisting _ r, .statusFails => some (s, .persisted r)
  | s, .persisted r, .resume => some (finish o s r)
  | _, _, _ => none

end Segments

/-- The control points of `KillSwitch.trigger`. -/
inductive TriggerPc
  /-- Not called yet. -/
  | idle
  /-- `_publish_to_redis` is awaited. -/
  | redis
  /-- `_cancel_all_orders` is awaited. -/
  | cancelling
  /-- `_publish_event` is awaited. -/
  | publishing
  /-- Returned. -/
  | done
  deriving DecidableEq

/-- What wakes a `trigger` call. -/
inductive TriggerEvent
  | call
  | resume
  deriving DecidableEq

/-- The segments of `KillSwitch.trigger`. The lock is never held across a suspension
point, so the flag is set in the first segment. -/
def triggerSegment : Segment EngineState TriggerPc TriggerEvent
  | s, .idle, .call =>
      if s.killSwitch then some (s, .done) else some ({ s with killSwitch := true }, .redis)
  | s, .redis, .resume => some (s, .cancelling)
  | s, .cancelling, .resume => some (s, .publishing)
  | s, .publishing, .resume => some (s, .done)
  | _, _, _ => none

/-- What a task of the engine's process does. -/
inductive Job
  /-- `ExecutionEngine.execute(order, bypass_kill_switch)`. -/
  | execute (order : OrderRequest) (bypass : Bool)
  /-- `KillSwitch.trigger`. -/
  | trigger

/-- The control points of the tasks. -/
inductive TaskPc
  | call (p : CallPc)
  | trigger (p : TriggerPc)

/-- The events of the tasks. -/
inductive TaskEvent
  | call (e : CallEvent)
  | trigger (e : TriggerEvent)

/-- Where a task starts. -/
def Job.start : Job → TaskPc
  | .execute _ _ => .call .idle
  | .trigger => .trigger .idle

/-- The segments of a task. -/
def Job.segment (cfg : EngineConfig) : Job → Segment EngineState TaskPc TaskEvent
  | .execute o bypass, s, .call p, .call e =>
      (callSegment cfg o bypass s p e).map fun r => (r.1, .call r.2)
  | .trigger, s, .trigger p, .trigger e =>
      (triggerSegment s p e).map fun r => (r.1, .trigger r.2)
  | _, _, _, _ => none

/-- One engine with a task for each `i : ι`. -/
abbrev engineMachine {ι : Type*} [DecidableEq ι] (cfg : EngineConfig) (job : ι → Job) :
    Machine (Pool ι EngineState TaskPc) (ι × TaskEvent) :=
  Pool.machine fun i => (job i).segment cfg

/-- The engine before any task has started. -/
def engineStart {ι : Type*} (s : EngineState) (job : ι → Job) :
    Pool ι EngineState TaskPc := ⟨s, fun i => (job i).start⟩

/-- The orders that `shutdown` asks the exchange to cancel, read off the map that it
copies first: those that are not final and have an exchange id. -/
def shutdownCancels (s : ExecutorState) : List (Symbol × String) :=
  s.inFlight.values.filterMap fun r =>
    if r.status.isFinal || r.exchangeOrderId == "" then none
    else some (r.symbol, r.exchangeOrderId)

end Sgr
