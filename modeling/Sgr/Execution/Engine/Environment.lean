import Sgr.Concurrency.Deterministic
import Sgr.Execution.Engine.Executions

/-!
# One call in an environment

An environment answers everything that an `execute` call waits for: the exchange, the
database and the clock. Its answers may depend on all exchange calls made so far, so an
environment is any behaviour of an adapter. In an environment a call runs in one way
only, and what it does outside is the list of its exchange calls and its answer.
-/

open Collection Concurrency

namespace Sgr

/-- The calls that the engine makes to the exchange. Requests between which the engine
does nothing else are one entry. -/
inductive ExchangeCall
  | getExchangeInfo
  | liveChecks
  | setLeverage
  | quantization
  | getTicker
  | placeOrder (o : OrderRequest)
  | getOrder (id : String)
  | cancelOrder (id : String)
  deriving DecidableEq

/-- The exchange calls that a call makes when it comes to a control point. -/
def CallPc.calls (o : OrderRequest) : CallPc → List ExchangeCall
  | .limits => [.getExchangeInfo]
  | .live _ => [.liveChecks]
  | .leverage => [.setLeverage]
  | .quantize => [.quantization]
  | .verification _ => [.getTicker]
  | .safe a .submitting => [.placeOrder (o.withAmount a)]
  | .polling r _ => [.getOrder r.exchangeOrderId]
  | .cancelling r => [.cancelOrder r.exchangeOrderId]
  | _ => []

/-- What `get_order` answers. -/
inductive PollAnswer
  | returned (r : OrderResult)
  /-- An `ExchangeError`. -/
  | failed
  /-- Another exception. -/
  | raised (error : String)

/-- What a call meets outside, after the exchange calls made so far. -/
structure Environment where
  registry : String → Option StrategyEntry
  connected : ExchangeID → Option Bool
  /-- `none` is an exception that is no `ExchangeError`, here and for the LIVE checks. -/
  limits : List ExchangeCall → Option (Except ExchangeError ExchangeInfo)
  live : List ExchangeCall → Option (LiveAnswers × Timestamp)
  leverage : List ExchangeCall → Except ExchangeError Unit
  quantization : List ExchangeCall → Except String ExchangeInfo × Except String Ticker × Timestamp
  ticker : List ExchangeCall → Except String Ticker × Timestamp
  placeOrder : List ExchangeCall → Except String OrderResult
  getOrder : List ExchangeCall → PollAnswer
  /-- Whether the accesses to the database succeed. -/
  lookup : List ExchangeCall → Bool
  create : List ExchangeCall → Bool
  update : List ExchangeCall → Bool
  status : List ExchangeCall → Bool

namespace Environment

variable (env : Environment) (calls : List ExchangeCall)

/-- What wakes a call inside the safe executor. -/
def safeEvent (s : ExecutorState) (id : UUID) : SafePc → SafeEvent
  | .idle => .call
  | .lookup => if env.lookup calls then .lookupAnswers else .lookupFails
  | .persistPending =>
      if env.create calls && (s.orders id).isNone then .createCommits else .createFails
  | .submitting =>
      match env.placeOrder calls with
      | .ok r => .submitReturns r
      | .error e => .submitRaises e
  | .persistFinal _ _ => if env.update calls then .updateCommits else .updateFails
  | _ => .resume

/-- What wakes a call that has not ended. -/
def event (o : OrderRequest) (s : EngineState) : CallPc → CallEvent
  | .idle => .call env.registry env.connected
  | .limits =>
      match env.limits calls with
      | some info => .limitsAnswer info
      | none => .fails
  | .live _ =>
      match env.live calls with
      | some r => .liveAnswer r.1 r.2
      | none => .fails
  | .leverage => .leverageAnswer (env.leverage calls)
  | .quantize =>
      let r := env.quantization calls
      .quantizeAnswer r.1 r.2.1 r.2.2
  | .verification _ =>
      let r := env.ticker calls
      .tickerAnswer r.1 r.2
  | .safe _ p => .safe (env.safeEvent calls s.safety o.id p)
  | .publishing _ => .published
  | .sleeping _ _ => .slept
  | .polling _ _ =>
      match env.getOrder calls with
      | .returned r => .polled r
      | .failed => .pollFails
      | .raised e => .pollRaises e
  | .cancelling _ => .cancelled
  | .persisting _ _ => if env.status calls then .statusCommits else .statusFails
  | _ => .resume

end Environment

/-- A call in an environment: its exchange calls so far, the engine and the control
point. -/
structure Execution where
  calls : List ExchangeCall
  state : EngineState
  pc : CallPc

/-- A call that has not started. -/
def Execution.start (s : EngineState) : Execution := ⟨[], s, .idle⟩

/-- The execution after a segment. -/
def Execution.moved (o : OrderRequest) (calls : List ExchangeCall)
    (r : EngineState × CallPc) : Execution :=
  ⟨calls ++ r.2.calls o, r.1, r.2⟩

/-- The next segment of a call in an environment. -/
def Execution.next (cfg : EngineConfig) (o : OrderRequest) (bypass : Bool)
    (env : Environment) (x : Execution) : Option Execution :=
  (callSegment cfg o bypass x.state x.pc (env.event x.calls o x.state x.pc)).map
    (Execution.moved o x.calls)

/-- The exchange calls of a call that has ended, and its answer. -/
def Execution.outcome (x : Execution) : Option (List ExchangeCall × ExecuteAnswer) :=
  x.pc.answer.map fun answer => (x.calls, answer)

/-- What a call that starts in a state does outside. -/
def Outcome (cfg : EngineConfig) (o : OrderRequest) (bypass : Bool) (env : Environment)
    (s : EngineState) (out : List ExchangeCall × ExecuteAnswer) : Prop :=
  ∃ x, Reaches (Execution.next cfg o bypass env) (.start s) x ∧ x.outcome = some out

section Runs

variable {cfg : EngineConfig} {o : OrderRequest} {bypass : Bool} {env : Environment}
  {s : EngineState} {out : List ExchangeCall × ExecuteAnswer} {x y : Execution}

theorem next_eq_none_of_outcome (h : x.outcome = some out) :
    x.next cfg o bypass env = none := by
  obtain ⟨calls, s, p⟩ := x
  cases p <;> first | rfl | cases h

/-- A call ends in the same way from every state on its way. -/
theorem Outcome.of_reaches (h : Outcome cfg o bypass env s out)
    (hx : Reaches (Execution.next cfg o bypass env) (.start s) x) :
    ∃ y, Reaches (Execution.next cfg o bypass env) x y ∧ y.outcome = some out := by
  obtain ⟨y, hy, hout⟩ := h
  exact ⟨y, hy.of_end (next_eq_none_of_outcome hout) hx, hout⟩

/-- The exchange calls that have been made stay. -/
theorem calls_prefix_of_reaches (h : Reaches (Execution.next cfg o bypass env) x y) :
    x.calls <+: y.calls := by
  refine h.invariant (I := fun z => x.calls <+: z.calls) (fun z w hz hw => hz.trans ?_)
    List.prefix_rfl
  obtain ⟨r, -, rfl⟩ := Option.map_eq_some_iff.1 hw
  exact List.prefix_append _ _

theorem outcome_eq_some_iff :
    x.outcome = some out ↔ x.calls = out.1 ∧ x.pc.answer = some out.2 := by
  obtain ⟨calls, answer⟩ := out
  rw [Execution.outcome, Option.map_eq_some_iff]
  constructor
  · rintro ⟨_, hanswer, rfl, rfl⟩
    exact ⟨rfl, hanswer⟩
  · rintro ⟨rfl, hanswer⟩
    exact ⟨answer, hanswer, rfl⟩

/-- The segment of a call whose event is known. -/
theorem next_eq {calls : List ExchangeCall} {p : CallPc} {e : CallEvent}
    {c : EngineState × CallPc} (he : env.event calls o s p = e)
    (hc : callSegment cfg o bypass s p e = some c) :
    Execution.next cfg o bypass env ⟨calls, s, p⟩ = some (.moved o calls c) := by
  rw [Execution.next, he, hc]
  rfl

theorem next_safe (calls : List ExchangeCall) (a : Amount) (p : SafePc) :
    Execution.next cfg o bypass env ⟨calls, s, .safe a p⟩ =
      (safeSegment cfg.repo (o.withAmount a) s.safety p
        (env.safeEvent calls s.safety o.id p)).map fun r =>
          .moved o calls (afterSafe o (s.withSafety r.1) a r.2) :=
  Option.map_map _ _ _

end Runs

/-- The gates of the entry let the order pass to an adapter. -/
structure Enters (cfg : EngineConfig) (o : OrderRequest) (env : Environment) : Prop where
  mode : o.tradingMode = cfg.mode
  gate : (checkLiveTradingAllowed o env.registry env.connected).allowed = true
  pool : cfg.pool o.symbol.exchange = true

section Paths

variable {cfg : EngineConfig} {o : OrderRequest} {bypass : Bool} {env : Environment}
  {s : EngineState}

theorem next_start (henters : Enters cfg o env) (hkill : s.killSwitch = true → bypass = true) :
    Execution.next cfg o bypass env (.start s) = some ⟨[.getExchangeInfo], s, .limits⟩ := by
  have hstart : start cfg o bypass s env.registry env.connected = (s, .limits) := by
    unfold start
    rw [if_neg (not_not.2 henters.mode)]
    dsimp only
    rw [henters.gate, if_neg (by decide), if_neg (by simpa using hkill), if_pos henters.pool]
  rw [Execution.start, next_eq rfl rfl, hstart]
  rfl

/-- The kill switch stops a call without the bypass at the entry. -/
theorem next_start_of_killSwitch (henters : Enters cfg o env) (hactive : s.killSwitch = true) :
    Execution.next cfg o false env (.start s) =
      some ⟨[], s, .rejected (rejectedResult cfg o "Kill switch active")⟩ := by
  have hstart : start cfg o false s env.registry env.connected =
      (s, .rejected (rejectedResult cfg o "Kill switch active")) := by
    unfold start
    rw [if_neg (not_not.2 henters.mode)]
    dsimp only
    rw [henters.gate, if_neg (by decide), if_pos (by simpa using hactive)]
  rw [Execution.start, next_eq rfl rfl, hstart]
  rfl

/-- The checks of a LIVE order before the LIVE answers are known. -/
def earlyPreflight (o : OrderRequest) (active : Bool)
    (info : Except ExchangeError ExchangeInfo) : List PreflightCheckResult :=
  staticChecks o ++ [checkSymbolPrecisionAndLimits o info] ++ [checkKillSwitchInactive active]

/-- The checks of a LIVE order, with the state of the kill switch. -/
def livePreflight (cfg : EngineConfig) (o : OrderRequest) (active : Bool)
    (info : Except ExchangeError ExchangeInfo) (answers : LiveAnswers) :
    List PreflightCheckResult :=
  earlyPreflight o active info ++ liveChecks cfg.limits o answers

theorem next_limits_of_live (hlive : cfg.mode = .live)
    {info : Except ExchangeError ExchangeInfo}
    (hinfo : env.limits [.getExchangeInfo] = some info) :
    Execution.next cfg o bypass env ⟨[.getExchangeInfo], s, .limits⟩ =
      some ⟨[.getExchangeInfo, .liveChecks], s,
        .live (earlyPreflight o s.killSwitch info)⟩ := by
  have hevent : env.event [.getExchangeInfo] o s .limits = .limitsAnswer info := by
    simp only [Environment.event, hinfo]
  have hafter : afterLimits cfg o s info =
      (s, .live (earlyPreflight o s.killSwitch info)) := by
    unfold afterLimits
    dsimp only
    rw [if_pos hlive]
    rfl
  rw [next_eq hevent rfl, hafter]
  rfl

theorem next_live {calls : List ExchangeCall} {checks : List PreflightCheckResult}
    {answers : LiveAnswers} {now : Timestamp} (hanswers : env.live calls = some (answers, now)) :
    Execution.next cfg o bypass env ⟨calls, s, .live checks⟩ =
      some (.moved o calls
        (afterPreflight cfg o s (checks ++ liveChecks cfg.limits o answers) now)) := by
  have hevent : env.event calls o s (.live checks) = .liveAnswer answers now := by
    simp only [Environment.event, hanswers]
  rw [next_eq hevent rfl]

theorem reaches_limits (henters : Enters cfg o env)
    (hkill : s.killSwitch = true → bypass = true) :
    Reaches (Execution.next cfg o bypass env) (.start s) ⟨[.getExchangeInfo], s, .limits⟩ :=
  .head (next_start henters hkill) (.refl _)

theorem reaches_live (henters : Enters cfg o env)
    (hkill : s.killSwitch = true → bypass = true) (hlive : cfg.mode = .live)
    {info : Except ExchangeError ExchangeInfo}
    (hinfo : env.limits [.getExchangeInfo] = some info) :
    Reaches (Execution.next cfg o bypass env) (.start s)
      ⟨[.getExchangeInfo, .liveChecks], s, .live (earlyPreflight o s.killSwitch info)⟩ :=
  (reaches_limits henters hkill).trans (.head (next_limits_of_live hlive hinfo) (.refl _))

end Paths

end Sgr
