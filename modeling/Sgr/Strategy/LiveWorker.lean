import Sgr.Execution.Engine.Executions
import Sgr.Strategy.Startup

/-!
# Orders of a LIVE worker

The gate of LIVE orders reads the registry of the process that executes them. No function of
the source approves a strategy for LIVE trading, so in an engine in LIVE mode no call comes as
far as a request to the exchange or a row in the table of orders, whatever the start has
validated or overridden and however the calls interleave with the changes of the registry.
-/

open Collection Concurrency

namespace Sgr

/-- What the source does to the registry of a process that runs: the trials of the optimiser
register and unregister, back-tests, the learning loop and the recovery activate and deactivate,
and three places mark a strategy as validated. -/
inductive RegistryAction
  | register (name : String) (isGrid : Bool) (regimes : List MarketRegime)
  | unregister (name : String)
  | activate (name : String)
  | deactivate (name reason : String)
  | validated (name : String) (report : ValidationReport)
  | gridValidated (name : String) (verdict : GridVerdict)
  | overridden (name : String)

/-- The registry after an action; a `KeyError` changes nothing. -/
def RegistryAction.apply (r : StrategyRegistry) : RegistryAction → StrategyRegistry
  | .register name isGrid regimes => r.register name isGrid regimes
  | .unregister name => r.unregister name
  | .activate name => (r.activate name).getD r
  | .deactivate name reason => (r.deactivate name reason).getD r
  | .validated name report => (r.markValidated name (toValidationStatus report)).getD r
  | .gridValidated name verdict => (r.markValidated name verdict.status).getD r
  | .overridden name => (r.markValidated name overrideStatus).getD r

/-- What happens in a worker. -/
inductive WorkerAction (ι : Type*)
  | registry (action : RegistryAction)
  /-- A call of `execute` starts and reads the registry. -/
  | call (i : ι) (connected : ExchangeID → Option Bool)
  /-- Something else wakes a call. -/
  | wake (i : ι) (event : CallEvent)

/-- What the gate finds in the registry. -/
def StrategyRegistry.gateEntries (r : StrategyRegistry) (name : String) : Option StrategyEntry :=
  (r.get? name).map RegisteredStrategy.gateEntry

section Worker

variable {ι : Type*} [DecidableEq ι]

/-- The calls of `execute` for the orders of a worker. -/
def callPool (cfg : EngineConfig) (order : ι → OrderRequest) (bypass : ι → Bool) :
    Machine (Pool ι EngineState CallPc) (ι × CallEvent) :=
  Pool.machine fun i => callSegment cfg (order i) (bypass i)

/-- A worker: its registry and the calls of its engine. -/
def workerMachine (cfg : EngineConfig) (order : ι → OrderRequest) (bypass : ι → Bool) :
    Machine (StrategyRegistry × Pool ι EngineState CallPc) (WorkerAction ι) where
  next W
    | .registry action => some (action.apply W.1, W.2)
    | .call i connected =>
        ((callPool cfg order bypass).next W.2 (i, .call W.1.gateEntries connected)).map
          fun P => (W.1, P)
    | .wake _ (.call _ _) => none
    | .wake i event => ((callPool cfg order bypass).next W.2 (i, event)).map fun P => (W.1, P)

/-- No strategy is approved for LIVE trading. -/
def StrategyRegistry.Unapproved (r : StrategyRegistry) : Prop :=
  ∀ name e, r.get? name = some e → e.validationStatus.liveApproved = false

theorem StrategyRegistry.Unapproved.modify {r : StrategyRegistry} (h : r.Unapproved)
    {f : RegisteredStrategy → RegisteredStrategy} {name : String}
    (hf : ∀ e : RegisteredStrategy, e.validationStatus.liveApproved = false →
      (f e).validationStatus.liveApproved = false) :
    StrategyRegistry.Unapproved ((r.modify name f).getD r) := by
  cases hmodify : r.modify name f with
  | none => exact h
  | some r' =>
      intro n e he
      rw [Option.getD_some, get?_modify hmodify] at he
      split at he
      next hn =>
        obtain ⟨e', he', rfl⟩ := Option.map_eq_some_iff.1 he
        exact hf e' (h name e' he')
      next => exact h n e he

/-- No action of the source approves a strategy. -/
theorem StrategyRegistry.Unapproved.apply {r : StrategyRegistry} (h : r.Unapproved)
    (action : RegistryAction) : (action.apply r).Unapproved := by
  cases action with
  | register name isGrid regimes =>
      intro n e he
      rw [RegistryAction.apply, register, Dict.get?_set] at he
      split at he
      · cases he
        rfl
      · exact h n e he
  | unregister name =>
      intro n e he
      rw [RegistryAction.apply, unregister, Dict.get?_erase] at he
      split at he
      · cases he
      · exact h n e he
  | activate name => exact h.modify fun e he => he
  | deactivate name reason => exact h.modify fun e he => he
  | validated name report => exact h.modify fun e he => rfl
  | gridValidated name verdict => exact h.modify fun e he => by cases verdict <;> rfl
  | overridden name => exact h.modify fun e he => rfl

theorem StartupEnv.liveApproved_verdict (env : StartupEnv) (name : String) (isGrid : Bool) :
    (env.verdict name isGrid).liveApproved = false := by
  unfold verdict answered
  split
  · rfl
  split
  · split
    · rfl
    next v _ => cases v <;> rfl
  · split <;> rfl

theorem unapproved_of_view {r : StrategyRegistry}
    (h : ∀ name e, r.view name = some e → e.validationStatus.liveApproved = false) :
    r.Unapproved := by
  intro name e he
  refine h name e.core ?_
  rw [StrategyRegistry.view, he]
  rfl

theorem not_allowed_of_unapproved {r : StrategyRegistry} (h : r.Unapproved) {o : OrderRequest}
    (hlive : o.tradingMode = .live) (connected : ExchangeID → Option Bool) :
    (checkLiveTradingAllowed o r.gateEntries connected).allowed = false := by
  unfold checkLiveTradingAllowed
  rw [if_neg (by simpa using hlive)]
  split
  · rfl
  next name _ =>
    split
    · rfl
    next entry hentry =>
      obtain ⟨e, he, rfl⟩ := Option.map_eq_some_iff.1 hentry
      have hoff : e.gateEntry.liveApproved = false := h name e he
      split
      · rfl
      · rw [hoff]
        rfl

/-- A call that has not started, or that ended without a request. -/
def CallPc.Withheld (o : OrderRequest) : CallPc → Prop
  | .idle | .raised => True
  | .rejected r => Refuses o r
  | _ => False

theorem start_withheld {cfg : EngineConfig} (hlive : cfg.mode = .live) {o : OrderRequest}
    {bypass : Bool} {s : EngineState} {r : StrategyRegistry} (h : r.Unapproved)
    (connected : ExchangeID → Option Bool) :
    (start cfg o bypass s r.gateEntries connected).1 = s ∧
      (start cfg o bypass s r.gateEntries connected).2.Withheld o := by
  unfold start
  split
  · exact ⟨rfl, trivial⟩
  next hmode =>
    rw [not_not, hlive] at hmode
    dsimp only
    rw [if_pos (by rw [not_allowed_of_unapproved h hmode connected]; rfl)]
    exact ⟨rfl, refuses_rejectedResult cfg o _⟩

/-- Only a start wakes a call that has not been sent. -/
theorem CallPc.Withheld.callSegment_eq_none {cfg : EngineConfig} {o : OrderRequest} {bypass : Bool}
    {s : EngineState} {pc : CallPc} (h : pc.Withheld o) {event : CallEvent}
    (hcall : ∀ registry connected, event ≠ .call registry connected) :
    callSegment cfg o bypass s pc event = none := by
  cases pc with
  | idle =>
      cases event with
      | call registry connected => exact absurd rfl (hcall registry connected)
      | _ => rfl
  | raised => cases event <;> rfl
  | rejected r => cases event <;> rfl
  | _ => exact h.elim

/-- What holds in a LIVE worker at any time. -/
structure Withholds (order : ι → OrderRequest) (s : EngineState)
    (W : StrategyRegistry × Pool ι EngineState CallPc) : Prop where
  unapproved : W.1.Unapproved
  shared : W.2.shared = s
  withheld : ∀ i, (W.2.task i).Withheld (order i)

theorem Withholds.next {cfg : EngineConfig} (hlive : cfg.mode = .live) {order : ι → OrderRequest}
    {bypass : ι → Bool} {s : EngineState} {W V : StrategyRegistry × Pool ι EngineState CallPc}
    {a : WorkerAction ι} (h : Withholds order s W)
    (hnext : (workerMachine cfg order bypass).next W a = some V) : Withholds order s V := by
  cases a with
  | registry action =>
      cases hnext
      exact ⟨h.unapproved.apply action, h.shared, h.withheld⟩
  | call i connected =>
      obtain ⟨P, hP, rfl⟩ := Option.map_eq_some_iff.1 hnext
      obtain ⟨t, pc, hsegment, rfl⟩ := Pool.machine_next_eq_some_iff.1 hP
      have hidle := h.withheld i
      cases hpc : W.2.task i with
      | idle =>
          rw [hpc] at hsegment
          have hstarted : start cfg (order i) (bypass i) W.2.shared W.1.gateEntries connected =
              (t, pc) := Option.some.inj hsegment
          obtain ⟨hstate, hwithheld⟩ := start_withheld hlive h.unapproved connected
          rw [hstarted] at hstate hwithheld
          exact ⟨h.unapproved, hstate.trans h.shared,
            Pool.forall_task_resume (φ := fun j (p : CallPc) => p.Withheld (order j))
              (fun j _ => h.withheld j) hwithheld⟩
      | _ =>
          rw [hpc] at hsegment
          cases hsegment
  | wake i event =>
      have hcall : ∀ registry connected, event ≠ .call registry connected := by
        rintro registry connected rfl
        cases hnext
      have hpool : ((callPool cfg order bypass).next W.2 (i, event)).map
          (fun P => (W.1, P)) = some V := by
        cases event with
        | call registry connected => exact absurd rfl (hcall registry connected)
        | _ => exact hnext
      obtain ⟨P, hP, rfl⟩ := Option.map_eq_some_iff.1 hpool
      obtain ⟨t, pc, hsegment, rfl⟩ := Pool.machine_next_eq_some_iff.1 hP
      rw [(h.withheld i).callSegment_eq_none hcall] at hsegment
      cases hsegment

/-- In a worker in LIVE mode every call of `execute` is refused or raises at its gates, and the
orders, the reservations and the gates of the engine stay as they were at the start: no run
sends an order to an exchange. -/
theorem liveWorker_sends_nothing {cfg : EngineConfig} (hlive : cfg.mode = .live)
    (order : ι → OrderRequest) (bypass : ι → Bool) {env : StartupEnv} {r₀ r : StrategyRegistry}
    {s : EngineState} {P : Pool ι EngineState CallPc} {as : List (WorkerAction ι)}
    (hstart : startup env = some r₀)
    (hrun : (workerMachine cfg order bypass).run (r₀, ⟨s, fun _ => .idle⟩) as = some (r, P)) :
    P.shared = s ∧ ∀ i, P.task i = .idle ∨ P.task i = .raised ∨
      ∃ result, P.task i = .rejected result ∧ result.status = .rejected := by
  have hunapproved : r₀.Unapproved := by
    refine unapproved_of_view fun name e he => ?_
    rw [view_of_startup hstart] at he
    obtain ⟨c, -, rfl⟩ := Option.map_eq_some_iff.1 he
    exact env.liveApproved_verdict name c.1
  have hidle : ∀ i, CallPc.idle.Withheld (order i) := fun i => trivial
  have hwithholds : Withholds order s (r, P) :=
    (workerMachine cfg order bypass).run_invariant (Withholds order s)
      (fun W a V hW hV => hW.next hlive hV)
      ⟨hunapproved, rfl, hidle⟩ hrun
  refine ⟨hwithholds.shared, fun i => ?_⟩
  have hwithheld := hwithholds.withheld i
  cases htask : P.task i with
  | idle => exact .inl rfl
  | raised => exact .inr (.inl rfl)
  | rejected result =>
      rw [htask] at hwithheld
      exact .inr (.inr ⟨result, rfl, hwithheld.status⟩)
  | _ =>
      rw [htask] at hwithheld
      exact hwithheld.elim

end Worker

/-- A start that validates its only strategy, a grid. -/
def validatedGrid : StartupEnv where
  classes := [("grid", true, [])]
  backtest _ _ := .error "no history"
  gridBacktest _ := .ok (.measured true (some true))
  overrides := []
  setValidated _ := true
  activeNames := none

/-- A LIVE worker with a validated grid refuses the order of the grid. -/
theorem liveWorker_sends_nothing_validatedGrid : ∃ r₀ r P, startup validatedGrid = some r₀ ∧
    (workerMachine liveEngine (fun _ : Unit => { OrderRequest.closing 1 .sell 1 .live with
        metadata := { strategy := some "grid" } }) fun _ => true).run
      (r₀, ⟨.init none, fun _ => .idle⟩) [.registry (.activate "grid"),
        .call () fun _ => some true] = some (r, P) ∧ P.shared = .init none := by
  obtain ⟨r₀, hstart⟩ := Option.isSome_iff_exists.1
    (show (startup validatedGrid).isSome = true by decide +kernel)
  have hruns : ∃ W, (workerMachine liveEngine (fun _ : Unit =>
      { OrderRequest.closing 1 .sell 1 .live with metadata := { strategy := some "grid" } })
        fun _ => true).run (r₀, ⟨.init none, fun _ => .idle⟩)
          [.registry (.activate "grid"), .call () fun _ => some true] = some W := ⟨_, rfl⟩
  obtain ⟨⟨r, P⟩, hrun⟩ := hruns
  exact ⟨r₀, r, P, hstart, hrun, (liveWorker_sends_nothing rfl _ _ hstart hrun).1⟩

end Sgr
