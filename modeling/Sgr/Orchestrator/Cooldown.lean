import Sgr.Concurrency.Pool
import Sgr.Orchestrator.Booking
import Sgr.Risk.Engine.Gates

/-!
# The cooldown between trades

`_run_cycle_internal` of `sgr/orchestrator/engine.py` from its start to `record_trade`, for
any number of cycles that run on one risk engine. A cycle is called with a symbol key, under
which it records its trade; `evaluate` looks the cooldown up under the `ccxt_symbol` of the
signal. `on_candle_event` calls it with the key `exchange:BASE/QUOTE`.

`filled` and `evaluated` are ghosts: the cycles that have ended with a filled order and the
evaluations. Times do not go back.
-/

open Concurrency

namespace Sgr

inductive TradingCycleStatus
  | noSignal
  | symbolDisabled
  | riskRejected
  | orderFilled
  | orderNotFilled
  | failed
  deriving DecidableEq, Repr

/-- The symbol key of `on_candle_event`. -/
def candleKey (symbol : Symbol) : String := symbol.exchange.value ++ ":" ++ symbol.ccxtSymbol

/-- `update_returns`. -/
def RiskEngineState.updateReturns (s : RiskEngineState) (dailyReturn : ℚ) : RiskEngineState :=
  let history := s.returnHistory ++ [dailyReturn]
  { s with returnHistory := history.drop (history.length - 252) }

/-- A cycle that has ended with a filled order. -/
structure FilledCycle where
  symbolKey : String
  signal : Signal
  recordedAt : ℚ

/-- An evaluation, with the cycles that had ended with a filled order before. -/
structure EvaluatedSignal where
  call : EvaluateCall
  decision : RiskDecision
  earlier : List FilledCycle

/-- What the cycles share. -/
structure CycleShared where
  engine : RiskEngineState
  clock : ℚ
  /-- Newest first. -/
  filled : List FilledCycle := []
  evaluated : List EvaluatedSignal := []

/-- What a cycle finds when it has its signal: the latest features, the portfolio and the
kill switch. -/
structure CycleMarket where
  close : ℚ
  atr : Option ℚ := none
  positions : List Position
  portfolioValue : ℚ
  cash : ℚ
  killSwitchActive : Bool := false
  orderId : UUID

/-- The call of `evaluate`. -/
def CycleMarket.call (m : CycleMarket) (signal : Signal) (now : ℚ) : EvaluateCall where
  signal := signal
  openPositions := m.positions
  portfolioValue := m.portfolioValue
  availableCapital := m.cash
  currentPrice := m.close
  atr := m.atr
  killSwitchActive := m.killSwitchActive
  now := now

/-- The control points of a cycle. -/
inductive CycleStage
  | called
  /-- `process` of the strategy engine. -/
  | processing
  /-- `get_latest` of the feature store. -/
  | loading (signal : Signal)
  /-- `execute`. -/
  | ordering (signal : Signal) (order : OrderRequest)
  /-- `on_order_filled`. -/
  | filling (signal : Signal)
  | ended (status : TradingCycleStatus)

/-- What wakes a cycle. -/
inductive CycleEvent
  /-- The symbol kill switch answers. -/
  | starts (active : Bool)
  | processed (signal : Option Signal)
  | latest (market : Option CycleMarket)
  | executed (result : OrderResult)
  | booked
  /-- The call that is awaited raises. -/
  | raises

namespace CycleShared

/-- `evaluate` and `build_order_request`. -/
def assess (limits : RiskLimits) (mode : TradingMode) (s : CycleShared) (signal : Signal)
    (m : CycleMarket) : CycleShared × CycleStage :=
  let call := m.call signal s.clock
  let evaluation := evaluate limits s.engine call
  let decision := evaluation.assessment.decision
  ({ s with
      engine := evaluation.engine
      evaluated := ⟨call, decision, s.filled⟩ :: s.evaluated },
    if decision = .rejected then .ended .riskRejected
    else
      match buildOrderRequest limits mode m.orderId signal evaluation.assessment
        (some m.close) with
      | none => .ended .failed
      | some order => .ordering signal order)

/-- `record_trade` at the end of a cycle. -/
def record (s : CycleShared) (symbolKey : String) (signal : Signal) : CycleShared :=
  { s with
    engine := s.engine.recordTrade symbolKey signal.strategyName s.clock
    filled := ⟨symbolKey, signal, s.clock⟩ :: s.filled }

end CycleShared

/-- `_run_cycle_internal` from one suspension point to the next. -/
def runCycle (limits : RiskLimits) (mode : TradingMode) (symbolKey : String) :
    Segment CycleShared CycleStage CycleEvent
  | s, .called, .starts active =>
      some (s, if active then .processing else .ended .symbolDisabled)
  | s, .processing, .processed none => some (s, .ended .noSignal)
  | s, .processing, .processed (some signal) => some (s, .loading signal)
  | s, .loading _, .latest none => some (s, .ended .failed)
  | s, .loading signal, .latest (some m) => some (s.assess limits mode signal m)
  | s, .ordering signal _, .executed result =>
      some (s, if result.status.isBooked then .filling signal else .ended .orderNotFilled)
  | s, .filling signal, .booked => some (s.record symbolKey signal, .ended .orderFilled)
  | s, .processing, .raises => some (s, .ended .failed)
  | s, .loading _, .raises => some (s, .ended .failed)
  | s, .ordering _ _, .raises => some (s, .ended .failed)
  | s, .filling _, .raises => some (s, .ended .failed)
  | _, _, _ => none

/-- What can happen next. -/
inductive CycleAction (ι : Type*)
  | wake (i : ι) (now : ℚ) (e : CycleEvent)
  | dailyReturn (x : ℚ)

section Cooldown

variable {ι : Type*} [DecidableEq ι]

/-- The cycles on one risk engine, each called with its symbol key. -/
def cycleMachine (limits : RiskLimits) (mode : TradingMode) (symbolKey : ι → String) :
    Machine (Pool ι CycleShared CycleStage) (CycleAction ι) where
  next P
    | .wake i now e =>
        if P.shared.clock ≤ now then
          (runCycle limits mode (symbolKey i) { P.shared with clock := now } (P.task i) e).map
            fun r => P.resume i r.1 r.2
        else none
    | .dailyReturn x =>
        some { P with shared := { P.shared with engine := P.shared.engine.updateReturns x } }

/-- Every cycle is called on a risk engine that has recorded no trade. -/
def cycleStart (engine : RiskEngineState) (now : ℚ) : Pool ι CycleShared CycleStage where
  shared := { engine := { engine with lastTradeAt := fun _ => none }, clock := now }
  task := fun _ => .called

/-- The cycle has ended with a filled order for the symbol and the strategy of the call, and
less than the cooldown before it. -/
structure FilledCycle.CoolsDown (limits : RiskLimits) (f : FilledCycle) (call : EvaluateCall) :
    Prop where
  symbol : f.signal.symbol = call.signal.symbol
  strategy : f.signal.strategyName = call.signal.strategyName
  before : f.recordedAt < call.now
  within : call.now < f.recordedAt + limits.tradeCooldownSeconds

/-- Every signal that opens a position within the cooldown is rejected. -/
def KeepsCooldown (limits : RiskLimits) (s : CycleShared) : Prop :=
  ∀ e ∈ s.evaluated, e.call.opens = true → ∀ f ∈ e.earlier, f.CoolsDown limits e.call →
    e.decision = .rejected

/-- The trade of the cycle is found when the cooldown of the call is looked up. -/
structure FilledCycle.IsFound (limits : RiskLimits) (f : FilledCycle) (call : EvaluateCall) :
    Prop where
  key : cooldownKey f.symbolKey f.signal.strategyName =
    cooldownKey call.signal.symbol.ccxtSymbol call.signal.strategyName
  within : call.now < f.recordedAt + limits.tradeCooldownSeconds

/-- A gate other than the cooldown is against an opening signal. -/
def EvaluateCall.IsBarred (limits : RiskLimits) (s : RiskEngineState) (call : EvaluateCall) :
    Prop :=
  call.killSwitchActive = true ∨ call.hasPosition = true ∨ ¬ HasRoom limits s call

/-- When the call would open a position within the cooldown, the trade of a cycle is found, or
another gate is against it. -/
def CycleShared.Covers (limits : RiskLimits) (s : CycleShared) (call : EvaluateCall) : Prop :=
  call.opens = true → ∀ f ∈ s.filled, f.CoolsDown limits call →
    (∃ g ∈ s.filled, g.IsFound limits call) ∨ call.IsBarred limits s.engine

/-- Signals are evaluated only when they are covered. -/
def FindsTrade (limits : RiskLimits) (P : Pool ι CycleShared CycleStage) :
    CycleAction ι → Prop
  | .wake i now (.latest (some m)) =>
      ∀ signal, P.task i = .loading signal → P.shared.Covers limits (m.call signal now)
  | _ => True

/-! ### What a step does -/

/-- `evaluate` records no trade. -/
theorem lastTradeAt_evaluate (limits : RiskLimits) (s : RiskEngineState) (call : EvaluateCall) :
    (evaluate limits s call).engine.lastTradeAt = s.lastTradeAt := by
  unfold evaluate
  dsimp only
  split
  · rfl
  · split
    · rfl
    · split
      · rfl
      · split <;> rfl

variable {limits : RiskLimits} {mode : TradingMode} {key : String} {s t : CycleShared}
  {pc pc' : CycleStage} {e : CycleEvent}

/-- A cycle evaluates its signal, or records its trade, or leaves both alone. -/
inductive CycleStep (limits : RiskLimits) (key : String) (s : CycleShared) (pc : CycleStage) :
    CycleEvent → CycleShared → Prop
  | evaluates {signal : Signal} {m : CycleMarket} {t : CycleShared}
      (hpc : pc = .loading signal) (hclock : t.clock = s.clock) (hfilled : t.filled = s.filled)
      (htrades : t.engine.lastTradeAt = s.engine.lastTradeAt)
      (hevaluated : t.evaluated = ⟨m.call signal s.clock,
        (evaluate limits s.engine (m.call signal s.clock)).assessment.decision, s.filled⟩ ::
          s.evaluated) : CycleStep limits key s pc (.latest (some m)) t
  | records {signal : Signal} : CycleStep limits key s pc .booked (s.record key signal)
  | keeps {e : CycleEvent} (hother : ∀ m, e ≠ .latest (some m)) : CycleStep limits key s pc e s

theorem cycleStep_of_runCycle (h : runCycle limits mode key s pc e = some (t, pc')) :
    CycleStep limits key s pc e t := by
  unfold runCycle at h
  split at h
  case h_5 signal m =>
    obtain ⟨rfl, -⟩ := Prod.mk.inj (Option.some.inj h)
    exact .evaluates rfl rfl rfl (lastTradeAt_evaluate _ _ _) rfl
  case h_7 signal =>
    obtain ⟨rfl, -⟩ := Prod.mk.inj (Option.some.inj h)
    exact .records
  case h_12 => cases h
  all_goals
    obtain ⟨rfl, -⟩ := Prod.mk.inj (Option.some.inj h)
    exact .keeps fun _ heq => by cases heq

/-! ### The recorded trades -/

/-- The trades that the risk engine has recorded are the newest ones of the filled cycles. -/
structure RecordsTrades (s : CycleShared) : Prop where
  last : ∀ k, s.engine.lastTradeAt k = (s.filled.find? fun f =>
    cooldownKey f.symbolKey f.signal.strategyName = k).map FilledCycle.recordedAt
  ordered : s.filled.Pairwise fun f g => g.recordedAt ≤ f.recordedAt
  past : ∀ f ∈ s.filled, f.recordedAt ≤ s.clock

theorem RecordsTrades.later (h : RecordsTrades s) {now : ℚ} (hnow : s.clock ≤ now) :
    RecordsTrades { s with clock := now } :=
  ⟨h.last, h.ordered, fun f hf => (h.past f hf).trans hnow⟩

theorem RecordsTrades.record (h : RecordsTrades s) (signal : Signal) :
    RecordsTrades (s.record key signal) where
  last k := by
    simp only [CycleShared.record, RiskEngineState.recordTrade, List.find?_cons]
    by_cases hk : cooldownKey key signal.strategyName = k
    · subst hk
      simp
    · rw [Function.update_of_ne (Ne.symm hk), h.last k]
      simp [hk]
  ordered := List.pairwise_cons.2 ⟨fun f hf => h.past f hf, h.ordered⟩
  past := List.forall_mem_cons.2 ⟨le_rfl, h.past⟩

theorem RecordsTrades.of_cycleStep (h : RecordsTrades s) (hstep : CycleStep limits key s pc e t) :
    RecordsTrades t := by
  cases hstep with
  | evaluates hpc hclock hfilled htrades hevaluated =>
      refine ⟨fun k => ?_, ?_, ?_⟩
      · rw [htrades, hfilled]
        exact h.last k
      · rw [hfilled]
        exact h.ordered
      · rw [hfilled, hclock]
        exact h.past
  | records => exact h.record _
  | keeps => exact h

/-- The first cycle that is found is the newest one. -/
theorem RecordsTrades.newest (h : RecordsTrades s) (found : FilledCycle → Bool) {f : FilledCycle}
    (hf : f ∈ s.filled) (hfound : found f = true) :
    ∃ g ∈ s.filled.find? found, f.recordedAt ≤ g.recordedAt := by
  cases hfind : s.filled.find? found with
  | none => exact absurd hfound (List.find?_eq_none.1 hfind f hf)
  | some g =>
      refine ⟨g, rfl, ?_⟩
      obtain ⟨-, newer, older, hfilled, hnewer⟩ := List.find?_eq_some_iff_append.1 hfind
      have hordered := h.ordered
      rw [hfilled] at hf hordered
      rcases List.mem_append.1 hf with hf | hf
      · exact absurd hfound (by simpa using hnewer f hf)
      · rcases List.mem_cons.1 hf with rfl | hf
        · exact le_rfl
        · exact (List.pairwise_cons.1 (List.pairwise_append.1 hordered).2.1).1 f hf

/-- The trade that is looked up is within the cooldown exactly when a filled cycle is found. -/
theorem RecordsTrades.isFound_iff (h : RecordsTrades s) (call : EvaluateCall) :
    (∃ last ∈ s.engine.lastTradeAt
        (cooldownKey call.signal.symbol.ccxtSymbol call.signal.strategyName),
      call.now < last + limits.tradeCooldownSeconds) ↔
      ∃ g ∈ s.filled, g.IsFound limits call := by
  rw [h.last]
  constructor
  · rintro ⟨last, hlast, hlt⟩
    obtain ⟨g, hg, rfl⟩ := Option.map_eq_some_iff.1 hlast
    exact ⟨g, List.mem_of_find?_eq_some hg, by simpa using List.find?_some hg, hlt⟩
  · rintro ⟨g, hg, hkey, hlt⟩
    obtain ⟨f, hf, hle⟩ := h.newest (fun f => cooldownKey f.symbolKey f.signal.strategyName =
      cooldownKey call.signal.symbol.ccxtSymbol call.signal.strategyName) hg (decide_eq_true hkey)
    exact ⟨f.recordedAt, Option.map_eq_some_iff.2 ⟨f, hf, rfl⟩, by linarith⟩

/-! ### The cooldown over runs -/

/-- An opening signal is rejected exactly when a recorded trade is found or another gate is
against it. -/
theorem rejected_iff (h : RecordsTrades s) {call : EvaluateCall} (hopens : call.opens = true)
    (hcooldown : limits.tradeCooldownSeconds ≠ 0) :
    (evaluate limits s.engine call).assessment.decision = .rejected ↔
      (∃ g ∈ s.filled, g.IsFound limits call) ∨ call.IsBarred limits s.engine := by
  rw [← not_iff_not, ← ne_eq, ne_rejected_iff_passes, ← h.isFound_iff call,
    EvaluateCall.IsBarred, hopens, Bool.true_and]
  push Not
  simp only [ne_eq, Bool.not_eq_true]
  constructor
  · rintro ⟨hinactive, hnone, hpasses⟩
    exact ⟨hpasses.cooled hcooldown, hinactive, hnone, hpasses.toHasRoom⟩
  · rintro ⟨hcooled, hinactive, hnone, hroom⟩
    exact ⟨hinactive, hnone, hroom, fun _ => hcooled⟩

theorem FilledCycle.CoolsDown.ne_zero {f : FilledCycle} {call : EvaluateCall}
    (h : f.CoolsDown limits call) : limits.tradeCooldownSeconds ≠ 0 := by
  intro hzero
  have hwithin := h.within
  rw [hzero, Nat.cast_zero, add_zero] at hwithin
  exact absurd h.before (not_lt.2 hwithin.le)

/-- A covered call is one whose rejection the cooldown asks for and gets. -/
theorem RecordsTrades.covers_iff (h : RecordsTrades s) (call : EvaluateCall) :
    s.Covers limits call ↔ (call.opens = true → ∀ f ∈ s.filled, f.CoolsDown limits call →
      (evaluate limits s.engine call).assessment.decision = .rejected) := by
  unfold CycleShared.Covers
  constructor
  · intro hcovers hopens f hf hcools
    exact (rejected_iff h hopens hcools.ne_zero).2 (hcovers hopens f hf hcools)
  · intro hrejected hopens f hf hcools
    exact (rejected_iff h hopens hcools.ne_zero).1 (hrejected hopens f hf hcools)

/-- A step keeps the cooldown exactly when the call that it evaluates is covered. -/
theorem keepsCooldown_iff_of_cycleStep (h : RecordsTrades s)
    (hstep : CycleStep limits key s pc e t) :
    KeepsCooldown limits t ↔ KeepsCooldown limits s ∧ ∀ m, e = .latest (some m) →
      ∀ signal, pc = .loading signal → s.Covers limits (m.call signal s.clock) := by
  cases hstep with
  | evaluates hpc hclock hfilled htrades hevaluated =>
      subst hpc
      rw [KeepsCooldown, hevaluated, List.forall_mem_cons, ← h.covers_iff, and_comm]
      simp [KeepsCooldown]
  | records => simp [KeepsCooldown, CycleShared.record]
  | keeps hother => simp [hother]

variable {symbolKey : ι → String} {P Q : Pool ι CycleShared CycleStage} {a : CycleAction ι}

theorem recordsTrades_next (h : RecordsTrades P.shared)
    (hstep : (cycleMachine limits mode symbolKey).next P a = some Q) :
    RecordsTrades Q.shared := by
  cases a with
  | dailyReturn x =>
      obtain rfl := Option.some.inj hstep
      exact ⟨h.last, h.ordered, h.past⟩
  | wake i now e =>
      obtain ⟨hclock, hstep⟩ := Option.ite_none_right_eq_some.1 hstep
      obtain ⟨r, hr, rfl⟩ := Option.map_eq_some_iff.1 hstep
      exact (h.later hclock).of_cycleStep (cycleStep_of_runCycle hr)

theorem keepsCooldown_next (h : RecordsTrades P.shared)
    (hstep : (cycleMachine limits mode symbolKey).next P a = some Q) :
    KeepsCooldown limits Q.shared ↔ KeepsCooldown limits P.shared ∧ FindsTrade limits P a := by
  cases a with
  | dailyReturn x =>
      obtain rfl := Option.some.inj hstep
      simp [KeepsCooldown, FindsTrade]
  | wake i now e =>
      obtain ⟨hclock, hstep⟩ := Option.ite_none_right_eq_some.1 hstep
      obtain ⟨r, hr, rfl⟩ := Option.map_eq_some_iff.1 hstep
      rw [Pool.resume_shared,
        keepsCooldown_iff_of_cycleStep (h.later hclock) (cycleStep_of_runCycle hr)]
      refine and_congr Iff.rfl ?_
      constructor
      · intro hcovers
        cases e with
        | latest market =>
            cases market with
            | none => trivial
            | some m => exact fun signal hpc => hcovers m rfl signal hpc
        | _ => trivial
      · rintro hfinds m rfl signal hpc
        exact hfinds signal hpc

/-- Over a run of any number of cycles every opening signal within the cooldown of a filled
cycle is rejected exactly when every one of them is covered. -/
theorem keepsCooldown_iff_of_findsTrade {engine : RiskEngineState} {now : ℚ}
    {as : List (CycleAction ι)}
    (hrun : (cycleMachine limits mode symbolKey).run (cycleStart engine now) as = some P) :
    KeepsCooldown limits P.shared ↔
      (cycleMachine limits mode symbolKey).Guarded (FindsTrade limits) (cycleStart engine now)
        as := by
  have hstart : RecordsTrades (cycleStart (ι := ι) engine now).shared :=
    ⟨fun _ => rfl, List.Pairwise.nil, fun _ hf => by cases hf⟩
  have hkeeps : KeepsCooldown limits (cycleStart (ι := ι) engine now).shared :=
    fun _ he => by cases he
  have hiff := (cycleMachine limits mode symbolKey).run_iff_guarded
    (I := fun P => RecordsTrades P.shared) (φ := fun P => KeepsCooldown limits P.shared)
    (fun _ _ _ => recordsTrades_next) (fun _ _ _ => keepsCooldown_next) hstart hrun
  exact hiff.trans (and_iff_right hkeeps)

end Cooldown

/-! ### The keys of the candle handler -/

theorem cooldownKey_candleKey_ne (symbol : Symbol) (strategyName : String) :
    cooldownKey (candleKey symbol) strategyName ≠ cooldownKey symbol.ccxtSymbol strategyName := by
  intro heq
  have hlength := congrArg String.length heq
  simp only [cooldownKey, candleKey, String.length_append] at hlength
  have hcolon : ":".length = 1 := rfl
  omega

/-- A cycle that the candle handler has started finds no trade of its own. -/
theorem FilledCycle.CoolsDown.not_isFound {limits : RiskLimits} {f : FilledCycle}
    {call : EvaluateCall} (h : f.CoolsDown limits call)
    (hcandle : f.symbolKey = candleKey f.signal.symbol) : ¬ f.IsFound limits call := by
  intro hfound
  have hkey := hfound.key
  rw [hcandle, h.strategy, h.symbol] at hkey
  exact cooldownKey_candleKey_ne _ _ hkey

/-- What the cycles of the examples find. -/
def CycleMarket.btc : CycleMarket where
  close := 100
  positions := []
  portfolioValue := 1000
  cash := 1000
  orderId := 7

/-- A cycle of the examples comes to its evaluation, at the time of its start. -/
def evaluatedAt {ι : Type} (i : ι) (now : ℚ) : List (CycleAction ι) :=
  [.wake i now (.starts true), .wake i now (.processed (some (.btc .long))),
    .wake i now (.latest (some .btc))]

/-- The order of a cycle of the examples is filled. -/
def filledAt {ι : Type} (i : ι) (now : ℚ) : List (CycleAction ι) :=
  evaluatedAt i now ++
    [.wake i now (.executed (FillCall.btc 7 .buy 1 100).result), .wake i now .booked]

theorem keepsCooldown_iff_of_findsTrade_btc :
    ∃ P, (cycleMachine {} .paper fun _ => "BTC/USDT").run (cycleStart {} 0)
        (filledAt false 0 ++ evaluatedAt true 60) = some P ∧
      (KeepsCooldown {} P.shared ↔ (cycleMachine {} .paper fun _ => "BTC/USDT").Guarded
        (FindsTrade {}) (cycleStart {} 0) (filledAt false 0 ++ evaluatedAt true 60)) := by
  have hend : ((cycleMachine {} .paper fun _ => "BTC/USDT").run (cycleStart {} 0)
      (filledAt false 0 ++ evaluatedAt true 60)).isSome = true := by decide +kernel
  obtain ⟨P, hP⟩ := Option.isSome_iff_exists.1 hend
  exact ⟨P, hP, keepsCooldown_iff_of_findsTrade hP⟩

/-- The second cycle of the candle handler opens a position again within the cooldown. -/
theorem not_keepsCooldown :
    ¬ ∀ (limits : RiskLimits) (mode : TradingMode) (symbolKey : Bool → String)
      (engine : RiskEngineState) (now : ℚ) (as : List (CycleAction Bool))
      (P : Pool Bool CycleShared CycleStage),
      (cycleMachine limits mode symbolKey).run (cycleStart engine now) as = some P →
        KeepsCooldown limits P.shared := by
  intro h
  have hend : ((cycleMachine {} .paper fun _ => candleKey btcUsdt).run (cycleStart {} 0)
      (filledAt false 0 ++ evaluatedAt true 60)).any (fun P =>
        P.shared.evaluated.any fun e => e.call.opens && e.decision != .rejected &&
          e.earlier.any fun f => f.signal.symbol = e.call.signal.symbol &&
            f.signal.strategyName = e.call.signal.strategyName &&
            decide (f.recordedAt < e.call.now) &&
            decide (e.call.now < f.recordedAt + (300 : ℚ))) = true := by
    decide +kernel
  obtain ⟨P, hP, hopened⟩ := (Option.any_eq_true _ _).1 hend
  obtain ⟨e, he, hopened⟩ := List.any_eq_true.1 hopened
  simp only [Bool.and_eq_true, List.any_eq_true, decide_eq_true_eq, bne_iff_ne] at hopened
  obtain ⟨⟨hopens, hdecision⟩, f, hf, ⟨⟨hsymbol, hstrategy⟩, hbefore⟩, hwithin⟩ := hopened
  exact hdecision (h {} .paper _ {} 0 _ P hP e he hopens f hf
    ⟨hsymbol, hstrategy, hbefore, by exact_mod_cast hwithin⟩)

end Sgr
