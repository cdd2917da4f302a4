import Sgr.Execution.Engine.Environment

/-!
# The bypass of the kill switch

`bypass_kill_switch` is checked at the entry of `execute` only. A protective order that
comes past the entry meets the flag again: in the LIVE preflight, which refuses it, and
in the monitoring, which cancels it at once. So the calls and the answer of a
reduce-only order depend on the kill switch as soon as the LIVE preflight is answered,
or the exchange answers a PAPER order with anything but a complete fill.
-/

open Collection Concurrency

namespace Sgr

/-- The same engine with the kill switch set or not. -/
def EngineState.withKillSwitch (s : EngineState) (active : Bool) : EngineState :=
  { s with killSwitch := active }

@[simp] theorem EngineState.withKillSwitch_safety (s : EngineState) (active : Bool) :
    (s.withKillSwitch active).safety = s.safety := rfl

@[simp] theorem EngineState.withKillSwitch_killSwitch (s : EngineState) (active : Bool) :
    (s.withKillSwitch active).killSwitch = active := rfl

@[simp] theorem EngineState.withKillSwitch_withSafety (s : EngineState) (active : Bool)
    (t : ExecutorState) :
    (s.withKillSwitch active).withSafety t = (s.withSafety t).withKillSwitch active := rfl

/-- The engine watches the order: the answer is its own, and no complete fill. -/
def monitored (r : OrderResult) : Bool :=
  !(r.rawResponse.duplicate || r.rawResponse.unknown) && r.status ≠ .filled

/-- Neither the preflight nor an earlier submission keeps the order from the exchange. -/
structure Submits (cfg : EngineConfig) (o : OrderRequest) (env : Environment)
    (s : EngineState) (info : Except ExchangeError ExchangeInfo) : Prop where
  eligible : eligible (staticChecks o ++ [checkSymbolPrecisionAndLimits o info]) = true
  inFlight : s.safety.inFlight.get? o.id = none
  orders : cfg.repo = true → env.lookup [.getExchangeInfo] = true → s.safety.orders o.id = none

/-- The order comes to a place where the engine reads the kill switch in spite of the
bypass. -/
def MeetsKillSwitch (cfg : EngineConfig) (o : OrderRequest) (env : Environment)
    (s : EngineState) : Prop :=
  Enters cfg o env ∧ ∃ info, env.limits [.getExchangeInfo] = some info ∧
    ((cfg.mode = .live ∧ (env.live [.getExchangeInfo, .liveChecks]).isSome = true) ∨
      (cfg.mode = .paper ∧ Submits cfg o env s info ∧
        ∃ r, env.placeOrder [.getExchangeInfo, .placeOrder o] = .ok r ∧
          monitored r = true))

/-- With the bypass the call does the same whether the kill switch is active or not. -/
def IgnoresKillSwitch (cfg : EngineConfig) (o : OrderRequest) (env : Environment)
    (s : EngineState) : Prop :=
  ∀ out, Outcome cfg o true env (s.withKillSwitch true) out ↔
    Outcome cfg o true env (s.withKillSwitch false) out

/-- A segment that sets the kill switch besides. -/
def armed (c : EngineState × CallPc) : EngineState × CallPc :=
  (c.1.withKillSwitch true, c.2)

section Segments

variable (cfg : EngineConfig) (o : OrderRequest) (s : EngineState) (r : OrderResult)

theorem finish_armed : finish o (s.withKillSwitch true) r = armed (finish o s r) := rfl

theorem persistStatus_armed (id : UUID) :
    persistStatus cfg o (s.withKillSwitch true) id r = armed (persistStatus cfg o s id r) := by
  unfold persistStatus
  split <;> rfl

/-- An answer that ends the call is handled without the kill switch. -/
theorem handleResult_armed (h : monitored r = false) :
    handleResult o (s.withKillSwitch true) r = armed (handleResult o s r) := by
  unfold handleResult
  split
  · rfl
  · rename_i hown
    rw [if_pos, if_pos]
    · rfl
    all_goals simpa [monitored, hown] using h

theorem monitored_makeDuplicateResult : monitored (makeDuplicateResult r) = false := rfl

theorem monitored_recoveredResult (row : OrderRow) :
    monitored (recoveredResult row o) = false := by
  unfold recoveredResult
  split <;> rfl

/-- The safe executor is entered without the kill switch. -/
theorem executeInternal_armed (a : Amount) :
    executeInternal cfg o (s.withKillSwitch true) a = armed (executeInternal cfg o s a) := by
  unfold executeInternal safeCall
  split
  · dsimp only [EngineState.withKillSwitch_safety]
    split
    · exact handleResult_armed o _ _ rfl
    · split <;> rfl
  · rfl

theorem afterPreflight_armed (checks : List PreflightCheckResult) (now : Timestamp)
    (hmode : o.tradingMode ≠ .live) (hreduce : o.reduceOnly = true) :
    afterPreflight cfg o (s.withKillSwitch true) checks now =
      armed (afterPreflight cfg o s checks now) := by
  unfold afterPreflight
  rw [if_pos hreduce, if_pos hreduce]
  split
  · rfl
  · rw [verify, verify, if_pos hmode, if_pos hmode]
    exact executeInternal_armed cfg o s o.amount

end Segments

section Quiet

variable (cfg : EngineConfig) (o : OrderRequest) (env : Environment) (s : EngineState)

/-- The exchange does not make the engine watch the order. -/
def NotMonitored : Prop :=
  ∀ r, env.placeOrder [.getExchangeInfo, .placeOrder o] = .ok r → monitored r = false

/-- What is known inside the safe executor of a call that does not meet the kill switch. -/
def QuietSafe (x : Execution) : SafePc → Prop
  | .lookup => x.calls = [.getExchangeInfo] ∧ x.state.safety.orders = s.safety.orders ∧
      ((env.lookup [.getExchangeInfo] = true → s.safety.orders o.id = none) →
        NotMonitored o env)
  | .lookedUp row => x.calls = [.getExchangeInfo] ∧ (row = none → NotMonitored o env)
  | .persistPending | .pendingPersisted =>
      x.calls = [.getExchangeInfo] ∧ NotMonitored o env
  | .submitting => x.calls = [.getExchangeInfo, .placeOrder o] ∧ NotMonitored o env
  | .persistFinal r _ | .finalPersisted r _ => monitored r = false
  | _ => False

/-- What is known of a call that does not meet the kill switch. -/
def Quiet (x : Execution) : Prop :=
  match x.pc with
  | .idle => x.calls = [] ∧ x.state.safety = s.safety
  | .limits => x.calls = [.getExchangeInfo] ∧ x.state.safety = s.safety ∧ Enters cfg o env
  | .live _ => x.calls = [.getExchangeInfo, .liveChecks] ∧
      env.live [.getExchangeInfo, .liveChecks] = none
  | .safe a p => a = o.amount ∧ QuietSafe o env s x p
  | .leverage | .quantize | .verification _ | .sleeping _ _ | .polling _ _
  | .cancelling _ => False
  | _ => True

variable {cfg o env s}

theorem withAmount_amount (o : OrderRequest) : o.withAmount o.amount = o := rfl

theorem quiet_finish (calls : List ExchangeCall) (t : EngineState) (r : OrderResult) :
    Quiet cfg o env s (.moved o calls (finish o t r)) := trivial

theorem quiet_persistStatus (calls : List ExchangeCall) (t : EngineState) (id : UUID)
    (r : OrderResult) : Quiet cfg o env s (.moved o calls (persistStatus cfg o t id r)) := by
  unfold persistStatus
  split <;> trivial

theorem quiet_handleResult (calls : List ExchangeCall) (t : EngineState) {r : OrderResult}
    (h : monitored r = false) : Quiet cfg o env s (.moved o calls (handleResult o t r)) := by
  unfold handleResult
  split
  · exact quiet_finish calls t r
  · rename_i hown
    rw [if_pos (by simpa [monitored, hown] using h)]
    trivial

theorem quiet_executeInternal {t : EngineState} (ht : t.safety = s.safety)
    (hfree : s.safety.inFlight.get? o.id = none →
      (cfg.repo = true → env.lookup [.getExchangeInfo] = true → s.safety.orders o.id = none) →
        NotMonitored o env) :
    Quiet cfg o env s (.moved o [.getExchangeInfo] (executeInternal cfg o t o.amount)) := by
  unfold executeInternal
  split
  · rw [ht, safeCall, withAmount_amount]
    cases hcached : s.safety.inFlight.get? o.id with
    | some cached => exact quiet_handleResult _ _ (monitored_makeDuplicateResult cached)
    | none =>
        cases hrepo : cfg.repo with
        | true => exact ⟨rfl, rfl, rfl, fun h => hfree hcached fun _ => h⟩
        | false =>
            refine ⟨rfl, rfl, hfree hcached fun h => ?_⟩
            rw [hrepo] at h
            cases h
  · exact quiet_finish _ _ _

theorem quiet_verify {t : EngineState} (now : Timestamp) (ht : t.safety = s.safety)
    (hmode : o.tradingMode ≠ .live)
    (hfree : s.safety.inFlight.get? o.id = none →
      (cfg.repo = true → env.lookup [.getExchangeInfo] = true → s.safety.orders o.id = none) →
        NotMonitored o env) :
    Quiet cfg o env s (.moved o [.getExchangeInfo] (verify cfg o t o.amount now)) := by
  rw [verify, if_pos hmode]
  exact quiet_executeInternal ht hfree

end Quiet

section Start

variable {cfg : EngineConfig} {o : OrderRequest} {env : Environment} {s : EngineState}

theorem eligible_noAdapterCheck (o : OrderRequest) :
    eligible (staticChecks o ++ [noAdapterCheck o]) = false := by
  rw [eligible_append]
  exact Bool.and_false _

/-- A call with the bypass starts without the kill switch. -/
theorem start_armed (hreduce : o.reduceOnly = true) (s : EngineState)
    (registry : String → Option StrategyEntry) (connected : ExchangeID → Option Bool) :
    start cfg o true (s.withKillSwitch true) registry connected =
      armed (start cfg o true s registry connected) := by
  unfold start
  simp only [Bool.not_true, Bool.and_false, Bool.false_eq_true, if_false]
  by_cases hmode : o.tradingMode = cfg.mode
  · split
    · rfl
    · split
      · rfl
      · split
        · rfl
        · split
          · simp only [afterPreflight, eligible_noAdapterCheck]
            rfl
          · rename_i hlive
            exact afterPreflight_armed cfg o s _ 0 (hmode ▸ hlive) hreduce
  · rw [if_pos hmode, if_pos hmode]
    rfl

theorem quiet_start {t : EngineState} (ht : t.safety = s.safety)
    (hreduce : o.reduceOnly = true) :
    Quiet cfg o env s (.moved o [] (start cfg o true t env.registry env.connected)) := by
  unfold start
  simp only [Bool.not_true, Bool.and_false, Bool.false_eq_true, if_false]
  by_cases hmode : o.tradingMode = cfg.mode
  · rw [if_neg (not_not.2 hmode)]
    split
    · trivial
    · rename_i hgate
      split
      · rename_i hpool
        exact ⟨rfl, ht, hmode, by simpa using hgate, hpool⟩
      · rename_i hpool
        split
        · simp only [afterPreflight, eligible_noAdapterCheck]
          trivial
        · rename_i hlive
          unfold afterPreflight
          split
          · trivial
          · rw [verify, if_pos (hmode ▸ hlive), executeInternal, if_neg hpool]
            trivial
  · rw [if_pos hmode]
    trivial

end Start

/-- Two calls in the same environment of which only the first one runs with the kill
switch, and which do not meet it. -/
structure Alike (cfg : EngineConfig) (o : OrderRequest) (env : Environment) (s : EngineState)
    (x y : Execution) : Prop where
  calls : x.calls = y.calls
  state : x.state = y.state.withKillSwitch true
  pc : x.pc = y.pc ∨ ∃ checks checks', x.pc = .live checks ∧ y.pc = .live checks'
  quiet : Quiet cfg o env s y

section Alike

variable {cfg : EngineConfig} {o : OrderRequest} {env : Environment} {s : EngineState}

theorem alike_moved {calls : List ExchangeCall} {c d : EngineState × CallPc}
    (hc : c = armed d) (hd : Quiet cfg o env s (.moved o calls d)) :
    Alike cfg o env s (.moved o calls c) (.moved o calls d) := by
  subst hc
  exact ⟨rfl, rfl, .inl rfl, hd⟩

theorem alike_limits (hreduce : o.reduceOnly = true) (hnot : ¬ MeetsKillSwitch cfg o env s)
    {t : EngineState} (ht : t.safety = s.safety) (henters : Enters cfg o env) :
    ∃ x' y',
      Execution.next cfg o true env ⟨[.getExchangeInfo], t.withKillSwitch true, .limits⟩ =
          some x' ∧
        Execution.next cfg o true env ⟨[.getExchangeInfo], t, .limits⟩ = some y' ∧
          Alike cfg o env s x' y' := by
  cases hlimits : env.limits [.getExchangeInfo] with
  | none =>
      have hevent (u : EngineState) : env.event [.getExchangeInfo] o u .limits = .fails := by
        simp only [Environment.event, hlimits]
      exact ⟨_, _, next_eq (hevent _) rfl, next_eq (hevent _) rfl, alike_moved rfl trivial⟩
  | some info =>
      have hevent (u : EngineState) :
          env.event [.getExchangeInfo] o u .limits = .limitsAnswer info := by
        simp only [Environment.event, hlimits]
      refine ⟨_, _, next_eq (hevent _) rfl, next_eq (hevent _) rfl, ?_⟩
      unfold afterLimits
      by_cases hlive : cfg.mode = .live
      · have hnone : env.live [.getExchangeInfo, .liveChecks] = none := by
          by_contra hsome
          exact hnot ⟨henters, info, hlimits, .inl ⟨hlive, Option.isSome_iff_ne_none.2 hsome⟩⟩
        dsimp only
        rw [if_pos hlive, if_pos hlive]
        exact ⟨rfl, rfl, .inr ⟨_, _, rfl, rfl⟩, rfl, hnone⟩
      · have hmode : o.tradingMode ≠ .live := henters.mode ▸ hlive
        dsimp only
        rw [if_neg hlive, if_neg hlive]
        refine alike_moved (afterPreflight_armed cfg o t _ 0 hmode hreduce) ?_
        unfold afterPreflight
        split
        · trivial
        · rename_i heligible
          refine quiet_verify 0 ht hmode fun hcached horders r hr => ?_
          by_contra hmonitored
          exact hnot ⟨henters, info, hlimits, .inr ⟨eq_paper_of_ne_live hlive,
            ⟨by simpa using heligible, hcached, horders⟩, r, hr, by simpa using hmonitored⟩⟩

theorem alike_live {calls : List ExchangeCall} {t : EngineState}
    (checks checks' : List PreflightCheckResult) (hlive : env.live calls = none) :
    ∃ x' y', Execution.next cfg o true env ⟨calls, t.withKillSwitch true, .live checks⟩ =
          some x' ∧
        Execution.next cfg o true env ⟨calls, t, .live checks'⟩ = some y' ∧
          Alike cfg o env s x' y' := by
  have hevent (u : EngineState) (checks : List PreflightCheckResult) :
      env.event calls o u (.live checks) = .fails := by
    simp only [Environment.event, hlive]
  exact ⟨_, _, next_eq (hevent _ _) rfl, next_eq (hevent _ _) rfl, alike_moved rfl trivial⟩

/-- What a segment of the safe executor leads to. -/
theorem quiet_safeStep {calls : List ExchangeCall} {t : EngineState} {u : ExecutorState}
    {p q : SafePc} (h : QuietSafe o env s ⟨calls, t, .safe o.amount p⟩ p)
    (hstep : SafeStep cfg.repo o t.safety p (env.safeEvent calls t.safety o.id p) u q) :
    afterSafe o ((t.withSafety u).withKillSwitch true) o.amount q =
        armed (afterSafe o (t.withSafety u) o.amount q) ∧
      Quiet cfg o env s (.moved o calls (afterSafe o (t.withSafety u) o.amount q)) := by
  have hends {r : OrderResult} (hr : monitored r = false) (v : EngineState) :
      handleResult o (v.withKillSwitch true) r = armed (handleResult o v r) ∧
        Quiet cfg o env s (.moved o calls (handleResult o v r)) :=
    ⟨handleResult_armed o v r hr, quiet_handleResult calls v hr⟩
  generalize hevent : env.safeEvent calls t.safety o.id p = e at hstep
  cases hstep with
  | callBlocked | callLookup | callSubmit => exact absurd h id
  | lookupAnswers =>
      obtain ⟨hcalls, horders, hfree⟩ := h
      dsimp only at hcalls horders
      subst hcalls
      have hanswers : env.lookup [.getExchangeInfo] = true := by
        by_contra hfails
        simp [Environment.safeEvent, hfails] at hevent
      exact ⟨rfl, rfl, rfl, fun hnone => hfree fun _ => by rw [← horders, hnone]⟩
  | lookupFails =>
      obtain ⟨hcalls, horders, hfree⟩ := h
      dsimp only at hcalls horders
      subst hcalls
      have hfails : ¬ env.lookup [.getExchangeInfo] = true := by
        intro hanswers
        simp [Environment.safeEvent, hanswers] at hevent
      exact ⟨rfl, rfl, rfl, fun _ => hfree fun hanswers => absurd hanswers hfails⟩
  | recovered row => exact hends (monitored_recoveredResult o row) _
  | accepted => exact ⟨rfl, rfl, (List.append_nil calls).trans h.1, h.2 rfl⟩
  | createCommits _ => exact ⟨rfl, rfl, (List.append_nil calls).trans h.1, h.2⟩
  | createFails => exact ⟨rfl, rfl, (List.append_nil calls).trans h.1, h.2⟩
  | submits =>
      obtain ⟨hcalls, hfree⟩ := h
      dsimp only at hcalls
      subst hcalls
      exact ⟨rfl, rfl, rfl, hfree⟩
  | submitReturns r =>
      obtain ⟨hcalls, hfree⟩ := h
      dsimp only at hcalls
      subst hcalls
      have hr : monitored r = false := by
        refine hfree r ?_
        cases hplace : env.placeOrder [.getExchangeInfo, .placeOrder o] with
        | error e => simp [Environment.safeEvent, hplace] at hevent
        | ok r' => simpa [Environment.safeEvent, hplace] using hevent
      cases cfg.repo with
      | true => exact ⟨rfl, rfl, hr⟩
      | false => exact hends hr _
  | submitRaises e _ => exact ⟨rfl, rfl, rfl⟩
  | submitRaisesDrops e _ => exact hends rfl _
  | updateCommits r raised => exact ⟨rfl, rfl, h⟩
  | updateFails r raised => exact ⟨rfl, rfl, h⟩
  | returns r => exact hends h _
  | dropsAndReturns r => exact hends h _

theorem alike_safe {calls : List ExchangeCall} {t : EngineState} {p : SafePc}
    (h : QuietSafe o env s ⟨calls, t, .safe o.amount p⟩ p) :
    (Execution.next cfg o true env ⟨calls, t.withKillSwitch true, .safe o.amount p⟩ = none ∧
        Execution.next cfg o true env ⟨calls, t, .safe o.amount p⟩ = none) ∨
      ∃ x' y',
        Execution.next cfg o true env ⟨calls, t.withKillSwitch true, .safe o.amount p⟩ =
            some x' ∧
          Execution.next cfg o true env ⟨calls, t, .safe o.amount p⟩ = some y' ∧
            Alike cfg o env s x' y' := by
  rw [next_safe, next_safe, EngineState.withKillSwitch_safety, withAmount_amount]
  cases hsafe : safeSegment cfg.repo o t.safety p (env.safeEvent calls t.safety o.id p) with
  | none => exact .inl ⟨rfl, rfl⟩
  | some r =>
      obtain ⟨u, q⟩ := r
      obtain ⟨harmed, hquiet⟩ := quiet_safeStep h (safeStep_of_safeSegment hsafe)
      exact .inr ⟨_, _, rfl, rfl, alike_moved harmed hquiet⟩

theorem alike_persisting {calls : List ExchangeCall} {t : EngineState} {id : UUID}
    {r : OrderResult} :
    ∃ x' y',
      Execution.next cfg o true env ⟨calls, t.withKillSwitch true, .persisting id r⟩ =
          some x' ∧
        Execution.next cfg o true env ⟨calls, t, .persisting id r⟩ = some y' ∧
          Alike cfg o env s x' y' := by
  cases hstatus : env.status calls with
  | true =>
      have hevent (u : EngineState) :
          env.event calls o u (.persisting id r) = .statusCommits := by
        simp [Environment.event, hstatus]
      exact ⟨_, _, next_eq (hevent _) rfl, next_eq (hevent _) rfl, alike_moved rfl trivial⟩
  | false =>
      have hevent (u : EngineState) :
          env.event calls o u (.persisting id r) = .statusFails := by
        simp [Environment.event, hstatus]
      exact ⟨_, _, next_eq (hevent _) rfl, next_eq (hevent _) rfl, alike_moved rfl trivial⟩

/-- One segment of both calls. -/
theorem alike_next (hreduce : o.reduceOnly = true) (hnot : ¬ MeetsKillSwitch cfg o env s)
    {x y : Execution} (h : Alike cfg o env s x y) :
    (x.next cfg o true env = none ∧ y.next cfg o true env = none) ∨
      ∃ x' y', x.next cfg o true env = some x' ∧ y.next cfg o true env = some y' ∧
        Alike cfg o env s x' y' := by
  obtain ⟨calls, t, p⟩ := y
  obtain ⟨calls', t', p'⟩ := x
  obtain ⟨hcalls, hstate, hpc, hquiet⟩ := h
  dsimp only at hcalls hstate hpc
  subst hcalls hstate
  rcases hpc with hpc | ⟨checks, checks', hlive, hlive'⟩
  · subst hpc
    cases p' with
    | idle =>
        obtain ⟨hcalls, ht⟩ := hquiet
        dsimp only at hcalls
        subst hcalls
        exact .inr ⟨_, _, rfl, rfl, alike_moved (start_armed hreduce t _ _)
          (quiet_start ht hreduce)⟩
    | limits =>
        obtain ⟨hcalls, ht, henters⟩ := hquiet
        dsimp only at hcalls
        subst hcalls
        exact .inr (alike_limits hreduce hnot ht henters)
    | live checks =>
        obtain ⟨hcalls, hnone⟩ := hquiet
        dsimp only at hcalls
        subst hcalls
        exact .inr (alike_live checks checks hnone)
    | leverage | quantize | verification _ | sleeping _ _ | polling _ _ | cancelling _ =>
        exact absurd hquiet id
    | safe a p =>
        obtain ⟨ha, hquiet⟩ := hquiet
        subst ha
        exact alike_safe hquiet
    | publishing r =>
        exact .inr ⟨_, _, rfl, rfl, alike_moved (persistStatus_armed cfg o t r r.requestId)
          (quiet_persistStatus _ t _ r)⟩
    | persisting id r => exact .inr alike_persisting
    | persisted r => exact .inr ⟨_, _, rfl, rfl, alike_moved (finish_armed o t r) trivial⟩
    | rejected r => exact .inl ⟨rfl, rfl⟩
    | returned r => exact .inl ⟨rfl, rfl⟩
    | raised => exact .inl ⟨rfl, rfl⟩
  · subst hlive hlive'
    obtain ⟨hcalls, hnone⟩ := hquiet
    dsimp only at hcalls
    subst hcalls
    exact .inr (alike_live checks checks' hnone)

theorem Alike.outcome_eq {x y : Execution} (h : Alike cfg o env s x y) :
    x.outcome = y.outcome := by
  rcases h.pc with hpc | ⟨checks, checks', hx, hy⟩
  · rw [Execution.outcome, Execution.outcome, h.calls, hpc]
  · rw [Execution.outcome, Execution.outcome, hx, hy]
    rfl

/-- A call that does not meet the kill switch does the same with and without it. -/
theorem ignoresKillSwitch_of_not_meetsKillSwitch (hreduce : o.reduceOnly = true)
    (hnot : ¬ MeetsKillSwitch cfg o env s) : IgnoresKillSwitch cfg o env s := by
  intro out
  have hstart : Alike cfg o env s (.start (s.withKillSwitch true))
      (.start (s.withKillSwitch false)) := ⟨rfl, rfl, .inl rfl, rfl, rfl⟩
  constructor
  · rintro ⟨x, hx, hout⟩
    obtain ⟨y, hy, h⟩ := exists_reaches_of_lockstep (R := Alike cfg o env s)
      (fun _ _ h => alike_next hreduce hnot h) hstart hx
    exact ⟨y, hy, h.outcome_eq ▸ hout⟩
  · rintro ⟨y, hy, hout⟩
    obtain ⟨x, hx, h⟩ := exists_reaches_of_lockstep (R := fun y x => Alike cfg o env s x y)
      (fun _ _ h => (alike_next hreduce hnot h).imp And.symm
        fun ⟨x', y', hx', hy', h'⟩ => ⟨y', x', hy', hx', h'⟩) hstart hy
    exact ⟨x, hx, h.outcome_eq ▸ hout⟩

end Alike

end Sgr
