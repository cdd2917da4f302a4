import Sgr.Execution.Engine.KillSwitch
import Sgr.Exchange.PaperAdapter

/-!
# Calls while the kill switch is active

One `execute` call for a reduce-only order, from its start to its end, in an engine
whose kill switch is active and at an exchange that fills every order it receives. The
call comes back with the fill exactly when it bypasses the kill switch and the order
passes the gates of a PAPER engine; in LIVE mode the preflight refuses it because of the
kill switch.
-/

open Collection Concurrency

namespace Sgr

/-- The result is that of a complete fill. -/
structure Fills (o : OrderRequest) (r : OrderResult) : Prop where
  status : r.status = .filled
  quantity : r.filledQuantity = o.quantity
  price : r.averageFillPrice.isSome = true
  symbol : r.symbol = o.symbol
  side : r.rawResponse.side = some o.side.value
  duplicate : r.rawResponse.duplicate = false
  unknown : r.rawResponse.unknown = false

/-- An exchange that fills every order it receives completely. -/
structure FillingExchange where
  /-- What `get_exchange_info` answers before the order; `none` is an exception that is
  no `ExchangeError`. -/
  info : OrderRequest → Option (Except ExchangeError ExchangeInfo)
  fill : OrderRequest → OrderResult
  fills : ∀ o, Fills o (fill o)

/-- The simulation of the PAPER adapters, when the ticker is known. -/
def FillingExchange.paper (limits : PaperLimits)
    (info : OrderRequest → Option (Except ExchangeError ExchangeInfo))
    (ticker : OrderRequest → Ticker) : FillingExchange where
  info := info
  fill o := (simulateOrder limits o (some (ticker o))).get rfl
  fills _ := ⟨rfl, rfl, rfl, rfl, rfl, rfl, rfl⟩

/-- What wakes a call that awaits the limits of the symbol. -/
def FillingExchange.limitsEvent (ex : FillingExchange) (o : OrderRequest) : CallEvent :=
  match ex.info o with
  | some info => .limitsAnswer info
  | none => .fails

/-- A single `execute` call. -/
def callMachine (cfg : EngineConfig) (o : OrderRequest) (bypass : Bool) :
    Machine (EngineState × CallPc) CallEvent where
  next c e := callSegment cfg o bypass c.1 c.2 e

/-- The exchange gives its answers to the call. -/
def Serves (ex : FillingExchange) (o : OrderRequest) (c : EngineState × CallPc)
    (e : CallEvent) : Prop :=
  match c.2 with
  | .limits => e = ex.limitsEvent o
  | .safe a .submitting => e = .safe (.submitReturns (ex.fill (o.withAmount a)))
  | _ => True

/-- Neither the map nor the table knows the id. -/
structure Fresh (s : EngineState) (id : UUID) : Prop where
  inFlight : s.safety.inFlight.get? id = none
  orders : s.safety.orders id = none

/-- What a call that has ended answers. -/
def CallPc.answer : CallPc → Option ExecuteAnswer
  | .rejected r | .returned r => some (.returned r)
  | .raised => some .raised
  | _ => none

/-- The answer of a call that starts with a fresh id while the kill switch is active,
and that the exchange serves. -/
def Executed (cfg : EngineConfig) (ex : FillingExchange) (o : OrderRequest)
    (bypass : Bool) (answer : ExecuteAnswer) : Prop :=
  ∃ (s : EngineState) (events : List CallEvent) (c : EngineState × CallPc),
    s.killSwitch = true ∧ Fresh s o.id ∧
      (callMachine cfg o bypass).Guarded (Serves ex o) (s, .idle) events ∧
        (callMachine cfg o bypass).run (s, .idle) events = some c ∧
          c.2.answer = some answer

/-- The gates that a reduce-only order meets while the kill switch is active. -/
structure Passes (cfg : EngineConfig) (ex : FillingExchange) (o : OrderRequest)
    (bypass : Bool) : Prop where
  bypass : bypass = true
  engine : cfg.mode = .paper
  mode : o.tradingMode = .paper
  pool : cfg.pool o.symbol.exchange = true
  quantity : 0 < o.quantity
  limits : ∃ info, ex.info o = some info ∧
    eligible [checkSymbolPrecisionAndLimits o info] = true

theorem eq_paper_of_ne_live {mode : TradingMode} (h : ¬ mode = .live) : mode = .paper := by
  cases mode with
  | paper => rfl
  | live => exact absurd rfl h

/-- The result of an order that has not reached the exchange. -/
structure Refuses (o : OrderRequest) (r : OrderResult) : Prop where
  status : r.status = .rejected
  symbol : r.symbol = o.symbol

theorem refuses_rejectedResult (cfg : EngineConfig) (o : OrderRequest) (reason : String) :
    Refuses o (rejectedResult cfg o reason) := ⟨rfl, rfl⟩

section Call

variable {cfg : EngineConfig} {ex : FillingExchange} {o : OrderRequest} {bypass : Bool}

/-- What is known of a call inside the safe executor. -/
def ServedSafe (ex : FillingExchange) (o : OrderRequest) (s : EngineState) : SafePc → Prop
  | .lookup => Fresh s o.id
  | .lookedUp row => row = none
  | .persistPending | .pendingPersisted | .submitting => True
  | .persistFinal r raised | .finalPersisted r raised => r = ex.fill o ∧ raised = false
  | _ => False

/-- What is known of a call at each of its control points. -/
def Served (cfg : EngineConfig) (ex : FillingExchange) (o : OrderRequest) (bypass : Bool)
    (c : EngineState × CallPc) : Prop :=
  match c.2 with
  | .idle => c.1.killSwitch = true ∧ Fresh c.1 o.id
  | .limits => c.1.killSwitch = true ∧ Fresh c.1 o.id ∧ bypass = true ∧
      o.tradingMode = cfg.mode ∧ cfg.pool o.symbol.exchange = true
  | .live checks => eligible checks = false ∧ cfg.mode = .live
  | .safe a p => a = o.amount ∧ Passes cfg ex o bypass ∧ ServedSafe ex o c.1 p
  | .publishing r | .persisting _ r | .persisted r =>
      Passes cfg ex o bypass ∧ r = attributed o (ex.fill o)
  | .returned r => (Passes cfg ex o bypass ∧ r = attributed o (ex.fill o)) ∨
      (¬ Passes cfg ex o bypass ∧ Refuses o r)
  | .rejected r => ¬ Passes cfg ex o bypass ∧ Refuses o r
  | .raised => ¬ Passes cfg ex o bypass
  | _ => False

theorem served_handleResult (s : EngineState) (hpasses : Passes cfg ex o bypass) :
    Served cfg ex o bypass (handleResult o s (ex.fill o)) := by
  have hfill := ex.fills o
  rw [handleResult, if_neg (by simp [hfill.duplicate, hfill.unknown]), if_pos hfill.status]
  exact ⟨hpasses, rfl⟩

theorem safeCall_of_fresh {s : EngineState} (hfresh : Fresh s o.id) :
    safeCall cfg.repo (o.withAmount o.amount) s.safety =
      if cfg.repo then (s.safety, .lookup)
      else ((s.safety.track o.id (placeholder o)).submit o.id, .submitting) := by
  rw [safeCall, OrderRequest.withAmount_id, hfresh.inFlight]
  rfl

theorem served_executeInternal {s : EngineState} (hpasses : Passes cfg ex o bypass)
    (hfresh : Fresh s o.id) : Served cfg ex o bypass (executeInternal cfg o s o.amount) := by
  rw [executeInternal, if_pos hpasses.pool, safeCall_of_fresh hfresh]
  cases cfg.repo with
  | true => exact ⟨rfl, hpasses, hfresh⟩
  | false => exact ⟨rfl, hpasses, trivial⟩

/-- The gates of a PAPER order come down to the preflight. -/
theorem passes_iff_eligible (hbypass : bypass = true) (hengine : cfg.mode = .paper)
    (hmode : o.tradingMode = .paper) (hpool : cfg.pool o.symbol.exchange = true)
    {info : Except ExchangeError ExchangeInfo} (hinfo : ex.info o = some info) :
    Passes cfg ex o bypass ↔
      eligible (staticChecks o ++ [checkSymbolPrecisionAndLimits o info]) = true := by
  rw [eligible_append, Bool.and_eq_true, eligible_staticChecks_iff]
  constructor
  · intro h
    obtain ⟨info', hinfo', hlimits⟩ := h.limits
    obtain rfl := Option.some.inj (hinfo.symm.trans hinfo')
    exact ⟨h.quantity, hlimits⟩
  · rintro ⟨hquantity, hlimits⟩
    exact ⟨hbypass, hengine, hmode, hpool, hquantity, info, hinfo, hlimits⟩

theorem not_passes_of_live (h : cfg.mode = .live) : ¬ Passes cfg ex o bypass := by
  intro hpasses
  cases h.symm.trans hpasses.engine

theorem served_executeInternal_of_no_adapter (s : EngineState) (a : Amount)
    (hpool : ¬ cfg.pool o.symbol.exchange = true) :
    Served cfg ex o bypass (executeInternal cfg o s a) := by
  rw [executeInternal, if_neg hpool]
  exact .inr ⟨fun hpasses => hpool hpasses.pool, refuses_rejectedResult cfg o _⟩

theorem served_afterPreflight_of_not_eligible {s : EngineState}
    {checks : List PreflightCheckResult} (now : Timestamp)
    (hchecks : eligible checks = false) (hnot : ¬ Passes cfg ex o bypass) :
    Served cfg ex o bypass (afterPreflight cfg o s checks now) := by
  rw [afterPreflight, if_pos (by simp [hchecks])]
  exact ⟨hnot, refuses_rejectedResult cfg o _⟩

/-- Behind the preflight a reduce-only PAPER order meets no further gate. -/
theorem afterPreflight_of_eligible (hreduce : o.reduceOnly = true)
    (hpaper : o.tradingMode = .paper) {s : EngineState}
    {checks : List PreflightCheckResult} (now : Timestamp) (hchecks : eligible checks = true) :
    afterPreflight cfg o s checks now = executeInternal cfg o s o.amount := by
  rw [afterPreflight, if_neg (by simp [hchecks]), if_pos hreduce, verify,
    if_pos (by rw [hpaper]; decide)]

theorem served_start (hreduce : o.reduceOnly = true) {s : EngineState}
    (hactive : s.killSwitch = true) (hfresh : Fresh s o.id)
    (registry : String → Option StrategyEntry) (connected : ExchangeID → Option Bool) :
    Served cfg ex o bypass (start cfg o bypass s registry connected) := by
  unfold start
  dsimp only
  split
  next hmode => exact fun hpasses => hmode (hpasses.mode.trans hpasses.engine.symm)
  next hmode =>
    rw [not_not] at hmode
    split
    next hgate =>
      refine ⟨fun hpasses => ?_, refuses_rejectedResult cfg o _⟩
      have hpaper : o.tradingMode ≠ .live := by
        rw [hpasses.mode]
        decide
      rw [checkLiveTradingAllowed_of_paper registry connected hpaper] at hgate
      cases hgate
    next =>
      split
      next hkill =>
        refine ⟨fun hpasses => ?_, refuses_rejectedResult cfg o _⟩
        simp [hpasses.bypass] at hkill
      next hkill =>
        have hbypass : bypass = true := by simpa [hactive] using hkill
        split
        next hpool => exact ⟨hactive, hfresh, hbypass, hmode, hpool⟩
        next hpool =>
          split
          next hlive =>
            apply served_afterPreflight_of_not_eligible 0 _ (not_passes_of_live hlive)
            simp [eligible, noAdapterCheck]
          next hpaper =>
            have hmode : o.tradingMode = .paper := hmode.trans (eq_paper_of_ne_live hpaper)
            cases hchecks : eligible (staticChecks o) with
            | false =>
                exact served_afterPreflight_of_not_eligible 0 hchecks
                  fun hpasses => hpool hpasses.pool
            | true =>
                rw [afterPreflight_of_eligible hreduce hmode 0 hchecks]
                exact served_executeInternal_of_no_adapter s _ hpool

/-- The preflight of a LIVE order fails because of the kill switch, that of a PAPER
order does not look at it. -/
theorem served_afterLimits (hreduce : o.reduceOnly = true) {s : EngineState}
    (hactive : s.killSwitch = true) (hfresh : Fresh s o.id) (hbypass : bypass = true)
    (hmode : o.tradingMode = cfg.mode) (hpool : cfg.pool o.symbol.exchange = true)
    {info : Except ExchangeError ExchangeInfo} (hinfo : ex.info o = some info) :
    Served cfg ex o bypass (afterLimits cfg o s info) := by
  unfold afterLimits
  dsimp only
  split
  next hlive =>
    refine ⟨?_, hlive⟩
    simp [eligible, checkKillSwitchInactive, hactive]
  next hpaper =>
    have hengine := eq_paper_of_ne_live hpaper
    have hiff : Passes cfg ex o bypass ↔ _ :=
      passes_iff_eligible hbypass hengine (hmode.trans hengine) hpool hinfo
    cases hchecks : eligible (staticChecks o ++ [checkSymbolPrecisionAndLimits o info]) with
    | false =>
        apply served_afterPreflight_of_not_eligible 0 hchecks
        rw [hiff, hchecks]
        decide
    | true =>
        rw [afterPreflight_of_eligible hreduce (hmode.trans hengine) 0 hchecks]
        exact served_executeInternal (hiff.2 hchecks) hfresh

theorem served_persistStatus (s : EngineState) (id : UUID) {r : OrderResult}
    (hpasses : Passes cfg ex o bypass) (hr : r = attributed o (ex.fill o)) :
    Served cfg ex o bypass (persistStatus cfg o s id r) := by
  unfold persistStatus
  split
  · exact ⟨hpasses, hr⟩
  · exact .inl ⟨hpasses, hr⟩

theorem served_safe {s : EngineState} {p q : SafePc} {e : SafeEvent} {u : ExecutorState}
    (hpasses : Passes cfg ex o bypass) (hp : ServedSafe ex o s p)
    (hserves : p = .submitting → e = .submitReturns (ex.fill o))
    (h : SafeStep cfg.repo o s.safety p e u q) :
    Served cfg ex o bypass (afterSafe o (s.withSafety u) o.amount q) := by
  cases h with
  | callBlocked _ _ => exact hp.elim
  | callLookup _ _ => exact hp.elim
  | callSubmit _ _ => exact hp.elim
  | lookupAnswers => exact ⟨rfl, hpasses, hp.orders⟩
  | lookupFails => exact ⟨rfl, hpasses, rfl⟩
  | recovered _ => cases hp
  | accepted => exact ⟨rfl, hpasses, trivial⟩
  | createCommits _ => exact ⟨rfl, hpasses, trivial⟩
  | createFails => exact ⟨rfl, hpasses, trivial⟩
  | submits => exact ⟨rfl, hpasses, trivial⟩
  | submitReturns r =>
      obtain rfl : r = ex.fill o := SafeEvent.submitReturns.inj (hserves rfl)
      cases cfg.repo with
      | true => exact ⟨rfl, hpasses, rfl, rfl⟩
      | false => exact served_handleResult _ hpasses
  | submitRaises _ _ => cases hserves rfl
  | submitRaisesDrops _ _ => cases hserves rfl
  | updateCommits _ _ => exact ⟨rfl, hpasses, hp⟩
  | updateFails _ _ => exact ⟨rfl, hpasses, hp⟩
  | returns r =>
      obtain ⟨rfl, -⟩ := hp
      exact served_handleResult _ hpasses
  | dropsAndReturns _ => cases hp.2

theorem limitsEvent_eq_limitsAnswer_iff {info : Except ExchangeError ExchangeInfo} :
    CallEvent.limitsAnswer info = ex.limitsEvent o ↔ ex.info o = some info := by
  unfold FillingExchange.limitsEvent
  split
  next info' h =>
    rw [h, CallEvent.limitsAnswer.injEq, Option.some.injEq]
    exact eq_comm
  next h => simp [h]

theorem limitsEvent_eq_fails_iff : CallEvent.fails = ex.limitsEvent o ↔ ex.info o = none := by
  unfold FillingExchange.limitsEvent
  split
  next info' h => simp [h]
  next h => simp [h]

/-- What is known of a call is kept by its segments, as long as the exchange serves
it. -/
theorem served_step (hreduce : o.reduceOnly = true) {c d : EngineState × CallPc}
    {e : CallEvent} (hc : Served cfg ex o bypass c) (hserves : Serves ex o c e)
    (h : (callMachine cfg o bypass).next c e = some d) : Served cfg ex o bypass d := by
  obtain ⟨s, p⟩ := c
  change callSegment cfg o bypass s p e = some d at h
  unfold callSegment at h
  split at h
  · cases h
    exact served_start hreduce hc.1 hc.2 _ _
  · obtain ⟨hactive, hfresh, hbypass, hmode, hpool⟩ := hc
    cases h
    exact served_afterLimits hreduce hactive hfresh hbypass hmode hpool
      (limitsEvent_eq_limitsAnswer_iff.1 hserves)
  · -- the checks have failed already
    cases h
    apply served_afterPreflight_of_not_eligible _ _ (not_passes_of_live hc.2)
    rw [eligible_append, hc.1, Bool.false_and]
  · exact hc.elim
  · exact hc.elim
  · exact hc.elim
  · cases h
    rintro hpasses
    obtain ⟨info, hinfo, -⟩ := hpasses.limits
    rw [limitsEvent_eq_fails_iff.1 hserves] at hinfo
    cases hinfo
  · cases h
    exact not_passes_of_live hc.2
  · obtain ⟨⟨u, q⟩, hseg, rfl⟩ := Option.map_eq_some_iff.1 h
    obtain ⟨rfl, hpasses, hp⟩ := hc
    refine served_safe hpasses hp ?_ (safeStep_of_safeSegment hseg)
    rintro rfl
    exact CallEvent.safe.inj hserves
  · cases h
    exact served_persistStatus s _ hc.1 hc.2
  · exact hc.elim
  · exact hc.elim
  · exact hc.elim
  · exact hc.elim
  · exact hc.elim
  · cases h
    exact hc
  · cases h
    exact hc
  · cases h
    exact .inl hc
  · cases h

/-- An `execute` call for a reduce-only order while the kill switch is active answers
with the fill when the order passes the gates, and with a rejection or an exception when
it does not. -/
theorem Executed.eq_or_refused {answer : ExecuteAnswer}
    (h : Executed cfg ex o bypass answer) (hreduce : o.reduceOnly = true) :
    (Passes cfg ex o bypass ∧ answer = .returned (attributed o (ex.fill o))) ∨
      (¬ Passes cfg ex o bypass ∧
        (answer = .raised ∨ ∃ r, answer = .returned r ∧ Refuses o r)) := by
  obtain ⟨s, events, ⟨t, p⟩, hactive, hfresh, hguard, hrun, hanswer⟩ := h
  have hserved : Served cfg ex o bypass (t, p) :=
    (callMachine cfg o bypass).guarded_run_invariant (Serves ex o)
      (Served cfg ex o bypass) (fun _ _ _ hc hserves h => served_step hreduce hc hserves h)
      (show Served cfg ex o bypass (s, .idle) from ⟨hactive, hfresh⟩) hguard hrun
  cases p with
  | rejected r =>
      cases hanswer
      exact .inr ⟨hserved.1, .inr ⟨r, rfl, hserved.2⟩⟩
  | raised =>
      cases hanswer
      exact .inr ⟨hserved, .inl rfl⟩
  | returned r =>
      cases hanswer
      rcases hserved with ⟨hpasses, rfl⟩ | ⟨hnot, hr⟩
      · exact .inl ⟨hpasses, rfl⟩
      · exact .inr ⟨hnot, .inr ⟨r, rfl, hr⟩⟩
  | _ => cases hanswer

/-- The call can be served to its end. -/
def Ends (cfg : EngineConfig) (ex : FillingExchange) (o : OrderRequest) (bypass : Bool)
    (c : EngineState × CallPc) : Prop :=
  ∃ events d, (callMachine cfg o bypass).Guarded (Serves ex o) c events ∧
    (callMachine cfg o bypass).run c events = some d ∧ d.2.answer.isSome = true

namespace Ends

variable {s : EngineState}

theorem of_answer {c : EngineState × CallPc} (h : c.2.answer.isSome = true) :
    Ends cfg ex o bypass c := ⟨[], c, trivial, rfl, h⟩

theorem step {c d : EngineState × CallPc} (e : CallEvent) (hserves : Serves ex o c e)
    (hnext : (callMachine cfg o bypass).next c e = some d) (hd : Ends cfg ex o bypass d) :
    Ends cfg ex o bypass c := by
  obtain ⟨events, d', hguard, hrun, hanswer⟩ := hd
  refine ⟨e :: events, d', ?_, ?_, hanswer⟩
  · rw [Machine.guarded_cons_of_eq_some _ hnext]
    exact ⟨hserves, hguard⟩
  · rw [Machine.run_cons, hnext, Option.bind_some, hrun]

theorem persistStatus (s : EngineState) (id : UUID) (r : OrderResult) :
    Ends cfg ex o bypass (persistStatus cfg o s id r) := by
  unfold Sgr.persistStatus
  split
  · refine step .statusFails (by exact trivial) rfl ?_
    exact step .resume (by exact trivial) rfl (of_answer rfl)
  · exact of_answer rfl

theorem handleResult (s : EngineState) : Ends cfg ex o bypass (handleResult o s (ex.fill o)) := by
  have hfill := ex.fills o
  rw [Sgr.handleResult, if_neg (by simp [hfill.duplicate, hfill.unknown]),
    if_pos hfill.status]
  exact step .published (by exact trivial) rfl (persistStatus s _ _)

theorem submitting (s : EngineState) : Ends cfg ex o bypass (s, .safe o.amount .submitting) := by
  refine step (.safe (.submitReturns (ex.fill o))) (by exact rfl) rfl ?_
  cases cfg.repo with
  | true =>
      refine step (.safe .updateFails) (by exact trivial) rfl ?_
      exact step (.safe .resume) (by exact trivial) rfl (handleResult _)
  | false => exact handleResult _

theorem executeInternal (hfresh : Fresh s o.id) :
    Ends cfg ex o bypass (executeInternal cfg o s o.amount) := by
  unfold Sgr.executeInternal
  split
  · rw [safeCall_of_fresh hfresh]
    cases cfg.repo with
    | true =>
        refine step (.safe .lookupFails) (by exact trivial) rfl ?_
        refine step (.safe .resume) (by exact trivial) rfl ?_
        refine step (.safe .createFails) (by exact trivial) rfl ?_
        exact step (.safe .resume) (by exact trivial) rfl (submitting _)
    | false => exact submitting _
  · exact of_answer rfl

theorem afterPreflight (hreduce : o.reduceOnly = true) (hpaper : o.tradingMode = .paper)
    (hfresh : Fresh s o.id) (checks : List PreflightCheckResult) (now : Timestamp) :
    Ends cfg ex o bypass (afterPreflight cfg o s checks now) := by
  cases hchecks : eligible checks with
  | false =>
      rw [Sgr.afterPreflight, if_pos (by simp [hchecks])]
      exact of_answer rfl
  | true =>
      rw [afterPreflight_of_eligible hreduce hpaper now hchecks]
      exact executeInternal hfresh

theorem limits (hreduce : o.reduceOnly = true) (hactive : s.killSwitch = true)
    (hfresh : Fresh s o.id) (hmode : o.tradingMode = cfg.mode) :
    Ends cfg ex o bypass (s, .limits) := by
  cases hinfo : ex.info o with
  | none =>
      exact step .fails (limitsEvent_eq_fails_iff.2 hinfo) rfl (of_answer rfl)
  | some info =>
      refine step (.limitsAnswer info) (limitsEvent_eq_limitsAnswer_iff.2 hinfo) rfl ?_
      unfold afterLimits
      dsimp only
      split
      next hlive =>
        have answers : LiveAnswers :=
          ⟨.ok 0, .ok ⟨true, ""⟩, .ok (.unlimited .binance []), .ok 0, .ok [], .ok false,
            .ok []⟩
        refine step (.liveAnswer answers 0) (by exact trivial) rfl ?_
        have hchecks : eligible (staticChecks o ++ [checkSymbolPrecisionAndLimits o info] ++
            [checkKillSwitchInactive s.killSwitch] ++ liveChecks cfg.limits o answers) =
              false := by
          rw [eligible_append, eligible_append, hactive]
          simp [eligible, checkKillSwitchInactive]
        rw [Sgr.afterPreflight, if_pos (by rw [hchecks]; rfl)]
        exact of_answer rfl
      next hpaper =>
        exact afterPreflight hreduce (hmode.trans (eq_paper_of_ne_live hpaper)) hfresh _ _

theorem start (hreduce : o.reduceOnly = true) (hactive : s.killSwitch = true)
    (hfresh : Fresh s o.id) (registry : String → Option StrategyEntry)
    (connected : ExchangeID → Option Bool) :
    Ends cfg ex o bypass (start cfg o bypass s registry connected) := by
  unfold Sgr.start
  dsimp only
  split
  next => exact of_answer rfl
  next hmode =>
    rw [not_not] at hmode
    split
    next => exact of_answer rfl
    next =>
      split
      next => exact of_answer rfl
      next =>
        split
        next => exact limits hreduce hactive hfresh hmode
        next =>
          split
          next =>
            rw [Sgr.afterPreflight, if_pos (by simp [eligible, noAdapterCheck])]
            exact of_answer rfl
          next hpaper =>
            exact afterPreflight hreduce (hmode.trans (eq_paper_of_ne_live hpaper)) hfresh
              _ _

end Ends

/-- Every reduce-only order gets an answer from the engine. -/
theorem exists_executed (cfg : EngineConfig) (ex : FillingExchange) {o : OrderRequest}
    (bypass : Bool) (hreduce : o.reduceOnly = true) :
    ∃ answer, Executed cfg ex o bypass answer := by
  let s : EngineState := { EngineState.init none with killSwitch := true }
  have hfresh : Fresh s o.id := ⟨rfl, rfl⟩
  have hends : Ends cfg ex o bypass (s, .idle) :=
    .step (.call (fun _ => none) fun _ => none) (by exact trivial) rfl
      (.start hreduce rfl hfresh _ _)
  obtain ⟨events, c, hguard, hrun, hanswer⟩ := hends
  obtain ⟨answer, hanswer⟩ := Option.isSome_iff_exists.1 hanswer
  exact ⟨answer, s, events, c, rfl, hfresh, hguard, hrun, hanswer⟩

end Call

/-- The engine, as its callers see it while the kill switch is active. -/
def ExecutesActive (cfg : EngineConfig) (ex : FillingExchange) (execute : Execute) : Prop :=
  ∀ o bypass, o.reduceOnly = true → Executed cfg ex o bypass (execute o bypass)

theorem exists_executesActive (cfg : EngineConfig) (ex : FillingExchange) :
    ∃ execute, ExecutesActive cfg ex execute := by
  classical
  refine ⟨fun o bypass => if h : o.reduceOnly = true then
    (exists_executed cfg ex bypass h).choose else .raised, fun o bypass h => ?_⟩
  dsimp only
  rw [dif_pos h]
  exact (exists_executed cfg ex bypass h).choose_spec

end Sgr
