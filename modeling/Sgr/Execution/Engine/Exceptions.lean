import Sgr.Execution.Engine.Environment
import Sgr.Execution.Engine.Leverage
import Sgr.Execution.Engine.Results

/-!
# Exceptions out of a call

`execute` catches what `_execute_internal` raises. What comes before that is caught piece by
piece: the preflight turns errors of the exchange into failed checks, `_ensure_leverage` and
`_quantize_order` look up the adapter before their `try` blocks, and the quantisation runs after
one. Between two of its suspension points a call meets any state of the engine and of the pool
that the other tasks have left, and any answers.
-/

open Collection Concurrency

namespace Sgr

/-- What a call meets when it goes on after a suspension point. -/
structure Moment where
  env : Environment
  /-- The exchanges for which the pool has an adapter. -/
  pool : ExchangeID → Bool
  /-- What the other tasks have made of the engine. -/
  others : EngineState → EngineState

/-- The configuration with the adapters of the moment. -/
def EngineConfig.at (cfg : EngineConfig) (m : Moment) : EngineConfig :=
  { cfg with pool := m.pool }

/-- The next segment of a call at a moment. -/
def Execution.nextAt (cfg : EngineConfig) (o : OrderRequest) (bypass : Bool) (m : Moment)
    (x : Execution) : Option Execution :=
  Execution.next (cfg.at m) o bypass m.env { x with state := m.others x.state }

/-- The next segment of a call, with the number of segments so far. -/
def Execution.nextAmong (cfg : EngineConfig) (o : OrderRequest) (bypass : Bool)
    (world : ℕ → Moment) (c : ℕ × Execution) : Option (ℕ × Execution) :=
  (c.2.nextAt cfg o bypass (world c.1)).map fun x => (c.1 + 1, x)

/-- The call comes to a state. -/
def ComesTo (cfg : EngineConfig) (o : OrderRequest) (bypass : Bool) (world : ℕ → Moment)
    (s : EngineState) (c : ℕ × Execution) : Prop :=
  Reaches (Execution.nextAmong cfg o bypass world) (0, .start s) c

/-- The order has been handed to `place_order`. -/
def Execution.sent (x : Execution) : Prop := ∃ p, ExchangeCall.placeOrder p ∈ x.calls

/-- The call comes to an end with a result, and without an order that is sent with a rejection,
or with what is known of the order from an earlier call. -/
def EndsInResult (cfg : EngineConfig) (o : OrderRequest) (bypass : Bool) (world : ℕ → Moment)
    (s : EngineState) : Prop :=
  ∃ c r, ComesTo cfg o bypass world s c ∧ c.2.pc.answer = some (.returned r) ∧
    (c.2.sent ∨ r.status = .rejected ∨ r.rawResponse.duplicate = true)

/-- The order has passed the preflight, and the adapter that is looked up for it is missing. -/
def MissesAdapter (o : OrderRequest) (m : Moment) (checks : List PreflightCheckResult) : Prop :=
  eligible checks = true ∧ o.reduceOnly = false ∧ m.pool o.symbol.exchange = false

/-- The call meets what nobody catches: a request of the preflight raises something other than
an `ExchangeError`, an opening order finds no adapter after the preflight or after
`set_leverage`, or a quantised number has too many digits. -/
def Escapes (cfg : EngineConfig) (o : OrderRequest) (bypass : Bool) (m : Moment)
    (x : Execution) : Prop :=
  match x.pc with
  | .idle =>
      cfg.mode = .paper ∧ ((m.others x.state).killSwitch = true → bypass = true) ∧
        MissesAdapter o m (staticChecks o)
  | .limits =>
      match m.env.limits x.calls with
      | none => True
      | some info =>
          cfg.mode = .paper ∧
            MissesAdapter o m (staticChecks o ++ [checkSymbolPrecisionAndLimits o info])
  | .live checks =>
      match m.env.live x.calls with
      | none => True
      | some (answers, _) => MissesAdapter o m (checks ++ liveChecks cfg.limits o answers)
  | .leverage =>
      letsPass (m.env.leverage x.calls) = true ∧ m.pool o.symbol.exchange = false
  | .quantize =>
      quantizeOrderRaises o (m.env.quantization x.calls).1 (m.env.quantization x.calls).2.1 = true
  | _ => False

/-- The segments that a call has left, at most. -/
def SafePc.rank : SafePc → ℕ
  | .idle => 8
  | .lookup => 7
  | .lookedUp _ => 6
  | .persistPending => 5
  | .pendingPersisted => 4
  | .submitting => 3
  | .persistFinal _ _ => 2
  | .finalPersisted _ _ => 1
  | .blocked _ | .finished _ => 0

/-- A bound of the segments that a call has left. -/
def CallPc.rank : CallPc → ℕ
  | .idle => 205
  | .limits => 204
  | .live _ => 203
  | .leverage => 202
  | .quantize => 201
  | .verification _ => 200
  | .safe _ p => 180 + p.rank
  | .sleeping _ elapsed => 10 + 2 * (60 - elapsed)
  | .polling _ elapsed => 9 + 2 * (62 - elapsed)
  | .cancelling _ => 4
  | .publishing _ => 3
  | .persisting _ _ => 2
  | .persisted _ => 1
  | .rejected _ | .returned _ | .raised => 0

section Rank

variable (cfg : EngineConfig) (o : OrderRequest) (s : EngineState)

theorem rank_persistStatus (id : UUID) (r : OrderResult) :
    (persistStatus cfg o s id r).2.rank ≤ 2 := by
  unfold persistStatus
  split
  · exact le_rfl
  · exact Nat.zero_le 2

theorem rank_monitorEnd (r : OrderResult) : (monitorEnd o s r).2.rank ≤ 4 := by
  unfold monitorEnd
  split_ifs <;> simp [CallPc.rank, finish]

theorem fillTimeout_le : fillTimeout o ≤ 60 := by
  unfold fillTimeout
  split <;> omega

theorem rank_monitorLoop (r : OrderResult) (elapsed : ℕ) :
    (monitorLoop o s r elapsed).2.rank < 9 + 2 * (62 - elapsed) := by
  have htimeout := fillTimeout_le o
  unfold monitorLoop
  split
  · split
    · simp only [CallPc.rank]
      omega
    · simp only [CallPc.rank]
      omega
  · have hend := rank_monitorEnd o s r
    omega

theorem rank_pollAnswered (r : OrderResult) (elapsed : ℕ) :
    (pollAnswered cfg o s r elapsed).2.rank < 9 + 2 * (62 - elapsed) := by
  unfold pollAnswered
  dsimp only
  split
  · exact rank_monitorLoop o _ _ elapsed
  · split
    · simp only [CallPc.rank]
      omega
    · have hstatus := rank_persistStatus cfg o
        (s.withSafety (s.safety.updateInflight o.id (attributed o r))) o.id (attributed o r)
      omega

theorem rank_handleResult (r : OrderResult) : (handleResult o s r).2.rank < 180 := by
  unfold handleResult
  split
  · simp [CallPc.rank, finish]
  · split
    · simp [CallPc.rank]
    · have hloop := rank_monitorLoop o s (attributed o r) 0
      omega

theorem rank_afterSafe (a : Amount) (p : SafePc) :
    (afterSafe o s a p).2.rank ≤ 180 + p.rank := by
  have hhandled (r : OrderResult) : (handleResult o s r).2.rank ≤ 180 :=
    (rank_handleResult o s r).le
  cases p with
  | blocked r => exact hhandled r
  | finished r => exact hhandled r
  | _ => exact le_rfl

theorem rank_safeCall (repo : Bool) (t : ExecutorState) : (safeCall repo o t).2.rank ≤ 7 := by
  unfold safeCall
  split
  · exact Nat.zero_le 7
  · split
    · exact le_rfl
    · simp [SafePc.rank]

theorem rank_executeInternal (a : Amount) : (executeInternal cfg o s a).2.rank < 200 := by
  unfold executeInternal
  split
  · have hcall := rank_safeCall (o.withAmount a) cfg.repo s.safety
    have hafter := rank_afterSafe o
      (s.withSafety (safeCall cfg.repo (o.withAmount a) s.safety).1) a
      (safeCall cfg.repo (o.withAmount a) s.safety).2
    dsimp only
    omega
  · simp [CallPc.rank, finish]

theorem rank_verified (a : Amount) (ticker : Except String Ticker) (now : Timestamp) :
    (verified cfg o s a ticker now).2.rank < 200 := by
  unfold verified
  dsimp only
  split
  · simp [CallPc.rank]
  · exact rank_executeInternal cfg o _ a

theorem rank_verify (a : Amount) (now : Timestamp) :
    (verify cfg o s a now).2.rank < 201 := by
  have hexecuted := rank_executeInternal cfg o s a
  have hverified := rank_verified cfg o s a (.error "") now
  unfold verify
  split
  · omega
  · split
    · omega
    · simp [CallPc.rank]

theorem rank_quantizeAnswered (info : Except String ExchangeInfo) (ticker : Except String Ticker)
    (now : Timestamp) : (quantizeAnswered cfg o s info ticker now).2.rank < 201 := by
  unfold quantizeAnswered
  split
  · simp [CallPc.rank]
  · obtain ⟨a, reason⟩ := quantizeOrder o info ticker
    cases reason with
    | some reason => simp [Sgr.quantized, CallPc.rank]
    | none => exact rank_verify cfg o s a now

theorem rank_startQuantize : (startQuantize cfg o s).2.rank < 202 := by
  unfold startQuantize
  split <;> simp [CallPc.rank]

theorem rank_leverageAnswered (answer : Except ExchangeError Unit) :
    (leverageAnswered cfg o s answer).2.rank < 202 := by
  unfold leverageAnswered
  split
  · exact rank_startQuantize cfg o _
  · split
    · exact rank_startQuantize cfg o _
    · simp [CallPc.rank]

theorem rank_ensureLeverage : (ensureLeverage cfg o s).2.rank < 203 := by
  have hquantize := rank_startQuantize cfg o s
  unfold ensureLeverage
  split
  · omega
  · split <;> simp [CallPc.rank]

theorem rank_afterPreflight (checks : List PreflightCheckResult) (now : Timestamp) :
    (afterPreflight cfg o s checks now).2.rank < 203 := by
  have hverify := rank_verify cfg o s o.amount now
  have hleverage := rank_ensureLeverage cfg o s
  unfold afterPreflight
  split
  · simp [CallPc.rank]
  · split <;> omega

theorem rank_afterLimits (info : Except ExchangeError ExchangeInfo) :
    (afterLimits cfg o s info).2.rank < 204 := by
  unfold afterLimits
  dsimp only
  split
  · simp [CallPc.rank]
  · have hpreflight := rank_afterPreflight cfg o s
      (staticChecks o ++ [checkSymbolPrecisionAndLimits o info]) 0
    omega

theorem rank_start (bypass : Bool) (registry : String → Option StrategyEntry)
    (connected : ExchangeID → Option Bool) :
    (start cfg o bypass s registry connected).2.rank < 205 := by
  have hpreflight (checks : List PreflightCheckResult) :
      (afterPreflight cfg o s checks 0).2.rank < 205 :=
    (rank_afterPreflight cfg o s checks 0).trans (by decide)
  unfold start
  dsimp only
  split_ifs
  all_goals first | exact hpreflight _ | simp [CallPc.rank]

end Rank

section Steps

variable {cfg : EngineConfig} {o : OrderRequest} {bypass : Bool} {s t : EngineState}
  {p q : CallPc} {e : CallEvent}

theorem SafeStep.rank_lt {repo : Bool} {p q : SafePc} {e : SafeEvent} {s t : ExecutorState}
    (h : SafeStep repo o s p e t q) : q.rank < p.rank := by
  cases h with
  | submitReturns r => split <;> simp [SafePc.rank]
  | _ => simp [SafePc.rank]

theorem rank_lt_of_some_eq {c : EngineState × CallPc} {n : ℕ} (h : some c = some (t, q))
    (hlt : c.2.rank < n) : q.rank < n := by
  cases h
  exact hlt

/-- Each segment leaves fewer. -/
theorem rank_lt_of_callSegment (h : callSegment cfg o bypass s p e = some (t, q)) :
    q.rank < p.rank := by
  unfold callSegment at h
  split at h
  · exact rank_lt_of_some_eq h (rank_start cfg o s bypass _ _)
  · exact rank_lt_of_some_eq h (rank_afterLimits cfg o s _)
  · exact rank_lt_of_some_eq h (rank_afterPreflight cfg o s _ _)
  · exact rank_lt_of_some_eq h (rank_leverageAnswered cfg o s _)
  · exact rank_lt_of_some_eq h (rank_quantizeAnswered cfg o s _ _ _)
  · exact rank_lt_of_some_eq h (rank_verified cfg o s _ _ _)
  · exact rank_lt_of_some_eq h (by simp [CallPc.rank])
  · exact rank_lt_of_some_eq h (by simp [CallPc.rank])
  next a p e =>
    obtain ⟨⟨u, q'⟩, hseg, hq⟩ := Option.map_eq_some_iff.1 h
    have hstep := (safeStep_of_safeSegment hseg).rank_lt
    have hafter := rank_afterSafe o (s.withSafety u) a q'
    exact rank_lt_of_some_eq (congrArg some hq)
      (hafter.trans_lt (Nat.add_lt_add_left hstep 180))
  · exact rank_lt_of_some_eq h
      ((rank_persistStatus cfg o s _ _).trans_lt (by simp [CallPc.rank]))
  next r elapsed =>
    exact rank_lt_of_some_eq h (by simp only [CallPc.rank, fillPollInterval]; omega)
  · exact rank_lt_of_some_eq h (rank_pollAnswered cfg o s _ _)
  · exact rank_lt_of_some_eq h (rank_monitorLoop o _ _ _)
  · exact rank_lt_of_some_eq h (by simp [CallPc.rank, finish])
  · exact rank_lt_of_some_eq h
      ((rank_persistStatus cfg o s o.id _).trans_lt (by simp [CallPc.rank]))
  · exact rank_lt_of_some_eq h (by simp [CallPc.rank])
  · exact rank_lt_of_some_eq h (by simp [CallPc.rank])
  · exact rank_lt_of_some_eq h (by simp [CallPc.rank, finish])
  · cases h

end Steps

section Raised

variable (cfg : EngineConfig) (o : OrderRequest) (s : EngineState)

theorem Continues.ne_raised {r : OrderResult} {t : EngineState} {q : CallPc}
    (h : Continues o s r t q) : q ≠ .raised := by
  cases h with
  | _ => intro hq; cases hq

theorem afterSafe_ne_raised (a : Amount) (p : SafePc) : (afterSafe o s a p).2 ≠ .raised := by
  refine afterSafe_cases o s (φ := fun c => c.2 ≠ .raised) ?_ ?_
  · intro r t q h
    exact h.ne_raised
  · exact fun _ h => (by cases h)

theorem executeInternal_ne_raised (a : Amount) : (executeInternal cfg o s a).2 ≠ .raised := by
  unfold executeInternal
  split
  · exact afterSafe_ne_raised o _ a _
  · intro h
    cases h

theorem verified_ne_raised (a : Amount) (ticker : Except String Ticker) (now : Timestamp) :
    (verified cfg o s a ticker now).2 ≠ .raised := by
  unfold verified
  dsimp only
  split
  · intro h
    cases h
  · exact executeInternal_ne_raised cfg o _ a

theorem verify_ne_raised (a : Amount) (now : Timestamp) :
    (verify cfg o s a now).2 ≠ .raised := by
  unfold verify
  split
  · exact executeInternal_ne_raised cfg o s a
  · split
    · exact verified_ne_raised cfg o s a _ now
    · intro h
      cases h

theorem quantizeAnswered_eq_raised_iff (info : Except String ExchangeInfo)
    (ticker : Except String Ticker) (now : Timestamp) :
    (quantizeAnswered cfg o s info ticker now).2 = .raised ↔
      quantizeOrderRaises o info ticker = true := by
  unfold quantizeAnswered
  split
  next hraises => exact iff_of_true rfl hraises
  next hfits =>
    refine iff_of_false ?_ hfits
    obtain ⟨a, reason⟩ := quantizeOrder o info ticker
    cases reason with
    | some reason => intro h; cases h
    | none => exact verify_ne_raised cfg o s a now

theorem startQuantize_eq_raised_iff :
    (startQuantize cfg o s).2 = .raised ↔ cfg.pool o.symbol.exchange = false := by
  unfold startQuantize
  cases cfg.pool o.symbol.exchange <;> simp

theorem ensureLeverage_eq_raised_iff :
    (ensureLeverage cfg o s).2 = .raised ↔ cfg.pool o.symbol.exchange = false := by
  unfold ensureLeverage
  split
  · exact startQuantize_eq_raised_iff cfg o s
  · cases cfg.pool o.symbol.exchange <;> simp

theorem leverageAnswered_eq_raised_iff (answer : Except ExchangeError Unit) :
    (leverageAnswered cfg o s answer).2 = .raised ↔
      letsPass answer = true ∧ cfg.pool o.symbol.exchange = false := by
  unfold leverageAnswered letsPass
  cases answer with
  | ok _ => simp only [startQuantize_eq_raised_iff, true_and]
  | error e =>
      dsimp only
      split
      next hpass => simp only [startQuantize_eq_raised_iff, hpass, true_and]
      next hfails => simp [hfails]

theorem afterPreflight_eq_raised_iff (checks : List PreflightCheckResult) (now : Timestamp) :
    (afterPreflight cfg o s checks now).2 = .raised ↔
      eligible checks = true ∧ o.reduceOnly = false ∧ cfg.pool o.symbol.exchange = false := by
  unfold afterPreflight
  cases heligible : eligible checks with
  | false => simp
  | true =>
      cases hreduce : o.reduceOnly with
      | true => simp [verify_ne_raised]
      | false => simp [ensureLeverage_eq_raised_iff]

theorem afterLimits_eq_raised_iff (info : Except ExchangeError ExchangeInfo) :
    (afterLimits cfg o s info).2 = .raised ↔ cfg.mode = .paper ∧
      eligible (staticChecks o ++ [checkSymbolPrecisionAndLimits o info]) = true ∧
        o.reduceOnly = false ∧ cfg.pool o.symbol.exchange = false := by
  unfold afterLimits
  cases hmode : cfg.mode with
  | live => simp
  | paper => simp only [reduceCtorEq, if_false, afterPreflight_eq_raised_iff, true_and]

theorem start_eq_raised_iff (hmode : o.tradingMode = cfg.mode) (bypass : Bool)
    (registry : String → Option StrategyEntry) (connected : ExchangeID → Option Bool) :
    (start cfg o bypass s registry connected).2 = .raised ↔ cfg.mode = .paper ∧
      (s.killSwitch = true → bypass = true) ∧ eligible (staticChecks o) = true ∧
        o.reduceOnly = false ∧ cfg.pool o.symbol.exchange = false := by
  unfold start
  rw [if_neg (not_not.2 hmode)]
  dsimp only
  cases hengine : cfg.mode with
  | live =>
      refine iff_of_false ?_ (by simp)
      rw [if_pos rfl]
      split_ifs
      · intro h; cases h
      · intro h; cases h
      · intro h; cases h
      · rw [afterPreflight_eq_raised_iff]
        simp [eligible, noAdapterCheck]
  | paper =>
      have hallowed : (checkLiveTradingAllowed o registry connected).allowed = true := by
        rw [checkLiveTradingAllowed, if_pos (by rw [hmode, hengine]; decide)]
      rw [hallowed]
      cases hkill : s.killSwitch && !bypass with
      | true => simp_all
      | false =>
          cases hpool : cfg.pool o.symbol.exchange with
          | true => simp
          | false => simp_all [afterPreflight_eq_raised_iff]

end Raised

/-- The safe executor runs, if the call is in it. -/
def CallPc.Runs : CallPc → Prop
  | .safe _ p => p.done = false
  | _ => True

/-- What a call that has sent nothing is about to do, or what it has answered. -/
def CallPc.Unsent : CallPc → Prop
  | .safe _ p => p.hasSubmitted = false
  | .rejected r => r.status = .rejected
  | .returned r => r.status = .rejected ∨ r.rawResponse.duplicate = true
  | .raised => True
  | p => p.early = true

section Calls

variable {cfg : EngineConfig} {o : OrderRequest} {bypass : Bool} {s t : EngineState}
  {p q : CallPc} {e : CallEvent} {m : Moment} {x y : Execution}

theorem CallStep.ne_raised (h : CallStep cfg o s p t q) (hp : p.early = false) :
    q ≠ .raised := by
  cases h with
  | gate hearly => rw [hp] at hearly; cases hearly
  | enter a hearly => rw [hp] at hearly; cases hearly
  | safe h => exact afterSafe_ne_raised o _ _ _
  | goesOn _ h => exact h.ne_raised
  | updates h => exact h.ne_raised
  | polls => intro hq; cases hq
  | aborts => intro hq; cases hq
  | stores => intro hq; cases hq

theorem Continues.runs {r : OrderResult} (h : Continues o s r t q) : q.Runs := by
  cases h <;> trivial

theorem runs_afterSafe (s : EngineState) (a : Amount) (p : SafePc) :
    (afterSafe o s a p).2.Runs := by
  refine afterSafe_cases o s (φ := fun c => c.2.Runs) ?_ ?_
  · intro r t q h
    exact h.runs
  · exact fun hdone => hdone

theorem CallStep.runs (h : CallStep cfg o s p t q) : q.Runs := by
  cases h with
  | gate _ hq =>
      rcases hq with hq | hq
      · cases q <;> trivial
      · cases q <;> trivial
  | enter a _ =>
      unfold executeInternal
      split
      · exact runs_afterSafe _ a _
      · trivial
  | safe h => exact runs_afterSafe _ _ _
  | goesOn _ h => exact h.runs
  | updates h => exact h.runs
  | polls => trivial
  | aborts => trivial
  | stores => trivial

theorem nextAt_eq_some (h : x.nextAt cfg o bypass m = some y) :
    ∃ c, callSegment (cfg.at m) o bypass (m.others x.state) x.pc
        (m.env.event x.calls o (m.others x.state) x.pc) = some c ∧
      y = .moved o x.calls c := by
  obtain ⟨c, hc, rfl⟩ := Option.map_eq_some_iff.1 h
  exact ⟨c, hc, rfl⟩

/-- The segment that comes to an end with an exception is the one that meets it. -/
theorem raised_iff_escapes (hmode : o.tradingMode = cfg.mode)
    (h : x.nextAt cfg o bypass m = some y) : y.pc = .raised ↔ Escapes cfg o bypass m x := by
  obtain ⟨c, hc, rfl⟩ := nextAt_eq_some h
  obtain ⟨calls, s, p⟩ := x
  change c.2 = .raised ↔ _
  have hlate (hearly : p.early = false) (hfalse : ¬ Escapes cfg o bypass m ⟨calls, s, p⟩) :
      c.2 = .raised ↔ Escapes cfg o bypass m ⟨calls, s, p⟩ :=
    iff_of_false ((callStep_of_callSegment hc).ne_raised hearly) hfalse
  cases p with
  | idle =>
      cases hc
      exact start_eq_raised_iff (cfg.at m) o (m.others s) hmode bypass _ _
  | limits =>
      simp only [Escapes]
      cases hinfo : m.env.limits calls with
      | none =>
          simp only [Environment.event, hinfo] at hc
          cases hc
          exact iff_of_true rfl trivial
      | some info =>
          simp only [Environment.event, hinfo] at hc
          cases hc
          exact afterLimits_eq_raised_iff (cfg.at m) o (m.others s) info
  | live checks =>
      simp only [Escapes]
      cases hanswers : m.env.live calls with
      | none =>
          simp only [Environment.event, hanswers] at hc
          cases hc
          exact iff_of_true rfl trivial
      | some answers =>
          simp only [Environment.event, hanswers] at hc
          cases hc
          exact afterPreflight_eq_raised_iff (cfg.at m) o (m.others s) _ answers.2
  | leverage =>
      cases hc
      exact leverageAnswered_eq_raised_iff (cfg.at m) o (m.others s) _
  | quantize =>
      cases hc
      exact quantizeAnswered_eq_raised_iff (cfg.at m) o (m.others s) _ _ _
  | verification a =>
      cases hc
      exact iff_of_false (verified_ne_raised _ _ _ _ _ _) id
  | _ => exact hlate rfl id

theorem exists_safeSegment (env : Environment) (calls : List ExchangeCall) (repo : Bool)
    (o : OrderRequest) (s : ExecutorState) {p : SafePc} (hp : p.done = false) :
    ∃ c, safeSegment repo o s p (env.safeEvent calls s o.id p) = some c := by
  cases p with
  | idle => exact ⟨_, rfl⟩
  | lookup =>
      simp only [Environment.safeEvent]
      split <;> exact ⟨_, rfl⟩
  | lookedUp row => cases row <;> exact ⟨_, rfl⟩
  | persistPending =>
      simp only [Environment.safeEvent]
      split
      next hcreate =>
        obtain ⟨-, hnone⟩ := (Bool.and_eq_true _ _).mp hcreate
        exact ⟨_, if_pos hnone⟩
      next => exact ⟨_, rfl⟩
  | pendingPersisted => exact ⟨_, rfl⟩
  | submitting =>
      simp only [Environment.safeEvent]
      split
      · exact ⟨_, rfl⟩
      · cases repo <;> exact ⟨_, rfl⟩
  | persistFinal r raised =>
      simp only [Environment.safeEvent]
      split <;> exact ⟨_, rfl⟩
  | finalPersisted r raised => exact ⟨_, rfl⟩
  | blocked r => cases hp
  | finished r => cases hp

/-- A call that has not ended goes on. -/
theorem exists_nextAt (hruns : x.pc.Runs) (hanswer : x.pc.answer = none) :
    ∃ y, x.nextAt cfg o bypass m = some y := by
  obtain ⟨calls, s, p⟩ := x
  have hsegment : ∃ c, callSegment (cfg.at m) o bypass (m.others s) p
      (m.env.event calls o (m.others s) p) = some c := by
    cases p with
    | idle => exact ⟨_, rfl⟩
    | limits =>
        simp only [Environment.event]
        split <;> exact ⟨_, rfl⟩
    | live checks =>
        simp only [Environment.event]
        split <;> exact ⟨_, rfl⟩
    | safe a p =>
        obtain ⟨c, hc⟩ := exists_safeSegment m.env calls (cfg.at m).repo (o.withAmount a)
          (m.others s).safety hruns
        exact ⟨_, Option.map_eq_some_iff.2 ⟨c, hc, rfl⟩⟩
    | polling r elapsed =>
        simp only [Environment.event]
        split <;> exact ⟨_, rfl⟩
    | persisting id r =>
        simp only [Environment.event]
        split <;> exact ⟨_, rfl⟩
    | rejected r => cases hanswer
    | returned r => cases hanswer
    | raised => cases hanswer
    | _ => exact ⟨_, rfl⟩
  obtain ⟨c, hc⟩ := hsegment
  exact ⟨_, Option.map_eq_some_iff.2 ⟨c, hc, rfl⟩⟩

theorem sent_moved {calls : List ExchangeCall} (h : ∃ p, ExchangeCall.placeOrder p ∈ calls)
    (c : EngineState × CallPc) : (Execution.moved o calls c).sent := by
  obtain ⟨p, hp⟩ := h
  exact ⟨p, List.mem_append_left _ hp⟩

theorem sent_submitting (calls : List ExchangeCall) (s : EngineState) (a : Amount) :
    (Execution.moved o calls (s, .safe a .submitting)).sent :=
  ⟨o.withAmount a, List.mem_append_right _ (List.mem_singleton_self _)⟩

/-- What `execute_safely` answers without a submission is a rejection or recorded. -/
theorem unsent_handleResult (s : EngineState) {r : OrderResult}
    (h : r.rawResponse.duplicate = true ∨ r.rawResponse.unknown = true ∧ r.status = .rejected) :
    (handleResult o s r).2.Unsent := by
  have hmarked : (r.rawResponse.duplicate || r.rawResponse.unknown) = true := by
    rcases h with h | ⟨h, -⟩ <;> simp [h]
  rw [handleResult, if_pos hmarked]
  rcases h with h | ⟨-, h⟩
  · exact .inr h
  · exact .inl h

theorem unsent_recovered (s : EngineState) (row : OrderRow) (o' : OrderRequest) :
    (handleResult o s (recoveredResult row o')).2.Unsent := by
  refine unsent_handleResult s ?_
  unfold recoveredResult
  split
  · exact .inl rfl
  · exact .inr ⟨rfl, rfl⟩

/-- A call that has sent nothing sends its order, or goes on so. -/
theorem sent_or_unsent_of_nextAt (hx : x.pc.Unsent) (h : x.nextAt cfg o bypass m = some y) :
    y.sent ∨ y.pc.Unsent := by
  obtain ⟨⟨t, q⟩, hc, rfl⟩ := nextAt_eq_some h
  obtain ⟨calls, s, p⟩ := x
  cases hearly : p.early with
  | true =>
      cases gateStep_of_callSegment hearly hc with
      | stays hq =>
          rcases hq with hq | rfl
          · refine .inr ?_
            cases q <;> first | exact hq | cases hq
          · exact .inr trivial
      | refuses hq hr =>
          rcases hq with rfl | rfl
          · exact .inr hr
          · exact .inr (.inl hr)
      | looksUp a => exact .inr rfl
      | submits a => exact .inl (sent_submitting calls t a)
  | false =>
      cases p with
      | safe a p =>
          obtain ⟨e', u, q', -, hstep, hq⟩ := safeStep_of_callSegment hc
          rw [hq]
          cases hstep with
          | callBlocked cached => exact .inr (unsent_handleResult _ (.inl rfl))
          | callSubmit => exact .inl (sent_submitting calls _ a)
          | recovered row => exact .inr (unsent_recovered _ row _)
          | submits => exact .inl (sent_submitting calls _ a)
          | callLookup => exact .inr rfl
          | lookupAnswers => exact .inr rfl
          | lookupFails => exact .inr rfl
          | accepted => exact .inr rfl
          | createCommits => exact .inr rfl
          | createFails => exact .inr rfl
          | _ => cases hx
      | rejected r => cases hc
      | returned r => cases hc
      | raised => cases hc
      | _ => exact (Bool.eq_false_iff.1 hearly hx).elim

end Calls

section Runs

variable {cfg : EngineConfig} {o : OrderRequest} {bypass : Bool} {world : ℕ → Moment}
  {s : EngineState} {c d : ℕ × Execution}

/-- What holds of every state that a call comes to. -/
structure ComesTo.Holds (cfg : EngineConfig) (o : OrderRequest) (bypass : Bool)
    (world : ℕ → Moment) (s : EngineState) (c : ℕ × Execution) : Prop where
  comesTo : ComesTo cfg o bypass world s c
  runs : c.2.pc.Runs
  sent : c.2.sent ∨ c.2.pc.Unsent

theorem nextAmong_eq_some (h : Execution.nextAmong cfg o bypass world c = some d) :
    c.2.nextAt cfg o bypass (world c.1) = some d.2 := by
  obtain ⟨x, hx, rfl⟩ := Option.map_eq_some_iff.1 h
  exact hx

theorem ComesTo.Holds.next (h : ComesTo.Holds cfg o bypass world s c)
    (hnext : Execution.nextAmong cfg o bypass world c = some d) :
    ComesTo.Holds cfg o bypass world s d ∧ d.2.pc.rank < c.2.pc.rank := by
  have hat := nextAmong_eq_some hnext
  obtain ⟨r, hr, hd⟩ := nextAt_eq_some hat
  have hrank : d.2.pc.rank < c.2.pc.rank := by
    rw [hd]
    exact rank_lt_of_callSegment hr
  refine ⟨⟨h.comesTo.trans (.head hnext (.refl d)), ?_, ?_⟩, hrank⟩
  · rw [hd]
    exact (callStep_of_callSegment hr).runs
  · rcases h.sent with hsent | hunsent
    · rw [hd]
      exact .inl (sent_moved hsent r)
    · exact sent_or_unsent_of_nextAt hunsent hat

theorem holds_start : ComesTo.Holds cfg o bypass world s (0, .start s) :=
  ⟨.refl _, trivial, .inr rfl⟩

theorem ComesTo.holds (h : ComesTo cfg o bypass world s c) :
    ComesTo.Holds cfg o bypass world s c :=
  Reaches.invariant (fun _ _ hc hnext => (hc.next hnext).1) holds_start h

/-- The way of a call is one way. -/
theorem ComesTo.eq_of_end (hc : ComesTo cfg o bypass world s c)
    (hd : ComesTo cfg o bypass world s d)
    (hcend : Execution.nextAmong cfg o bypass world c = none)
    (hdend : Execution.nextAmong cfg o bypass world d = none) : c = d := by
  rcases (hc.of_end hcend hd).eq_or_of_next with heq | ⟨x, hx, -⟩
  · exact heq
  · rw [hdend] at hx
    cases hx

theorem nextAmong_eq_none_of_answer {answer : ExecuteAnswer}
    (h : c.2.pc.answer = some answer) : Execution.nextAmong cfg o bypass world c = none := by
  obtain ⟨n, calls, t, p⟩ := c
  cases p <;> first | rfl | cases h

/-- A call comes to an end. -/
theorem exists_comesTo_answer (cfg : EngineConfig) (o : OrderRequest) (bypass : Bool)
    (world : ℕ → Moment) (s : EngineState) :
    ∃ c answer, ComesTo cfg o bypass world s c ∧ c.2.pc.answer = some answer := by
  have hstart : ComesTo.Holds cfg o bypass world s (0, .start s) := holds_start
  obtain ⟨c, hc, hend⟩ := exists_reaches_end (fun c : ℕ × Execution => c.2.pc.rank)
    (fun _ _ h hnext => ComesTo.Holds.next h hnext) hstart
  cases hanswer : c.2.pc.answer with
  | some answer => exact ⟨c, answer, hc, hanswer⟩
  | none =>
      obtain ⟨y, hy⟩ := exists_nextAt (m := world c.1) (ComesTo.holds hc).runs hanswer
      rw [Execution.nextAmong, hy] at hend
      cases hend

/-- A call that has come to its result has sent its order, or the result is a rejection or
recorded. -/
theorem ComesTo.Holds.result {r : OrderResult} (h : ComesTo.Holds cfg o bypass world s c)
    (hr : c.2.pc.answer = some (.returned r)) :
    c.2.sent ∨ r.status = .rejected ∨ r.rawResponse.duplicate = true := by
  refine h.sent.imp_right fun hunsent => ?_
  generalize c.2.pc = p at hr hunsent
  cases p with
  | rejected r' =>
      cases hr
      exact .inl hunsent
  | returned r' =>
      cases hr
      exact hunsent
  | _ => cases hr

theorem answer_eq_none_of_escapes {m : Moment} {x : Execution}
    (h : Escapes cfg o bypass m x) : x.pc.answer = none := by
  obtain ⟨calls, t, p⟩ := x
  cases p with
  | rejected r => exact h.elim
  | returned r => exact h.elim
  | raised => exact h.elim
  | _ => rfl

/-- What nobody catches ends the call with an exception. -/
theorem ComesTo.raised_of_escapes (hmode : o.tradingMode = cfg.mode)
    (hc : ComesTo cfg o bypass world s c) (h : Escapes cfg o bypass (world c.1) c.2) :
    ∃ d, ComesTo cfg o bypass world s d ∧ d.2.pc = .raised := by
  obtain ⟨y, hy⟩ := exists_nextAt (m := world c.1) hc.holds.runs (answer_eq_none_of_escapes h)
  have hnext : Execution.nextAmong cfg o bypass world c = some (c.1 + 1, y) := by
    rw [Execution.nextAmong, hy, Option.map_some]
  exact ⟨_, hc.trans (.head hnext (.refl _)), (raised_iff_escapes hmode hy).2 h⟩

/-- A call that meets nothing of the kind does not raise. -/
theorem ComesTo.ne_raised (hmode : o.tradingMode = cfg.mode)
    (hguarded : ∀ c, ComesTo cfg o bypass world s c → ¬ Escapes cfg o bypass (world c.1) c.2)
    (hc : ComesTo cfg o bypass world s c) : c.2.pc ≠ .raised := by
  have hinv : ComesTo cfg o bypass world s c ∧ c.2.pc ≠ .raised := by
    refine Reaches.invariant (I := fun c => ComesTo cfg o bypass world s c ∧ c.2.pc ≠ .raised)
      ?_ ⟨.refl _, by intro h; cases h⟩ hc
    intro x y hx hnext
    have hnot := (raised_iff_escapes hmode (nextAmong_eq_some hnext)).not.2 (hguarded x hx.1)
    exact ⟨hx.1.trans (.head hnext (.refl y)), hnot⟩
  exact hinv.2

/-- Whatever the exchange, the pool, the database and the other tasks do, a call comes to an end
with a result exactly when it never meets what nobody catches. -/
theorem endsInResult_iff (hmode : o.tradingMode = cfg.mode) (bypass : Bool)
    (world : ℕ → Moment) (s : EngineState) :
    EndsInResult cfg o bypass world s ↔
      ∀ c, ComesTo cfg o bypass world s c → ¬ Escapes cfg o bypass (world c.1) c.2 := by
  constructor
  · rintro ⟨d, r, hd, hr, -⟩ c hc hescapes
    obtain ⟨c', hc', hraised⟩ := hc.raised_of_escapes hmode hescapes
    have hanswer : c'.2.pc.answer = some .raised := by
      rw [hraised]
      rfl
    have heq := hc'.eq_of_end hd (nextAmong_eq_none_of_answer hanswer)
      (nextAmong_eq_none_of_answer hr)
    rw [heq, hr] at hanswer
    cases hanswer
  · intro hguarded
    obtain ⟨c, answer, hc, hanswer⟩ := exists_comesTo_answer cfg o bypass world s
    cases answer with
    | returned r => exact ⟨c, r, hc, hanswer, hc.holds.result hanswer⟩
    | raised =>
        refine absurd ?_ (hc.ne_raised hmode hguarded)
        generalize c.2.pc = p at hanswer
        cases p <;> first | rfl | cases hanswer

end Runs

/-- Nothing answers, and the pool is empty. -/
def Moment.down : Moment where
  env :=
    { registry := fun _ => none
      connected := fun _ => none
      limits := fun _ => none
      live := fun _ => none
      leverage := fun _ => .ok ()
      quantization := fun _ => (.error "", .error "", 0)
      ticker := fun _ => (.error "", 0)
      placeOrder := fun _ => .error ""
      getOrder := fun _ => .failed
      lookup := fun _ => false
      create := fun _ => false
      update := fun _ => false
      status := fun _ => false }
  pool := fun _ => false
  others := fun s => s

theorem endsInResult_iff_down :
    EndsInResult paperEngine (.closing 1 .sell 1 .paper) false (fun _ => .down) (.init none) ↔
      ∀ c, ComesTo paperEngine (.closing 1 .sell 1 .paper) false (fun _ => .down)
          (.init none) c →
        ¬ Escapes paperEngine (.closing 1 .sell 1 .paper) false .down c.2 :=
  endsInResult_iff rfl false (fun _ => .down) (.init none)

/-- An opening PAPER order for an exchange that is not in the pool raises a `KeyError`. -/
theorem not_forall_endsInResult :
    ¬ ∀ (cfg : EngineConfig) (o : OrderRequest) (bypass : Bool) (world : ℕ → Moment)
      (s : EngineState), o.tradingMode = cfg.mode → EndsInResult cfg o bypass world s := by
  intro h
  obtain ⟨c, r, ⟨n, hn⟩, hr, -⟩ :=
    h paperEngine (.market 1 .buy 1 .paper) false (fun _ => .down) (.init none) rfl
  have hnext : Execution.nextAmong paperEngine (.market 1 .buy 1 .paper) false
      (fun _ => .down) (0, .start (.init none)) =
        some (1, ⟨[], .init none, .raised⟩) := rfl
  cases n with
  | zero =>
      cases hn
      cases hr
  | succ n =>
      rw [stepped_succ, hnext, Option.bind_some] at hn
      cases n with
      | zero =>
          cases hn
          cases hr
      | succ n => cases hn

end Sgr
