import Sgr.Execution.Engine.Basic
import Sgr.Execution.OrderSafety.Steps

/-!
# Steps of the execution engine

A segment of `execute` stays before the safe executor, enters it, runs one of its
steps or goes on after it. `CallStep` says which, and what the segment does to the
executor's state; `Continues` says how a call goes on with a result.
-/

open Collection Concurrency

namespace Sgr

namespace CallPc

/-- The call has not reached `_execute_internal`. -/
def early : CallPc → Bool
  | .idle | .limits | .live _ | .leverage | .quantize | .verification _ => true
  | _ => false

/-- The call has ended before its `try` block. -/
def refused : CallPc → Bool
  | .rejected _ | .raised => true
  | _ => false

/-- The result a call works with after `execute_safely` has returned it. -/
def late : CallPc → Option OrderResult
  | .publishing r | .sleeping r _ | .polling r _ | .cancelling r | .persisting _ r
  | .persisted r => some r
  | _ => none

/-- The call has passed the duplicate checks and has not returned. -/
def owns : CallPc → Bool
  | .safe _ p => p.passed
  | p => p.late.isSome

/-- The order of the call has been submitted and the call has not returned. -/
def holds : CallPc → Bool
  | .safe _ p => p.hasSubmitted
  | p => p.late.isSome

theorem owns_of_holds {p : CallPc} (h : p.holds = true) : p.owns = true := by
  cases p with
  | safe a p => exact SafePc.passed_of_hasSubmitted h
  | _ => exact h

theorem owns_of_late {p : CallPc} {r : OrderResult} (h : p.late = some r) :
    p.owns = true := by
  cases p <;> first | rfl | cases h

theorem owns_eq_false_of_early {p : CallPc} (h : p.early = true) : p.owns = false := by
  cases p <;> first | rfl | cases h

theorem owns_eq_false_of_refused {p : CallPc} (h : p.refused = true) :
    p.owns = false := by
  cases p <;> first | rfl | cases h

end CallPc

/-- The ways in which a call goes on with the result `r`. -/
inductive Continues (o : OrderRequest) (s : EngineState) (r : OrderResult) :
    EngineState → CallPc → Prop
  | publishing : Continues o s r s (.publishing r)
  | sleeping (elapsed : ℕ) : Continues o s r s (.sleeping r elapsed)
  | cancelling : Continues o s r s (.cancelling r)
  | persisting (id : UUID) : Continues o s r s (.persisting id r)
  | returned : Continues o s r (finish o s r).1 (finish o s r).2

section Continues

variable (cfg : EngineConfig) (o : OrderRequest) (s : EngineState) (r : OrderResult)

theorem continues_persistStatus (id : UUID) :
    Continues o s r (persistStatus cfg o s id r).1 (persistStatus cfg o s id r).2 := by
  unfold persistStatus
  split
  · exact .persisting id
  · exact .returned

theorem continues_monitorEnd :
    Continues o s r (monitorEnd o s r).1 (monitorEnd o s r).2 := by
  unfold monitorEnd
  split
  · exact .cancelling
  · split
    · exact .publishing
    · exact .returned

theorem continues_monitorLoop (elapsed : ℕ) :
    Continues o s r (monitorLoop o s r elapsed).1 (monitorLoop o s r elapsed).2 := by
  unfold monitorLoop
  split
  · split
    · exact .cancelling
    · exact .sleeping elapsed
  · exact continues_monitorEnd o s r

/-- A result of `execute_safely` is used as it is or with the keys of the order. -/
theorem continues_handleResult :
    ∃ r', (r' = r ∨ r' = attributed o r) ∧
      Continues o s r' (handleResult o s r).1 (handleResult o s r).2 := by
  unfold handleResult
  split
  · exact ⟨r, .inl rfl, .returned⟩
  · split
    · exact ⟨attributed o r, .inr rfl, .publishing⟩
    · exact ⟨attributed o r, .inr rfl, continues_monitorLoop o s _ 0⟩

/-- After a segment of the safe executor a call goes on with its result, or is still in it. -/
theorem afterSafe_cases {φ : EngineState × CallPc → Prop} {a : Amount} {p : SafePc}
    (hcontinues : ∀ r t q, Continues o s r t q → φ (t, q))
    (hsafe : p.done = false → φ (s, .safe a p)) : φ (afterSafe o s a p) := by
  have hhandled (r : OrderResult) : φ (handleResult o s r) := by
    obtain ⟨r', -, h⟩ := continues_handleResult o s r
    exact hcontinues r' _ _ h
  cases p with
  | blocked r => exact hhandled r
  | finished r => exact hhandled r
  | _ => exact hsafe rfl

theorem continues_pollAnswered (elapsed : ℕ) :
    Continues o (s.withSafety (s.safety.updateInflight o.id (attributed o r)))
      (attributed o r) (pollAnswered cfg o s r elapsed).1
      (pollAnswered cfg o s r elapsed).2 := by
  unfold pollAnswered
  dsimp only
  split
  · exact continues_monitorLoop o _ _ elapsed
  · split
    · exact .publishing
    · exact continues_persistStatus cfg o _ _ o.id

end Continues

/-- The gates have changed neither the executor nor the kill switch. -/
structure Untouched (s t : EngineState) : Prop where
  safety : t.safety = s.safety
  killSwitch : t.killSwitch = s.killSwitch

theorem Untouched.refl (s : EngineState) : Untouched s s := ⟨rfl, rfl⟩

theorem Untouched.trans {s t u : EngineState} (h : Untouched s t) (h' : Untouched t u) :
    Untouched s u :=
  ⟨h'.safety.trans h.safety, h'.killSwitch.trans h.killSwitch⟩

/-- One segment of `execute`: the state and the control point before, and after. -/
inductive CallStep (cfg : EngineConfig) (o : OrderRequest) (s : EngineState) :
    CallPc → EngineState → CallPc → Prop
  /-- The call stays among the gates or is refused by one. -/
  | gate {p q : CallPc} {t : EngineState} (hp : p.early = true)
      (hq : q.early = true ∨ q.refused = true) (ht : Untouched s t) :
      CallStep cfg o s p t q
  /-- The gates let the order pass. -/
  | enter {p : CallPc} {u : EngineState} (a : Amount) (hp : p.early = true)
      (hu : Untouched s u) :
      CallStep cfg o s p (executeInternal cfg o u a).1 (executeInternal cfg o u a).2
  /-- A step of the safe executor. -/
  | safe {a : Amount} {p q : SafePc} {e : SafeEvent} {u : ExecutorState}
      (h : SafeStep cfg.repo (o.withAmount a) s.safety p e u q) :
      CallStep cfg o s (.safe a p) (afterSafe o (s.withSafety u) a q).1
        (afterSafe o (s.withSafety u) a q).2
  /-- The call goes on with the result it has. -/
  | goesOn {p q : CallPc} {r : OrderResult} {t : EngineState} (hp : p.late = some r)
      (h : Continues o s r t q) : CallStep cfg o s p t q
  /-- The result is asked for. -/
  | polls {r : OrderResult} {elapsed n : ℕ} :
      CallStep cfg o s (.sleeping r elapsed) s (.polling r n)
  /-- The map gets a new result, with which the call goes on. -/
  | updates {r r' : OrderResult} {elapsed : ℕ} {t : EngineState} {q : CallPc}
      (h : Continues o (s.withSafety (s.safety.updateInflight o.id r')) r' t q) :
      CallStep cfg o s (.polling r elapsed) t q
  /-- An exception ends the monitoring. -/
  | aborts {r r' : OrderResult} {elapsed : ℕ} :
      CallStep cfg o s (.polling r elapsed)
        (finish o (s.withSafety (s.safety.updateInflight o.id r)) r').1 (.returned r')
  /-- The update of the row commits or fails. -/
  | stores {r : OrderResult} {id : UUID} {u : ExecutorState}
      (hu : u = s.safety ∨
        u = s.safety.updateStatus id { r with exchangeOrderId := "" }) :
      CallStep cfg o s (.persisting id r) (s.withSafety u) (.persisted r)

section Gates

variable (cfg : EngineConfig) (o : OrderRequest) {s u : EngineState} {p : CallPc}

/-- What holds of the outcome of a gate: the call has not entered the safe executor,
or it has just done so. -/
def GateOutcome (s : EngineState) (c : EngineState × CallPc) : Prop :=
  ((c.2.early = true ∨ c.2.refused = true) ∧ Untouched s c.1) ∨
    ∃ u a, Untouched s u ∧ c = executeInternal cfg o u a

variable {cfg o}

theorem GateOutcome.of_untouched {c : EngineState × CallPc}
    (h : GateOutcome cfg o u c) (hu : Untouched s u) : GateOutcome cfg o s c := by
  rcases h with ⟨hq, ht⟩ | ⟨v, a, hv, rfl⟩
  · exact .inl ⟨hq, hu.trans ht⟩
  · exact .inr ⟨v, a, hu.trans hv, rfl⟩

theorem GateOutcome.callStep {c : EngineState × CallPc} (h : GateOutcome cfg o s c)
    (hp : p.early = true) : CallStep cfg o s p c.1 c.2 := by
  rcases h with ⟨hq, ht⟩ | ⟨u, a, hu, rfl⟩
  · exact .gate hp hq ht
  · exact .enter a hp hu

variable (cfg o s)

theorem gateOutcome_verified (a : Amount) (ticker : Except String Ticker)
    (now : Timestamp) : GateOutcome cfg o s (verified cfg o s a ticker now) := by
  unfold verified
  dsimp only
  split
  · exact .inl ⟨.inr rfl, ⟨rfl, rfl⟩⟩
  · refine .inr ⟨_, a, ?_, rfl⟩
    exact ⟨rfl, rfl⟩

/-- The gates have not used the verification gate either. -/
structure Unverified (s t : EngineState) : Prop extends Untouched s t where
  verification : t.verification = s.verification

variable {s} in
theorem Unverified.trans {t u : EngineState} (h : Unverified s t) (h' : Unverified t u) :
    Unverified s u :=
  ⟨h.toUntouched.trans h'.toUntouched, h'.verification.trans h.verification⟩

/-- How a segment of the gates ends: the call stays among them or is refused before the
verification gate, this gate gives its verdict, or an order that it does not concern passes. -/
inductive GateEnd (s : EngineState) : EngineState × CallPc → Prop
  | stays {t : EngineState} {q : CallPc} (hq : q.early = true ∨ q.refused = true)
      (hlive : ∀ a, q = .verification a → o.tradingMode = .live) (ht : Unverified s t) :
      GateEnd s (t, q)
  | verified {u : EngineState} (a : Amount) (ticker : Except String Ticker) (now : Timestamp)
      (hlive : o.tradingMode = .live) (hu : Unverified s u) :
      GateEnd s (verified cfg o u a ticker now)
  | passes {u : EngineState} (a : Amount) (hpaper : o.tradingMode ≠ .live)
      (hu : Unverified s u) : GateEnd s (executeInternal cfg o u a)

variable {cfg o s} in
theorem GateEnd.outcome {c : EngineState × CallPc} (h : GateEnd cfg o s c) :
    GateOutcome cfg o s c := by
  cases h with
  | stays hq _ ht => exact .inl ⟨hq, ht.toUntouched⟩
  | @verified u a ticker now _ hu =>
      exact (gateOutcome_verified cfg o u a ticker now).of_untouched hu.toUntouched
  | passes a _ hu => exact .inr ⟨_, a, hu.toUntouched, rfl⟩

variable {cfg o s} in
theorem GateEnd.of_unverified {c : EngineState × CallPc} (h : GateEnd cfg o u c)
    (hu : Unverified s u) : GateEnd cfg o s c := by
  cases h with
  | stays hq hlive ht => exact .stays hq hlive (hu.trans ht)
  | verified a ticker now hlive hv => exact .verified a ticker now hlive (hu.trans hv)
  | passes a hpaper hv => exact .passes a hpaper (hu.trans hv)

theorem gateEnd_early {q : CallPc} (hq : q.early = true)
    (hlive : ∀ a, q = .verification a → o.tradingMode = .live) : GateEnd cfg o s (s, q) :=
  .stays (.inl hq) hlive ⟨.refl s, rfl⟩

theorem gateEnd_refused {q : CallPc} (hq : q.refused = true) : GateEnd cfg o s (s, q) := by
  refine .stays (.inr hq) ?_ ⟨.refl s, rfl⟩
  rintro a rfl
  cases hq

theorem gateEnd_verify (a : Amount) (now : Timestamp) :
    GateEnd cfg o s (verify cfg o s a now) := by
  unfold verify
  split
  next hpaper => exact .passes a hpaper ⟨.refl s, rfl⟩
  next hlive =>
    split
    · exact .verified a _ now (not_not.1 hlive) ⟨.refl s, rfl⟩
    · exact gateEnd_early cfg o s rfl fun _ _ => not_not.1 hlive

theorem gateEnd_startQuantize : GateEnd cfg o s (startQuantize cfg o s) := by
  unfold startQuantize
  split
  · exact gateEnd_early cfg o s rfl nofun
  · exact gateEnd_refused cfg o s rfl

theorem gateEnd_ensureLeverage : GateEnd cfg o s (ensureLeverage cfg o s) := by
  unfold ensureLeverage
  split
  · exact gateEnd_startQuantize cfg o s
  · split
    · refine gateEnd_early cfg o s rfl ?_
      intro _ h
      cases h
    · exact gateEnd_refused cfg o s rfl

theorem gateEnd_afterPreflight (checks : List PreflightCheckResult) (now : Timestamp) :
    GateEnd cfg o s (afterPreflight cfg o s checks now) := by
  unfold afterPreflight
  split
  · exact gateEnd_refused cfg o s rfl
  · split
    · exact gateEnd_verify cfg o s o.amount now
    · exact gateEnd_ensureLeverage cfg o s

theorem gateEnd_start (bypass : Bool) (registry : String → Option StrategyEntry)
    (connected : ExchangeID → Option Bool) :
    GateEnd cfg o s (start cfg o bypass s registry connected) := by
  unfold start
  dsimp only
  split
  · exact gateEnd_refused cfg o s rfl
  · split
    · exact gateEnd_refused cfg o s rfl
    · split
      · exact gateEnd_refused cfg o s rfl
      · split
        · exact gateEnd_early cfg o s rfl nofun
        · split
          · exact gateEnd_afterPreflight cfg o s _ 0
          · exact gateEnd_afterPreflight cfg o s _ 0

theorem gateEnd_afterLimits (info : Except ExchangeError ExchangeInfo) :
    GateEnd cfg o s (afterLimits cfg o s info) := by
  unfold afterLimits
  dsimp only
  split
  · exact gateEnd_early cfg o s rfl nofun
  · exact gateEnd_afterPreflight cfg o s _ 0

theorem gateEnd_leverageAnswered (answer : Except ExchangeError Unit) :
    GateEnd cfg o s (leverageAnswered cfg o s answer) := by
  cases answer with
  | ok _ => exact (gateEnd_startQuantize cfg o _).of_unverified ⟨⟨rfl, rfl⟩, rfl⟩
  | error e =>
      unfold leverageAnswered
      dsimp only
      split
      · exact (gateEnd_startQuantize cfg o _).of_unverified ⟨⟨rfl, rfl⟩, rfl⟩
      · exact gateEnd_refused cfg o s rfl

theorem gateEnd_quantized (now : Timestamp) (r : Amount × Option String) :
    GateEnd cfg o s (quantized cfg o s now r) := by
  obtain ⟨a, reason⟩ := r
  cases reason with
  | some reason => exact gateEnd_refused cfg o s rfl
  | none => exact gateEnd_verify cfg o s a now

theorem gateEnd_quantizeAnswered (info : Except String ExchangeInfo)
    (ticker : Except String Ticker) (now : Timestamp) :
    GateEnd cfg o s (quantizeAnswered cfg o s info ticker now) := by
  unfold quantizeAnswered
  split
  · exact gateEnd_refused cfg o s rfl
  · exact gateEnd_quantized cfg o s now _

variable {cfg o s} in
/-- A segment of a call that has not reached the safe executor. -/
theorem gateEnd_of_callSegment {bypass : Bool} {t : EngineState} {q : CallPc} {e : CallEvent}
    (hp : p.early = true) (hlive : ∀ a, p = .verification a → o.tradingMode = .live)
    (h : callSegment cfg o bypass s p e = some (t, q)) : GateEnd cfg o s (t, q) := by
  have hmk : ∀ {c : EngineState × CallPc}, some c = some (t, q) → GateEnd cfg o s c →
      GateEnd cfg o s (t, q) := by
    rintro c hc hend
    obtain rfl := Option.some.inj hc
    exact hend
  unfold callSegment at h
  split at h
  · exact hmk h (gateEnd_start cfg o s bypass _ _)
  · exact hmk h (gateEnd_afterLimits cfg o s _)
  · exact hmk h (gateEnd_afterPreflight cfg o s _ _)
  · exact hmk h (gateEnd_leverageAnswered cfg o s _)
  · exact hmk h (gateEnd_quantizeAnswered cfg o s _ _ _)
  · exact hmk h (.verified _ _ _ (hlive _ rfl) ⟨.refl s, rfl⟩)
  · exact hmk h (gateEnd_refused cfg o s rfl)
  · exact hmk h (gateEnd_refused cfg o s rfl)
  · cases hp
  · cases hp
  · cases hp
  · cases hp
  · cases hp
  · cases hp
  · cases hp
  · cases hp
  · cases hp
  · cases hp
  · cases h

end Gates

theorem CallStep.of_some_eq {cfg : EngineConfig} {o : OrderRequest} {s t : EngineState}
    {p q : CallPc} {c : EngineState × CallPc} (h : some c = some (t, q))
    (hc : CallStep cfg o s p c.1 c.2) : CallStep cfg o s p t q := by
  cases h
  exact hc

/-- What a segment of `execute` does is one of the listed steps. -/
theorem callStep_of_callSegment {cfg : EngineConfig} {o : OrderRequest} {bypass : Bool}
    {s t : EngineState} {p q : CallPc} {e : CallEvent}
    (h : callSegment cfg o bypass s p e = some (t, q)) : CallStep cfg o s p t q := by
  unfold callSegment at h
  split at h
  · exact .of_some_eq h ((gateEnd_start cfg o s bypass _ _).outcome.callStep rfl)
  · exact .of_some_eq h ((gateEnd_afterLimits cfg o s _).outcome.callStep rfl)
  · exact .of_some_eq h ((gateEnd_afterPreflight cfg o s _ _).outcome.callStep rfl)
  · exact .of_some_eq h ((gateEnd_leverageAnswered cfg o s _).outcome.callStep rfl)
  · exact .of_some_eq h ((gateEnd_quantizeAnswered cfg o s _ _ _).outcome.callStep rfl)
  · exact .of_some_eq h ((gateOutcome_verified cfg o s _ _ _).callStep rfl)
  · exact .of_some_eq h (.gate rfl (.inr rfl) (.refl s))
  · exact .of_some_eq h (.gate rfl (.inr rfl) (.refl s))
  · obtain ⟨⟨u, q'⟩, hseg, hq⟩ := Option.map_eq_some_iff.1 h
    exact .of_some_eq (congrArg some hq) (.safe (safeStep_of_safeSegment hseg))
  · exact .of_some_eq h (.goesOn rfl (continues_persistStatus cfg o s _ _))
  · exact .of_some_eq h .polls
  · exact .of_some_eq h (.updates (continues_pollAnswered cfg o s _ _))
  · exact .of_some_eq h (.updates (continues_monitorLoop o _ _ _))
  · exact .of_some_eq h .aborts
  · exact .of_some_eq h (.goesOn rfl (continues_persistStatus cfg o s _ o.id))
  · exact .of_some_eq h (.stores (.inr rfl))
  · exact .of_some_eq h (.stores (.inl rfl))
  · exact .of_some_eq h (.goesOn rfl .returned)
  · cases h

section Tasks

variable {cfg : EngineConfig} {s t : EngineState} {p q : TaskPc} {e : TaskEvent}

theorem segment_execute_eq_some {o : OrderRequest} {bypass : Bool}
    (h : (Job.execute o bypass).segment cfg s p e = some (t, q)) :
    ∃ p' e' q', p = .call p' ∧ e = .call e' ∧ q = .call q' ∧
      callSegment cfg o bypass s p' e' = some (t, q') := by
  cases p with
  | trigger p => cases h
  | call p =>
      cases e with
      | trigger e => cases h
      | call e =>
          obtain ⟨⟨t', q'⟩, hseg, hq⟩ := Option.map_eq_some_iff.1 h
          cases hq
          exact ⟨p, e, q', rfl, rfl, rfl, hseg⟩

theorem segment_trigger_eq_some (h : Job.trigger.segment cfg s p e = some (t, q)) :
    ∃ p' e' q', p = .trigger p' ∧ e = .trigger e' ∧ q = .trigger q' ∧
      triggerSegment s p' e' = some (t, q') := by
  cases p with
  | call p => cases h
  | trigger p =>
      cases e with
      | call e => cases h
      | trigger e =>
          obtain ⟨⟨t', q'⟩, hseg, hq⟩ := Option.map_eq_some_iff.1 h
          cases hq
          exact ⟨p, e, q', rfl, rfl, rfl, hseg⟩

end Tasks

/-- What one segment of `trigger` does to the engine: the flag is set, or nothing
changes. -/
theorem triggerSegment_cases {s t : EngineState} {p q : TriggerPc} {e : TriggerEvent}
    (h : triggerSegment s p e = some (t, q)) :
    (p = .idle ∧ s.killSwitch = false ∧ t = { s with killSwitch := true }) ∨ t = s := by
  unfold triggerSegment at h
  split at h
  · split at h
    · cases h
      exact .inr rfl
    · rename_i hflag
      cases h
      exact .inl ⟨rfl, by simpa using hflag, rfl⟩
  · cases h
    exact .inr rfl
  · cases h
    exact .inr rfl
  · cases h
    exact .inr rfl
  · cases h

end Sgr
