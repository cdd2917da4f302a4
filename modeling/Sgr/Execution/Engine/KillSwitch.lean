import Sgr.Execution.Engine.Tracking

/-!
# The kill switch and running calls

`execute` reads the kill switch at its entry, and in LIVE mode once more in the
preflight. The requests that follow are awaited without a further check, so a
trigger in between does not stop the order: `not_stopped`. An order is stopped
when no call is between its last check and `place_order` at the moment the trigger
sets the flag.
-/

open Collection Concurrency

namespace Sgr

/-- The safe executor has not started the exchange call. -/
def SafePc.beforeSubmit : SafePc → Bool
  | .idle | .lookup | .lookedUp _ | .persistPending | .pendingPersisted => true
  | _ => false

/-- The call has passed its last check of the kill switch and has not started
`place_order`. -/
def CallPc.cleared (cfg : EngineConfig) : CallPc → Bool
  | .limits => cfg.mode ≠ .live
  | .live checks => eligible checks
  | .leverage | .quantize | .verification _ => true
  | .safe _ p => p.beforeSubmit
  | _ => false

section Calls

variable {cfg : EngineConfig} {o : OrderRequest} {bypass : Bool} {s t : EngineState}
  {p q : CallPc} {e : CallEvent}

theorem cleared_eq_false_of_refused (h : q.refused = true) : q.cleared cfg = false := by
  cases q <;> first | rfl | cases h

theorem Continues.cleared_eq_false {r : OrderResult} (h : Continues o s r t q) :
    q.cleared cfg = false := by
  cases h <;> rfl

theorem cleared_afterSafe {a : Amount} {p : SafePc}
    (h : (afterSafe o s a p).2.cleared cfg = true) : p.beforeSubmit = true := by
  revert h
  refine afterSafe_cases o s (φ := fun c => c.2.cleared cfg = true → p.beforeSubmit = true) ?_ ?_
  · intro r t q hcontinues h
    rw [hcontinues.cleared_eq_false] at h
    cases h
  · exact fun _ h => h

theorem SafeStep.beforeSubmit {repo : Bool} {s u : ExecutorState} {p q : SafePc}
    {e : SafeEvent} (h : SafeStep repo o s p e u q) (hq : q.beforeSubmit = true) :
    p.beforeSubmit = true := by
  cases h with
  | submitReturns r => cases repo <;> cases hq
  | _ => first | rfl | cases hq

/-- The flag is checked at the entry of every call that does not bypass it. -/
theorem refused_start (cfg : EngineConfig) (o : OrderRequest)
    (hactive : s.killSwitch = true) (registry : String → Option StrategyEntry)
    (connected : ExchangeID → Option Bool) :
    (start cfg o false s registry connected).2.refused = true := by
  unfold start
  dsimp only
  split
  · rfl
  · split
    · rfl
    · rw [if_pos (by simp [hactive])]
      rfl

/-- In LIVE mode the preflight checks the flag again. -/
theorem cleared_afterLimits (hactive : s.killSwitch = true)
    {info : Except ExchangeError ExchangeInfo}
    (h : (afterLimits cfg o s info).2.cleared cfg = true) : cfg.mode ≠ .live := by
  intro hlive
  rw [afterLimits, if_pos hlive] at h
  simp [CallPc.cleared, eligible, checkKillSwitchInactive, hactive] at h

theorem cleared_afterPreflight {checks : List PreflightCheckResult} {now : Timestamp}
    (h : (afterPreflight cfg o s checks now).2.cleared cfg = true) :
    eligible checks = true := by
  unfold afterPreflight at h
  split at h
  · cases h
  · rename_i hnot
    simpa using hnot

/-- Past the gates a call is cleared only until the exchange call starts. -/
theorem CallStep.cleared_of_not_early (h : CallStep cfg o s p t q)
    (hp : p.early = false) (hq : q.cleared cfg = true) : p.cleared cfg = true := by
  cases h with
  | gate hearly _ _ => simp [hp] at hearly
  | enter a hearly _ => simp [hp] at hearly
  | safe h => exact h.beforeSubmit (cleared_afterSafe hq)
  | goesOn _ h => simp [h.cleared_eq_false] at hq
  | polls => cases hq
  | updates h => simp [h.cleared_eq_false] at hq
  | aborts => cases hq
  | stores _ => cases hq

/-- While the flag is set, a call that does not bypass it is cleared after a segment
only if it was cleared before. -/
theorem cleared_of_callSegment (hactive : s.killSwitch = true)
    (h : callSegment cfg o false s p e = some (t, q)) (hq : q.cleared cfg = true) :
    p.cleared cfg = true := by
  cases hearly : p.early with
  | false => exact (callStep_of_callSegment h).cleared_of_not_early hearly hq
  | true =>
      have hne : ¬ false = true := by decide
      have hq' : ∀ {c : EngineState × CallPc}, some c = some (t, q) →
          c.2.cleared cfg = true := by
        rintro c hc
        cases hc
        exact hq
      unfold callSegment at h
      split at h
      · have hrefused := refused_start cfg o hactive
        exact absurd (hq' h) (by simp [cleared_eq_false_of_refused (hrefused _ _)])
      · simpa [CallPc.cleared] using cleared_afterLimits hactive (hq' h)
      · have heligible := cleared_afterPreflight (hq' h)
        rw [eligible_append, Bool.and_eq_true] at heligible
        exact heligible.1
      · rfl
      · rfl
      · rfl
      · exact absurd (hq' h) hne
      · exact absurd (hq' h) hne
      all_goals first
        | exact absurd hearly hne
        | cases h

end Calls

section Effects

variable {cfg : EngineConfig} {o : OrderRequest} {s t : EngineState} {p q : CallPc}

theorem Continues.killSwitch_and_submitted {r : OrderResult}
    (h : Continues o s r t q) :
    t.killSwitch = s.killSwitch ∧ t.safety.submitted = s.safety.submitted := by
  cases h <;> exact ⟨rfl, rfl⟩

theorem killSwitch_and_submitted_afterSafe (o : OrderRequest) (s : EngineState)
    (a : Amount) (p : SafePc) :
    (afterSafe o s a p).1.killSwitch = s.killSwitch ∧
      (afterSafe o s a p).1.safety.submitted = s.safety.submitted := by
  refine afterSafe_cases o s (φ := fun c =>
    c.1.killSwitch = s.killSwitch ∧ c.1.safety.submitted = s.safety.submitted) ?_ ?_
  · intro r t q h
    exact h.killSwitch_and_submitted
  · exact fun _ => ⟨rfl, rfl⟩

theorem killSwitch_executeInternal (cfg : EngineConfig) (o : OrderRequest)
    (s : EngineState) (a : Amount) :
    (executeInternal cfg o s a).1.killSwitch = s.killSwitch := by
  unfold executeInternal
  split
  · exact (killSwitch_and_submitted_afterSafe o _ a _).1
  · rfl

theorem CallStep.killSwitch_eq (h : CallStep cfg o s p t q) :
    t.killSwitch = s.killSwitch := by
  cases h with
  | gate _ _ ht => exact ht.killSwitch
  | enter a _ hu => exact (killSwitch_executeInternal cfg o _ a).trans hu.killSwitch
  | safe h => exact (killSwitch_and_submitted_afterSafe o _ _ _).1
  | goesOn _ h => exact h.killSwitch_and_submitted.1
  | polls => rfl
  | updates h => exact h.killSwitch_and_submitted.1
  | aborts => rfl
  | stores _ => rfl

theorem SafeStep.beforeSubmit_of_submitted_ne {repo : Bool} {s u : ExecutorState}
    {p q : SafePc} {e : SafeEvent} (h : SafeStep repo o s p e u q)
    (hsub : u.submitted ≠ s.submitted) : p.beforeSubmit = true := by
  cases h with
  | callSubmit _ _ => rfl
  | submits => rfl
  | updateCommits r _ => exact absurd (s.updateStatus_submitted o.id r) hsub
  | _ => exact absurd rfl hsub

theorem CallStep.cleared_of_submitted_ne (h : CallStep cfg o s p t q)
    (hp : p.early = false) (hsub : t.safety.submitted ≠ s.safety.submitted) :
    p.cleared cfg = true := by
  cases h with
  | gate _ _ ht => exact absurd (by rw [ht.safety]) hsub
  | enter a hearly _ => simp [hp] at hearly
  | safe h =>
      rw [(killSwitch_and_submitted_afterSafe o _ _ _).2] at hsub
      exact h.beforeSubmit_of_submitted_ne hsub
  | goesOn _ h => exact absurd h.killSwitch_and_submitted.2 hsub
  | polls => exact absurd rfl hsub
  | updates h =>
      refine absurd (h.killSwitch_and_submitted.2.trans ?_) hsub
      exact s.safety.updateInflight_submitted _ _
  | aborts => exact absurd (s.safety.updateInflight_submitted _ _) hsub
  | stores hu =>
      rcases hu with rfl | rfl
      · exact absurd rfl hsub
      · exact absurd (s.safety.updateStatus_submitted _ _) hsub

theorem GateOutcome.submitted_eq_of_no_adapter {c : EngineState × CallPc}
    (h : GateOutcome cfg o s c) (hpool : cfg.pool o.symbol.exchange = false) :
    c.1.safety.submitted = s.safety.submitted := by
  rcases h with ⟨-, ht⟩ | ⟨u, a, hu, rfl⟩
  · rw [ht.safety]
  · rw [← hu.safety, executeInternal, hpool]
    rfl

theorem submitted_start (bypass : Bool) (registry : String → Option StrategyEntry)
    (connected : ExchangeID → Option Bool) :
    (start cfg o bypass s registry connected).1.safety.submitted =
      s.safety.submitted := by
  cases hpool : cfg.pool o.symbol.exchange with
  | true =>
      unfold start
      dsimp only
      rw [hpool]
      split
      · rfl
      · split
        · rfl
        · split <;> rfl
  | false =>
      exact (gateEnd_start cfg o s bypass registry connected).outcome.submitted_eq_of_no_adapter
        hpool

/-- A segment that starts the exchange call is run by a cleared call. -/
theorem cleared_of_submitted_ne {bypass : Bool} {e : CallEvent}
    (h : callSegment cfg o bypass s p e = some (t, q))
    (hsub : t.safety.submitted ≠ s.safety.submitted) : p.cleared cfg = true := by
  cases hearly : p.early with
  | false => exact (callStep_of_callSegment h).cleared_of_submitted_ne hearly hsub
  | true =>
      have hne : ¬ false = true := by decide
      have hsub' : ∀ {c : EngineState × CallPc}, some c = some (t, q) →
          c.1.safety.submitted ≠ s.safety.submitted := by
        rintro c hc
        cases hc
        exact hsub
      unfold callSegment at h
      split at h
      · exact absurd (submitted_start bypass _ _) (hsub' h)
      · -- a LIVE order still has the other checks before it
        refine decide_eq_true fun hlive => hsub' h ?_
        rw [afterLimits, if_pos hlive]
      · rename_i checks answers now
        by_contra hnot
        refine hsub' h ?_
        have hchecks : eligible checks = false := by simpa [CallPc.cleared] using hnot
        rw [afterPreflight, if_pos (by simp [hchecks])]
      · rfl
      · rfl
      · rfl
      · exact absurd rfl (hsub' h)
      · exact absurd rfl (hsub' h)
      all_goals first
        | exact absurd hearly hne
        | cases h

end Effects

/-- The task is a call that does not bypass the kill switch. -/
def Job.obeys : Job → Bool
  | .execute _ bypass => !bypass
  | .trigger => false

/-- The task is a call that has passed its last check and has not submitted. -/
def TaskPc.cleared (cfg : EngineConfig) : TaskPc → Bool
  | .call p => p.cleared cfg
  | .trigger _ => false

variable {ι : Type*} [DecidableEq ι]

/-- The condition on a step under which the kill switch stops orders: the trigger sets
the flag only while no call that obeys it is between its last check and
`place_order`. -/
def TriggersClear (cfg : EngineConfig) (job : ι → Job) (P : Pool ι EngineState TaskPc)
    (a : ι × TaskEvent) : Prop :=
  match P.task a.1, a.2 with
  | .trigger .idle, .trigger .call =>
      ∀ j, (job j).obeys = true → (P.task j).cleared cfg = false
  | _, _ => True

instance [Fintype ι] (cfg : EngineConfig) (job : ι → Job) (P : Pool ι EngineState TaskPc)
    (a : ι × TaskEvent) : Decidable (TriggersClear cfg job P a) := by
  unfold TriggersClear
  split <;> infer_instance

/-- While the flag is set, no call that obeys it is cleared. -/
def Stopped (cfg : EngineConfig) (job : ι → Job) (P : Pool ι EngineState TaskPc) : Prop :=
  P.shared.killSwitch = true →
    ∀ i, (job i).obeys = true → (P.task i).cleared cfg = false

omit [DecidableEq ι] in
theorem stopped_engineStart (cfg : EngineConfig) (s : EngineState) (job : ι → Job) :
    Stopped cfg job (engineStart s job) := by
  intro _ i _
  cases h : job i <;> simp [engineStart, h, Job.start, TaskPc.cleared, CallPc.cleared]

namespace Stopped

variable {cfg : EngineConfig} {job : ι → Job} {P Q : Pool ι EngineState TaskPc}

theorem step {a : ι × TaskEvent} (hI : Stopped cfg job P)
    (hok : TriggersClear cfg job P a) (h : (engineMachine cfg job).next P a = some Q) :
    Stopped cfg job Q := by
  obtain ⟨i, e⟩ := a
  obtain ⟨t, q, hseg, rfl⟩ := Pool.machine_next_eq_some_iff.1 h
  intro hactive j hj
  cases hjob : job i with
  | execute o bypass =>
      rw [hjob] at hseg
      obtain ⟨p, e', q', hp, rfl, rfl, hcall⟩ := segment_execute_eq_some hseg
      have hbefore : P.shared.killSwitch = true := by
        rw [← (callStep_of_callSegment hcall).killSwitch_eq]
        exact hactive
      by_cases hji : j = i
      · subst hji
        have hbypass : bypass = false := by simpa [hjob, Job.obeys] using hj
        subst hbypass
        have hold := hI hbefore j hj
        rw [hp] at hold
        rw [P.resume_task_self]
        refine Bool.eq_false_iff.2 fun hq => ?_
        simp [TaskPc.cleared, cleared_of_callSegment hbefore hcall hq] at hold
      · rw [P.resume_task_of_ne hji]
        exact hI hbefore j hj
  | trigger =>
      rw [hjob] at hseg
      obtain ⟨p, e', q', hp, rfl, rfl, htrigger⟩ := segment_trigger_eq_some hseg
      have hji : j ≠ i := by
        rintro rfl
        rw [hjob] at hj
        cases hj
      rw [P.resume_task_of_ne hji]
      rcases triggerSegment_cases htrigger with ⟨rfl, hflag, rfl⟩ | rfl
      · cases e' with
        | call =>
            rw [TriggersClear, hp] at hok
            exact hok j hj
        | resume => cases htrigger
      · exact hI hactive j hj

end Stopped

/-- Every run in which triggers find the engine clear keeps calls stopped. -/
theorem stopped_of_run (cfg : EngineConfig) (job : ι → Job) {s : EngineState}
    {as : List (ι × TaskEvent)} {P : Pool ι EngineState TaskPc}
    (hok : (engineMachine cfg job).Guarded (TriggersClear cfg job) (engineStart s job) as)
    (hrun : (engineMachine cfg job).run (engineStart s job) as = some P) :
    Stopped cfg job P :=
  (engineMachine cfg job).guarded_run_invariant (TriggersClear cfg job)
    (Stopped cfg job) (fun _ _ _ hI hok h => hI.step hok h)
    (stopped_engineStart cfg s job) hok hrun

/-- In every interleaving in which the trigger sets the flag only while no call is
between its last check and `place_order`, no call that obeys the kill switch starts
`place_order` while the flag is set. -/
theorem killSwitch_eq_false_of_submits (cfg : EngineConfig) (job : ι → Job)
    (s : EngineState) {as : List (ι × TaskEvent)} {a : ι × TaskEvent}
    {P Q : Pool ι EngineState TaskPc}
    (hok : (engineMachine cfg job).Guarded (TriggersClear cfg job) (engineStart s job) as)
    (hrun : (engineMachine cfg job).run (engineStart s job) as = some P)
    (hnext : (engineMachine cfg job).next P a = some Q) (hobeys : (job a.1).obeys = true)
    (hsub : Q.shared.safety.submitted ≠ P.shared.safety.submitted) :
    P.shared.killSwitch = false := by
  have hI := stopped_of_run cfg job hok hrun
  obtain ⟨i, e⟩ := a
  obtain ⟨t, q, hseg, rfl⟩ := Pool.machine_next_eq_some_iff.1 hnext
  refine Bool.eq_false_iff.2 fun hactive => ?_
  have hnot := hI hactive i hobeys
  cases hjob : job i with
  | execute o bypass =>
      rw [hjob] at hseg
      obtain ⟨p, e', q', hp, rfl, rfl, hcall⟩ := segment_execute_eq_some hseg
      rw [hp] at hnot
      simp [TaskPc.cleared, cleared_of_submitted_ne hcall hsub] at hnot
  | trigger =>
      rw [hjob] at hobeys
      cases hobeys

/-- The tasks of the examples: one call and one trigger. -/
def callAndTrigger : Bool → Job
  | false => .execute (.closing 7 .sell 1 .paper) false
  | true => .trigger

/-- The call of the example submits before the trigger. -/
theorem killSwitch_eq_false_of_submits_untriggered :
    ∃ P Q, (engineMachine paperEngine callAndTrigger).run
          (engineStart (.init none) callAndTrigger) [callStarts false] = some P ∧
      (engineMachine paperEngine callAndTrigger).next P (limitsKnown false) = some Q ∧
      P.shared.killSwitch = false := by
  refine ⟨_, _, rfl, rfl, ?_⟩
  exact @killSwitch_eq_false_of_submits _ _ paperEngine callAndTrigger (.init none)
    [callStarts false] (limitsKnown false) _ _ (by decide +kernel) rfl rfl rfl
    (by decide +kernel)

/-- The trigger sets the flag while the call awaits the limits of its symbol; the call
then goes on to `place_order`. -/
theorem not_stopped :
    ¬ ∀ (as : List (Bool × TaskEvent)) (a : Bool × TaskEvent)
        (P Q : Pool Bool EngineState TaskPc),
      (engineMachine paperEngine callAndTrigger).run
        (engineStart (.init none) callAndTrigger) as = some P →
      (engineMachine paperEngine callAndTrigger).next P a = some Q →
      (callAndTrigger a.1).obeys = true →
      Q.shared.safety.submitted ≠ P.shared.safety.submitted →
      P.shared.killSwitch = false := by
  intro h
  have hflag := h [callStarts false, (true, .trigger .call)] (limitsKnown false) _ _
    rfl rfl rfl (by decide +kernel)
  exact absurd hflag (by decide)

end Sgr
