import Sgr.Execution.Engine.Executions

/-!
# Where the results of a call come from

The result that a call works with is an answer of the exchange, with or without the keys
of the order, a row that the look-up has found, or a rejection of the engine's own. A
property that these have is a property of every result that the call works with or
answers with.
-/

open Collection Concurrency

namespace Sgr

namespace CallPc

/-- `place_order` runs. -/
def isSubmitting : CallPc → Bool
  | .safe _ .submitting => true
  | _ => false

/-- The row that the look-up of the call has found. -/
def foundRow : CallPc → Option OrderRow
  | .safe _ (.lookedUp row) => row
  | _ => none

/-- The result of the call is to come from the exchange or has come from there. -/
def books : CallPc → Bool
  | .safe _ p => p.hasSubmitted && !p.willDrop
  | p => p.late.isSome

/-- The row that an event updates. -/
def updates (o : OrderRequest) : CallPc → CallEvent → Option UUID
  | .safe _ (.persistFinal _ _), .safe .updateCommits => some o.id
  | .persisting id _, .statusCommits => some id
  | _, _ => none

/-- Every result at the control point has the property `φ`. After a submission that has
raised the result is marked as unknown. A fill is published only when it is FILLED, and the
row of its request is updated then; every other update goes to the row of the order. -/
def Results (o : OrderRequest) (φ : OrderResult → Prop) : CallPc → Prop
  | .safe _ (.persistFinal r failed) | .safe _ (.finalPersisted r failed) =>
      φ r ∧ (failed = true → r.rawResponse.unknown = true)
  | .publishing r => φ r ∧ r.status = .filled
  | .persisting id r => φ r ∧ (id = o.id ∨ id = r.requestId ∧ r.status = .filled)
  | .sleeping r _ | .polling r _ | .cancelling r | .persisted r | .rejected r
  | .returned r => φ r
  | _ => True

end CallPc

section Rejections

variable (cfg : EngineConfig) (o : OrderRequest) (s : EngineState)

/-- The gates refuse an order with a rejection of the engine's own. -/
def RefusesOwn (c : EngineState × CallPc) : Prop :=
  ∀ r, c.2 = .rejected r → r.status = .rejected

theorem refusesOwn_rejectedResult (reason : String) :
    RefusesOwn (s, .rejected (rejectedResult cfg o reason)) := by
  intro r h
  cases h
  rfl

variable {s}

theorem refusesOwn_of_ne {p : CallPc} (h : p.refused = false) : RefusesOwn (s, p) := by
  intro r hr
  dsimp only at hr
  rw [hr] at h
  cases h

variable (s)

theorem refusesOwn_of_continues {o : OrderRequest} {s t : EngineState} {r : OrderResult}
    {q : CallPc} (h : Continues o s r t q) : RefusesOwn (t, q) := by
  cases h <;> exact refusesOwn_of_ne rfl

theorem refusesOwn_afterSafe (a : Amount) (p : SafePc) : RefusesOwn (afterSafe o s a p) := by
  refine afterSafe_cases o s (φ := RefusesOwn) ?_ ?_
  · intro r t q h
    exact refusesOwn_of_continues h
  · exact fun _ => refusesOwn_of_ne rfl

theorem refusesOwn_executeInternal (a : Amount) :
    RefusesOwn (executeInternal cfg o s a) := by
  unfold executeInternal
  split
  · exact refusesOwn_afterSafe o _ a _
  · exact refusesOwn_of_ne rfl

theorem refusesOwn_verified (a : Amount) (ticker : Except String Ticker) (now : Timestamp) :
    RefusesOwn (verified cfg o s a ticker now) := by
  unfold verified
  dsimp only
  split
  · exact refusesOwn_rejectedResult cfg o _ _
  · exact refusesOwn_executeInternal cfg o _ a

theorem refusesOwn_verify (a : Amount) (now : Timestamp) :
    RefusesOwn (verify cfg o s a now) := by
  unfold verify
  split
  · exact refusesOwn_executeInternal cfg o s a
  · split
    · exact refusesOwn_verified cfg o s a _ now
    · exact refusesOwn_of_ne rfl

theorem refusesOwn_startQuantize : RefusesOwn (startQuantize cfg o s) := by
  unfold startQuantize
  split
  · exact refusesOwn_of_ne rfl
  · intro r h
    cases h

theorem refusesOwn_afterPreflight (checks : List PreflightCheckResult) (now : Timestamp) :
    RefusesOwn (afterPreflight cfg o s checks now) := by
  unfold afterPreflight
  split
  · exact refusesOwn_rejectedResult cfg o s _
  · split
    · exact refusesOwn_verify cfg o s o.amount now
    · unfold ensureLeverage
      split
      · exact refusesOwn_startQuantize cfg o s
      · split
        · exact refusesOwn_of_ne rfl
        · intro r h
          cases h

theorem refusesOwn_start (bypass : Bool) (registry : String → Option StrategyEntry)
    (connected : ExchangeID → Option Bool) :
    RefusesOwn (start cfg o bypass s registry connected) := by
  unfold start
  dsimp only
  split
  · intro r h
    cases h
  · split
    · exact refusesOwn_rejectedResult cfg o s _
    · split
      · exact refusesOwn_rejectedResult cfg o s _
      · split
        · exact refusesOwn_of_ne rfl
        · split <;> exact refusesOwn_afterPreflight cfg o s _ 0

theorem refusesOwn_afterLimits (info : Except ExchangeError ExchangeInfo) :
    RefusesOwn (afterLimits cfg o s info) := by
  unfold afterLimits
  dsimp only
  split
  · exact refusesOwn_of_ne rfl
  · exact refusesOwn_afterPreflight cfg o s _ 0

theorem refusesOwn_leverageAnswered (answer : Except ExchangeError Unit) :
    RefusesOwn (leverageAnswered cfg o s answer) := by
  cases answer with
  | ok _ => exact refusesOwn_startQuantize cfg o _
  | error e =>
      unfold leverageAnswered
      dsimp only
      split
      · exact refusesOwn_startQuantize cfg o _
      · exact refusesOwn_rejectedResult cfg o s _

theorem refusesOwn_quantized (now : Timestamp) (r : Amount × Option String) :
    RefusesOwn (quantized cfg o s now r) := by
  obtain ⟨a, reason⟩ := r
  cases reason with
  | some reason => exact refusesOwn_rejectedResult cfg o s reason
  | none => exact refusesOwn_verify cfg o s a now

theorem refusesOwn_quantizeAnswered (info : Except String ExchangeInfo)
    (ticker : Except String Ticker) (now : Timestamp) :
    RefusesOwn (quantizeAnswered cfg o s info ticker now) := by
  unfold quantizeAnswered
  split
  · intro r hr
    cases hr
  · exact refusesOwn_quantized cfg o s now _

end Rejections

section Early

variable {cfg : EngineConfig} {o : OrderRequest} {bypass : Bool} {s t : EngineState}
  {p q : CallPc} {e : CallEvent}

/-- What a segment of the gates does to the results and to the table. -/
inductive GateStep (cfg : EngineConfig) (o : OrderRequest) (s : EngineState) :
    EngineState → CallPc → Prop
  /-- The call stays among the gates or raises. -/
  | stays {t : EngineState} {q : CallPc} (hq : q.early = true ∨ q = .raised)
      (horders : t.safety.orders = s.safety.orders) : GateStep cfg o s t q
  /-- The call ends with a rejection. -/
  | refuses {t : EngineState} {q : CallPc} {r : OrderResult}
      (hq : q = .rejected r ∨ q = .returned r) (hr : r.status = .rejected)
      (horders : t.safety.orders = s.safety.orders) : GateStep cfg o s t q
  /-- The look-up starts. -/
  | looksUp {t : EngineState} (a : Amount) (horders : t.safety.orders = s.safety.orders) :
      GateStep cfg o s t (.safe a .lookup)
  /-- Without a repository `place_order` starts at once. -/
  | submits {t : EngineState} (a : Amount) (horders : t.safety.orders = s.safety.orders) :
      GateStep cfg o s t (.safe a .submitting)

theorem handleResult_of_duplicate {r : OrderResult} (h : r.rawResponse.duplicate = true) :
    handleResult o s r = finish o s r := by
  rw [handleResult, if_pos (by simp [h])]

theorem gateStep_executeInternal (u : EngineState) (a : Amount)
    (hu : u.safety.orders = s.safety.orders) :
    GateStep cfg o s (executeInternal cfg o u a).1 (executeInternal cfg o u a).2 := by
  unfold executeInternal
  split
  · dsimp only
    unfold safeCall
    split
    next cached h =>
      rw [afterSafe, handleResult_of_duplicate rfl]
      exact .refuses (.inr rfl) rfl hu
    next h =>
      split
      · exact .looksUp a hu
      · exact .submits a hu
  · exact .refuses (.inr rfl) rfl hu

theorem gateStep_of_outcome {c : EngineState × CallPc} (h : GateOutcome cfg o s c)
    (hown : RefusesOwn c) : GateStep cfg o s c.1 c.2 := by
  rcases h with ⟨hq, ht⟩ | ⟨u, a, hu, rfl⟩
  · rcases hq with hq | hq
    · exact .stays (.inl hq) (congrArg _ ht.safety)
    · obtain ⟨t, q⟩ := c
      cases q with
      | rejected r => exact .refuses (.inl rfl) (hown r rfl) (congrArg _ ht.safety)
      | raised => exact .stays (.inr rfl) (congrArg _ ht.safety)
      | _ => cases hq
  · exact gateStep_executeInternal u a (congrArg _ hu.safety)

/-- A segment of a call that has not reached the safe executor. -/
theorem gateStep_of_callSegment (hp : p.early = true)
    (h : callSegment cfg o bypass s p e = some (t, q)) : GateStep cfg o s t q := by
  have hmk : ∀ {c : EngineState × CallPc}, some c = some (t, q) → GateOutcome cfg o s c →
      RefusesOwn c → GateStep cfg o s t q := by
    intro c hc houtcome hown
    cases hc
    exact gateStep_of_outcome houtcome hown
  unfold callSegment at h
  split at h
  · exact hmk h (gateEnd_start cfg o s bypass _ _).outcome
      (refusesOwn_start cfg o s bypass _ _)
  · exact hmk h (gateEnd_afterLimits cfg o s _).outcome (refusesOwn_afterLimits cfg o s _)
  · exact hmk h (gateEnd_afterPreflight cfg o s _ _).outcome
      (refusesOwn_afterPreflight cfg o s _ _)
  · exact hmk h (gateEnd_leverageAnswered cfg o s _).outcome
      (refusesOwn_leverageAnswered cfg o s _)
  · exact hmk h (gateEnd_quantizeAnswered cfg o s _ _ _).outcome
      (refusesOwn_quantizeAnswered cfg o s _ _ _)
  · exact hmk h (gateOutcome_verified cfg o s _ _ _) (refusesOwn_verified cfg o s _ _ _)
  · cases h
    exact .stays (.inr rfl) rfl
  · cases h
    exact .stays (.inr rfl) rfl
  all_goals first | cases hp | cases h

/-- A segment of a call inside the safe executor is one of its steps. -/
theorem safeStep_of_callSegment {a : Amount} {p : SafePc}
    (h : callSegment cfg o bypass s (.safe a p) e = some (t, q)) :
    ∃ e' u q', e = .safe e' ∧ SafeStep cfg.repo (o.withAmount a) s.safety p e' u q' ∧
      (t, q) = afterSafe o (s.withSafety u) a q' := by
  cases e with
  | safe e' =>
      obtain ⟨⟨u, q'⟩, hseg, hq⟩ := Option.map_eq_some_iff.1 h
      exact ⟨e', u, q', rfl, safeStep_of_safeSegment hseg, hq.symm⟩
  | _ => cases h

end Early

section Late

variable {cfg : EngineConfig} {o : OrderRequest} {φ : OrderResult → Prop}

theorem results_persistStatus (s : EngineState) {id : UUID} {r : OrderResult} (hr : φ r)
    (hid : id = o.id ∨ id = r.requestId ∧ r.status = .filled) :
    (persistStatus cfg o s id r).2.Results o φ := by
  unfold persistStatus
  split
  · exact ⟨hr, hid⟩
  · exact hr

theorem results_monitorEnd (s : EngineState) {r : OrderResult} (hr : φ r) :
    (monitorEnd o s r).2.Results o φ := by
  unfold monitorEnd
  split
  · exact hr
  · split
    next hfilled => exact ⟨hr, hfilled⟩
    next => exact hr

theorem results_monitorLoop (s : EngineState) {r : OrderResult} (elapsed : ℕ) (hr : φ r) :
    (monitorLoop o s r elapsed).2.Results o φ := by
  unfold monitorLoop
  split
  · split
    · exact hr
    · exact hr
  · exact results_monitorEnd s hr

variable (hattr : ∀ r, φ r → φ (attributed o r))

include hattr in
theorem results_handleResult (s : EngineState) {r : OrderResult} (hr : φ r) :
    (handleResult o s r).2.Results o φ := by
  unfold handleResult
  split
  · exact hr
  · split
    next hfilled => exact ⟨hattr r hr, hfilled⟩
    next => exact results_monitorLoop s 0 (hattr r hr)

include hattr in
theorem results_pollAnswered (s : EngineState) {r : OrderResult} (elapsed : ℕ) (hr : φ r) :
    (pollAnswered cfg o s r elapsed).2.Results o φ := by
  unfold pollAnswered
  dsimp only
  split
  · exact results_monitorLoop _ elapsed (hattr r hr)
  · split
    next hfilled => exact ⟨hattr r hr, hfilled⟩
    next => exact results_persistStatus _ (hattr r hr) (.inl rfl)

end Late

section Steps

variable {cfg : EngineConfig} {o : OrderRequest} {bypass : Bool} {s t : EngineState}
  {p q : CallPc} {e : CallEvent} {φ : OrderResult → Prop}

theorem GateStep.results (hrej : ∀ r, r.status = .rejected → φ r)
    (h : GateStep cfg o s t q) : q.Results o φ := by
  cases h with
  | stays hq _ =>
      rcases hq with hq | rfl
      · cases q with
        | safe a p => cases hq
        | _ => trivial
      · trivial
  | refuses hq hr _ =>
      rcases hq with rfl | rfl
      · exact hrej _ hr
      · exact hrej _ hr
  | looksUp a _ => trivial
  | submits a _ => trivial

theorem results_of_some_eq {c : EngineState × CallPc} (h : some c = some (t, q))
    (hc : c.2.Results o φ) : q.Results o φ := by
  cases h
  exact hc

/-- What the answers of the exchange, the rows that are found and the rejections of the
engine have in common, all results of a call have. -/
theorem results_of_callSegment (hattr : ∀ r, φ r → φ (attributed o r))
    (hrej : ∀ r, r.status = .rejected → φ r)
    (h : callSegment cfg o bypass s p e = some (t, q)) (hp : p.Results o φ)
    (hplaced : ∀ r, e = .safe (.submitReturns r) → φ r) (hpolled : ∀ r, e = .polled r → φ r)
    (hfound : ∀ row, p.foundRow = some row → φ (recoveredResult row o)) :
    q.Results o φ := by
  cases hearly : p.early with
  | true => exact (gateStep_of_callSegment hearly h).results hrej
  | false =>
      cases p with
      | safe a p =>
          obtain ⟨e', u, q', rfl, hstep, hq⟩ := safeStep_of_callSegment h
          obtain ⟨rfl, rfl⟩ := Prod.mk.inj hq
          cases hstep with
          | callBlocked cached _ => exact results_handleResult hattr _ (hrej _ rfl)
          | recovered row => exact results_handleResult hattr _ (hfound row rfl)
          | submitReturns r =>
              cases cfg.repo with
              | true => exact ⟨hplaced r rfl, fun h => by cases h⟩
              | false => exact results_handleResult hattr _ (hplaced r rfl)
          | submitRaises msg _ =>
              exact ⟨hrej (makeUnknownResult (o.withAmount a) msg) rfl, fun _ => rfl⟩
          | submitRaisesDrops msg _ => exact results_handleResult hattr _ (hrej _ rfl)
          | updateCommits r _ => exact hp
          | updateFails r _ => exact hp
          | returns r => exact results_handleResult hattr _ hp.1
          | dropsAndReturns r => exact results_handleResult hattr _ hp.1
          | _ => trivial
      | publishing r =>
          cases e with
          | published =>
              exact results_of_some_eq h (results_persistStatus s hp.1 (.inr ⟨rfl, hp.2⟩))
          | _ => cases h
      | sleeping r elapsed =>
          cases e with
          | slept =>
              cases h
              exact hp
          | _ => cases h
      | polling r elapsed =>
          cases e with
          | polled r' =>
              exact results_of_some_eq h (results_pollAnswered hattr s elapsed (hpolled r' rfl))
          | pollFails => exact results_of_some_eq h (results_monitorLoop _ elapsed hp)
          | pollRaises msg =>
              cases h
              exact hrej (rejectedResult cfg o ("Execution error: " ++ msg)) rfl
          | _ => cases h
      | cancelling r =>
          cases e with
          | cancelled => exact results_of_some_eq h (results_persistStatus s hp (.inl rfl))
          | _ => cases h
      | persisting id r =>
          cases e with
          | statusCommits =>
              cases h
              exact hp.1
          | statusFails =>
              cases h
              exact hp.1
          | _ => cases h
      | persisted r =>
          cases e with
          | resume =>
              cases h
              exact hp
          | _ => cases h
      | rejected r => cases e <;> cases h
      | returned r => cases e <;> cases h
      | raised => cases e <;> cases h
      | _ => cases hearly

/-- What a segment does to the table. -/
inductive TableStep (o : OrderRequest) (s : EngineState) (p : CallPc) (e : CallEvent)
    (t : EngineState) : Prop
  | same (hupdates : p.updates o e = none) (horders : t.safety.orders = s.safety.orders)
  | inserts (a : Amount) (hupdates : p.updates o e = none)
      (horders : t.safety.orders = (s.safety.putRow o.id (pendingRow (o.withAmount a))).orders)
  | updates {id : UUID} {r r' : OrderResult} (hupdates : p.updates o e = some id)
      (hp : (id = o.id ∧ ∃ a raised, p = .safe a (.persistFinal r raised)) ∨
        p = .persisting id r)
      (hstatus : r'.status = r.status) (hfilled : r'.filledQuantity = r.filledQuantity)
      (horders : t.safety.orders = (s.safety.updateStatus id r').orders)

/-- The segments of a call, by what they do to the order on the exchange that its result is
about. -/
inductive ResultStep (o : OrderRequest) (s : EngineState) (p : CallPc) (e : CallEvent)
    (t : EngineState) (q : CallPc) : Prop
  /-- The look-up is answered. -/
  | looksUp (a : Amount) (hp : p = .safe a .lookup) (he : e = .safe .lookupAnswers)
      (hq : q = .safe a (.lookedUp (s.safety.orders o.id)))
      (horders : t.safety.orders = s.safety.orders)
  /-- `place_order` starts. -/
  | submits (a : Amount) (hlookup : e ≠ .safe .lookupAnswers) (hp : p.holds = false)
      (hfound : p.foundRow = none) (hq : q = .safe a .submitting) (hupdates : p.updates o e = none)
      (horders : t.safety.orders = s.safety.orders)
  /-- `place_order` answers. -/
  | placed (a : Amount) (r : OrderResult) (hp : p = .safe a .submitting)
      (he : e = .safe (.submitReturns r)) (hq : q.books = true ∨ q.answer.isSome = true)
      (hfound : q.foundRow = none) (hsubmitting : q.isSubmitting = false)
      (horders : t.safety.orders = s.safety.orders)
  /-- The call goes on with the result that it has. -/
  | moves (hlookup : e ≠ .safe .lookupAnswers) (hplaced : ∀ r, e ≠ .safe (.submitReturns r))
      (hbooks : q.books = true → p.books = true)
      (hkeeps : p.books = true → q.books = true ∨ q.answer.isSome = true ∨ p.isSubmitting = true)
      (hholds : p.holds = true → q.holds = true ∨ q.answer.isSome = true)
      (hfound : q.foundRow = none) (hrow : p.foundRow.isSome = true → q.answer.isSome = true)
      (hsubmitting : q.isSubmitting = false) (htable : TableStep o s p e t)

/-- The control points of a call that has a result from `execute_safely`. -/
def CallPc.Monitored (q : CallPc) : Prop := q.late.isSome = true ∨ ∃ r, q = .returned r

namespace CallPc.Monitored

theorem books_or_answer (h : q.Monitored) : q.books = true ∨ q.answer.isSome = true := by
  rcases h with h | ⟨r, rfl⟩
  · cases q <;> first | exact .inl rfl | cases h
  · exact .inr rfl

theorem holds_or_answer (h : q.Monitored) : q.holds = true ∨ q.answer.isSome = true := by
  rcases h with h | ⟨r, rfl⟩
  · cases q <;> first | exact .inl rfl | cases h
  · exact .inr rfl

theorem foundRow_eq_none (h : q.Monitored) : q.foundRow = none := by
  rcases h with h | ⟨r, rfl⟩
  · cases q <;> first | rfl | cases h
  · rfl

theorem isSubmitting_eq_false (h : q.Monitored) : q.isSubmitting = false := by
  rcases h with h | ⟨r, rfl⟩
  · cases q <;> first | rfl | cases h
  · rfl

end CallPc.Monitored

theorem Continues.monitored {u : EngineState} {r : OrderResult} (h : Continues o u r t q) :
    q.Monitored := by
  cases h with
  | returned => exact .inr ⟨r, rfl⟩
  | _ => exact .inl rfl

theorem monitored_handleResult (u : EngineState) (r : OrderResult) :
    (handleResult o u r).2.Monitored := by
  obtain ⟨r', -, h⟩ := continues_handleResult o u r
  exact h.monitored

theorem Continues.orders {u : EngineState} {r : OrderResult} (h : Continues o u r t q) :
    t.safety.orders = u.safety.orders := by
  cases h <;> rfl

theorem orders_handleResult (u : EngineState) (r : OrderResult) :
    (handleResult o u r).1.safety.orders = u.safety.orders := by
  obtain ⟨r', -, h⟩ := continues_handleResult o u r
  exact h.orders

theorem CallPc.holds_of_books (h : p.books = true) : p.holds = true := by
  cases p with
  | safe a p => exact (Bool.and_eq_true_iff.1 h).1
  | _ => exact h

theorem CallPc.exists_of_isSubmitting (h : p.isSubmitting = true) :
    ∃ a, p = .safe a .submitting := by
  unfold CallPc.isSubmitting at h
  split at h
  · exact ⟨_, rfl⟩
  · cases h

theorem CallPc.Results.mono {ψ : OrderResult → Prop} (h : p.Results o φ)
    (himp : ∀ r, φ r → ψ r) : p.Results o ψ := by
  cases p with
  | safe a p =>
      cases p with
      | persistFinal r failed => exact ⟨himp r h.1, h.2⟩
      | finalPersisted r failed => exact ⟨himp r h.1, h.2⟩
      | _ => trivial
  | publishing r => exact ⟨himp r h.1, h.2⟩
  | persisting id r => exact ⟨himp r h.1, h.2⟩
  | sleeping r elapsed => exact himp r h
  | polling r elapsed => exact himp r h
  | cancelling r => exact himp r h
  | persisted r => exact himp r h
  | rejected r => exact himp r h
  | returned r => exact himp r h
  | _ => trivial

/-- What a call has answered is one of its results. -/
theorem CallPc.Results.of_answer {r : OrderResult} (hp : p.Results o φ)
    (h : p.answer = some (.returned r)) : φ r := by
  cases p with
  | rejected r => exact ExecuteAnswer.returned.inj (Option.some.inj h) ▸ hp
  | returned r => exact ExecuteAnswer.returned.inj (Option.some.inj h) ▸ hp
  | _ => cases h

theorem CallPc.late_eq_none_of_early (h : p.early = true) : p.late = none := by
  cases p <;> first | rfl | cases h

/-- A call that is through with `execute_safely` stays so. -/
theorem CallStep.monitored (h : CallStep cfg o s p t q) (hp : p.late.isSome = true) :
    q.Monitored := by
  cases h with
  | gate hearly _ _ => simp [CallPc.late_eq_none_of_early hearly] at hp
  | enter a hearly _ => simp [CallPc.late_eq_none_of_early hearly] at hp
  | safe h => cases hp
  | goesOn _ h => exact h.monitored
  | polls => exact .inl rfl
  | updates h => exact h.monitored
  | aborts => exact .inr ⟨_, rfl⟩
  | stores _ => exact .inl rfl

theorem tableStep_of_late (hp : p.late.isSome = true)
    (h : callSegment cfg o bypass s p e = some (t, q)) : TableStep o s p e t := by
  have hsame : ∀ {c : EngineState × CallPc} {u : EngineState} {r : OrderResult},
      some c = some (t, q) → Continues o u r c.1 c.2 → u.safety.orders = s.safety.orders →
        t.safety.orders = s.safety.orders := by
    intro c u r hc hcont hu
    cases hc
    exact hcont.orders.trans hu
  have hupdate : ∀ r, (s.withSafety (s.safety.updateInflight o.id r)).safety.orders =
      s.safety.orders := fun r => s.safety.updateInflight_orders o.id r
  cases p with
  | publishing r =>
      cases e with
      | published => exact .same rfl (hsame h (continues_persistStatus cfg o s r _) rfl)
      | _ => cases h
  | sleeping r elapsed =>
      cases e with
      | slept =>
          cases h
          exact .same rfl rfl
      | _ => cases h
  | polling r elapsed =>
      cases e with
      | polled r' =>
          exact .same rfl (hsame h (continues_pollAnswered cfg o s r' elapsed) (hupdate _))
      | pollFails => exact .same rfl (hsame h (continues_monitorLoop o _ r elapsed) (hupdate _))
      | pollRaises msg => exact .same rfl (hsame h .returned (hupdate _))
      | _ => cases h
  | cancelling r =>
      cases e with
      | cancelled => exact .same rfl (hsame h (continues_persistStatus cfg o s r _) rfl)
      | _ => cases h
  | persisting id r =>
      cases e with
      | statusCommits =>
          cases h
          refine .updates rfl (.inr rfl) ?_ ?_ rfl
          · rfl
          · rfl
      | statusFails =>
          cases h
          exact .same rfl rfl
      | _ => cases h
  | persisted r =>
      cases e with
      | resume => exact .same rfl (hsame h .returned rfl)
      | _ => cases h
  | _ => cases hp

theorem handleResult_of_unknown (u : EngineState) {r : OrderResult}
    (h : r.rawResponse.unknown = true) : handleResult o u r = finish o u r := by
  rw [handleResult, if_pos (by simp [h])]

/-- A row that is found ends the call. -/
theorem handleResult_recoveredResult (u : EngineState) (row : OrderRow) :
    handleResult o u (recoveredResult row o) = finish o u (recoveredResult row o) := by
  unfold recoveredResult
  split
  · exact handleResult_of_duplicate rfl
  · exact handleResult_of_unknown u rfl

/-- A step before `place_order`. -/
theorem ResultStep.unsubmitted (hlookup : e ≠ .safe .lookupAnswers)
    (hplaced : ∀ r, e ≠ .safe (.submitReturns r)) (hbooks : p.books = false)
    (hholds : p.holds = false) (hrow : p.foundRow = none) (hbooks' : q.books = false)
    (hfound : q.foundRow = none) (hsubmitting : q.isSubmitting = false)
    (htable : TableStep o s p e t) : ResultStep o s p e t q := by
  refine .moves hlookup hplaced ?_ ?_ ?_ hfound ?_ hsubmitting htable
  · simp [hbooks']
  · simp [hbooks]
  · simp [hholds]
  · simp [hrow]

/-- A step after which `execute_safely` has answered. -/
theorem ResultStep.answered (hlookup : e ≠ .safe .lookupAnswers)
    (hplaced : ∀ r, e ≠ .safe (.submitReturns r)) (hq : q.Monitored)
    (hbooks : q.books = true → p.books = true)
    (hrow : p.foundRow.isSome = true → q.answer.isSome = true)
    (htable : TableStep o s p e t) : ResultStep o s p e t q :=
  .moves hlookup hplaced hbooks (fun _ => hq.books_or_answer.imp_right .inl)
    (fun _ => hq.holds_or_answer) hq.foundRow_eq_none hrow hq.isSubmitting_eq_false htable

theorem GateStep.resultStep (hp : p.early = true) (h : GateStep cfg o s t q)
    (hlookup : e ≠ .safe .lookupAnswers) (hplaced : ∀ r, e ≠ .safe (.submitReturns r)) :
    ResultStep o s p e t q := by
  have hbooks : p.books = false := by cases p <;> first | rfl | cases hp
  have hholds : p.holds = false := by cases p <;> first | rfl | cases hp
  have hrow : p.foundRow = none := by cases p <;> first | rfl | cases hp
  have hupdates : p.updates o e = none := by cases p <;> first | rfl | cases hp
  cases h with
  | stays hq horders =>
      have hq' : q.books = false ∧ q.foundRow = none ∧ q.isSubmitting = false := by
        rcases hq with hq | rfl
        · cases q <;> first | exact ⟨rfl, rfl, rfl⟩ | cases hq
        · exact ⟨rfl, rfl, rfl⟩
      exact .unsubmitted hlookup hplaced hbooks hholds hrow hq'.1 hq'.2.1 hq'.2.2
        (.same hupdates horders)
  | refuses hq _ horders =>
      have htable : TableStep o s p e t := .same hupdates horders
      rcases hq with rfl | rfl
      · exact .unsubmitted hlookup hplaced hbooks hholds hrow rfl rfl rfl htable
      · exact .unsubmitted hlookup hplaced hbooks hholds hrow rfl rfl rfl htable
  | looksUp a horders =>
      exact .unsubmitted hlookup hplaced hbooks hholds hrow rfl rfl rfl (.same hupdates horders)
  | submits a horders => exact .submits a hlookup hholds hrow rfl hupdates horders

/-- A step of the safe executor. -/
theorem resultStep_of_safeStep {a : Amount} {p q : SafePc} {e : SafeEvent} {u : ExecutorState}
    (hp : CallPc.Results o φ (.safe a p))
    (h : SafeStep cfg.repo (o.withAmount a) s.safety p e u q) :
    ResultStep o s (.safe a p) (.safe e) (afterSafe o (s.withSafety u) a q).1
      (afterSafe o (s.withSafety u) a q).2 := by
  have hsame : ∀ {v : EngineState} {p : SafePc} {e : SafeEvent},
      v.safety.orders = s.safety.orders → (∀ r raised, p ≠ .persistFinal r raised) →
        TableStep o s (.safe a p) (.safe e) v := by
    intro v p e hv hp
    refine .same ?_ hv
    cases p <;> first | rfl | exact absurd rfl (hp _ _)
  cases h with
  | callBlocked cached _ =>
      refine .answered (by simp) (by simp) (monitored_handleResult _ _) ?_
        (by simp [CallPc.foundRow])
        (hsame (orders_handleResult _ _) (by simp))
      rw [afterSafe, handleResult_of_duplicate rfl]
      exact fun h => h
  | callLookup _ _ =>
      exact .unsubmitted (by simp) (by simp) rfl rfl rfl rfl rfl rfl (hsame rfl (by simp))
  | callSubmit _ _ => exact .submits a (by simp) rfl rfl rfl rfl rfl
  | lookupAnswers => exact .looksUp a rfl rfl rfl rfl
  | lookupFails =>
      exact .unsubmitted (by simp) (by simp) rfl rfl rfl rfl rfl rfl (hsame rfl (by simp))
  | recovered row =>
      have hend : handleResult o (s.withSafety s.safety) (recoveredResult row (o.withAmount a)) =
          finish o s (recoveredResult row o) := handleResult_recoveredResult s row
      rw [afterSafe, hend]
      exact .answered (by simp) (by simp) (.inr ⟨_, rfl⟩) (fun h => h) (fun _ => rfl)
        (hsame rfl (by simp))
  | accepted =>
      exact .unsubmitted (by simp) (by simp) rfl rfl rfl rfl rfl rfl (hsame rfl (by simp))
  | createCommits _ =>
      exact .unsubmitted (by simp) (by simp) rfl rfl rfl rfl rfl rfl (.inserts a rfl rfl)
  | createFails =>
      exact .unsubmitted (by simp) (by simp) rfl rfl rfl rfl rfl rfl (hsame rfl (by simp))
  | submits => exact .submits a (by simp) rfl rfl rfl rfl rfl
  | submitReturns r =>
      cases cfg.repo with
      | true => exact .placed a r rfl rfl (.inl rfl) rfl rfl rfl
      | false =>
          have hq := monitored_handleResult (o := o) (s.withSafety (s.safety.track o.id r)) r
          exact .placed a r rfl rfl hq.books_or_answer hq.foundRow_eq_none
            hq.isSubmitting_eq_false (orders_handleResult _ r)
  | submitRaises msg _ =>
      refine .moves (by simp) (by simp) ?_ ?_ (fun _ => .inl rfl) rfl ?_ rfl
        (hsame rfl (by simp))
      · exact fun _ => rfl
      · exact fun _ => .inr (.inr rfl)
      · exact fun h => by cases h
  | submitRaisesDrops msg _ =>
      rw [afterSafe, handleResult_of_unknown _ rfl]
      exact .answered (by simp) (by simp) (.inr ⟨_, rfl⟩) (fun _ => rfl) (fun _ => rfl)
        (hsame rfl (by simp))
  | updateCommits r raised =>
      refine .moves (by simp) (by simp) (fun h => h) (fun h => .inl h) (fun _ => .inl rfl) rfl ?_
        rfl ?_
      · exact fun h => by cases h
      · exact .updates rfl (.inl ⟨rfl, a, raised, rfl⟩) rfl rfl rfl
  | updateFails r raised =>
      refine .moves (by simp) (by simp) (fun h => h) (fun h => .inl h) (fun _ => .inl rfl) rfl ?_
        rfl ?_
      · exact fun h => by cases h
      · exact .same rfl rfl
  | returns r =>
      refine .answered (by simp) (by simp) (monitored_handleResult _ r) (fun _ => rfl) ?_
        (hsame (orders_handleResult _ r) (by simp))
      exact fun h => by cases h
  | dropsAndReturns r =>
      rw [afterSafe, handleResult_of_unknown _ (hp.2 rfl)]
      exact .answered (by simp) (by simp) (.inr ⟨_, rfl⟩) (fun h => h) (fun _ => rfl)
        (hsame rfl (by simp))

/-- What a segment of `execute` does to the order on the exchange that its result is
about, and to the table. -/
theorem resultStep_of_callSegment (hp : p.Results o φ)
    (h : callSegment cfg o bypass s p e = some (t, q)) : ResultStep o s p e t q := by
  cases hearly : p.early with
  | true =>
      refine (gateStep_of_callSegment hearly h).resultStep hearly ?_ ?_
      · rintro rfl
        cases p <;> first | cases h | cases hearly
      · rintro r rfl
        cases p <;> first | cases h | cases hearly
  | false =>
      have hlate : p.late.isSome = true → ResultStep o s p e t q := by
        intro hlate
        have hrow : p.foundRow = none := by cases p <;> first | rfl | cases hlate
        have hbooks : p.books = true := by cases p <;> first | rfl | cases hlate
        refine .answered ?_ ?_ ((callStep_of_callSegment h).monitored hlate) (fun _ => hbooks)
          (by simp [hrow]) (tableStep_of_late hlate h)
        · rintro rfl
          cases p <;> first | cases h | cases hlate
        · rintro r rfl
          cases p <;> first | cases h | cases hlate
      cases p with
      | safe a p =>
          obtain ⟨e', u, q', rfl, hstep, hq⟩ := safeStep_of_callSegment h
          obtain ⟨rfl, rfl⟩ := Prod.mk.inj hq
          exact resultStep_of_safeStep hp hstep
      | rejected r => cases e <;> cases h
      | returned r => cases e <;> cases h
      | raised => cases e <;> cases h
      | idle => cases hearly
      | limits => cases hearly
      | live checks => cases hearly
      | leverage => cases hearly
      | quantize => cases hearly
      | verification a => cases hearly
      | _ => exact hlate rfl

end Steps

end Sgr
