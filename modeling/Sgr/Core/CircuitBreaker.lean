import Mathlib.Algebra.Order.Ring.Int
import Sgr.Concurrency.Pool

/-!
# Circuit breakers

`CircuitBreaker` of `sgr/core/resilience.py`, under any number of calls at a time. The state of the
breaker is read when a call starts and changed when it ends. So a breaker that is half open lets
every call through, and counts the success of a request that was started long before.
-/

open Concurrency

namespace Sgr

inductive CircuitBreakerState
  | closed
  | opened
  | halfOpen
  deriving DecidableEq, Repr

/-- The settings of a `CircuitBreaker`. -/
structure CircuitBreaker where
  name : String
  failureThreshold : ℤ := 5
  recoveryTimeoutSeconds : ℤ := 60
  successThreshold : ℤ := 2

/-- The other fields of a `CircuitBreaker`; the time is in microseconds. -/
structure BreakerFields where
  state : CircuitBreakerState := .closed
  failureCount : ℤ := 0
  successCount : ℤ := 0
  lastFailureTime : Option ℤ := none
  deriving DecidableEq

namespace CircuitBreaker

variable (b : CircuitBreaker)

/-- `_should_attempt_reset`. -/
def shouldAttemptReset (now : ℤ) (s : BreakerFields) : Bool :=
  match s.lastFailureTime with
  | none => false
  | some last => decide (b.recoveryTimeoutSeconds * 1000000 ≤ now - last)

/-- The part of `call` before the request; `none` is a `CircuitBreakerError`. -/
def enter (now : ℤ) (s : BreakerFields) : Option BreakerFields :=
  if s.state = .opened then
    if b.shouldAttemptReset now s then some { s with state := .halfOpen, successCount := 0 }
    else none
  else some s

/-- A success is the last one that a half-open breaker waits for. -/
def closes (s : BreakerFields) : Bool :=
  decide (s.state = .halfOpen) && decide (b.successThreshold ≤ s.successCount + 1)

/-- `_reset`. -/
def reset (s : BreakerFields) : BreakerFields :=
  { s with state := .closed, failureCount := 0, successCount := 0 }

/-- The part of `call` after a request that has returned. -/
def succeeded (s : BreakerFields) : BreakerFields :=
  if s.state = .halfOpen then
    if b.successThreshold ≤ s.successCount + 1 then
      reset { s with successCount := s.successCount + 1 }
    else { s with successCount := s.successCount + 1 }
  else s

/-- The part of `call` after a request that has raised. -/
def failed (now : ℤ) (s : BreakerFields) : BreakerFields :=
  let s' := { s with failureCount := s.failureCount + 1, lastFailureTime := some now }
  if s'.state = .halfOpen then { s' with state := .opened }
  else if b.failureThreshold ≤ s'.failureCount then { s' with state := .opened }
  else s'

end CircuitBreaker

/-- A request that is in flight: the state in which it was started, and how often the breaker had
opened before. -/
structure BreakerRequest where
  startedIn : CircuitBreakerState
  openings : ℕ

/-- Where a call of the breaker is. -/
inductive BreakerPc
  | idle
  | inFlight (request : BreakerRequest)
  | ended

/-- What happens to a call: it starts, or its request returns, raises or is cancelled. -/
inductive BreakerEvent
  | starts (now : ℤ)
  | returns
  | raises (now : ℤ)
  | cancelled

/-- The fields of a breaker, how often it has opened, whether a success was counted in this
half-open phase of a request that was started before the last opening, and whether such a success
has ever helped to close it. -/
structure BreakerShared where
  breaker : BreakerFields := {}
  openings : ℕ := 0
  staleCounted : Bool := false
  staleClosed : Bool := false

/-- The request was started before the breaker opened last. -/
def BreakerRequest.IsStale (request : BreakerRequest) (s : BreakerShared) : Prop :=
  request.openings < s.openings

instance (request : BreakerRequest) (s : BreakerShared) : Decidable (request.IsStale s) :=
  inferInstanceAs (Decidable (_ < _))

namespace BreakerShared

variable (b : CircuitBreaker)

/-- A call that is let through starts its request. -/
def started (s : BreakerShared) (fields : BreakerFields) : BreakerShared :=
  { s with
    breaker := fields
    staleCounted := s.staleCounted && decide (s.breaker.state ≠ .opened) }

/-- The success of a request is counted. -/
def returned (s : BreakerShared) (request : BreakerRequest) : BreakerShared where
  breaker := b.succeeded s.breaker
  openings := s.openings
  staleCounted :=
    s.staleCounted || decide (s.breaker.state = .halfOpen) && decide (request.IsStale s)
  staleClosed :=
    s.staleClosed || b.closes s.breaker && (s.staleCounted || decide (request.IsStale s))

/-- The failure of a request is counted. -/
def raised (s : BreakerShared) (now : ℤ) : BreakerShared :=
  { s with
    breaker := b.failed now s.breaker
    openings :=
      if s.breaker.state ≠ .opened ∧ (b.failed now s.breaker).state = .opened then s.openings + 1
      else s.openings }

end BreakerShared

/-- What a call runs through when something happens to it. -/
def breakerSegment (b : CircuitBreaker) : Segment BreakerShared BreakerPc BreakerEvent
  | s, .idle, .starts now =>
      match b.enter now s.breaker with
      | none => some (s, .ended)
      | some fields => some (s.started fields, .inFlight ⟨fields.state, s.openings⟩)
  | s, .inFlight request, .returns => some (s.returned b request, .ended)
  | s, .inFlight _, .raises now => some (s.raised b now, .ended)
  | s, .inFlight _, .cancelled => some (s, .ended)
  | _, _, _ => none

/-- The request of the call was started by a half-open breaker and is in flight. -/
def BreakerPc.isTrial : BreakerPc → Bool
  | .inFlight request => decide (request.startedIn = .halfOpen)
  | _ => false

section Breaker

variable {ι : Type*} [DecidableEq ι]

/-- The calls of a breaker. -/
abbrev BreakerPool (ι : Type*) := Pool ι BreakerShared BreakerPc

/-- A new breaker. -/
def BreakerPool.start : BreakerPool ι := ⟨{}, fun _ => .idle⟩

/-- The runs of a breaker. -/
def breakerMachine (b : CircuitBreaker) : Machine (BreakerPool ι) (ι × BreakerEvent) :=
  Pool.machine fun _ => breakerSegment b

/-- A half-open breaker has at most one request in flight that was started in this state, and no
success of a request from before an opening has helped to close it. -/
structure BreakerPool.IsGuarded (P : BreakerPool ι) : Prop where
  alone : P.shared.breaker.state = .halfOpen →
    ∀ i j, (P.task i).isTrial = true → (P.task j).isTrial = true → i = j
  fresh : P.shared.staleClosed = false

/-- What a call must keep to: it does not start its request in the half-open state while another
request that was started in it is in flight; and its success does not close the breaker if its
request, or another one whose success was counted in the phase, was started before the breaker
opened last. -/
def BreakerEvent.Keeps (b : CircuitBreaker) (P : BreakerPool ι) (a : ι × BreakerEvent) : Prop :=
  match a.2 with
  | .starts now =>
      (b.enter now P.shared.breaker).map BreakerFields.state = some .halfOpen →
        ∀ j, (P.task j).isTrial = false
  | .returns =>
      b.closes P.shared.breaker = true →
        P.shared.staleCounted = false ∧
          ∀ request, P.task a.1 = .inFlight request → ¬ request.IsStale P.shared
  | _ => True

variable {b : CircuitBreaker} {P Q : BreakerPool ι} {i : ι} {s : BreakerFields} {now : ℤ}

/-- A call that is let through finds the breaker closed, or starts its request half open. -/
theorem CircuitBreaker.enter_eq_some {t : BreakerFields} (h : b.enter now s = some t) :
    t.state = .halfOpen ∨ t.state = .closed := by
  unfold CircuitBreaker.enter at h
  split at h
  · split at h
    · cases h
      exact .inl rfl
    · cases h
  next hopen =>
    cases h
    cases hstate : s.state with
    | closed => exact .inr rfl
    | opened => exact absurd hstate hopen
    | halfOpen => exact .inl rfl

/-- A call that is not let through finds the breaker open. -/
theorem CircuitBreaker.enter_eq_none (h : b.enter now s = none) : s.state = .opened := by
  unfold CircuitBreaker.enter at h
  split at h
  next hopen => exact hopen
  next => cases h

/-- A call starts with an error or with a request. -/
theorem breakerSegment_starts {s t : BreakerShared} {pc : BreakerPc}
    (h : breakerSegment b s .idle (.starts now) = some (t, pc)) :
    (b.enter now s.breaker = none ∧ t = s ∧ pc = .ended) ∨
      ∃ fields, b.enter now s.breaker = some fields ∧ t = s.started fields ∧
        pc = .inFlight ⟨fields.state, s.openings⟩ := by
  change (match b.enter now s.breaker with
    | none => some (s, BreakerPc.ended)
    | some fields => some (s.started fields, BreakerPc.inFlight ⟨fields.state, s.openings⟩)) =
      some (t, pc) at h
  split at h
  next hnone =>
    cases h
    exact .inl ⟨hnone, rfl, rfl⟩
  next fields hsome =>
    cases h
    exact .inr ⟨fields, hsome, rfl, rfl⟩

/-- A breaker that is still half open after a success has not been closed by it. -/
theorem CircuitBreaker.succeeded_halfOpen (h : (b.succeeded s).state = .halfOpen) :
    s.state = .halfOpen := by
  unfold CircuitBreaker.succeeded at h
  split at h
  next hhalf => exact hhalf
  next => exact h

/-- A failure leaves no breaker half open. -/
theorem CircuitBreaker.failed_ne_halfOpen (b : CircuitBreaker) (now : ℤ) (s : BreakerFields) :
    (b.failed now s).state ≠ .halfOpen := by
  unfold CircuitBreaker.failed
  dsimp only
  split
  · exact nofun
  next hhalf =>
    split
    · exact nofun
    · exact hhalf

/-- The end of a call leaves at most one request of the half-open state in flight. -/
theorem alone_resume_ended
    (h : ∀ i j, (P.task i).isTrial = true → (P.task j).isTrial = true → i = j) (i : ι)
    (t : BreakerShared) (j k : ι) (hj : ((P.resume i t .ended).task j).isTrial = true)
    (hk : ((P.resume i t .ended).task k).isTrial = true) : j = k :=
  Pool.atMostOne_resume (φ := fun pc : BreakerPc => pc.isTrial = true) h
    (fun htrial => by cases htrial) j k hj hk

namespace BreakerPool.IsGuarded

/-- A request that is started in the half-open state is the only one exactly if no other was in
flight. -/
theorem inFlight_iff (h : P.IsGuarded) (hidle : P.task i = .idle) {fields : BreakerFields}
    (hhalf : fields.state = .halfOpen) :
    IsGuarded (P.resume i (P.shared.started fields) (.inFlight ⟨fields.state, P.shared.openings⟩)) ↔
      ∀ j, (P.task j).isTrial = false := by
  have hself : ((P.resume i (P.shared.started fields)
      (.inFlight ⟨fields.state, P.shared.openings⟩)).task i).isTrial = true := by
    rw [Pool.resume_task_self, BreakerPc.isTrial, hhalf]
    rfl
  constructor
  · rintro ⟨halone, -⟩ j
    by_contra htrial
    have hne : j ≠ i := by
      rintro rfl
      rw [hidle] at htrial
      exact htrial rfl
    refine hne (halone hhalf j i ?_ hself)
    rw [Pool.resume_task_of_ne P hne]
    simpa using htrial
  · intro hnone
    refine ⟨fun _ => ?_, h.fresh⟩
    refine Pool.atMostOne_resume (φ := fun pc : BreakerPc => pc.isTrial = true) ?_ ?_
    · intro j k hj
      rw [hnone j] at hj
      cases hj
    · intro _
      exact .inr fun j hj => by rw [hnone j] at hj; cases hj

/-- The start of a call keeps what is asked of the breaker exactly if it starts no second request
in the half-open state. -/
theorem starts_iff (h : P.IsGuarded) (hidle : P.task i = .idle) {t : BreakerShared}
    {pc : BreakerPc} (hsegment : breakerSegment b P.shared .idle (.starts now) = some (t, pc)) :
    IsGuarded (P.resume i t pc) ↔ BreakerEvent.Keeps b P (i, .starts now) := by
  unfold BreakerEvent.Keeps
  dsimp only
  obtain ⟨hnone, rfl, rfl⟩ | ⟨fields, hsome, rfl, rfl⟩ := breakerSegment_starts hsegment
  · rw [hnone]
    refine iff_of_true ⟨fun hhalf => ?_, h.fresh⟩ (fun hhalf => nomatch hhalf)
    rw [Pool.resume_shared, b.enter_eq_none hnone] at hhalf
    cases hhalf
  · rw [hsome, Option.map_some]
    rcases b.enter_eq_some hsome with hhalf | hclosed
    · rw [h.inFlight_iff hidle hhalf, hhalf]
      exact ⟨fun hnone _ => hnone, fun hkeeps => hkeeps rfl⟩
    · refine iff_of_true ⟨fun hhalf => ?_, h.fresh⟩ fun hhalf => ?_
      · rw [Pool.resume_shared, BreakerShared.started, hclosed] at hhalf
        cases hhalf
      · rw [hclosed] at hhalf
        cases hhalf

/-- The success of a request keeps what is asked of the breaker exactly if it does not close the
breaker with the help of a request from before an opening. -/
theorem returns_iff (h : P.IsGuarded) {request : BreakerRequest}
    (htask : P.task i = .inFlight request) :
    IsGuarded (P.resume i (P.shared.returned b request) .ended) ↔
      BreakerEvent.Keeps b P (i, .returns) := by
  have halone : (b.succeeded P.shared.breaker).state = .halfOpen → ∀ j k,
      ((P.resume i (P.shared.returned b request) .ended).task j).isTrial = true →
      ((P.resume i (P.shared.returned b request) .ended).task k).isTrial = true → j = k :=
    fun hhalf => alone_resume_ended (h.alone (b.succeeded_halfOpen hhalf)) i _
  have hiff : IsGuarded (P.resume i (P.shared.returned b request) .ended) ↔
      (P.shared.returned b request).staleClosed = false :=
    ⟨fun hguarded => hguarded.fresh, fun hfresh => ⟨halone, hfresh⟩⟩
  rw [hiff, BreakerShared.returned, h.fresh, Bool.false_or, BreakerEvent.Keeps]
  dsimp only
  rw [htask]
  cases hcloses : b.closes P.shared.breaker <;> simp

/-- The step: what is asked of the breaker stays true exactly if the call keeps to its part. -/
theorem next_iff (h : P.IsGuarded) {a : ι × BreakerEvent}
    (hnext : (breakerMachine b).next P a = some Q) : Q.IsGuarded ↔ BreakerEvent.Keeps b P a := by
  obtain ⟨i, e⟩ := a
  obtain ⟨t, pc, hsegment, rfl⟩ := Pool.machine_next_eq_some_iff.1 hnext
  cases htask : P.task i with
  | idle =>
      rw [htask] at hsegment
      cases e with
      | starts now => exact h.starts_iff htask hsegment
      | returns => cases hsegment
      | raises now => cases hsegment
      | cancelled => cases hsegment
  | inFlight request =>
      rw [htask] at hsegment
      cases e with
      | starts now => cases hsegment
      | returns =>
          cases hsegment
          exact h.returns_iff htask
      | raises now =>
          cases hsegment
          exact iff_of_true ⟨fun hhalf => absurd hhalf (b.failed_ne_halfOpen _ _), h.fresh⟩ trivial
      | cancelled =>
          cases hsegment
          exact iff_of_true ⟨fun hhalf => alone_resume_ended (h.alone hhalf) i _, h.fresh⟩ trivial
  | ended =>
      rw [htask] at hsegment
      cases e <;> cases hsegment

omit [DecidableEq ι] in
theorem start : (BreakerPool.start : BreakerPool ι).IsGuarded := ⟨(fun hhalf => nomatch hhalf), rfl⟩

end BreakerPool.IsGuarded

/-- All along a run at most one request that was started in the half-open state is in flight in
it, and no success of a request from before an opening helps to close the breaker, exactly if each
call keeps to its part. -/
theorem along_isGuarded_iff (b : CircuitBreaker) {events : List (ι × BreakerEvent)}
    (hrun : (breakerMachine b).run .start events = some P) :
    (breakerMachine b).Along BreakerPool.IsGuarded .start events ↔
      (breakerMachine b).Guarded (BreakerEvent.Keeps b) .start events :=
  (breakerMachine b).along_iff_guarded (I := fun _ => True) (fun _ _ _ _ _ => trivial)
    (fun _ _ _ _ h hnext => h.next_iff hnext) trivial BreakerPool.IsGuarded.start hrun

end Breaker

/-- Five calls that fail, one after the other. -/
def BreakerEvent.fiveFailures : List (ℕ × BreakerEvent) :=
  (List.range 5).flatMap fun i => [(i, .starts 0), (i, .raises 0)]

/-- After five failures and a minute two calls succeed, one after the other. -/
theorem along_isGuarded_iff_recovery :
    (breakerMachine { name := "exchange" }).Along BreakerPool.IsGuarded .start
        (BreakerEvent.fiveFailures ++ [(5, .starts 60000000), (5, .returns),
          (6, .starts 60000000), (6, .returns)]) ↔
      (breakerMachine { name := "exchange" }).Guarded
        (BreakerEvent.Keeps { name := "exchange" }) .start
        (BreakerEvent.fiveFailures ++ [(5, .starts 60000000), (5, .returns),
          (6, .starts 60000000), (6, .returns)]) :=
  along_isGuarded_iff { name := "exchange" } rfl

/-- A request from before the five failures succeeds after the one that is let through to test the
exchange, and closes the breaker. -/
example : ((breakerMachine { name := "exchange" }).run .start
    ((9, .starts 0) :: BreakerEvent.fiveFailures ++ [(5, .starts 60000000), (5, .returns),
      (9, .returns)])).map (fun P => (P.shared.breaker.state, P.shared.staleClosed)) =
    some (.closed, true) := by decide +kernel

/-- After five failures and a minute two calls start their requests at a time. -/
theorem not_along_isGuarded :
    ¬ ∀ (b : CircuitBreaker) (events : List (ℕ × BreakerEvent)) (P : BreakerPool ℕ),
      (breakerMachine b).run .start events = some P →
        (breakerMachine b).Along BreakerPool.IsGuarded .start events := by
  intro h
  have hstate : ((breakerMachine { name := "exchange" }).run .start
      (BreakerEvent.fiveFailures ++ [(5, .starts 60000000), (6, .starts 60000000)])).map (fun P =>
        (P.shared.breaker.state, (P.task 5).isTrial, (P.task 6).isTrial)) =
      some (.halfOpen, true, true) := by decide +kernel
  obtain ⟨P, hrun, hstate⟩ := Option.map_eq_some_iff.1 hstate
  simp only [Prod.mk.injEq] at hstate
  obtain ⟨hhalf, hfifth, hsixth⟩ := hstate
  have hguarded := (h _ _ P hrun).of_run _ hrun
  exact absurd (hguarded.alone hhalf 5 6 hfifth hsixth) (by decide)

end Sgr
