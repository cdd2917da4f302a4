import Mathlib.Data.Finset.Basic
import Mathlib.Data.Finset.Filter
import Mathlib.Logic.Function.Basic
import Sgr.Concurrency.Machine

/-!
# Graceful shutdown

`GracefulShutdownManager` of `sgr/core/resilience.py`. A shutdown waits until `active_tasks` is
empty. Each time `asyncio.wait` returns, the set is replaced by those of the tasks it waited for
that still run. What has been registered in the meantime was added to the set before, and is no
longer known.
-/

open Concurrency

namespace Sgr

/-- How a task ends. -/
inductive TaskOutcome
  | returned
  | raised (error : String)
  | cancelled
  deriving DecidableEq, Repr

/-- Where `shutdown` is: in `asyncio.wait` with the tasks that it was given, or at one of its
ends. The loop of `_wait_for_active_tasks` runs in a task of its own, which `wait_for` starts. -/
inductive ShutdownPhase (ι : Type*)
  | notStarted
  | starting
  | waiting (fs : Finset ι)
  | waited
  | returned
  | timedOut
  | raised

/-- The wait has not come to its end. -/
def ShutdownPhase.beforeEnd {ι : Type*} : ShutdownPhase ι → Bool
  | .notStarted | .starting | .waiting _ => true
  | _ => false

/-- `shutdown` goes on to its end with no task left, or has returned so. -/
def ShutdownPhase.complete {ι : Type*} : ShutdownPhase ι → Bool
  | .waited | .returned => true
  | _ => false

/-- A manager with the tasks: how they have ended, the set that `active_tasks` names and how often
it was replaced, the callbacks that were added to tasks with the set that each discards from, and
the tasks that were registered before the end of the wait. -/
structure ShutdownState (ι : Type*) where
  outcome : ι → Option TaskOutcome := fun _ => none
  activeTasks : Finset ι := ∅
  generation : ℕ := 0
  callbacks : List (ι × ℕ) := []
  shutdownEvent : Bool := false
  phase : ShutdownPhase ι := .notStarted
  registered : Finset ι := ∅

/-- What happens to a manager and to the tasks. -/
inductive ShutdownEvent (ι : Type*)
  | registerTask (task : ι)
  | taskEnds (task : ι) (outcome : TaskOutcome)
  /-- A callback runs that was added when the set had been replaced a number of times. -/
  | discards (task : ι) (generation : ℕ)
  | shutdown
  | loopStarts
  /-- `asyncio.wait` returns, as a task has ended or a second is over. -/
  | waitReturns
  | graceElapses
  | returns

section Manager

variable {ι : Type*} [DecidableEq ι]

namespace ShutdownState

/-- `register_task`. -/
def registerTask (s : ShutdownState ι) (task : ι) : ShutdownState ι :=
  { s with
    activeTasks := insert task s.activeTasks
    callbacks := (task, s.generation) :: s.callbacks
    registered := if s.phase.beforeEnd then insert task s.registered else s.registered }

/-- The callback `active_tasks.discard` of a task that has ended. -/
def discard (s : ShutdownState ι) (task : ι) (generation : ℕ) : ShutdownState ι :=
  { s with
    activeTasks := if generation = s.generation then s.activeTasks.erase task else s.activeTasks
    callbacks := s.callbacks.erase (task, generation) }

/-- The loop of `_wait_for_active_tasks` comes to its condition. -/
def enterLoop (s : ShutdownState ι) : ShutdownState ι :=
  { s with phase := if s.activeTasks = ∅ then .waited else .waiting s.activeTasks }

/-- `asyncio.wait` returns the tasks that still run, and `result` of the others is called: a
cancelled one raises, and no clause of the loop or of `shutdown` catches that. -/
def waitReturned (s : ShutdownState ι) (fs : Finset ι) : ShutdownState ι :=
  let s' :=
    { s with
      activeTasks := fs.filter fun i => s.outcome i = none
      generation := s.generation + 1 }
  if ∃ i ∈ fs, s.outcome i = some .cancelled then { s' with phase := .raised } else s'.enterLoop

end ShutdownState

/-- The runs of a manager, with one shutdown. -/
def shutdownMachine : Machine (ShutdownState ι) (ShutdownEvent ι) where
  next s
    | .registerTask task => some (s.registerTask task)
    | .taskEnds task outcome =>
        if s.outcome task = none then
          some { s with outcome := Function.update s.outcome task (some outcome) }
        else none
    | .discards task generation =>
        if s.outcome task ≠ none ∧ (task, generation) ∈ s.callbacks then
          some (s.discard task generation)
        else none
    | .shutdown =>
        match s.phase with
        | .notStarted => some { s with phase := .starting, shutdownEvent := true }
        | _ => none
    | .loopStarts =>
        match s.phase with
        | .starting => some s.enterLoop
        | _ => none
    | .waitReturns =>
        match s.phase with
        | .waiting fs => some (s.waitReturned fs)
        | _ => none
    | .graceElapses =>
        match s.phase with
        | .starting | .waiting _ => some { s with phase := .timedOut }
        | _ => none
    | .returns =>
        match s.phase with
        | .waited => some { s with phase := .returned }
        | _ => none

/-- The tasks that were registered before the end of the wait and still run are tracked, and there
are none when the shutdown ends without a timeout. -/
structure ShutdownState.Tracks (s : ShutdownState ι) : Prop where
  tracked : ∀ i ∈ s.registered, s.outcome i = none → i ∈ s.activeTasks
  complete : s.phase.complete = true → ∀ i ∈ s.registered, s.outcome i ≠ none

/-- `asyncio.wait` returns when a task runs that was registered while it waited. -/
def ShutdownEvent.Drops (s : ShutdownState ι) : ShutdownEvent ι → Prop
  | .waitReturns =>
      ∃ fs, s.phase = .waiting fs ∧ ∃ i ∈ s.activeTasks, i ∉ fs ∧ s.outcome i = none
  | _ => False

/-- Before the end of the wait only registered tasks are tracked and waited for. -/
structure ShutdownState.WaitsForRegistered (s : ShutdownState ι) : Prop where
  active : s.phase.beforeEnd = true → s.activeTasks ⊆ s.registered
  waiting : ∀ fs, s.phase = .waiting fs → fs ⊆ s.registered

variable {s t : ShutdownState ι} {e : ShutdownEvent ι}

omit [DecidableEq ι] in
theorem ShutdownPhase.not_complete {phase : ShutdownPhase ι} (h : phase.beforeEnd = true) :
    phase.complete = false := by
  cases phase <;> first | rfl | cases h

/-! ### What the steps of a shutdown need -/

theorem next_shutdown (h : shutdownMachine.next s .shutdown = some t) :
    t = { s with phase := .starting, shutdownEvent := true } ∧ s.phase = .notStarted := by
  change (match s.phase with
    | .notStarted => some { s with phase := .starting, shutdownEvent := true }
    | _ => none) = some t at h
  split at h
  next hphase =>
    cases h
    exact ⟨rfl, hphase⟩
  next => cases h

theorem next_loopStarts (h : shutdownMachine.next s .loopStarts = some t) :
    t = s.enterLoop ∧ s.phase = .starting := by
  change (match s.phase with
    | .starting => some s.enterLoop
    | _ => none) = some t at h
  split at h
  next hphase =>
    cases h
    exact ⟨rfl, hphase⟩
  next => cases h

theorem next_waitReturns (h : shutdownMachine.next s .waitReturns = some t) :
    ∃ fs, t = s.waitReturned fs ∧ s.phase = .waiting fs := by
  change (match s.phase with
    | .waiting fs => some (s.waitReturned fs)
    | _ => none) = some t at h
  split at h
  next fs hphase =>
    cases h
    exact ⟨fs, rfl, hphase⟩
  next => cases h

theorem next_graceElapses (h : shutdownMachine.next s .graceElapses = some t) :
    t = { s with phase := .timedOut } := by
  change (match s.phase with
    | .starting | .waiting _ => some { s with phase := .timedOut }
    | _ => none) = some t at h
  split at h
  · cases h
    rfl
  · cases h
    rfl
  · cases h

theorem next_returns (h : shutdownMachine.next s .returns = some t) :
    t = { s with phase := .returned } ∧ s.phase = .waited := by
  change (match s.phase with
    | .waited => some { s with phase := .returned }
    | _ => none) = some t at h
  split at h
  next hphase =>
    cases h
    exact ⟨rfl, hphase⟩
  next => cases h

namespace ShutdownState

/-- If the tasks are tracked when the loop comes to its condition, none of them runs when it
ends. -/
theorem tracks_enterLoop (h : ∀ i ∈ s.registered, s.outcome i = none → i ∈ s.activeTasks) :
    s.enterLoop.Tracks := by
  refine ⟨h, fun hcomplete i hi hrunning => ?_⟩
  have hactive : i ∈ s.activeTasks := h i hi hrunning
  have hphase : s.enterLoop.phase = .waiting s.activeTasks :=
    if_neg (Finset.ne_empty_of_mem hactive)
  rw [hphase] at hcomplete
  cases hcomplete

theorem waitsForRegistered_enterLoop (h : s.activeTasks ⊆ s.registered) :
    s.enterLoop.WaitsForRegistered := by
  refine ⟨fun _ => h, fun fs hfs => ?_⟩
  unfold enterLoop at hfs
  dsimp only at hfs
  split at hfs
  · cases hfs
  · cases hfs
    exact h

/-- After `asyncio.wait` the tasks are tracked exactly if those among them that it was given are
all that run. -/
theorem tracks_waitReturned_iff (fs : Finset ι) : (s.waitReturned fs).Tracks ↔
    ∀ i ∈ s.registered, s.outcome i = none → i ∈ fs := by
  have hpending : ∀ i, s.outcome i = none →
      (i ∈ fs.filter (fun i => s.outcome i = none) ↔ i ∈ fs) := fun i hi => by
    simp [hi]
  unfold waitReturned
  dsimp only
  split
  next =>
    constructor
    · exact fun h i hi hrunning => (hpending i hrunning).1 (h.tracked i hi hrunning)
    · exact fun h => ⟨fun i hi hrunning => (hpending i hrunning).2 (h i hi hrunning), nofun⟩
  next =>
    constructor
    · exact fun h i hi hrunning => (hpending i hrunning).1 (h.tracked i hi hrunning)
    · exact fun h => tracks_enterLoop fun i hi hrunning =>
        (hpending i hrunning).2 (h i hi hrunning)

end ShutdownState

namespace ShutdownState.WaitsForRegistered

theorem next (h : s.WaitsForRegistered) (hnext : shutdownMachine.next s e = some t) :
    t.WaitsForRegistered := by
  cases e with
  | registerTask task =>
      cases hnext
      refine ⟨fun hbefore => ?_, fun fs hfs => ?_⟩
      · have hbefore' : s.phase.beforeEnd = true := hbefore
        change insert task s.activeTasks ⊆ if s.phase.beforeEnd then insert task s.registered else _
        rw [if_pos hbefore']
        exact Finset.insert_subset_insert task (h.active hbefore')
      · have hphase : s.phase = .waiting fs := hfs
        change fs ⊆ if s.phase.beforeEnd then insert task s.registered else s.registered
        rw [hphase]
        exact (h.waiting fs hphase).trans (Finset.subset_insert task _)
  | taskEnds task outcome =>
      obtain ⟨-, hnext⟩ := Option.ite_none_right_eq_some.1 hnext
      cases hnext
      exact ⟨h.active, h.waiting⟩
  | discards task generation =>
      obtain ⟨-, hnext⟩ := Option.ite_none_right_eq_some.1 hnext
      cases hnext
      refine ⟨fun hbefore => ?_, h.waiting⟩
      have hactive := h.active hbefore
      change (if generation = s.generation then s.activeTasks.erase task else s.activeTasks) ⊆ _
      split
      · exact (Finset.erase_subset task _).trans hactive
      · exact hactive
  | shutdown =>
      obtain ⟨rfl, hphase⟩ := next_shutdown hnext
      exact ⟨fun _ => h.active (by rw [hphase]; rfl), nofun⟩
  | loopStarts =>
      obtain ⟨rfl, hphase⟩ := next_loopStarts hnext
      exact waitsForRegistered_enterLoop (h.active (by rw [hphase]; rfl))
  | waitReturns =>
      obtain ⟨fs, rfl, hphase⟩ := next_waitReturns hnext
      have hpending : fs.filter (fun i => s.outcome i = none) ⊆ s.registered :=
        (Finset.filter_subset _ fs).trans (h.waiting fs hphase)
      unfold waitReturned
      dsimp only
      split
      · exact ⟨nofun, nofun⟩
      · exact waitsForRegistered_enterLoop hpending
  | graceElapses =>
      obtain rfl := next_graceElapses hnext
      exact ⟨nofun, nofun⟩
  | returns =>
      obtain ⟨rfl, -⟩ := next_returns hnext
      exact ⟨nofun, nofun⟩

end ShutdownState.WaitsForRegistered

namespace ShutdownState.Tracks

theorem registerTask (h : s.Tracks) (task : ι) : (s.registerTask task).Tracks := by
  cases hbefore : s.phase.beforeEnd with
  | true =>
      refine ⟨fun i hi hrunning => ?_, fun hcomplete => ?_⟩
      · change i ∈ if s.phase.beforeEnd then insert task s.registered else s.registered at hi
        rw [hbefore, if_pos rfl, Finset.mem_insert] at hi
        rcases hi with rfl | hi
        · exact Finset.mem_insert_self i _
        · exact Finset.mem_insert_of_mem (h.tracked i hi hrunning)
      · have hcomplete' : s.phase.complete = true := hcomplete
        rw [ShutdownPhase.not_complete hbefore] at hcomplete'
        cases hcomplete'
  | false =>
      have hregistered : (s.registerTask task).registered = s.registered :=
        if_neg (by simp [hbefore])
      refine ⟨fun i hi hrunning => ?_, fun hcomplete i hi => ?_⟩
      · rw [hregistered] at hi
        exact Finset.mem_insert_of_mem (h.tracked i hi hrunning)
      · rw [hregistered] at hi
        exact h.complete hcomplete i hi

/-- A task that ends does not have to be tracked any more. -/
theorem taskEnds (h : s.Tracks) (task : ι) (outcome : TaskOutcome) :
    Tracks { s with outcome := Function.update s.outcome task (some outcome) } := by
  have hends : ∀ i, Function.update s.outcome task (some outcome) i = none →
      s.outcome i = none := by
    intro i hi
    by_cases hne : i = task
    · subst hne
      rw [Function.update_self] at hi
      cases hi
    · rwa [Function.update_of_ne hne] at hi
  exact ⟨fun i hi hrunning => h.tracked i hi (hends i hrunning),
    fun hcomplete i hi hrunning => h.complete hcomplete i hi (hends i hrunning)⟩

/-- Callbacks are run for tasks that have ended. -/
theorem discard (h : s.Tracks) {task : ι} (hended : s.outcome task ≠ none) (generation : ℕ) :
    (s.discard task generation).Tracks := by
  refine ⟨fun i hi hrunning => ?_, h.complete⟩
  have hactive := h.tracked i hi hrunning
  change i ∈ if generation = s.generation then s.activeTasks.erase task else s.activeTasks
  split
  · refine Finset.mem_erase.2 ⟨?_, hactive⟩
    rintro rfl
    exact hended hrunning
  · exact hactive

/-- `asyncio.wait` was given the tasks that are tracked, but for those that it drops. -/
theorem waitReturned_iff (h : s.Tracks) (hregistered : s.WaitsForRegistered) {fs : Finset ι}
    (hphase : s.phase = .waiting fs) :
    (s.waitReturned fs).Tracks ↔ ¬ ShutdownEvent.Drops s .waitReturns := by
  rw [tracks_waitReturned_iff]
  constructor
  · rintro hgiven ⟨fs', hphase', i, hactive, hnot, hrunning⟩
    rw [hphase] at hphase'
    cases hphase'
    exact hnot (hgiven i (hregistered.active (by rw [hphase]; rfl) hactive) hrunning)
  · intro hdrops i hi hrunning
    by_contra hnot
    exact hdrops ⟨fs, hphase, i, h.tracked i hi hrunning, hnot, hrunning⟩

/-- The step: the tasks stay tracked exactly if `asyncio.wait` does not drop one. -/
theorem next_iff (h : s.Tracks) (hregistered : s.WaitsForRegistered)
    (hnext : shutdownMachine.next s e = some t) : t.Tracks ↔ ¬ e.Drops s := by
  cases e with
  | registerTask task =>
      cases hnext
      exact iff_of_true (h.registerTask task) id
  | taskEnds task outcome =>
      obtain ⟨-, hnext⟩ := Option.ite_none_right_eq_some.1 hnext
      cases hnext
      exact iff_of_true (h.taskEnds task outcome) id
  | discards task generation =>
      obtain ⟨⟨hended, -⟩, hnext⟩ := Option.ite_none_right_eq_some.1 hnext
      cases hnext
      exact iff_of_true (h.discard hended generation) id
  | shutdown =>
      obtain ⟨rfl, -⟩ := next_shutdown hnext
      exact iff_of_true ⟨h.tracked, nofun⟩ id
  | loopStarts =>
      obtain ⟨rfl, -⟩ := next_loopStarts hnext
      exact iff_of_true (tracks_enterLoop h.tracked) id
  | waitReturns =>
      obtain ⟨fs, rfl, hphase⟩ := next_waitReturns hnext
      exact h.waitReturned_iff hregistered hphase
  | graceElapses =>
      obtain rfl := next_graceElapses hnext
      exact iff_of_true ⟨h.tracked, nofun⟩ id
  | returns =>
      obtain ⟨rfl, hphase⟩ := next_returns hnext
      exact iff_of_true ⟨h.tracked, fun _ => h.complete (by rw [hphase]; rfl)⟩ id

end ShutdownState.Tracks

/-- All along a run of a shutdown the tasks that were registered before the end of the wait stay
tracked until they end, and all have ended when the shutdown returns without a timeout, exactly if
`asyncio.wait` never returns when a task runs that was registered while it waited. -/
theorem along_tracks_iff {events : List (ShutdownEvent ι)}
    (hrun : shutdownMachine.run ({} : ShutdownState ι) events = some t) :
    shutdownMachine.Along ShutdownState.Tracks ({} : ShutdownState ι) events ↔
      shutdownMachine.Guarded (fun s e => ¬ e.Drops s) ({} : ShutdownState ι) events := by
  refine shutdownMachine.along_iff_guarded (I := ShutdownState.WaitsForRegistered)
    (fun _ _ _ hs hnext => hs.next hnext)
    (fun _ _ _ hs htracks hnext => htracks.next_iff hs hnext) ?_ ?_ hrun
  · exact ⟨fun _ => Finset.Subset.refl ∅, nofun⟩
  · exact ⟨fun i hi => absurd hi (Finset.notMem_empty i), nofun⟩

end Manager

/-- A shutdown that waits for one task. -/
theorem along_tracks_iff_oneTask :
    shutdownMachine.Along ShutdownState.Tracks ({} : ShutdownState ℕ)
        [.registerTask 0, .shutdown, .loopStarts, .taskEnds 0 .returned, .discards 0 0,
          .waitReturns, .returns] ↔
      shutdownMachine.Guarded (fun s e => ¬ e.Drops s) ({} : ShutdownState ℕ)
        [.registerTask 0, .shutdown, .loopStarts, .taskEnds 0 .returned, .discards 0 0,
          .waitReturns, .returns] :=
  along_tracks_iff rfl

/-- While the shutdown waits for a task another one is registered, and when the first has ended the
shutdown returns. -/
theorem not_along_tracks :
    ¬ ∀ (events : List (ShutdownEvent ℕ)) (t : ShutdownState ℕ),
      shutdownMachine.run ({} : ShutdownState ℕ) events = some t →
        shutdownMachine.Along ShutdownState.Tracks ({} : ShutdownState ℕ) events := by
  intro h
  have hstate : (shutdownMachine.run ({} : ShutdownState ℕ)
      [.registerTask 0, .shutdown, .loopStarts, .registerTask 1, .taskEnds 0 .returned,
        .waitReturns, .returns]).map (fun t =>
        (t.phase.complete, decide (1 ∈ t.registered), t.outcome 1)) =
      some (true, true, none) := by decide +kernel
  obtain ⟨t, hrun, hstate⟩ := Option.map_eq_some_iff.1 hstate
  simp only [Prod.mk.injEq, decide_eq_true_eq] at hstate
  obtain ⟨hcomplete, hregistered, hrunning⟩ := hstate
  exact ((h _ t hrun).of_run _ hrun).complete hcomplete 1 hregistered hrunning

end Sgr
