import Mathlib.Logic.Function.Basic
import Sgr.Concurrency.Machine

/-!
# Pools of cooperative tasks

Cooperative tasks share one state and run one at a time, from one suspension
point to the next. A task is known by its control point; a segment is the code
between two suspension points, read as a function of the shared state, the
control point and the event that wakes the task. Which task runs next is left
to the schedule, so a pool covers every interleaving at the suspension points.
-/

namespace Concurrency

/-- The shared state and the control point of every task. -/
structure Pool (ι σ π : Type*) where
  /-- The state that all tasks read and write. -/
  shared : σ
  /-- The control point of each task. -/
  task : ι → π

/-- The code a task runs when an event wakes it: the new shared state and the
next control point, `none` when the task does not wait for that event. -/
abbrev Segment (σ π ε : Type*) := σ → π → ε → Option (σ × π)

namespace Pool

variable {ι σ π ε : Type*} [DecidableEq ι]

/-- The pool in which the task `i` has run to the control point `p`. -/
def resume (P : Pool ι σ π) (i : ι) (s : σ) (p : π) : Pool ι σ π where
  shared := s
  task := Function.update P.task i p

@[simp] theorem resume_shared (P : Pool ι σ π) (i : ι) (s : σ) (p : π) :
    (P.resume i s p).shared = s := rfl

@[simp] theorem resume_task_self (P : Pool ι σ π) (i : ι) (s : σ) (p : π) :
    (P.resume i s p).task i = p := by
  simp [resume]

theorem resume_task_of_ne (P : Pool ι σ π) {i j : ι} (h : j ≠ i) (s : σ) (p : π) :
    (P.resume i s p).task j = P.task j := by
  simp [resume, h]

theorem resume_task (P : Pool ι σ π) (i j : ι) (s : σ) (p : π) :
    (P.resume i s p).task j = if j = i then p else P.task j := by
  by_cases h : j = i
  · subst h
    simp
  · rw [resume_task_of_ne P h, if_neg h]

/-- The machine of a pool: an action names a task and the event it wakes on. -/
def machine (segment : ι → Segment σ π ε) : Machine (Pool ι σ π) (ι × ε) where
  next P a := (segment a.1 P.shared (P.task a.1) a.2).map fun r => P.resume a.1 r.1 r.2

/-- What one action of a pool does: exactly one task runs one segment. -/
theorem machine_next_eq_some_iff {segment : ι → Segment σ π ε}
    {P Q : Pool ι σ π} {i : ι} {e : ε} :
    (machine segment).next P (i, e) = some Q ↔
      ∃ s p, segment i P.shared (P.task i) e = some (s, p) ∧ Q = P.resume i s p := by
  simp only [machine, Option.map_eq_some_iff, Prod.exists]
  constructor
  · rintro ⟨s, p, h, rfl⟩
    exact ⟨s, p, h, rfl⟩
  · rintro ⟨s, p, h, rfl⟩
    exact ⟨s, p, h, rfl⟩

/-- A property of one control point survives an action when the woken task's
new control point has it. -/
theorem forall_task_resume {P : Pool ι σ π} {i : ι} {s : σ} {p : π}
    {φ : ι → π → Prop} (hrest : ∀ j, j ≠ i → φ j (P.task j)) (hi : φ i p) :
    ∀ j, φ j ((P.resume i s p).task j) := by
  intro j
  by_cases h : j = i
  · subst h
    simpa using hi
  · rw [resume_task_of_ne P h]
    exact hrest j h

/-- What one of the tasks has after an action, the woken task or one of the others has. -/
theorem exists_task_resume_iff {P : Pool ι σ π} {i : ι} {s : σ} {p : π} {φ : ι → π → Prop} :
    (∃ j, φ j ((P.resume i s p).task j)) ↔ φ i p ∨ ∃ j, j ≠ i ∧ φ j (P.task j) := by
  constructor
  · rintro ⟨j, hj⟩
    by_cases h : j = i
    · subst h
      rw [resume_task_self] at hj
      exact .inl hj
    · rw [resume_task_of_ne P h] at hj
      exact .inr ⟨j, h, hj⟩
  · rintro (hi | ⟨j, h, hj⟩)
    · refine ⟨i, ?_⟩
      rwa [resume_task_self]
    · refine ⟨j, ?_⟩
      rwa [resume_task_of_ne P h]

/-- At most one task stays at control points of a kind when the woken task comes to one
only from such a point, or when there is none. -/
theorem atMostOne_resume {P : Pool ι σ π} {i : ι} {s : σ} {p : π} {φ : π → Prop}
    (h : ∀ j k, φ (P.task j) → φ (P.task k) → j = k)
    (hi : φ p → φ (P.task i) ∨ ∀ j, ¬ φ (P.task j)) (j k : ι)
    (hj : φ ((P.resume i s p).task j)) (hk : φ ((P.resume i s p).task k)) : j = k := by
  have hother : ∀ {l : ι}, l ≠ i → φ ((P.resume i s p).task l) → φ p → l = i := by
    intro l hl hφ hp
    rw [resume_task_of_ne P hl] at hφ
    rcases hi hp with hself | hnone
    · exact h l i hφ hself
    · exact absurd hφ (hnone l)
  by_cases hji : j = i
  · by_cases hki : k = i
    · rw [hji, hki]
    · rw [hji, resume_task_self] at hj
      exact absurd (hother hki hk hj) hki
  · by_cases hki : k = i
    · rw [hki, resume_task_self] at hk
      exact absurd (hother hji hj hk) hji
    · rw [resume_task_of_ne P hji] at hj
      rw [resume_task_of_ne P hki] at hk
      exact h j k hj hk

/-- A task that runs `n` segments without interruption. -/
def alone (segment : Segment σ π ε) (e : ε) : ℕ → σ → π → Option (σ × π)
  | 0, s, p => some (s, p)
  | n + 1, s, p => (segment s p e).bind fun r => alone segment e n r.1 r.2

theorem alone_succ (segment : Segment σ π ε) (e : ε) (n : ℕ) (s : σ) (p : π) :
    alone segment e (n + 1) s p =
      (segment s p e).bind fun r => alone segment e n r.1 r.2 := rfl

theorem resume_resume (P : Pool ι σ π) (i : ι) (s t : σ) (p q : π) :
    (P.resume i s p).resume i t q = P.resume i t q := by
  simp [resume]

/-- A schedule that wakes only one task runs it alone. -/
theorem run_replicate (segment : ι → Segment σ π ε) (P : Pool ι σ π) (i : ι) (e : ε)
    (n : ℕ) :
    (machine segment).run P (List.replicate n (i, e)) =
      (alone (segment i) e n P.shared (P.task i)).map fun r => P.resume i r.1 r.2 := by
  induction n generalizing P with
  | zero => simp [alone, resume]
  | succ n ih =>
      rw [List.replicate_succ, Machine.run_cons, alone_succ, machine]
      dsimp only
      cases h : segment i P.shared (P.task i) e with
      | none => rfl
      | some r =>
          rw [Option.map_some, Option.bind_some, Option.bind_some]
          change (machine segment).run (P.resume i r.1 r.2) _ = _
          rw [ih, resume_shared, resume_task_self]
          simp only [resume_resume]

end Pool

end Concurrency
