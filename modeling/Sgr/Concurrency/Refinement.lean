import Sgr.Concurrency.Machine

/-!
# A run and a simpler one

Two rules that compare a run with a simpler one. A run refines the fold of an abstract step when
each step does. And what a view shows of a run of several parties is what it shows of the actions
of one party alone, when these act on the view as they act on the state and the others leave it
alone.
-/

namespace Concurrency

/-- What each step relates to the abstract step, a run relates to the fold. -/
theorem Machine.foldl_of_run {σ α τ : Type*} {M : Machine σ α} {R : σ → τ → Prop}
    {step : τ → α → τ}
    (hstep : ∀ s a s' v, R s v → M.next s a = some s' → R s' (step v a))
    {s t : σ} {as : List α} {v : τ} (hs : R s v) (hrun : M.run s as = some t) :
    R t (as.foldl step v) := by
  induction as generalizing s v with
  | nil =>
      obtain rfl := Option.some.inj hrun
      exact hs
  | cons a as ih =>
      obtain ⟨r, hr, hrun⟩ := (M.run_cons_eq_some_iff).1 hrun
      exact ih (hstep s a r v hs hr) hrun

/-- The actions in `own` act on the view, and the others do not. -/
structure Machine.Unwinds {σ α : Type*} (M : Machine σ α) (view : σ → σ) (own : α → Bool) :
    Prop where
  acts : ∀ {s a t}, own a = true → M.next s a = some t → M.next (view s) a = some (view t)
  keeps : ∀ {s a t}, own a = false → M.next s a = some t → view t = view s

/-- The others can be left out of the run. -/
theorem Machine.Unwinds.run_filter {σ α : Type*} {M : Machine σ α} {view : σ → σ}
    {own : α → Bool} (h : M.Unwinds view own) {s t : σ} {as : List α}
    (hrun : M.run s as = some t) : M.run (view s) (as.filter own) = some (view t) := by
  induction as generalizing s with
  | nil =>
      obtain rfl := Option.some.inj hrun
      rfl
  | cons a as ih =>
      obtain ⟨r, hr, hrun⟩ := (M.run_cons_eq_some_iff).1 hrun
      cases hown : own a with
      | true =>
          rw [List.filter_cons_of_pos hown]
          exact (M.run_cons_eq_some_iff).2 ⟨view r, h.acts hown hr, ih hrun⟩
      | false =>
          rw [List.filter_cons_of_neg (by simp [hown]), ← h.keeps hown hr]
          exact ih hrun

end Concurrency
