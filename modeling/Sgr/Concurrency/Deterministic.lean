import Mathlib.Data.List.Basic

/-!
# Deterministic runs

A program that is run against fixed answers takes one step after the other: `next x` is
the state after `x`, and `none` when the program has ended. Two programs in lockstep end
together; of a run that ends, every other run from the same state is a part.
-/

namespace Concurrency

variable {σ : Type*} (next : σ → Option σ)

/-- The state after a number of steps. -/
def stepped : ℕ → σ → Option σ
  | 0, x => some x
  | n + 1, x => (next x).bind (stepped n)

/-- The second state is reached from the first one. -/
def Reaches (x y : σ) : Prop := ∃ n, stepped next n x = some y

variable {next}

@[simp] theorem stepped_zero (x : σ) : stepped next 0 x = some x := rfl

theorem stepped_succ (n : ℕ) (x : σ) :
    stepped next (n + 1) x = (next x).bind (stepped next n) := rfl

theorem stepped_add (m n : ℕ) (x : σ) :
    stepped next (m + n) x = (stepped next m x).bind (stepped next n) := by
  induction m generalizing x with
  | zero => simp
  | succ m ih =>
      rw [Nat.succ_add, stepped_succ, stepped_succ]
      cases next x with
      | none => rfl
      | some y => exact ih y

namespace Reaches

theorem refl (x : σ) : Reaches next x x := ⟨0, rfl⟩

theorem head {x y z : σ} (h : next x = some y) (h' : Reaches next y z) :
    Reaches next x z := by
  obtain ⟨n, hn⟩ := h'
  exact ⟨n + 1, by rw [stepped_succ, h, Option.bind_some, hn]⟩

theorem trans {x y z : σ} (h : Reaches next x y) (h' : Reaches next y z) :
    Reaches next x z := by
  obtain ⟨m, hm⟩ := h
  obtain ⟨n, hn⟩ := h'
  exact ⟨m + n, by rw [stepped_add, hm, Option.bind_some, hn]⟩

/-- What is reached is the state itself, or reached from the next one. -/
theorem eq_or_of_next {x z : σ} (h : Reaches next x z) :
    z = x ∨ ∃ y, next x = some y ∧ Reaches next y z := by
  obtain ⟨n, hn⟩ := h
  cases n with
  | zero =>
      cases hn
      exact .inl rfl
  | succ n =>
      obtain ⟨y, hy, hn⟩ := Option.bind_eq_some_iff.1 hn
      exact .inr ⟨y, hy, n, hn⟩

/-- What every step preserves holds of what is reached. -/
theorem invariant {I : σ → Prop} (hstep : ∀ x y, I x → next x = some y → I y) {x y : σ}
    (hx : I x) (h : Reaches next x y) : I y := by
  obtain ⟨n, hn⟩ := h
  induction n generalizing x with
  | zero =>
      cases hn
      exact hx
  | succ n ih =>
      obtain ⟨z, hz, hn⟩ := Option.bind_eq_some_iff.1 hn
      exact ih (hstep x z hx hz) hn

/-- A state at which the run ends is reached from every state on the way. -/
theorem of_end {x y z : σ} (hz : Reaches next x z) (hend : next z = none)
    (hy : Reaches next x y) : Reaches next y z := by
  obtain ⟨m, hm⟩ := hz
  obtain ⟨n, hn⟩ := hy
  induction n generalizing x m with
  | zero =>
      cases hn
      exact ⟨m, hm⟩
  | succ n ih =>
      obtain ⟨w, hw, hn⟩ := Option.bind_eq_some_iff.1 hn
      cases m with
      | zero =>
          cases hm
          rw [hend] at hw
          cases hw
      | succ m =>
          rw [stepped_succ, hw, Option.bind_some] at hm
          exact ih m hm hn

end Reaches

/-- A run whose steps decrease a rank comes to an end. -/
theorem exists_reaches_end {I : σ → Prop} (rank : σ → ℕ)
    (hstep : ∀ x y, I x → next x = some y → I y ∧ rank y < rank x) {x : σ} (hx : I x) :
    ∃ y, Reaches next x y ∧ next y = none := by
  induction hrank : rank x using Nat.strongRecOn generalizing x with
  | ind n ih =>
      cases hnext : next x with
      | none => exact ⟨x, .refl x, hnext⟩
      | some y =>
          obtain ⟨hy, hlt⟩ := hstep x y hx hnext
          obtain ⟨z, hz, hend⟩ := ih (rank y) (hrank ▸ hlt) hy rfl
          exact ⟨z, hz.head hnext, hend⟩

/-- Two runs in lockstep: related states have both ended, or step to related states. -/
theorem exists_reaches_of_lockstep {R : σ → σ → Prop}
    (hstep : ∀ x y, R x y → (next x = none ∧ next y = none) ∨
      ∃ x' y', next x = some x' ∧ next y = some y' ∧ R x' y') {x y x' : σ} (hxy : R x y)
    (h : Reaches next x x') : ∃ y', Reaches next y y' ∧ R x' y' := by
  obtain ⟨n, hn⟩ := h
  induction n generalizing x y with
  | zero =>
      cases hn
      exact ⟨y, .refl y, hxy⟩
  | succ n ih =>
      obtain ⟨z, hz, hn⟩ := Option.bind_eq_some_iff.1 hn
      rcases hstep x y hxy with ⟨hnone, -⟩ | ⟨z', w, hz', hw, hzw⟩
      · rw [hnone] at hz
        cases hz
      · rw [hz'] at hz
        cases hz
        obtain ⟨y', hy', hxy'⟩ := ih hzw hn
        exact ⟨y', hy'.head hw, hxy'⟩

end Concurrency
