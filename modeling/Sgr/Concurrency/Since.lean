import Mathlib.Data.List.Induction
import Sgr.Concurrency.Machine

/-!
# What has happened last in a run

`Since φ ψ run` says that an event with `φ` has happened in a run, and that only events with `ψ`
have come after it; `φ` also sees the part of the run before its event, so that such statements
can be nested. What a machine holds in a register is what its last writer has left there, and the
rule at the end says so for a whole run once it holds of each step.
-/

namespace Concurrency

variable {ε : Type*}

/-- An event with `φ` has happened, and only events with `ψ` since. -/
def Since (φ : List ε → ε → Prop) (ψ : ε → Prop) (run : List ε) : Prop :=
  ∃ before e after, run = before ++ e :: after ∧ φ before e ∧ ∀ x ∈ after, ψ x

namespace Since

variable {φ φ' : List ε → ε → Prop} {ψ ψ' : ε → Prop} {run : List ε} {e : ε}

@[simp] theorem not_nil : ¬ Since φ ψ [] := by
  rintro ⟨before, e, after, hrun, -⟩
  exact absurd hrun (by simp)

/-- The last event is the one with `φ`, or it has come after it. -/
theorem append_singleton_iff :
    Since φ ψ (run ++ [e]) ↔ φ run e ∨ Since φ ψ run ∧ ψ e := by
  constructor
  · rintro ⟨before, x, after, hrun, hx, hafter⟩
    rcases List.eq_nil_or_concat after with rfl | ⟨init, last, rfl⟩
    · obtain ⟨rfl, hlast⟩ := List.append_inj' hrun rfl
      obtain rfl := List.singleton_inj.1 hlast
      exact .inl hx
    · rw [List.concat_eq_append, ← List.cons_append, ← List.append_assoc] at hrun
      obtain ⟨hinit, hlast⟩ := List.append_inj' hrun rfl
      obtain rfl := List.singleton_inj.1 hlast
      rw [List.concat_eq_append] at hafter
      exact .inr ⟨⟨before, x, init, hinit, hx, fun y hy => hafter y (List.mem_append_left _ hy)⟩,
        hafter e (List.mem_append_right _ (List.mem_singleton_self e))⟩
  · rintro (hlast | ⟨⟨before, x, after, rfl, hx, hafter⟩, he⟩)
    · exact ⟨run, e, [], rfl, hlast, fun x hx => absurd hx List.not_mem_nil⟩
    · refine ⟨before, x, after ++ [e], by simp, hx, fun y hy => ?_⟩
      rcases List.mem_append.1 hy with hy | hy
      · exact hafter y hy
      · exact List.mem_singleton.1 hy ▸ he

theorem mono (h : Since φ ψ run) (hφ : ∀ before e, φ before e → φ' before e)
    (hψ : ∀ e, ψ e → ψ' e) : Since φ' ψ' run := by
  obtain ⟨before, e, after, hrun, he, hafter⟩ := h
  exact ⟨before, e, after, hrun, hφ before e he, fun x hx => hψ x (hafter x hx)⟩

theorem congr (hφ : ∀ before e, φ before e ↔ φ' before e) (hψ : ∀ e, ψ e ↔ ψ' e) :
    Since φ ψ run ↔ Since φ' ψ' run :=
  ⟨fun h => h.mono (fun before e => (hφ before e).1) fun e => (hψ e).1,
    fun h => h.mono (fun before e => (hφ before e).2) fun e => (hψ e).2⟩

/-- What holds after a step exactly when the step brings it about, or when it held before and the
step lets it be, holds after a run exactly when a step has brought it about and the others since
have let it be. -/
theorem iff_of_run {σ α : Type*} {M : Machine σ α} {φ : List α → α → Prop} {ψ : α → Prop}
    {start : σ} (obs : σ → Prop) (hstart : ¬ obs start)
    (hstep : ∀ as s a t, M.run start as = some s → M.next s a = some t →
      (obs t ↔ φ as a ∨ obs s ∧ ψ a))
    {as : List α} {s : σ} (hrun : M.run start as = some s) : obs s ↔ Since φ ψ as := by
  induction as using List.reverseRecOn generalizing s with
  | nil =>
      obtain rfl := Option.some.inj hrun
      exact iff_of_false hstart not_nil
  | append_singleton as a ih =>
      rw [Machine.run_append, Option.bind_eq_some_iff] at hrun
      obtain ⟨r, hr, hlast⟩ := hrun
      have hnext : M.next r a = some s := by
        rw [Machine.run_cons, Option.bind_eq_some_iff] at hlast
        obtain ⟨t, ht, hnil⟩ := hlast
        rw [ht]
        exact hnil
      rw [append_singleton_iff, hstep as r a s hr hnext, ih hr]

end Since

end Concurrency
