import Mathlib.Algebra.BigOperators.Group.List.Basic
import Mathlib.Data.List.Basic
import Mathlib.Data.List.Nodup

/-!
# Machines, runs and guarded runs

A machine takes one enabled action at a time: `next s a` is the state after the
action `a`, and `none` when `a` is not enabled in `s`. A schedule is a list of
actions and `run` plays it. `Guarded ok s as` says that each action of the
schedule is taken in a state in which `ok` permits it; a plain run is the case
where everything is permitted. The invariant rules are proved once, for guarded
runs, and the forward-simulation rule at the end collects the order in which
atomic operations took effect.
-/

namespace Concurrency

/-- A machine with states `σ` and actions `α`. -/
structure Machine (σ α : Type*) where
  /-- The state after an action, `none` when the action is not enabled. -/
  next : σ → α → Option σ

namespace Machine

variable {σ α : Type*} (M : Machine σ α)

/-- Playing a schedule from a state. -/
def run (M : Machine σ α) : σ → List α → Option σ
  | s, [] => some s
  | s, a :: as => (M.next s a).bind fun t => run M t as

/-- A property holds in every state that the schedule comes to. -/
def Along (M : Machine σ α) (φ : σ → Prop) : σ → List α → Prop
  | s, [] => φ s
  | s, a :: as => φ s ∧ ∀ t, M.next s a = some t → Along M φ t as

/-- Every action of the schedule is permitted in the state it is taken in. -/
def Guarded (M : Machine σ α) (ok : σ → α → Prop) : σ → List α → Prop
  | _, [] => True
  | s, a :: as => ok s a ∧ ∀ t, M.next s a = some t → Guarded M ok t as

@[simp] theorem run_nil (s : σ) : M.run s [] = some s := rfl

theorem run_cons (s : σ) (a : α) (as : List α) :
    M.run s (a :: as) = (M.next s a).bind fun t => M.run t as := rfl

theorem run_cons_eq_some_iff {s t : σ} {a : α} {as : List α} :
    M.run s (a :: as) = some t ↔
      ∃ r, M.next s a = some r ∧ M.run r as = some t := by
  rw [run_cons, Option.bind_eq_some_iff]

theorem run_append (s : σ) (as bs : List α) :
    M.run s (as ++ bs) = (M.run s as).bind fun t => M.run t bs := by
  induction as generalizing s with
  | nil => simp
  | cons a as ih => simp only [List.cons_append, run_cons, ih, Option.bind_assoc]

@[simp] theorem guarded_nil (ok : σ → α → Prop) (s : σ) : M.Guarded ok s [] := trivial

theorem guarded_cons (ok : σ → α → Prop) (s : σ) (a : α) (as : List α) :
    M.Guarded ok s (a :: as) ↔
      ok s a ∧ ∀ t, M.next s a = some t → M.Guarded ok t as :=
  Iff.rfl

theorem guarded_cons_of_eq_none {ok : σ → α → Prop} {s : σ} {a : α} {as : List α}
    (h : M.next s a = none) : M.Guarded ok s (a :: as) ↔ ok s a := by
  simp [guarded_cons, h]

theorem guarded_cons_of_eq_some {ok : σ → α → Prop} {s t : σ} {a : α} {as : List α}
    (h : M.next s a = some t) :
    M.Guarded ok s (a :: as) ↔ ok s a ∧ M.Guarded ok t as := by
  simp [guarded_cons, h]

/-- A decidable permission can be checked along a schedule. -/
instance decidableGuarded (ok : σ → α → Prop) [∀ s a, Decidable (ok s a)] :
    ∀ s as, Decidable (M.Guarded ok s as)
  | _, [] => isTrue trivial
  | s, a :: as =>
      match h : M.next s a with
      | none => decidable_of_iff _ (M.guarded_cons_of_eq_none h).symm
      | some t =>
          have := decidableGuarded ok t as
          decidable_of_iff _ (M.guarded_cons_of_eq_some h).symm

theorem guarded_congr {ok ok' : σ → α → Prop} (h : ∀ s a, ok s a ↔ ok' s a) (s : σ)
    (as : List α) : M.Guarded ok s as ↔ M.Guarded ok' s as := by
  induction as generalizing s with
  | nil => exact Iff.rfl
  | cons a as ih => simp only [guarded_cons, h, ih]

theorem guarded_of_forall {ok : σ → α → Prop} (h : ∀ s a, ok s a) (s : σ)
    (as : List α) : M.Guarded ok s as := by
  induction as generalizing s with
  | nil => trivial
  | cons a as ih => exact ⟨h s a, fun t _ => ih t⟩

theorem guarded_of_forall_mem {ok : σ → α → Prop} {as : List α} (h : ∀ a ∈ as, ∀ s, ok s a)
    (s : σ) : M.Guarded ok s as := by
  induction as generalizing s with
  | nil => trivial
  | cons a as ih =>
      exact ⟨h a List.mem_cons_self s,
        fun t _ => ih (fun b hb => h b (List.mem_cons_of_mem a hb)) t⟩

/-- A run whose actions are enabled in every state comes to its end. -/
theorem isSome_run {as : List α} (h : ∀ a ∈ as, ∀ s, (M.next s a).isSome) (s : σ) :
    (M.run s as).isSome := by
  induction as generalizing s with
  | nil => simp
  | cons a as ih =>
      obtain ⟨t, ht⟩ := Option.isSome_iff_exists.1 (h a List.mem_cons_self s)
      rw [run_cons, ht, Option.bind_some]
      exact ih (fun b hb => h b (List.mem_cons_of_mem a hb)) t

/-- The invariant rule: what each permitted action preserves holds in every
state that a guarded run reaches. -/
theorem guarded_run_invariant (ok : σ → α → Prop) (I : σ → Prop)
    (hstep : ∀ s a t, I s → ok s a → M.next s a = some t → I t)
    {s t : σ} {as : List α} (hs : I s) (hok : M.Guarded ok s as)
    (hrun : M.run s as = some t) : I t := by
  induction as generalizing s with
  | nil =>
      cases hrun
      exact hs
  | cons a as ih =>
      obtain ⟨r, hr, hrun⟩ := (run_cons_eq_some_iff M).1 hrun
      exact ih (hstep s a r hs hok.1 hr) (hok.2 r hr) hrun

/-- A permission that follows from another under an invariant is granted along the whole
run. -/
theorem Guarded.imp_of_invariant {ok ok' : σ → α → Prop} {I : σ → Prop}
    (hstep : ∀ s a t, I s → ok s a → M.next s a = some t → I t)
    (himp : ∀ s a, I s → ok s a → ok' s a) {s : σ} {as : List α} (hs : I s)
    (hok : M.Guarded ok s as) : M.Guarded ok' s as := by
  induction as generalizing s with
  | nil => trivial
  | cons a as ih =>
      exact ⟨himp s a hs hok.1, fun t ht => ih (hstep s a t hs hok.1 ht) (hok.2 t ht)⟩

/-- The invariant rule for runs that are not restricted. -/
theorem run_invariant (I : σ → Prop)
    (hstep : ∀ s a t, I s → M.next s a = some t → I t)
    {s t : σ} {as : List α} (hs : I s) (hrun : M.run s as = some t) : I t :=
  M.guarded_run_invariant (fun _ _ => True) I
    (fun s a t hI _ hn => hstep s a t hI hn) hs
    (M.guarded_of_forall (fun _ _ => trivial) s as) hrun

/-- When each action of a kind keeps a property exactly if it is permitted, a run of such actions
keeps the property exactly if it is guarded. -/
theorem guarded_run_iff_guarded {kind ok : σ → α → Prop} {I φ : σ → Prop}
    (hI : ∀ s a t, I s → kind s a → M.next s a = some t → I t)
    (hφ : ∀ s a t, I s → kind s a → M.next s a = some t → (φ t ↔ φ s ∧ ok s a))
    {s t : σ} {as : List α} (hs : I s) (hkind : M.Guarded kind s as)
    (hrun : M.run s as = some t) : φ t ↔ φ s ∧ M.Guarded ok s as := by
  induction as generalizing s with
  | nil =>
      cases hrun
      simp
  | cons a as ih =>
      obtain ⟨r, hr, hrun⟩ := (run_cons_eq_some_iff M).1 hrun
      rw [ih (hI s a r hs hkind.1 hr) (hkind.2 r hr) hrun, hφ s a r hs hkind.1 hr,
        guarded_cons_of_eq_some M hr, and_assoc]

/-- When each action keeps a property exactly if it is permitted, a run keeps the property
exactly if it is guarded. -/
theorem run_iff_guarded {ok : σ → α → Prop} {I φ : σ → Prop}
    (hI : ∀ s a t, I s → M.next s a = some t → I t)
    (hφ : ∀ s a t, I s → M.next s a = some t → (φ t ↔ φ s ∧ ok s a))
    {s t : σ} {as : List α} (hs : I s) (hrun : M.run s as = some t) :
    φ t ↔ φ s ∧ M.Guarded ok s as :=
  M.guarded_run_iff_guarded (fun s a t hs _ => hI s a t hs)
    (fun s a t hs _ => hφ s a t hs) hs (M.guarded_of_forall (fun _ _ => trivial) s as) hrun

theorem along_cons_of_eq_some {φ : σ → Prop} {s t : σ} {a : α} {as : List α}
    (h : M.next s a = some t) : M.Along φ s (a :: as) ↔ φ s ∧ M.Along φ t as := by
  simp [Along, h]

theorem Along.start {φ : σ → Prop} {s : σ} {as : List α} (h : M.Along φ s as) : φ s := by
  cases as with
  | nil => exact h
  | cons a as => exact h.1

theorem Along.of_run {φ : σ → Prop} {s t : σ} {as : List α} (h : M.Along φ s as)
    (hrun : M.run s as = some t) : φ t := by
  induction as generalizing s with
  | nil =>
      cases hrun
      exact h
  | cons a as ih =>
      obtain ⟨r, hr, hrun⟩ := (run_cons_eq_some_iff M).1 hrun
      exact ih (h.2 r hr) hrun

/-- When an action that is taken in a state with a property comes to such a state exactly if
it is permitted, the property holds all along a run exactly if the run is guarded. -/
theorem along_iff_guarded {ok : σ → α → Prop} {I φ : σ → Prop}
    (hI : ∀ s a t, I s → M.next s a = some t → I t)
    (hφ : ∀ s a t, I s → φ s → M.next s a = some t → (φ t ↔ ok s a))
    {s t : σ} {as : List α} (hs : I s) (hstart : φ s) (hrun : M.run s as = some t) :
    M.Along φ s as ↔ M.Guarded ok s as := by
  induction as generalizing s with
  | nil => simpa [Along] using hstart
  | cons a as ih =>
      obtain ⟨r, hr, hrun⟩ := (run_cons_eq_some_iff M).1 hrun
      rw [along_cons_of_eq_some M hr, guarded_cons_of_eq_some M hr]
      have hstep := hφ s a r hs hstart hr
      constructor
      · rintro ⟨-, halong⟩
        have hr' := halong.start
        exact ⟨hstep.1 hr', (ih (hI s a r hs hr) hr' hrun).1 halong⟩
      · rintro ⟨hok, hguarded⟩
        have hr' := hstep.2 hok
        exact ⟨hstart, (ih (hI s a r hs hr) hr' hrun).2 hguarded⟩

theorem guarded_append_singleton {ok : σ → α → Prop} {s t : σ} {as : List α} {a : α}
    (hok : M.Guarded ok s (as ++ [a])) (hrun : M.run s as = some t) :
    M.Guarded ok s as ∧ ok t a := by
  induction as generalizing s with
  | nil =>
      cases hrun
      exact ⟨trivial, hok.1⟩
  | cons b as ih =>
      obtain ⟨r, hr, hrun⟩ := (run_cons_eq_some_iff M).1 hrun
      have hrest := ih (hok.2 r hr) hrun
      refine ⟨⟨hok.1, fun u hu => ?_⟩, hrest.2⟩
      rw [hr] at hu
      cases hu
      exact hrest.1

/-- What the actions of a schedule put out, one after the other. -/
def outputs {β : Type*} (M : Machine σ α) (out : σ → α → List β) : σ → List α → List β
  | _, [] => []
  | s, a :: as => out s a ++ (M.next s a).elim [] fun t => outputs M out t as

@[simp] theorem outputs_nil {β : Type*} (out : σ → α → List β) (s : σ) :
    M.outputs out s [] = [] := rfl

theorem outputs_cons_of_eq_some {β : Type*} (out : σ → α → List β) {s t : σ} {a : α}
    {as : List α} (h : M.next s a = some t) :
    M.outputs out s (a :: as) = out s a ++ M.outputs out t as := by
  simp [outputs, h]

theorem forall_mem_outputs {β : Type*} {out : σ → α → List β} {φ : β → Prop} {s : σ}
    {as : List α} (h : M.Guarded (fun s a => ∀ b ∈ out s a, φ b) s as) :
    ∀ b ∈ M.outputs out s as, φ b := by
  induction as generalizing s with
  | nil => simp
  | cons a as ih =>
      intro b hb
      rw [outputs, List.mem_append] at hb
      rcases hb with hb | hb
      · exact h.1 b hb
      · cases hnext : M.next s a with
        | none => simp [hnext] at hb
        | some t =>
            rw [hnext, Option.elim_some] at hb
            exact ih (h.2 t hnext) b hb

/-- A figure that every action moves by what it puts out is moved by a run by what the run
puts out. -/
theorem run_eq_add_sum_outputs {β A : Type*} [AddMonoid A] (out : σ → α → List β)
    (amount : β → A) (figure : σ → A) {I : σ → Prop}
    (hI : ∀ s a t, I s → M.next s a = some t → I t)
    (hstep : ∀ s a t, I s → M.next s a = some t →
      figure t = figure s + ((out s a).map amount).sum)
    {s t : σ} {as : List α} (hs : I s) (hrun : M.run s as = some t) :
    figure t = figure s + ((M.outputs out s as).map amount).sum := by
  induction as generalizing s with
  | nil =>
      cases hrun
      simp
  | cons a as ih =>
      obtain ⟨r, hr, hrun⟩ := (run_cons_eq_some_iff M).1 hrun
      rw [ih (hI s a r hs hr) hrun, hstep s a r hs hr, outputs_cons_of_eq_some M out hr,
        List.map_append, List.sum_append, add_assoc]

/-- Forward simulation by atomic operations. `R c s` relates a state of the
machine to a state of the serial object, and `eff c i` says that the operation
`i` has taken effect in `c`. When every permitted action either leaves the
serial state alone or performs exactly one further operation, the machine's
final state is related to the outcome of the operations in the order in which
they took effect. -/
theorem exists_serial_order {S ι : Type*} {ok : σ → α → Prop}
    {R : σ → S → Prop} {eff : σ → ι → Prop} {op : ι → S → S}
    (hstep : ∀ c a c' s, R c s → ok c a → M.next c a = some c' →
      (R c' s ∧ ∀ i, eff c' i ↔ eff c i) ∨
        ∃ i, ¬ eff c i ∧ R c' (op i s) ∧ ∀ j, eff c' j ↔ eff c j ∨ j = i)
    {c₀ c : σ} {s₀ : S} {as : List α} (h₀ : R c₀ s₀) (heff : ∀ i, ¬ eff c₀ i)
    (hok : M.Guarded ok c₀ as) (hrun : M.run c₀ as = some c) :
    ∃ order : List ι, order.Nodup ∧ (∀ i, i ∈ order ↔ eff c i) ∧
      R c (order.foldl (fun s i => op i s) s₀) := by
  refine M.guarded_run_invariant ok
    (fun c => ∃ order : List ι, order.Nodup ∧ (∀ i, i ∈ order ↔ eff c i) ∧
      R c (order.foldl (fun s i => op i s) s₀))
    ?_ ⟨[], List.nodup_nil, by simpa using heff, h₀⟩ hok hrun
  rintro c a c' ⟨order, hnodup, hmem, hR⟩ hoka hnext
  rcases hstep c a c' _ hR hoka hnext with ⟨hR', heq⟩ | ⟨i, hi, hR', heq⟩
  · exact ⟨order, hnodup, fun j => (hmem j).trans (heq j).symm, hR'⟩
  · -- the operation that took effect is appended to the order
    refine ⟨order ++ [i], ?_, ?_, ?_⟩
    · rw [List.nodup_append]
      refine ⟨hnodup, List.nodup_singleton i, ?_⟩
      intro a ha b hb hab
      rw [List.mem_singleton] at hb
      subst hab hb
      exact hi ((hmem a).1 ha)
    · intro j
      rw [heq, List.mem_append, List.mem_singleton, hmem]
    · simpa [List.foldl_append] using hR'

end Machine

end Concurrency
