import Mathlib.Data.Fintype.Basic
import Sgr.Risk.KillSwitch

/-!
# Resets that overtake a trigger

A published state carries no version. A reset that is still on its way to a process, its own
echo or one of another process, clears whatever trigger the process has applied in the
meantime. No trigger is lost when it is applied only while no reset is on its way.
-/

open Concurrency

namespace Sgr

section Order

variable {ι κ : Type*}

/-- A process in which a trigger has been applied after the last call of `reset` is active. -/
def KeepsTriggers (S : SyncNet ι κ) : Prop :=
  ∀ i, S.sure i = true → (S.state i).isActive = true

/-- No reset is on its way to a process: neither does one wait to be handled, nor is one still
to be written or published. -/
structure ResetFree (S : SyncNet ι κ) (i : ι) : Prop where
  inbox : ∀ payload ∈ S.inbox i, payload.isActive = true
  calls : ∀ k payload, S.call k = .setting payload ∨ S.call k = .publishing payload →
    payload.isActive = true

/-- A trigger is applied in a process, by a call or by a message, only while no reset is on
its way to it. -/
def AppliesAfterResets (job : κ → SyncCall ι) (S : SyncNet ι κ) : SyncAction ι κ → Prop
  | .step k => ∀ i reason, job k = .trigger i reason → S.call k = .called →
      (S.state i).isActive = false → ResetFree S i
  | .deliver i => ∀ payload ∈ (S.inbox i).head?, payload.isActive = true →
      (S.state i).isActive = false → ResetFree S i
  | _ => True

/-- A trigger that is to last is applied, and no reset is on its way to it. -/
def Secure (S : SyncNet ι κ) : Prop :=
  ∀ i, S.sure i = true → (S.state i).isActive = true ∧ ResetFree S i

variable {job : κ → SyncCall ι} {S T : SyncNet ι κ} {i : ι} {k : κ}

/-- A published reset finds no trigger to keep, a published trigger harms none. -/
theorem Secure.publish (h : Secure S) {payload : KillSwitchState}
    (hcall : S.call k = .publishing payload) : Secure (S.publish payload) := by
  intro i hsure
  obtain ⟨hactive, hfree⟩ := h i hsure
  refine ⟨hactive, fun m hm => ?_, hfree.calls⟩
  simp only [SyncNet.publish] at hm
  split at hm
  next =>
    rcases List.mem_append.1 hm with hm | hm
    · exact hfree.inbox m hm
    · obtain rfl := List.mem_singleton.1 hm
      exact hfree.calls k m (.inr hcall)
  next => exact hfree.inbox m hm

section Calls

variable [DecidableEq κ]

theorem ResetFree.goto (h : ResetFree S i) {pc : SyncPc}
    (hpc : ∀ payload, pc = .setting payload ∨ pc = .publishing payload →
      payload.isActive = true) : ResetFree (S.goto k pc) i where
  inbox := h.inbox
  calls l payload hl := by
    by_cases hk : l = k
    · subst hk
      simp only [SyncNet.goto, Function.update_self] at hl
      exact hpc payload hl
    · simp only [SyncNet.goto, Function.update_of_ne hk] at hl
      exact h.calls l payload hl

/-- A call that comes to a control point with an active payload, or with none. -/
theorem Secure.goto (h : Secure S) {pc : SyncPc}
    (hpc : ∀ payload, pc = .setting payload ∨ pc = .publishing payload →
      payload.isActive = true) : Secure (S.goto k pc) :=
  fun i hsure => ⟨(h i hsure).1, (h i hsure).2.goto hpc⟩

theorem Secure.apiReset (h : Secure S) (value : Option KillSwitchState) :
    Secure (S.apiReset k value) := by
  unfold SyncNet.apiReset
  split
  · exact fun _ hsure => by cases hsure
  · exact h.goto fun _ hpc => by rcases hpc with hpc | hpc <;> cases hpc

end Calls

section Processes

variable [DecidableEq ι]

/-- A trigger that is applied while no reset is on its way. -/
theorem Secure.assure (h : Secure S) {s : KillSwitchState} (hactive : s.isActive = true)
    (hfree : ResetFree S i) : Secure ((S.setState i s).assure i) := by
  intro j hsure
  by_cases hj : j = i
  · subst hj
    refine ⟨?_, hfree.inbox, hfree.calls⟩
    simpa [SyncNet.assure, SyncNet.setState] using hactive
  · simp only [SyncNet.assure, SyncNet.setState, Function.update_of_ne hj] at hsure ⊢
    exact ⟨(h j hsure).1, (h j hsure).2.inbox, (h j hsure).2.calls⟩

/-- A message that a process handles is no reset where there is a trigger to keep. -/
theorem Secure.handle (h : Secure S) {payload : KillSwitchState} {rest : List KillSwitchState}
    (hinbox : S.inbox i = payload :: rest)
    (hfree : payload.isActive = true → (S.state i).isActive = false → ResetFree S i) :
    Secure (S.handle i payload rest) := by
  have hpopped : ∀ j, ResetFree S j →
      ResetFree { S with inbox := Function.update S.inbox i rest } j := by
    refine fun j hj => ⟨fun m hm => hj.inbox m ?_, hj.calls⟩
    by_cases hji : j = i
    · subst hji
      rw [hinbox]
      simp only [Function.update_self] at hm
      exact List.mem_cons_of_mem _ hm
    · simpa only [Function.update_of_ne hji] using hm
  have hsecure : Secure { S with inbox := Function.update S.inbox i rest } :=
    fun j hsure => ⟨(h j hsure).1, hpopped j (h j hsure).2⟩
  unfold SyncNet.handle
  dsimp only
  split
  next hnew =>
    rw [Bool.and_eq_true, Bool.not_eq_true'] at hnew
    exact hsecure.assure (by rw [KillSwitchState.isActive_applyRemote, hnew.1])
      (hpopped i (hfree hnew.1 hnew.2))
  next hold =>
    intro j hsure
    obtain ⟨hactive, hkept⟩ := hsecure j hsure
    refine ⟨?_, hkept.inbox, hkept.calls⟩
    by_cases hji : j = i
    · subst hji
      have hfirst : payload.isActive = true := (h j hsure).2.inbox payload (by simp [hinbox])
      simpa [SyncNet.setState] using hfirst
    · simpa only [SyncNet.setState, Function.update_of_ne hji] using hactive

/-- What is restored is active. -/
theorem Secure.applyStored (h : Secure S) (value : Option KillSwitchState) :
    Secure (S.applyStored i value) := by
  intro j hsure
  unfold SyncNet.applyStored at hsure ⊢
  split at hsure
  next v =>
    split at hsure
    next hv =>
      rw [if_pos hv]
      obtain ⟨hactive, hfree⟩ := h j hsure
      refine ⟨?_, hfree.inbox, hfree.calls⟩
      by_cases hji : j = i
      · subst hji
        simp [SyncNet.restoreTo, SyncNet.setState]
      · simpa only [SyncNet.restoreTo, SyncNet.setState, Function.update_of_ne hji] using hactive
    next hv =>
      rw [if_neg hv]
      exact ⟨(h j hsure).1, (h j hsure).2.inbox, (h j hsure).2.calls⟩
  next => exact ⟨(h j hsure).1, (h j hsure).2.inbox, (h j hsure).2.calls⟩

end Processes

variable [DecidableEq ι] [DecidableEq κ]

theorem Secure.trigger (h : Secure S) (reason : String)
    (hfree : (S.state i).isActive = false → ResetFree S i) : Secure (S.trigger k i reason) := by
  unfold SyncNet.trigger
  split
  next => exact h.goto fun _ hpc => by rcases hpc with hpc | hpc <;> cases hpc
  next hinactive =>
    refine (h.assure rfl (hfree ((Bool.not_eq_true _).mp hinactive))).goto fun payload hpc => ?_
    rcases hpc with hpc | hpc
    · cases hpc
      rfl
    · cases hpc

theorem secure_reset (S : SyncNet ι κ) (k : κ) (i : ι) : Secure (S.reset k i) := by
  unfold SyncNet.reset
  split
  · exact fun _ hsure => by cases hsure
  · exact fun _ hsure => by cases hsure

theorem Secure.next (h : Secure S) {a : SyncAction ι κ} (hok : AppliesAfterResets job S a)
    (hnext : (syncMachine job).next S a = some T) : Secure T := by
  cases syncStep_of_next hnext with
  | starts => exact fun i hsure => ⟨(h i hsure).1, (h i hsure).2.inbox, (h i hsure).2.calls⟩
  | subscribes => exact fun i hsure => ⟨(h i hsure).1, (h i hsure).2.inbox, (h i hsure).2.calls⟩
  | reads => exact fun i hsure => ⟨(h i hsure).1, (h i hsure).2.inbox, (h i hsure).2.calls⟩
  | applies => exact h.applyStored _
  | delivers hinbox =>
      exact h.handle hinbox fun hactive hinactive =>
        hok _ (by simp [hinbox]) hactive hinactive
  | triggers hcall hjob => exact h.trigger _ fun hinactive => hok _ _ hjob hcall hinactive
  | resets => exact secure_reset _ _ _
  | apiTriggers =>
      refine h.goto fun payload hpc => ?_
      rcases hpc with hpc | hpc
      · cases hpc
        rfl
      · cases hpc
  | apiAsks => exact h.goto fun _ hpc => by rcases hpc with hpc | hpc <;> cases hpc
  | apiReads => exact h.goto fun _ hpc => by rcases hpc with hpc | hpc <;> cases hpc
  | apiResets => exact h.apiReset _
  | @sets _ payload hcall =>
      intro i hsure
      obtain ⟨hactive, hfree⟩ := h i hsure
      have hset : ResetFree (S.set payload) i := ⟨hfree.inbox, hfree.calls⟩
      refine ⟨hactive, hset.goto fun _ hpc => ?_⟩
      rcases hpc with hpc | hpc
      · cases hpc
      · cases hpc
        exact hfree.calls _ _ (.inl hcall)
  | publishes hcall =>
      exact (h.publish hcall).goto fun _ hpc => by rcases hpc with hpc | hpc <;> cases hpc

/-- When triggers are applied only while no reset is on its way, each of them lasts until the
next call of `reset`. -/
theorem keepsTriggers_of_appliesAfterResets {stored : Option KillSwitchState}
    {as : List (SyncAction ι κ)}
    (hok : (syncMachine job).Guarded (AppliesAfterResets job) (syncStart stored) as)
    (hrun : (syncMachine job).run (syncStart stored) as = some S) : KeepsTriggers S := by
  have hstart : Secure (syncStart stored : SyncNet ι κ) := fun _ hsure => by cases hsure
  have hsecure : Secure S := (syncMachine job).guarded_run_invariant (AppliesAfterResets job)
    Secure (fun S a T h hok hnext => h.next hok hnext) hstart hok hrun
  exact fun i hsure => (hsecure i hsure).1

end Order

/-- The only call of an example. -/
def manualTrigger (_ : Unit) : SyncCall Unit := .trigger () "manual"

theorem keepsTriggers_of_appliesAfterResets_manual :
    ∃ S, (syncMachine manualTrigger).run (syncStart none)
        [.start (), .subscribe (), .step (), .step (), .step (), .deliver ()] = some S ∧
      KeepsTriggers S := by
  have hok : (syncMachine manualTrigger).Guarded (AppliesAfterResets manualTrigger)
      (syncStart none)
      [.start (), .subscribe (), .step (), .step (), .step (), .deliver ()] := by
    refine ⟨trivial, fun S hS => ⟨trivial, fun T hT => ⟨?_, fun U hU => ⟨?_, fun V hV => ⟨?_,
      fun W hW => ⟨?_, fun _ _ => trivial⟩⟩⟩⟩⟩⟩
    all_goals
      obtain rfl := Option.some.inj hS
      obtain rfl := Option.some.inj hT
    · intro i reason _ _ _
      refine ⟨fun payload hm => ?_, fun k payload hpc => ?_⟩
      · cases hm
      · rcases hpc with hpc | hpc <;> cases hpc
    all_goals obtain rfl := Option.some.inj hU
    · intro i reason _ hcalled
      cases hcalled
    all_goals obtain rfl := Option.some.inj hV
    · intro i reason _ hcalled
      cases hcalled
    · obtain rfl := Option.some.inj hW
      intro payload _ _ hinactive
      cases hinactive
  exact ⟨_, rfl, keepsTriggers_of_appliesAfterResets hok rfl⟩

/-- A reset and a trigger of one process. -/
def resetThenTrigger (again : Bool) : SyncCall Unit :=
  if again then .trigger () "loss" else .reset ()

/-- The echo of the reset of a process clears the trigger that it has applied after the reset. -/
theorem not_keepsTriggers :
    ¬ ∀ (job : Bool → SyncCall Unit) (stored : Option KillSwitchState)
      (as : List (SyncAction Unit Bool)) (S : SyncNet Unit Bool),
      (syncMachine job).run (syncStart stored) as = some S → KeepsTriggers S := by
  intro h
  have hend : ((syncMachine resetThenTrigger).run (syncStart (some (.triggered "manual")))
      [.start (), .subscribe (), .restore (), .restore (), .step false, .step false,
        .step false, .step true, .deliver ()]).any
      (fun S => S.sure () && !(S.state ()).isActive) = true := by
    decide +kernel
  obtain ⟨S, hS, hcleared⟩ := (Option.any_eq_true _ _).1 hend
  rw [Bool.and_eq_true, Bool.not_eq_true'] at hcleared
  have hactive := h _ _ _ S hS () hcleared.1
  rw [hcleared.2] at hactive
  cases hactive

end Sgr
