import Mathlib.Data.Fintype.Basic
import Sgr.Risk.KillSwitch

/-!
# Agreement of the processes with the stored state

When nothing is under way, each started process should have the state that Redis stores. The
write of a payload and its publication are two steps, so that two calls can publish in the
other order; and a process that starts reads the stored state and subscribes in two steps, so
that a payload published in between is missed, or overwritten by the older state it has read.
-/

open Concurrency

namespace Sgr

/-- What a call is still to do ends with the publication of the stored state, or with one of
its own. -/
def SyncPc.Announces (active : Bool) : SyncPc → Prop
  | .reading => active = true
  | .read value => value.any KillSwitchState.isActive = true
  | .setting _ => True
  | .publishing payload => payload.isActive = active
  | _ => False

/-- `_restore_kill_switch` is still to take over the stored state. -/
def RestorePc.Restores (active : Bool) : RestorePc → Prop
  | .reading => active = true
  | .read value => active = true ∧ value.any KillSwitchState.isActive = true
  | _ => False

/-- A process with these messages, this state and this start-up comes to the stored state
without a further publication. -/
def UpToDate (active : Bool) (inbox : List KillSwitchState) (s : KillSwitchState)
    (pc : RestorePc) : Prop :=
  match inbox.getLast? with
  | some payload => payload.isActive = active
  | none => s.isActive = active ∨ pc.Restores active

section Agreement

variable {ι κ : Type*}

namespace SyncNet

/-- The stored state is active. -/
def storedActive (S : SyncNet ι κ) : Bool := S.stored.any KillSwitchState.isActive

/-- A call under way is still to publish the stored state, or a state of its own. -/
def Announced (S : SyncNet ι κ) : Prop := ∃ k, (S.call k).Announces S.storedActive

/-- No call is running, no message is in flight and no process is starting. -/
structure Quiescent (S : SyncNet ι κ) : Prop where
  calls : ∀ k, S.call k = .called ∨ S.call k = .returned
  inboxes : ∀ i, S.inbox i = []
  processes : ∀ i, S.restore i = .notStarted ∨
    S.restore i = .restored ∧ S.subscribed i = true

/-- When nothing is under way, each started process has the stored state. -/
def Agrees (S : SyncNet ι κ) : Prop :=
  S.Quiescent → ∀ i, S.restore i ≠ .notStarted → (S.state i).isActive = S.storedActive

/-- A process that is subscribed comes to the stored state. -/
structure Tracks (S : SyncNet ι κ) : Prop where
  unsubscribed : ∀ i, S.subscribed i = false → S.inbox i = []
  subscribed : ∀ i, S.subscribed i = true →
    S.Announced ∨ UpToDate S.storedActive (S.inbox i) (S.state i) (S.restore i)

end SyncNet

/-- Payloads are published in the order in which they are stored, unless a later publication
makes up for it; a subscription takes effect, and a stored state that has been read is applied,
only when the process still comes to the stored state. -/
def KeepsAgreement (S : SyncNet ι κ) : SyncAction ι κ → Prop
  | .step k => ∀ payload, S.call k = .publishing payload → (∃ i, S.subscribed i = true) →
      payload.isActive = S.storedActive ∨ ∃ l, l ≠ k ∧ (S.call l).Announces S.storedActive
  | .subscribe i => S.Announced ∨ UpToDate S.storedActive [] (S.state i) (S.restore i)
  | .restore i => ∀ v, S.restore i = .read (some v) → v.isActive = true →
      S.subscribed i = true → S.storedActive = true ∨ S.inbox i ≠ [] ∨ S.Announced
  | _ => True

variable {job : κ → SyncCall ι} {S T : SyncNet ι κ}

open SyncNet

theorem tracks_of_announced (h : S.Announced)
    (hinbox : ∀ i, S.subscribed i = false → S.inbox i = []) : S.Tracks :=
  ⟨hinbox, fun _ _ => .inl h⟩

section Calls

variable [DecidableEq κ]

theorem SyncNet.Announced.goto (h : S.Announced) {k : κ} {pc : SyncPc}
    (hpc : (S.call k).Announces S.storedActive → pc.Announces S.storedActive) :
    (S.goto k pc).Announced := by
  obtain ⟨l, hl⟩ := h
  refine ⟨l, ?_⟩
  by_cases hlk : l = k
  · subst hlk
    simpa [SyncNet.goto, storedActive] using hpc hl
  · simpa [SyncNet.goto, storedActive, Function.update_of_ne hlk] using hl

theorem announced_goto (S : SyncNet ι κ) {k : κ} {pc : SyncPc}
    (hpc : pc.Announces S.storedActive) : (S.goto k pc).Announced :=
  ⟨k, by simpa [SyncNet.goto, storedActive] using hpc⟩

theorem SyncNet.Tracks.goto (h : S.Tracks) {k : κ} {pc : SyncPc}
    (hpc : (S.call k).Announces S.storedActive → pc.Announces S.storedActive) :
    (S.goto k pc).Tracks :=
  ⟨h.unsubscribed, fun i hi => (h.subscribed i hi).imp_left fun ha => ha.goto hpc⟩

theorem SyncNet.Tracks.apiReset (h : S.Tracks) {k : κ} {value : Option KillSwitchState}
    (hcall : S.call k = .read value) : (S.apiReset k value).Tracks := by
  unfold SyncNet.apiReset
  split
  next => exact tracks_of_announced (announced_goto _ trivial) h.unsubscribed
  next hinactive =>
    refine h.goto fun hk => ?_
    rw [hcall] at hk
    exact absurd hk hinactive

/-- The last publication makes up for the earlier ones. -/
theorem SyncNet.Tracks.publish (h : S.Tracks) {k : κ} {payload : KillSwitchState}
    (hok : (∃ i, S.subscribed i = true) → payload.isActive = S.storedActive ∨
      ∃ l, l ≠ k ∧ (S.call l).Announces S.storedActive) :
    ((S.publish payload).goto k .returned).Tracks := by
  refine ⟨fun i hi => ?_, fun i hi => ?_⟩
  · have hunsub : S.subscribed i = false := hi
    simpa [SyncNet.publish, SyncNet.goto, hunsub] using h.unsubscribed i hunsub
  · have hsub : S.subscribed i = true := hi
    obtain hpayload | ⟨l, hlk, hl⟩ := hok ⟨i, hsub⟩
    · refine .inr ?_
      simpa [UpToDate, SyncNet.publish, SyncNet.goto, storedActive, hsub] using hpayload
    · refine .inl ⟨l, ?_⟩
      simpa [SyncNet.goto, SyncNet.publish, storedActive, Function.update_of_ne hlk] using hl

end Calls

section Processes

variable [DecidableEq ι]

/-- What happens in one process leaves the others as they are. -/
theorem SyncNet.Tracks.update (h : S.Tracks) (i : ι) (inbox : List KillSwitchState)
    (s : KillSwitchState) (pc : RestorePc) (hinbox : S.subscribed i = false → inbox = [])
    (hup : S.subscribed i = true →
      UpToDate S.storedActive (S.inbox i) (S.state i) (S.restore i) →
        S.Announced ∨ UpToDate S.storedActive inbox s pc) :
    Tracks { S with
      inbox := Function.update S.inbox i inbox
      state := Function.update S.state i s
      restore := Function.update S.restore i pc } := by
  refine ⟨fun j hj => ?_, fun j hj => ?_⟩
  all_goals by_cases hji : j = i
  · subst hji
    simpa only [Function.update_self] using hinbox hj
  · simpa only [Function.update_of_ne hji] using h.unsubscribed j hj
  · subst hji
    simp only [Function.update_self]
    exact (h.subscribed j hj).elim .inl (hup hj)
  · simp only [Function.update_of_ne hji]
    exact h.subscribed j hj

/-- The start-up of a process goes on. -/
theorem SyncNet.Tracks.restoreTo (h : S.Tracks) {i : ι} {pc : RestorePc}
    (hpc : (S.restore i).Restores S.storedActive → pc.Restores S.storedActive) :
    (S.restoreTo i pc).Tracks := by
  have hup := h.update i (S.inbox i) (S.state i) pc (h.unsubscribed i) fun _ hup => .inr (by
    unfold UpToDate at hup ⊢
    cases hlast : (S.inbox i).getLast? with
    | some payload => simpa [hlast] using hup
    | none =>
        simp only [hlast] at hup ⊢
        exact hup.imp_right hpc)
  rw [Function.update_eq_self, Function.update_eq_self] at hup
  exact hup

/-- The last message brings the stored state. -/
theorem SyncNet.Tracks.handle (h : S.Tracks) {i : ι} {payload : KillSwitchState}
    {rest : List KillSwitchState} (hinbox : S.inbox i = payload :: rest) :
    (S.handle i payload rest).Tracks := by
  have hup := h.update i rest ((S.state i).applyRemote payload) (S.restore i)
    (fun hunsub => by simp [h.unsubscribed i hunsub] at hinbox) fun _ hup => .inr (by
      rw [hinbox] at hup
      cases rest with
      | nil => exact .inl (by simpa [UpToDate] using hup)
      | cons m ms => simpa [UpToDate, List.getLast?_cons] using hup)
  rw [Function.update_eq_self] at hup
  unfold SyncNet.handle
  dsimp only
  split
  · exact ⟨hup.unsubscribed, hup.subscribed⟩
  · exact hup

theorem SyncNet.Tracks.applyStored (h : S.Tracks) {i : ι} {value : Option KillSwitchState}
    (hrestore : S.restore i = .read value)
    (hok : ∀ v, value = some v → v.isActive = true → S.subscribed i = true →
      S.storedActive = true ∨ S.inbox i ≠ [] ∨ S.Announced) :
    (S.applyStored i value).Tracks := by
  unfold SyncNet.applyStored
  split
  next v =>
    split
    next hactive =>
      have hup := h.update i (S.inbox i) (.triggered (v.reasonOr "unknown")) .restored
        (h.unsubscribed i) fun hsub hup => by
          unfold UpToDate at hup ⊢
          cases hlast : (S.inbox i).getLast? with
          | some payload => exact .inr (by simpa [hlast] using hup)
          | none =>
              obtain hstored | hinbox | hannounced := hok v rfl hactive hsub
              · exact .inr (.inl hstored.symm)
              · exact absurd (List.getLast?_eq_none_iff.1 hlast) hinbox
              · exact .inl hannounced
      rw [Function.update_eq_self] at hup
      exact hup
    next hinactive =>
      refine h.restoreTo fun hr => ?_
      rw [hrestore] at hr
      exact absurd hr.2 hinactive
  next =>
    refine h.restoreTo fun hr => ?_
    rw [hrestore] at hr
    simp [RestorePc.Restores] at hr

theorem SyncNet.Tracks.subscribe (h : S.Tracks) {i : ι} (hnew : S.subscribed i = false)
    (hok : S.Announced ∨ UpToDate S.storedActive [] (S.state i) (S.restore i)) :
    Tracks { S with subscribed := Function.update S.subscribed i true } := by
  refine ⟨fun j hj => ?_, fun j hj => ?_⟩
  all_goals by_cases hji : j = i
  · subst hji
    simp at hj
  · exact h.unsubscribed j (by simpa only [Function.update_of_ne hji] using hj)
  · subst hji
    rw [← h.unsubscribed j hnew] at hok
    exact hok
  · exact h.subscribed j (by simpa only [Function.update_of_ne hji] using hj)

end Processes

variable [DecidableEq ι] [DecidableEq κ]

theorem SyncNet.Tracks.trigger (h : S.Tracks) {k : κ} (hcall : S.call k = .called) (i : ι)
    (reason : String) : (S.trigger k i reason).Tracks := by
  unfold SyncNet.trigger
  split
  · exact h.goto fun hk => by simp [hcall, SyncPc.Announces] at hk
  · exact tracks_of_announced (announced_goto _ trivial) h.unsubscribed

theorem SyncNet.Tracks.reset (h : S.Tracks) {k : κ} (hcall : S.call k = .called) (i : ι) :
    (S.reset k i).Tracks := by
  have hdoubt : S.doubt.Tracks := ⟨h.unsubscribed, h.subscribed⟩
  unfold SyncNet.reset
  split
  · exact tracks_of_announced (announced_goto _ trivial) h.unsubscribed
  · exact hdoubt.goto fun hk => by simp [SyncNet.doubt, hcall, SyncPc.Announces] at hk

theorem SyncNet.Tracks.next (h : S.Tracks) {a : SyncAction ι κ} (hok : KeepsAgreement S a)
    (hnext : (syncMachine job).next S a = some T) : T.Tracks := by
  cases syncStep_of_next hnext with
  | starts hrestore => exact h.restoreTo fun hr => by simp [hrestore, RestorePc.Restores] at hr
  | subscribes hnew => exact h.subscribe hnew hok
  | reads hrestore =>
      refine h.restoreTo fun hr => ?_
      rw [hrestore] at hr
      exact ⟨hr, hr⟩
  | applies hrestore =>
      exact h.applyStored hrestore fun v hv => hok v (hv ▸ hrestore)
  | delivers hinbox => exact h.handle hinbox
  | triggers hcall => exact h.trigger hcall _ _
  | resets hcall => exact h.reset hcall _
  | apiTriggers hcall => exact h.goto fun _ => trivial
  | apiAsks hcall => exact h.goto fun hk => by simp [hcall, SyncPc.Announces] at hk
  | apiReads hcall =>
      refine h.goto fun hk => ?_
      rw [hcall] at hk
      exact hk
  | apiResets hcall => exact h.apiReset hcall
  | sets => exact tracks_of_announced (announced_goto _ rfl) h.unsubscribed
  | publishes hcall => exact h.publish (hok _ hcall)

/-- When payloads are published in the order in which they are stored and no process subscribes
or restores too late, the processes agree with the stored state whenever nothing is under way. -/
theorem agrees_of_keepsAgreement {stored : Option KillSwitchState} {as : List (SyncAction ι κ)}
    (hok : (syncMachine job).Guarded KeepsAgreement (syncStart stored) as)
    (hrun : (syncMachine job).run (syncStart stored) as = some S) : S.Agrees := by
  have hstart : (syncStart stored : SyncNet ι κ).Tracks :=
    ⟨fun _ _ => rfl, fun _ hsub => by cases hsub⟩
  have htracks : S.Tracks := (syncMachine job).guarded_run_invariant KeepsAgreement
    SyncNet.Tracks (fun S a T h hok hnext => h.next hok hnext) hstart hok hrun
  intro hquiet i hstarted
  obtain ⟨hrestored, hsub⟩ := (hquiet.processes i).resolve_left hstarted
  obtain ⟨k, hk⟩ | hup := htracks.subscribed i hsub
  · obtain hcall | hcall := hquiet.calls k
    all_goals simp [hcall, SyncPc.Announces] at hk
  · rw [hquiet.inboxes i, hrestored] at hup
    exact hup.resolve_right id

end Agreement

/-- The only call of an example. -/
def manualApiTrigger (_ : Unit) : SyncCall Unit := .apiTrigger "drawdown"

theorem agrees_of_keepsAgreement_manual :
    ∃ S, (syncMachine manualApiTrigger).run (syncStart none)
        [.start (), .subscribe (), .restore (), .restore (), .step (), .step (), .step (),
          .deliver ()] = some S ∧ S.Agrees := by
  have hok : (syncMachine manualApiTrigger).Guarded KeepsAgreement (syncStart none)
      [.start (), .subscribe (), .restore (), .restore (), .step (), .step (), .step (),
        .deliver ()] := by
    refine ⟨trivial, fun S hS => ⟨.inr (.inl ?_), fun T hT => ⟨fun v hv => ?_, fun U hU =>
      ⟨fun v hv => ?_, fun V hV => ⟨fun payload hk => ?_, fun W hW => ⟨fun payload hk => ?_,
        fun X hX => ⟨fun payload hk _ => .inl ?_, fun _ _ => ⟨trivial, fun _ _ => trivial⟩⟩⟩⟩⟩⟩⟩⟩
    all_goals obtain rfl := Option.some.inj hS
    · rfl
    all_goals obtain rfl := Option.some.inj hT
    · cases hv
    all_goals obtain rfl := Option.some.inj hU
    · cases hv
    all_goals obtain rfl := Option.some.inj hV
    · cases hk
    all_goals obtain rfl := Option.some.inj hW
    · cases hk
    · obtain rfl := Option.some.inj hX
      cases hk
      rfl
  exact ⟨_, rfl, agrees_of_keepsAgreement hok rfl⟩

/-- A trigger that is published after a process has read the stored state and before it has
subscribed never comes to it. -/
theorem not_agrees :
    ¬ ∀ (job : Unit → SyncCall Unit) (stored : Option KillSwitchState)
      (as : List (SyncAction Unit Unit)) (S : SyncNet Unit Unit),
      (syncMachine job).run (syncStart stored) as = some S → S.Agrees := by
  intro h
  have hagrees := h manualApiTrigger none [.start (), .restore (), .restore (), .step (),
    .step (), .step (), .subscribe ()] _ rfl
  have hsame := hagrees ⟨fun _ => .inr rfl, fun _ => rfl, fun _ => .inr ⟨rfl, rfl⟩⟩ ()
    fun hstarted => by cases hstarted
  cases hsame

end Sgr
