import Mathlib.Logic.Function.Basic
import Sgr.Concurrency.Machine
import Sgr.Core.Types

/-!
# The kill switch in several processes

`KillSwitch` of `sgr/risk/kill_switch.py` with Redis: calls of `trigger` and `reset` in any
number of processes, the calls of the API, the background subscription of a process and
`_restore_kill_switch` of `sgr/core/resilience.py` at its start. A call changes the state of
its process at once, then writes it to Redis and then publishes it; Redis hands a published
state to the processes that are subscribed, in the order of the publications. The API calls
have a kill switch of their own, whose state nobody reads.

Redis does not fail. `sure` is a ghost: the processes in which a trigger has been applied
since the last call of `reset` in any of them.
-/

open Concurrency

namespace Sgr

/-- `KillSwitchState`; as a payload it is what is written to Redis. -/
structure KillSwitchState where
  isActive : Bool := false
  reason : Option String := none
  deriving DecidableEq

namespace KillSwitchState

/-- `KillSwitchState.trigger`. -/
def triggered (reason : String) : KillSwitchState := ⟨true, some reason⟩

/-- `KillSwitchState.reset`. -/
def cleared : KillSwitchState := {}

/-- `reason or default`. -/
def reasonOr (s : KillSwitchState) (default : String) : String :=
  (s.reason.filter (· ≠ "")).getD default

/-- `_apply_remote_state`. -/
def applyRemote (s payload : KillSwitchState) : KillSwitchState :=
  if payload.isActive = s.isActive then s
  else if payload.isActive then triggered (payload.reasonOr "remote_trigger")
  else cleared

@[simp] theorem isActive_triggered (reason : String) : (triggered reason).isActive = true := rfl

@[simp] theorem isActive_cleared : cleared.isActive = false := rfl

@[simp] theorem isActive_applyRemote (s payload : KillSwitchState) :
    (s.applyRemote payload).isActive = payload.isActive := by
  unfold applyRemote
  split
  next heq => exact heq.symm
  next =>
    split
    next hactive => exact hactive.symm
    next hinactive => exact ((Bool.not_eq_true _).mp hinactive).symm

end KillSwitchState

/-- A call. -/
inductive SyncCall (ι : Type*)
  | trigger (i : ι) (reason : String)
  | reset (i : ι)
  /-- `POST /kill-switch/trigger`. -/
  | apiTrigger (reason : String)
  /-- `POST /kill-switch/reset`. -/
  | apiReset

/-- The process in which a call is made. -/
def SyncCall.process {ι : Type*} : SyncCall ι → Option ι
  | .trigger i _ => some i
  | .reset i => some i
  | _ => none

/-- The control points of a call. -/
inductive SyncPc
  | called
  /-- The reset of the API reads the stored state. -/
  | reading
  | read (value : Option KillSwitchState)
  /-- `SET` of the payload. -/
  | setting (payload : KillSwitchState)
  /-- `PUBLISH` of the payload. -/
  | publishing (payload : KillSwitchState)
  | returned

/-- The control points of `_restore_kill_switch`. -/
inductive RestorePc
  | notStarted
  | reading
  | read (value : Option KillSwitchState)
  | restored

/-- The processes, their calls and Redis. -/
structure SyncNet (ι κ : Type*) where
  stored : Option KillSwitchState
  state : ι → KillSwitchState
  subscribed : ι → Bool
  /-- The published states that a process has not handled, oldest first. -/
  inbox : ι → List KillSwitchState
  restore : ι → RestorePc
  call : κ → SyncPc
  sure : ι → Bool

/-- What can happen next. -/
inductive SyncAction (ι κ : Type*)
  /-- A process starts. -/
  | start (i : ι)
  /-- Its subscription takes effect. -/
  | subscribe (i : ι)
  /-- `_restore_kill_switch` goes on. -/
  | restore (i : ι)
  /-- A process handles the next message. -/
  | deliver (i : ι)
  /-- A call goes on. -/
  | step (k : κ)

section Net

variable {ι κ : Type*} [DecidableEq ι] [DecidableEq κ]

namespace SyncNet

/-- The state of a process changes. -/
def setState (S : SyncNet ι κ) (i : ι) (s : KillSwitchState) : SyncNet ι κ :=
  { S with state := Function.update S.state i s }

/-- A call comes to a control point. -/
def goto (S : SyncNet ι κ) (k : κ) (pc : SyncPc) : SyncNet ι κ :=
  { S with call := Function.update S.call k pc }

/-- `_restore_kill_switch` comes to a control point. -/
def restoreTo (S : SyncNet ι κ) (i : ι) (pc : RestorePc) : SyncNet ι κ :=
  { S with restore := Function.update S.restore i pc }

/-- A trigger has been applied in a process. -/
def assure (S : SyncNet ι κ) (i : ι) : SyncNet ι κ :=
  { S with sure := Function.update S.sure i true }

/-- `reset` has been called. -/
def doubt (S : SyncNet ι κ) : SyncNet ι κ := { S with sure := fun _ => false }

/-- `trigger` in a process, up to the write of its payload. -/
def trigger (S : SyncNet ι κ) (k : κ) (i : ι) (reason : String) : SyncNet ι κ :=
  if (S.state i).isActive then S.goto k .returned
  else
    ((S.setState i (.triggered reason)).assure i).goto k
      (.setting (.triggered reason))

/-- `reset` in a process, up to the write of its payload. -/
def reset (S : SyncNet ι κ) (k : κ) (i : ι) : SyncNet ι κ :=
  if (S.state i).isActive then
    (S.doubt.setState i .cleared).goto k (.setting .cleared)
  else S.doubt.goto k .returned

/-- The reset of the API with the state that it has read. -/
def apiReset (S : SyncNet ι κ) (k : κ) (value : Option KillSwitchState) : SyncNet ι κ :=
  if value.any KillSwitchState.isActive then S.doubt.goto k (.setting .cleared)
  else S.goto k .returned

/-- Redis stores a payload. -/
def set (S : SyncNet ι κ) (payload : KillSwitchState) : SyncNet ι κ :=
  { S with stored := some payload }

/-- Redis hands a payload to the processes that are subscribed. -/
def publish (S : SyncNet ι κ) (payload : KillSwitchState) : SyncNet ι κ :=
  { S with inbox := fun i => if S.subscribed i then S.inbox i ++ [payload] else S.inbox i }

/-- A process handles a message. -/
def handle (S : SyncNet ι κ) (i : ι) (payload : KillSwitchState)
    (rest : List KillSwitchState) : SyncNet ι κ :=
  let T := { S with inbox := Function.update S.inbox i rest }.setState i
    ((S.state i).applyRemote payload)
  if payload.isActive && !(S.state i).isActive then T.assure i else T

/-- The stored state that `_restore_kill_switch` has read is applied when it is active. -/
def applyStored (S : SyncNet ι κ) (i : ι) (value : Option KillSwitchState) : SyncNet ι κ :=
  match value with
  | some v =>
      if v.isActive then
        (S.setState i (.triggered (v.reasonOr "unknown"))).restoreTo i .restored
      else S.restoreTo i .restored
  | none => S.restoreTo i .restored

end SyncNet

/-- The network of the given calls. -/
def syncMachine (job : κ → SyncCall ι) : Machine (SyncNet ι κ) (SyncAction ι κ) where
  next S
    | .start i =>
        match S.restore i with
        | .notStarted => some (S.restoreTo i .reading)
        | _ => none
    | .subscribe i =>
        match S.restore i with
        | .notStarted => none
        | _ =>
            if S.subscribed i then none
            else some { S with subscribed := Function.update S.subscribed i true }
    | .restore i =>
        match S.restore i with
        | .reading => some (S.restoreTo i (.read S.stored))
        | .read value => some (S.applyStored i value)
        | _ => none
    | .deliver i =>
        match S.inbox i with
        | [] => none
        | payload :: rest => some (S.handle i payload rest)
    | .step k =>
        match S.call k, job k with
        | .called, .trigger i reason =>
            match S.restore i with
            | .notStarted => none
            | _ => some (S.trigger k i reason)
        | .called, .reset i =>
            match S.restore i with
            | .notStarted => none
            | _ => some (S.reset k i)
        | .called, .apiTrigger reason =>
            some (S.goto k (.setting (.triggered ("Manual: " ++ reason))))
        | .called, .apiReset => some (S.goto k .reading)
        | .reading, _ => some (S.goto k (.read S.stored))
        | .read value, _ => some (S.apiReset k value)
        | .setting payload, _ => some ((S.set payload).goto k (.publishing payload))
        | .publishing payload, _ => some ((S.publish payload).goto k .returned)
        | .returned, _ => none

/-- No process has started and nothing has been called. -/
def syncStart (stored : Option KillSwitchState) : SyncNet ι κ where
  stored := stored
  state := fun _ => {}
  subscribed := fun _ => false
  inbox := fun _ => []
  restore := fun _ => .notStarted
  call := fun _ => .called
  sure := fun _ => false

/-! ### What a step does -/

/-- A step of the network, with what it has found. -/
inductive SyncStep (job : κ → SyncCall ι) (S : SyncNet ι κ) :
    SyncAction ι κ → SyncNet ι κ → Prop
  | starts {i : ι} (hrestore : S.restore i = .notStarted) :
      SyncStep job S (.start i) (S.restoreTo i .reading)
  | subscribes {i : ι} (hnew : S.subscribed i = false) :
      SyncStep job S (.subscribe i)
        { S with subscribed := Function.update S.subscribed i true }
  | reads {i : ι} (hrestore : S.restore i = .reading) :
      SyncStep job S (.restore i) (S.restoreTo i (.read S.stored))
  | applies {i : ι} {value : Option KillSwitchState} (hrestore : S.restore i = .read value) :
      SyncStep job S (.restore i) (S.applyStored i value)
  | delivers {i : ι} {payload : KillSwitchState} {rest : List KillSwitchState}
      (hinbox : S.inbox i = payload :: rest) :
      SyncStep job S (.deliver i) (S.handle i payload rest)
  | triggers {k : κ} {i : ι} {reason : String} (hcall : S.call k = .called)
      (hjob : job k = .trigger i reason) : SyncStep job S (.step k) (S.trigger k i reason)
  | resets {k : κ} {i : ι} (hcall : S.call k = .called) (hjob : job k = .reset i) :
      SyncStep job S (.step k) (S.reset k i)
  | apiTriggers {k : κ} {reason : String} (hcall : S.call k = .called)
      (hjob : job k = .apiTrigger reason) :
      SyncStep job S (.step k) (S.goto k (.setting (.triggered ("Manual: " ++ reason))))
  | apiAsks {k : κ} (hcall : S.call k = .called) : SyncStep job S (.step k) (S.goto k .reading)
  | apiReads {k : κ} (hcall : S.call k = .reading) :
      SyncStep job S (.step k) (S.goto k (.read S.stored))
  | apiResets {k : κ} {value : Option KillSwitchState} (hcall : S.call k = .read value) :
      SyncStep job S (.step k) (S.apiReset k value)
  | sets {k : κ} {payload : KillSwitchState} (hcall : S.call k = .setting payload) :
      SyncStep job S (.step k) ((S.set payload).goto k (.publishing payload))
  | publishes {k : κ} {payload : KillSwitchState} (hcall : S.call k = .publishing payload) :
      SyncStep job S (.step k) ((S.publish payload).goto k .returned)

theorem syncStep_of_next {job : κ → SyncCall ι} {S T : SyncNet ι κ} {a : SyncAction ι κ}
    (h : (syncMachine job).next S a = some T) : SyncStep job S a T := by
  cases a with
  | start i =>
      dsimp only [syncMachine] at h
      split at h
      next hrestore =>
        obtain rfl := Option.some.inj h
        exact .starts hrestore
      next => cases h
  | subscribe i =>
      dsimp only [syncMachine] at h
      split at h
      next => cases h
      next =>
        split at h
        next => cases h
        next hnew =>
          obtain rfl := Option.some.inj h
          exact .subscribes ((Bool.not_eq_true _).mp hnew)
  | restore i =>
      dsimp only [syncMachine] at h
      split at h
      next hrestore =>
        obtain rfl := Option.some.inj h
        exact .reads hrestore
      next value hrestore =>
        obtain rfl := Option.some.inj h
        exact .applies hrestore
      next => cases h
  | deliver i =>
      dsimp only [syncMachine] at h
      split at h
      next => cases h
      next payload rest hinbox =>
        obtain rfl := Option.some.inj h
        exact .delivers hinbox
  | step k =>
      dsimp only [syncMachine] at h
      split at h
      next i reason hcall hjob =>
        split at h
        next => cases h
        next =>
          obtain rfl := Option.some.inj h
          exact .triggers hcall hjob
      next i hcall hjob =>
        split at h
        next => cases h
        next =>
          obtain rfl := Option.some.inj h
          exact .resets hcall hjob
      next reason hcall hjob =>
        obtain rfl := Option.some.inj h
        exact .apiTriggers hcall hjob
      next hcall hjob =>
        obtain rfl := Option.some.inj h
        exact .apiAsks hcall
      next hcall =>
        obtain rfl := Option.some.inj h
        exact .apiReads hcall
      next value hcall =>
        obtain rfl := Option.some.inj h
        exact .apiResets hcall
      next payload hcall =>
        obtain rfl := Option.some.inj h
        exact .sets hcall
      next payload hcall =>
        obtain rfl := Option.some.inj h
        exact .publishes hcall
      next => cases h

end Net

end Sgr
