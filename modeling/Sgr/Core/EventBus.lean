import Mathlib.Data.List.Basic
import Mathlib.Data.Fintype.Basic
import Mathlib.Tactic.Common
import Sgr.Concurrency.Machine

/-!
# The consumer loop of the event bus

`_consume` and `_process_message` of `sgr/core/event_bus.py`. A consumer reads only
messages that no consumer of its group has been given before. A message that cannot be
handled in three attempts is written to the dead-letter stream; when that fails, the
exception leaves the batch, and what is left of the batch is never read again.
-/

open Concurrency

namespace Sgr

/-- A message of a stream. -/
structure StreamMessage where
  id : ℕ
  data : Option String := none
  deriving DecidableEq

/-- An entry of a dead-letter stream. -/
structure DeadLetter where
  message : StreamMessage
  error : String
  deriving DecidableEq

/-- What a Redis call that writes comes to. When it raises, Redis can have done what was
asked all the same. -/
inductive RedisReply
  | done
  | raised (applied : Bool) (error : String)

/-- Redis has done what was asked. -/
def RedisReply.applied : RedisReply → Bool
  | .done => true
  | .raised applied _ => applied

/-- The control points of a consumer. A message comes with its attempt and with what is
left of its batch. -/
inductive ConsumerPc
  /-- `xreadgroup` is about to be called. -/
  | reading
  /-- `model_validate` and the handler. -/
  | handling (attempt : ℕ) (m : StreamMessage) (rest : List StreamMessage)
  /-- `xack` of a message that has been handled. -/
  | acking (attempt : ℕ) (m : StreamMessage) (rest : List StreamMessage)
  /-- The pause before the next attempt. -/
  | backingOff (attempt : ℕ) (m : StreamMessage) (rest : List StreamMessage)
  /-- `xadd` to the dead-letter stream. -/
  | burying (error : String) (m : StreamMessage) (rest : List StreamMessage)
  /-- `xack` of a message that has been written to the dead-letter stream. -/
  | releasing (m : StreamMessage) (rest : List StreamMessage)
  /-- The pause after an exception. -/
  | pausing
  /-- The task has been cancelled, with so many messages of its batch. -/
  | cancelled (left : List StreamMessage)

/-- A consumer, with what has been delivered to it and what has become of it. -/
structure Consumer where
  pc : ConsumerPc
  delivered : List StreamMessage
  /-- The messages that the handler has taken without an exception. -/
  handled : List StreamMessage
  /-- The messages that Redis has seen acknowledged. -/
  acked : List StreamMessage
  deadLetters : List DeadLetter

/-- What a consumer waits for. -/
inductive ConsumerEvent
  | delivered (batch : List StreamMessage)
  | readRaised
  /-- The handler returns, or raises with an error. -/
  | handled (error : Option String)
  | replied (r : RedisReply)
  | slept
  | cancelled

/-- `max_retries`. -/
def maxRetries : ℕ := 3

/-- `count` of `xreadgroup`. -/
def readCount : ℕ := 10

namespace ConsumerPc

/-- The loop over a batch. -/
def batch : List StreamMessage → ConsumerPc
  | [] => .reading
  | m :: rest => .handling 0 m rest

/-- The handler of an exception in `_process_message`. -/
def retry (attempt : ℕ) (error : String) (m : StreamMessage) (rest : List StreamMessage) :
    ConsumerPc :=
  if attempt = maxRetries - 1 then .burying error m rest else .backingOff attempt m rest

/-- The messages of the batch that the consumer is still at. -/
def inFlight : ConsumerPc → List StreamMessage
  | .reading => []
  | .handling _ m rest => m :: rest
  | .acking _ m rest => m :: rest
  | .backingOff _ m rest => m :: rest
  | .burying _ m rest => m :: rest
  | .releasing m rest => m :: rest
  | .pausing => []
  | .cancelled left => left

@[simp] theorem inFlight_batch (ms : List StreamMessage) : (batch ms).inFlight = ms := by
  cases ms with
  | nil => rfl
  | cons m rest => rfl

@[simp] theorem inFlight_retry (attempt : ℕ) (error : String) (m : StreamMessage)
    (rest : List StreamMessage) : (retry attempt error m rest).inFlight = m :: rest := by
  unfold retry
  split
  · rfl
  · rfl

end ConsumerPc

namespace Consumer

/-- The message is acknowledged, when Redis has done that. -/
def ack (S : Consumer) (m : StreamMessage) (r : RedisReply) (pc : ConsumerPc) : Consumer :=
  { S with pc := pc, acked := if r.applied then m :: S.acked else S.acked }

/-- The message is written to the dead-letter stream, when Redis has done that. -/
def bury (S : Consumer) (m : StreamMessage) (error : String) (r : RedisReply)
    (pc : ConsumerPc) : Consumer :=
  { S with
    pc := pc
    deadLetters := if r.applied then ⟨m, error⟩ :: S.deadLetters else S.deadLetters }

/-- A batch is what `xreadgroup` returns for `>`: at most ten messages, none of which has
been delivered before. -/
def IsNew (S : Consumer) (batch : List StreamMessage) : Prop :=
  batch.length ≤ readCount ∧ batch.Nodup ∧ ∀ m ∈ batch, m ∉ S.delivered

instance (S : Consumer) (batch : List StreamMessage) : Decidable (S.IsNew batch) :=
  inferInstanceAs (Decidable (_ ∧ _ ∧ _))

/-- The message has been handled and acknowledged, or written to the dead-letter stream. -/
def Settled (S : Consumer) (m : StreamMessage) : Prop :=
  m ∈ S.handled ∧ m ∈ S.acked ∨ m ∈ S.deadLetters.map DeadLetter.message

instance (S : Consumer) (m : StreamMessage) : Decidable (S.Settled m) :=
  inferInstanceAs (Decidable (_ ∨ _))

/-- A consumer that has read nothing. -/
def start : Consumer := ⟨.reading, [], [], [], []⟩

end Consumer

/-- The loop of `_consume`. The function is the error of a message that does not decode to
an event. -/
def consumerMachine (decodeError : StreamMessage → Option String) :
    Machine Consumer ConsumerEvent where
  next S
    | .delivered batch =>
        match S.pc with
        | .reading =>
            if S.IsNew batch then
              some { S with pc := .batch batch, delivered := batch ++ S.delivered }
            else none
        | _ => none
    | .readRaised =>
        match S.pc with
        | .reading => some { S with pc := .pausing }
        | _ => none
    | .handled error =>
        match S.pc with
        | .handling attempt m rest =>
            match (decodeError m).or error with
            | none => some { S with pc := .acking attempt m rest, handled := m :: S.handled }
            | some error => some { S with pc := .retry attempt error m rest }
        | _ => none
    | .replied r =>
        match S.pc, r with
        | .acking _ m rest, .done => some (S.ack m r (.batch rest))
        | .acking attempt m rest, .raised _ error => some (S.ack m r (.retry attempt error m rest))
        | .burying error m rest, .done => some (S.bury m error r (.releasing m rest))
        | .burying error m _, .raised _ _ => some (S.bury m error r .pausing)
        | .releasing m rest, .done => some (S.ack m r (.batch rest))
        | .releasing m _, .raised _ _ => some (S.ack m r .pausing)
        | _, _ => none
    | .slept =>
        match S.pc with
        | .backingOff attempt m rest => some { S with pc := .handling (attempt + 1) m rest }
        | .pausing => some { S with pc := .reading }
        | _ => none
    | .cancelled => some { S with pc := .cancelled S.pc.inFlight }

/-- A call of the recovery path raises only at the last message of its batch, and a message
that it cannot write to the dead-letter stream was handled and acknowledged before, by an
`xack` that raised after it was done. -/
def RecoversLast (S : Consumer) (e : ConsumerEvent) : Prop :=
  match S.pc, e with
  | .burying _ m rest, .replied (.raised applied _) =>
      rest = [] ∧ (applied = true ∨ S.Settled m)
  | .releasing _ rest, .replied (.raised _ _) => rest = []
  | _, _ => True

end Sgr
