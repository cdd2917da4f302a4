import Sgr.Core.Delivery

/-!
# Messages that are handled once

The handler of a message and the `xack` after it are in one `try` block, so an `xack` that raises
counts as a failed attempt. Then the handler runs again, or the message goes to the dead-letter
stream, although it has been handled.
-/

open Concurrency

namespace Sgr

/-- The message that a consumer is going to hand to the handler or to write to the dead-letter
stream. -/
def ConsumerPc.unhandled : ConsumerPc → Option StreamMessage
  | .handling _ m _ => some m
  | .backingOff _ m _ => some m
  | .burying _ m _ => some m
  | _ => none

/-- The message that a consumer has not written to the dead-letter stream. -/
def ConsumerPc.unburied : ConsumerPc → Option StreamMessage
  | .acking _ m _ => some m
  | pc => pc.unhandled

/-- The handler has taken no message twice. A message that it has taken is not in the dead-letter
stream, and the consumer is not going to hand it to the handler again or to write it there. -/
structure Consumer.HandlesOnce (S : Consumer) : Prop where
  nodup : S.handled.Nodup
  notBuried : ∀ m ∈ S.handled, m ∉ S.deadLetters.map DeadLetter.message
  notRetried : ∀ m, S.pc.unhandled = some m → m ∉ S.handled

/-- No `xack` of a message that has been handled raises. -/
def AcksHandled (S : Consumer) (e : ConsumerEvent) : Prop :=
  match S.pc, e with
  | .acking _ _ _, .replied (.raised _ _) => False
  | _, _ => True

@[simp] theorem ConsumerPc.unhandled_batch (ms : List StreamMessage) :
    (batch ms).unhandled = ms.head? := by
  cases ms with
  | nil => rfl
  | cons m rest => rfl

@[simp] theorem ConsumerPc.unburied_batch (ms : List StreamMessage) :
    (batch ms).unburied = ms.head? := by
  cases ms with
  | nil => rfl
  | cons m rest => rfl

@[simp] theorem ConsumerPc.unhandled_retry (attempt : ℕ) (error : String) (m : StreamMessage)
    (rest : List StreamMessage) : (retry attempt error m rest).unhandled = some m := by
  unfold retry
  split
  · rfl
  · rfl

@[simp] theorem ConsumerPc.unburied_retry (attempt : ℕ) (error : String) (m : StreamMessage)
    (rest : List StreamMessage) : (retry attempt error m rest).unburied = some m := by
  unfold retry
  split
  · rfl
  · rfl

variable {decodeError : StreamMessage → Option String} {S T : Consumer} {e : ConsumerEvent}
  {m : StreamMessage} {rest : List StreamMessage}

namespace Consumer

/-- The message that the consumer has not written to the dead-letter stream is not there. -/
def Unburied (S : Consumer) : Prop :=
  ∀ m, S.pc.unburied = some m → m ∉ S.deadLetters.map DeadLetter.message

theorem unburied_start : start.Unburied := fun _ h => nomatch h

theorem handlesOnce_start : start.HandlesOnce where
  nodup := List.nodup_nil
  notBuried := fun _ h => nomatch h
  notRetried := fun _ h => nomatch h

/-- The head of what is left of the batch is untouched. -/
theorem Sound.untouched_head (h : S.Sound) (hpc : S.pc.inFlight = m :: rest) {x : StreamMessage}
    (hx : rest.head? = some x) : S.Untouched x :=
  h.untouched_rest hpc (List.mem_of_head? hx)

theorem Sound.untouched_batch {batch : List StreamMessage} (h : S.Sound) (hnew : S.IsNew batch)
    {x : StreamMessage} (hx : batch.head? = some x) : S.Untouched x :=
  h.untouched x (.inl (hnew.2.2 x (List.mem_of_head? hx)))

theorem mem_deadLetters_bury {x : StreamMessage} {message : String} {r : RedisReply}
    {pc : ConsumerPc} (h : x ∈ (S.bury m message r pc).deadLetters.map DeadLetter.message) :
    x = m ∨ x ∈ S.deadLetters.map DeadLetter.message := by
  unfold bury at h
  split at h
  · exact List.mem_cons.1 h
  · exact .inr h

/-- A step that handles and buries nothing. -/
theorem HandlesOnce.of_pc (h : S.HandlesOnce) (hhandled : T.handled = S.handled)
    (hburied : T.deadLetters = S.deadLetters)
    (hretried : ∀ m, T.pc.unhandled = some m → m ∉ S.handled) : T.HandlesOnce where
  nodup := hhandled ▸ h.nodup
  notBuried := by
    rw [hhandled, hburied]
    exact h.notBuried
  notRetried := by
    rw [hhandled]
    exact hretried

/-- A message that is not handled can go to the dead-letter stream. -/
theorem HandlesOnce.bury (h : S.HandlesOnce) (hm : m ∉ S.handled) {message : String}
    {r : RedisReply} {pc : ConsumerPc} (hpc : pc.unhandled = none) :
    (S.bury m message r pc).HandlesOnce where
  nodup := h.nodup
  notBuried := by
    intro x hx hburied
    rcases mem_deadLetters_bury hburied with rfl | hburied
    · exact hm hx
    · exact h.notBuried x hx hburied
  notRetried := by
    intro x hx
    rw [show (S.bury m message r pc).pc = pc from rfl, hpc] at hx
    cases hx

end Consumer

open Consumer in
/-- A message is in the dead-letter stream only after the consumer has written it there. -/
theorem ConsumerStep.unburied (hstep : ConsumerStep decodeError S e T) (hS : S.Sound)
    (h : S.Unburied) : T.Unburied := by
  have hsame : ∀ {m : StreamMessage}, S.pc.unburied = some m → T.deadLetters = S.deadLetters →
      T.pc.unburied = some m → T.Unburied := by
    intro m hm hburied hpc x hx
    rw [hpc] at hx
    cases hx
    rw [hburied]
    exact h m hm
  cases hstep with
  | reads hpc hnew =>
      intro x hx
      rw [ConsumerPc.unburied_batch] at hx
      exact (hS.untouched_batch hnew hx).2
  | pauses => exact fun _ hx => nomatch hx
  | handles hpc => exact hsame (by rw [hpc]; rfl) rfl rfl
  | fails message hpc => exact hsame (by rw [hpc]; rfl) rfl (ConsumerPc.unburied_retry ..)
  | acks hpc =>
      intro x hx
      rw [Consumer.ack, ConsumerPc.unburied_batch] at hx
      exact (hS.untouched_head (by rw [hpc]; rfl) hx).2
  | failsToAck applied error hpc =>
      exact hsame (by rw [hpc]; rfl) rfl (ConsumerPc.unburied_retry ..)
  | tries hpc => exact hsame (by rw [hpc]; rfl) rfl rfl
  | buries => exact fun _ hx => nomatch hx
  | failsToBury => exact fun _ hx => nomatch hx
  | releases hpc =>
      intro x hx
      rw [Consumer.ack, ConsumerPc.unburied_batch] at hx
      exact (hS.untouched_head (by rw [hpc]; rfl) hx).2
  | failsToRelease => exact fun _ hx => nomatch hx
  | resumes => exact fun _ hx => nomatch hx
  | stops => exact fun _ hx => nomatch hx

open Consumer in
/-- Of the steps of a consumer that handles its messages once only an `xack` that raises lets it
go on to handle or bury a message that it has handled. -/
theorem ConsumerStep.handlesOnce_iff (hstep : ConsumerStep decodeError S e T) (hS : S.Sound)
    (hunburied : S.Unburied) (h : S.HandlesOnce) : T.HandlesOnce ↔ AcksHandled S e := by
  have hkeeps : AcksHandled S e → T.HandlesOnce → (T.HandlesOnce ↔ AcksHandled S e) :=
    fun hacks hT => iff_of_true hT hacks
  cases hstep with
  | reads hpc hnew =>
      refine hkeeps (by simp [AcksHandled, hpc]) (h.of_pc rfl rfl fun x hx => ?_)
      rw [ConsumerPc.unhandled_batch] at hx
      exact (hS.untouched_batch hnew hx).1
  | pauses hpc =>
      exact hkeeps (by simp [AcksHandled, hpc]) (h.of_pc rfl rfl fun _ hx => nomatch hx)
  | @handles attempt m rest hpc =>
      have hm : m ∉ S.handled := h.notRetried m (by rw [hpc]; rfl)
      refine hkeeps (by simp [AcksHandled, hpc]) ⟨List.nodup_cons.2 ⟨hm, h.nodup⟩, ?_, ?_⟩
      · intro x hx
        rcases List.mem_cons.1 hx with rfl | hx
        · exact hunburied x (by rw [hpc]; rfl)
        · exact h.notBuried x hx
      · exact fun _ hx => nomatch hx
  | @fails attempt m rest error message hpc =>
      refine hkeeps (by simp [AcksHandled, hpc]) (h.of_pc rfl rfl fun x hx => ?_)
      rw [ConsumerPc.unhandled_retry] at hx
      cases hx
      exact h.notRetried m (by rw [hpc]; rfl)
  | acks hpc =>
      refine hkeeps (by simp [AcksHandled, hpc]) (h.of_pc rfl rfl fun x hx => ?_)
      rw [Consumer.ack, ConsumerPc.unhandled_batch] at hx
      exact (hS.untouched_head (by rw [hpc]; rfl) hx).1
  | @failsToAck attempt m rest applied error hpc =>
      have hhandled := hS.knows
      rw [hpc] at hhandled
      refine iff_of_false (fun hT => ?_) (by simp [AcksHandled, hpc])
      exact hT.notRetried m (ConsumerPc.unhandled_retry ..) hhandled
  | @tries attempt m rest hpc =>
      refine hkeeps (by simp [AcksHandled, hpc]) (h.of_pc rfl rfl fun x hx => ?_)
      cases hx
      exact h.notRetried m (by rw [hpc]; rfl)
  | @buries message m rest hpc =>
      exact hkeeps (by simp [AcksHandled, hpc])
        (h.bury (h.notRetried m (by rw [hpc]; rfl)) rfl)
  | @failsToBury message m rest applied error hpc =>
      exact hkeeps (by simp [AcksHandled, hpc])
        (h.bury (h.notRetried m (by rw [hpc]; rfl)) rfl)
  | releases hpc =>
      refine hkeeps (by simp [AcksHandled, hpc]) (h.of_pc rfl rfl fun x hx => ?_)
      rw [Consumer.ack, ConsumerPc.unhandled_batch] at hx
      exact (hS.untouched_head (by rw [hpc]; rfl) hx).1
  | failsToRelease applied error hpc =>
      exact hkeeps (by simp [AcksHandled, hpc]) (h.of_pc rfl rfl fun _ hx => nomatch hx)
  | resumes hpc =>
      exact hkeeps (by simp [AcksHandled, hpc]) (h.of_pc rfl rfl fun _ hx => nomatch hx)
  | stops => exact hkeeps (by simp [AcksHandled]) (h.of_pc rfl rfl fun _ hx => nomatch hx)

/-- Along a run the consumer handles its messages once exactly when no `xack` of a message that
has been handled raises. -/
theorem handlesOnce_along_iff {events : List ConsumerEvent}
    (hrun : (consumerMachine decodeError).run .start events = some S) :
    (consumerMachine decodeError).Along Consumer.HandlesOnce .start events ↔
      (consumerMachine decodeError).Guarded AcksHandled .start events := by
  refine (consumerMachine decodeError).along_iff_guarded
    (I := fun S => S.Sound ∧ S.Unburied) (fun S e T hS hnext => ?_) (fun S e T hS h hnext => ?_)
    ⟨Consumer.sound_start, Consumer.unburied_start⟩ Consumer.handlesOnce_start hrun
  · have hstep := consumerStep_of_next hnext
    exact ⟨(hstep.sound_and_settlesPassed_iff hS.1).1, hstep.unburied hS.1 hS.2⟩
  · exact (consumerStep_of_next hnext).handlesOnce_iff hS.1 hS.2 h

theorem handlesOnce_along_iff_retried :
    ∃ S, (consumerMachine fun _ => none).run .start
        [.delivered [⟨1, none⟩], .handled (some "timeout"), .slept, .handled none,
          .replied .done] = some S ∧
      ((consumerMachine fun _ => none).Along Consumer.HandlesOnce .start
          [.delivered [⟨1, none⟩], .handled (some "timeout"), .slept, .handled none,
            .replied .done] ↔
        (consumerMachine fun _ => none).Guarded AcksHandled .start
          [.delivered [⟨1, none⟩], .handled (some "timeout"), .slept, .handled none,
            .replied .done]) :=
  ⟨_, rfl, @handlesOnce_along_iff (fun _ => none) _ [.delivered [⟨1, none⟩],
    .handled (some "timeout"), .slept, .handled none, .replied .done] rfl⟩

/-- Three attempts at an `xack` that raises. -/
def threeAckFailures : List ConsumerEvent :=
  [.handled none, .replied (.raised false "connection lost"), .slept,
    .handled none, .replied (.raised false "connection lost"), .slept,
    .handled none, .replied (.raised false "connection lost")]

/-- The handler has taken the message three times, and then the message is dead-lettered. -/
theorem not_forall_handlesOnce :
    ¬ ∀ (decodeError : StreamMessage → Option String) (events : List ConsumerEvent)
      (S : Consumer), (consumerMachine decodeError).run .start events = some S →
        S.handled.Nodup ∧ ∀ m ∈ S.handled, m ∉ S.deadLetters.map DeadLetter.message := by
  intro h
  have honce := h (fun _ => none)
    (.delivered [⟨1, none⟩] :: threeAckFailures ++ [.replied .done, .replied .done]) _ rfl
  revert honce
  decide

end Sgr
