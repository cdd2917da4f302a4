import Sgr.Core.EventBus

/-!
# What becomes of delivered messages

A message that a consumer leaves behind is not delivered again. So a consumer that comes
back to `xreadgroup` has settled all messages exactly when no exception has left its
recovery path with messages of the batch still to come.
-/

open Concurrency

namespace Sgr

variable {decodeError : StreamMessage → Option String} {S T : Consumer} {e : ConsumerEvent}

/-! ### What a step does -/

/-- A step of the consumer loop, with what it has found. -/
inductive ConsumerStep (decodeError : StreamMessage → Option String) (S : Consumer) :
    ConsumerEvent → Consumer → Prop
  | reads {batch : List StreamMessage} (hpc : S.pc = .reading) (hnew : S.IsNew batch) :
      ConsumerStep decodeError S (.delivered batch)
        { S with pc := .batch batch, delivered := batch ++ S.delivered }
  | pauses (hpc : S.pc = .reading) :
      ConsumerStep decodeError S .readRaised { S with pc := .pausing }
  | handles {attempt : ℕ} {m : StreamMessage} {rest : List StreamMessage}
      (hpc : S.pc = .handling attempt m rest) :
      ConsumerStep decodeError S (.handled none)
        { S with pc := .acking attempt m rest, handled := m :: S.handled }
  | fails {attempt : ℕ} {m : StreamMessage} {rest : List StreamMessage}
      {error : Option String} (message : String) (hpc : S.pc = .handling attempt m rest) :
      ConsumerStep decodeError S (.handled error)
        { S with pc := .retry attempt message m rest }
  | acks {attempt : ℕ} {m : StreamMessage} {rest : List StreamMessage}
      (hpc : S.pc = .acking attempt m rest) :
      ConsumerStep decodeError S (.replied .done) (S.ack m .done (.batch rest))
  | failsToAck {attempt : ℕ} {m : StreamMessage} {rest : List StreamMessage}
      (applied : Bool) (error : String) (hpc : S.pc = .acking attempt m rest) :
      ConsumerStep decodeError S (.replied (.raised applied error))
        (S.ack m (.raised applied error) (.retry attempt error m rest))
  | tries {attempt : ℕ} {m : StreamMessage} {rest : List StreamMessage}
      (hpc : S.pc = .backingOff attempt m rest) :
      ConsumerStep decodeError S .slept { S with pc := .handling (attempt + 1) m rest }
  | buries {message : String} {m : StreamMessage} {rest : List StreamMessage}
      (hpc : S.pc = .burying message m rest) :
      ConsumerStep decodeError S (.replied .done) (S.bury m message .done (.releasing m rest))
  | failsToBury {message : String} {m : StreamMessage} {rest : List StreamMessage}
      (applied : Bool) (error : String) (hpc : S.pc = .burying message m rest) :
      ConsumerStep decodeError S (.replied (.raised applied error))
        (S.bury m message (.raised applied error) .pausing)
  | releases {m : StreamMessage} {rest : List StreamMessage} (hpc : S.pc = .releasing m rest) :
      ConsumerStep decodeError S (.replied .done) (S.ack m .done (.batch rest))
  | failsToRelease {m : StreamMessage} {rest : List StreamMessage} (applied : Bool)
      (error : String) (hpc : S.pc = .releasing m rest) :
      ConsumerStep decodeError S (.replied (.raised applied error))
        (S.ack m (.raised applied error) .pausing)
  | resumes (hpc : S.pc = .pausing) :
      ConsumerStep decodeError S .slept { S with pc := .reading }
  | stops : ConsumerStep decodeError S .cancelled { S with pc := .cancelled S.pc.inFlight }

theorem consumerStep_of_next (h : (consumerMachine decodeError).next S e = some T) :
    ConsumerStep decodeError S e T := by
  cases e with
  | delivered batch =>
      dsimp only [consumerMachine] at h
      split at h
      next hpc =>
        split at h
        next hnew =>
          obtain rfl := Option.some.inj h
          exact .reads hpc hnew
        next => cases h
      next => cases h
  | readRaised =>
      dsimp only [consumerMachine] at h
      split at h
      next hpc =>
        obtain rfl := Option.some.inj h
        exact .pauses hpc
      next => cases h
  | handled error =>
      dsimp only [consumerMachine] at h
      split at h
      next hpc =>
        split at h
        next hnone =>
          obtain rfl := Option.some.inj h
          obtain ⟨-, rfl⟩ := Option.or_eq_none_iff.1 hnone
          exact .handles hpc
        next message hsome =>
          obtain rfl := Option.some.inj h
          exact .fails message hpc
      next => cases h
  | replied r =>
      dsimp only [consumerMachine] at h
      split at h
      next hpc => exact Option.some.inj h ▸ .acks hpc
      next hpc => exact Option.some.inj h ▸ .failsToAck _ _ hpc
      next hpc => exact Option.some.inj h ▸ .buries hpc
      next hpc => exact Option.some.inj h ▸ .failsToBury _ _ hpc
      next hpc => exact Option.some.inj h ▸ .releases hpc
      next hpc => exact Option.some.inj h ▸ .failsToRelease _ _ hpc
      next => cases h
  | slept =>
      dsimp only [consumerMachine] at h
      split at h
      next hpc => exact Option.some.inj h ▸ .tries hpc
      next hpc => exact Option.some.inj h ▸ .resumes hpc
      next => cases h
  | cancelled =>
      obtain rfl := Option.some.inj h
      exact .stops

/-! ### The invariant -/

/-- The messages of the batch that the consumer has not come to. -/
def ConsumerPc.rest (pc : ConsumerPc) : List StreamMessage := pc.inFlight.tail

namespace Consumer

/-- Nothing has become of the message yet. -/
def Untouched (S : Consumer) (m : StreamMessage) : Prop :=
  m ∉ S.handled ∧ m ∉ S.deadLetters.map DeadLetter.message

/-- What a consumer knows of the message that it acknowledges. -/
def Knows (S : Consumer) : ConsumerPc → Prop
  | .acking _ m _ => m ∈ S.handled
  | .releasing m _ => m ∈ S.deadLetters.map DeadLetter.message
  | _ => True

/-- The messages that the consumer is at have been delivered to it, and nothing has become
of those that it has not come to. -/
structure Sound (S : Consumer) : Prop where
  nodup : S.pc.inFlight.Nodup
  delivered : ∀ m ∈ S.pc.inFlight, m ∈ S.delivered
  untouched : ∀ m, m ∉ S.delivered ∨ m ∈ S.pc.rest → S.Untouched m
  knows : S.Knows S.pc

/-- Every message is settled that the consumer is not at any more. -/
def SettlesPassed (S : Consumer) : Prop :=
  ∀ m ∈ S.delivered, m ∉ S.pc.inFlight → S.Settled m

/-- A step that changes at most what has become of one message. -/
structure Touches (S T : Consumer) (m : StreamMessage) : Prop where
  delivered : T.delivered = S.delivered
  handled : ∀ x, x ≠ m → (x ∈ T.handled ↔ x ∈ S.handled)
  acked : ∀ x, x ≠ m → (x ∈ T.acked ↔ x ∈ S.acked)
  buried : ∀ x, x ≠ m → (x ∈ T.deadLetters.map DeadLetter.message ↔
    x ∈ S.deadLetters.map DeadLetter.message)

variable {m x : StreamMessage} {rest : List StreamMessage}

theorem Untouched.not_settled (h : S.Untouched m) : ¬ S.Settled m := by
  rintro (⟨hhandled, -⟩ | hbury)
  · exact h.1 hhandled
  · exact h.2 hbury

theorem sound_start : start.Sound where
  nodup := List.nodup_nil
  delivered := fun _ h => nomatch h
  untouched := fun _ _ => ⟨List.not_mem_nil, List.not_mem_nil⟩
  knows := trivial

theorem knows_batch (S : Consumer) (ms : List StreamMessage) : S.Knows (.batch ms) := by
  cases ms with
  | nil => trivial
  | cons m rest => trivial

theorem knows_retry (S : Consumer) (attempt : ℕ) (error : String) (m : StreamMessage)
    (rest : List StreamMessage) : S.Knows (.retry attempt error m rest) := by
  unfold ConsumerPc.retry
  split
  · trivial
  · trivial

namespace Touches

theorem of_pc (S : Consumer) (m : StreamMessage) (pc : ConsumerPc) :
    S.Touches { S with pc := pc } m :=
  ⟨rfl, fun _ _ => Iff.rfl, fun _ _ => Iff.rfl, fun _ _ => Iff.rfl⟩

theorem handle (S : Consumer) (m : StreamMessage) (pc : ConsumerPc) :
    S.Touches { S with pc := pc, handled := m :: S.handled } m where
  delivered := rfl
  handled := fun x hx => by simp [hx]
  acked := fun _ _ => Iff.rfl
  buried := fun _ _ => Iff.rfl

theorem ack (S : Consumer) (m : StreamMessage) (r : RedisReply) (pc : ConsumerPc) :
    S.Touches (S.ack m r pc) m where
  delivered := rfl
  handled := fun _ _ => Iff.rfl
  acked := fun x hx => by
    unfold Consumer.ack
    split
    · simp [hx]
    · rfl
  buried := fun _ _ => Iff.rfl

theorem bury (S : Consumer) (m : StreamMessage) (error : String) (r : RedisReply)
    (pc : ConsumerPc) : S.Touches (S.bury m error r pc) m where
  delivered := rfl
  handled := fun _ _ => Iff.rfl
  acked := fun _ _ => Iff.rfl
  buried := fun x hx => by
    unfold Consumer.bury
    split
    · simp [hx]
    · rfl

theorem settled_iff (h : S.Touches T m) (hx : x ≠ m) : T.Settled x ↔ S.Settled x := by
  rw [Settled, Settled, h.handled x hx, h.acked x hx, h.buried x hx]

theorem untouched_iff (h : S.Touches T m) (hx : x ≠ m) : T.Untouched x ↔ S.Untouched x := by
  rw [Untouched, Untouched, h.handled x hx, h.buried x hx]

end Touches

/-- What is left of the batch is another message than the one the consumer is at. -/
theorem Sound.ne_of_mem_rest (h : S.Sound) (hpc : S.pc.inFlight = m :: rest)
    (hx : x ∈ rest) : x ≠ m := by
  have hnodup := h.nodup
  rw [hpc, List.nodup_cons] at hnodup
  rintro rfl
  exact hnodup.1 hx

theorem Sound.untouched_rest (h : S.Sound) (hpc : S.pc.inFlight = m :: rest)
    (hx : x ∈ rest) : S.Untouched x := by
  apply h.untouched x
  right
  rw [ConsumerPc.rest, hpc]
  exact hx

/-- A consumer that goes on in its batch, or leaves it. -/
theorem Sound.touches (h : S.Sound) (hpc : S.pc.inFlight = m :: rest) (ht : S.Touches T m)
    (hsub : T.pc.inFlight.Sublist (m :: rest)) (hrest : ∀ x ∈ T.pc.rest, x ∈ rest)
    (hknows : T.Knows T.pc) : T.Sound where
  nodup := (hpc ▸ h.nodup).sublist hsub
  delivered := fun x hx => by
    rw [ht.delivered]
    apply h.delivered x
    rw [hpc]
    exact hsub.subset hx
  untouched := fun x hx => by
    rw [ht.delivered] at hx
    have hm : m ∈ S.delivered := h.delivered m (by rw [hpc]; exact List.mem_cons_self)
    rcases hx with hx | hx
    · have hne : x ≠ m := fun heq => hx (heq ▸ hm)
      exact (ht.untouched_iff hne).2 (h.untouched x (.inl hx))
    · have hmem := hrest x hx
      exact (ht.untouched_iff (h.ne_of_mem_rest hpc hmem)).2 (h.untouched_rest hpc hmem)
  knows := hknows

/-- What the consumer leaves behind is settled exactly when the message that it was at is,
and no other is left behind. -/
theorem Sound.settlesPassed_iff (h : S.Sound) (hpc : S.pc.inFlight = m :: rest)
    (ht : S.Touches T m) (hsub : T.pc.inFlight.Sublist (m :: rest)) :
    T.SettlesPassed ↔ S.SettlesPassed ∧ (m ∉ T.pc.inFlight → T.Settled m) ∧
      ∀ x ∈ rest, x ∈ T.pc.inFlight := by
  constructor
  · intro hT
    refine ⟨fun x hx hleft => ?_, fun hleft => ?_, fun x hx => ?_⟩
    · rw [hpc] at hleft
      have hne : x ≠ m := fun heq => hleft (heq ▸ List.mem_cons_self)
      rw [← ht.settled_iff hne]
      exact hT x (ht.delivered ▸ hx) fun hmem => hleft (hsub.subset hmem)
    · refine hT m ?_ hleft
      rw [ht.delivered]
      exact h.delivered m (by rw [hpc]; exact List.mem_cons_self)
    · by_contra hleft
      have hne := h.ne_of_mem_rest hpc hx
      refine (h.untouched_rest hpc hx).not_settled ((ht.settled_iff hne).1 (hT x ?_ hleft))
      rw [ht.delivered]
      exact h.delivered x (by rw [hpc]; exact List.mem_cons_of_mem m hx)
  · rintro ⟨hS, hm, hrest⟩ x hx hleft
    by_cases hne : x = m
    · subst hne
      exact hm hleft
    · rw [ht.settled_iff hne]
      refine hS x (ht.delivered ▸ hx) ?_
      rw [hpc, List.mem_cons]
      rintro (heq | hmem)
      · exact hne heq
      · exact hleft (hrest x hmem)

/-! ### What a step preserves -/

/-- A step that goes on with the message. -/
theorem Sound.stays (h : S.Sound) (hpc : S.pc.inFlight = m :: rest) (ht : S.Touches T m)
    (hstay : T.pc.inFlight = m :: rest) (hknows : T.Knows T.pc) :
    T.Sound ∧ (T.SettlesPassed ↔ S.SettlesPassed) := by
  have hsub : T.pc.inFlight.Sublist (m :: rest) := hstay ▸ List.Sublist.refl _
  refine ⟨h.touches hpc ht hsub (fun x hx => ?_) hknows, ?_⟩
  · rwa [ConsumerPc.rest, hstay, List.tail_cons] at hx
  · rw [h.settlesPassed_iff hpc ht hsub, hstay]
    constructor
    · exact fun hT => hT.1
    · intro hS
      exact ⟨hS, fun hleft => absurd List.mem_cons_self hleft,
        fun x hx => List.mem_cons_of_mem m hx⟩

/-- A step that settles the message and goes on with what is left of the batch. -/
theorem Sound.advances (h : S.Sound) (hpc : S.pc.inFlight = m :: rest) (ht : S.Touches T m)
    (hnext : T.pc.inFlight = rest) (hknows : T.Knows T.pc) (hsettled : T.Settled m) :
    T.Sound ∧ (T.SettlesPassed ↔ S.SettlesPassed) := by
  have hsub : T.pc.inFlight.Sublist (m :: rest) := hnext ▸ List.sublist_cons_self m rest
  refine ⟨h.touches hpc ht hsub (fun x hx => ?_) hknows, ?_⟩
  · rw [ConsumerPc.rest, hnext] at hx
    exact List.mem_of_mem_tail hx
  · rw [h.settlesPassed_iff hpc ht hsub, hnext]
    constructor
    · exact fun hT => hT.1
    · exact fun hS => ⟨hS, fun _ => hsettled, fun x hx => hx⟩

/-- A step that leaves the batch with the message. -/
theorem Sound.leaves (h : S.Sound) (hpc : S.pc.inFlight = m :: rest) (ht : S.Touches T m)
    (hleft : T.pc.inFlight = []) (hknows : T.Knows T.pc) :
    T.Sound ∧ (T.SettlesPassed ↔ S.SettlesPassed ∧ T.Settled m ∧ rest = []) := by
  have hsub : T.pc.inFlight.Sublist (m :: rest) := hleft ▸ List.nil_sublist _
  refine ⟨h.touches hpc ht hsub (fun x hx => ?_) hknows, ?_⟩
  · rw [ConsumerPc.rest, hleft] at hx
    exact absurd hx List.not_mem_nil
  · rw [h.settlesPassed_iff hpc ht hsub, hleft]
    simp only [List.not_mem_nil, not_false_eq_true, forall_true_left, imp_false,
      ← List.eq_nil_iff_forall_not_mem]

theorem settled_bury_raised_iff (S : Consumer) (m : StreamMessage) (message : String)
    (applied : Bool) (error : String) (pc : ConsumerPc) :
    (S.bury m message (.raised applied error) pc).Settled m ↔ applied = true ∨ S.Settled m := by
  cases applied with
  | true => simp [bury, RedisReply.applied, Settled]
  | false => simp [bury, RedisReply.applied, Settled]

/-- The messages that are read with a batch are all in flight. -/
theorem Sound.read {batch : List StreamMessage} (h : S.Sound) (hnew : S.IsNew batch) :
    Sound { S with pc := .batch batch, delivered := batch ++ S.delivered } where
  nodup := by simpa using hnew.2.1
  delivered := fun x hx => by
    rw [ConsumerPc.inFlight_batch] at hx
    exact List.mem_append_left _ hx
  untouched := fun x hx => by
    apply h.untouched x
    left
    rcases hx with hx | hx
    · exact fun hmem => hx (List.mem_append_right _ hmem)
    · rw [ConsumerPc.rest, ConsumerPc.inFlight_batch] at hx
      exact hnew.2.2 x (List.mem_of_mem_tail hx)
  knows := knows_batch _ batch

theorem settlesPassed_read_iff {batch : List StreamMessage} (hpc : S.pc = .reading)
    (hnew : S.IsNew batch) :
    SettlesPassed { S with pc := .batch batch, delivered := batch ++ S.delivered } ↔
      S.SettlesPassed := by
  have hempty : S.pc.inFlight = [] := by rw [hpc]; rfl
  constructor
  · intro h m hm _
    refine h m (List.mem_append_right _ hm) ?_
    rw [ConsumerPc.inFlight_batch]
    exact fun hbatch => hnew.2.2 m hbatch hm
  · intro h m hm hleft
    rw [ConsumerPc.inFlight_batch] at hleft
    rcases List.mem_append.1 hm with hbatch | hold
    · exact absurd hbatch hleft
    · refine h m hold ?_
      rw [hempty]
      exact List.not_mem_nil

/-- A pause changes nothing about the messages. -/
theorem Sound.of_pc (h : S.Sound) {pc : ConsumerPc} (heq : pc.inFlight = S.pc.inFlight)
    (hknows : S.Knows pc) :
    Sound { S with pc := pc } ∧ (SettlesPassed { S with pc := pc } ↔ S.SettlesPassed) := by
  refine ⟨⟨heq ▸ h.nodup, fun m hm => h.delivered m (heq ▸ hm), fun m hm => ?_, hknows⟩, ?_⟩
  · refine h.untouched m (hm.imp_right fun hrest => ?_)
    rwa [ConsumerPc.rest, heq] at hrest
  · simp only [SettlesPassed, heq]
    rfl

end Consumer

open Consumer in
theorem ConsumerStep.sound_and_settlesPassed_iff (hstep : ConsumerStep decodeError S e T)
    (hS : S.Sound) : T.Sound ∧ (T.SettlesPassed ↔ S.SettlesPassed ∧ RecoversLast S e) := by
  have hgo : RecoversLast S e → T.Sound ∧ (T.SettlesPassed ↔ S.SettlesPassed) →
      T.Sound ∧ (T.SettlesPassed ↔ S.SettlesPassed ∧ RecoversLast S e) :=
    fun hrecovers h => ⟨h.1, h.2.trans (and_iff_left hrecovers).symm⟩
  cases hstep with
  | reads hpc hnew =>
      apply hgo
      · simp [RecoversLast, hpc]
      · exact ⟨hS.read hnew, settlesPassed_read_iff hpc hnew⟩
  | pauses hpc =>
      apply hgo
      · simp [RecoversLast, hpc]
      · exact hS.of_pc (by rw [hpc]; rfl) trivial
  | handles hpc =>
      apply hgo
      · simp [RecoversLast, hpc]
      · exact hS.stays (by rw [hpc]; rfl) (.handle S _ _) rfl List.mem_cons_self
  | fails message hpc =>
      apply hgo
      · simp [RecoversLast, hpc]
      · exact hS.stays (by rw [hpc]; rfl) (.of_pc S _ _) (ConsumerPc.inFlight_retry ..)
          (knows_retry ..)
  | acks hpc =>
      apply hgo
      · simp [RecoversLast, hpc]
      · have hhandled := hS.knows
        rw [hpc] at hhandled
        exact hS.advances (by rw [hpc]; rfl) (.ack S _ _ _) (ConsumerPc.inFlight_batch _)
          (knows_batch ..) (.inl ⟨hhandled, List.mem_cons_self⟩)
  | failsToAck applied error hpc =>
      apply hgo
      · simp [RecoversLast, hpc]
      · exact hS.stays (by rw [hpc]; rfl) (.ack S _ _ _) (ConsumerPc.inFlight_retry ..)
          (knows_retry ..)
  | tries hpc =>
      apply hgo
      · simp [RecoversLast, hpc]
      · exact hS.stays (by rw [hpc]; rfl) (.of_pc S _ _) rfl trivial
  | buries hpc =>
      apply hgo
      · simp [RecoversLast, hpc]
      · exact hS.stays (by rw [hpc]; rfl) (.bury S _ _ _ _) rfl List.mem_cons_self
  | @failsToBury message m rest applied error hpc =>
      have hleaves := hS.leaves (by rw [hpc]; rfl)
        (.bury S m message (.raised applied error) .pausing) rfl trivial
      rw [settled_bury_raised_iff, and_comm (a := applied = true ∨ S.Settled m)] at hleaves
      simpa only [RecoversLast, hpc] using hleaves
  | releases hpc =>
      apply hgo
      · simp [RecoversLast, hpc]
      · have hburied := hS.knows
        rw [hpc] at hburied
        exact hS.advances (by rw [hpc]; rfl) (.ack S _ _ _) (ConsumerPc.inFlight_batch _)
          (knows_batch ..) (.inr hburied)
  | @failsToRelease m rest applied error hpc =>
      have hburied := hS.knows
      rw [hpc] at hburied
      have hleaves := hS.leaves (by rw [hpc]; rfl) (.ack S m (.raised applied error) .pausing)
        rfl trivial
      have hsettled : (S.ack m (.raised applied error) .pausing).Settled m := .inr hburied
      simpa only [RecoversLast, hpc, hsettled, true_and] using hleaves
  | resumes hpc =>
      apply hgo
      · simp [RecoversLast, hpc]
      · exact hS.of_pc (by rw [hpc]; rfl) trivial
  | stops =>
      apply hgo
      · simp [RecoversLast]
      · exact hS.of_pc rfl trivial

/-! ### Runs -/

instance (S : Consumer) (e : ConsumerEvent) : Decidable (RecoversLast S e) := by
  unfold RecoversLast
  split
  · infer_instance
  · infer_instance
  · infer_instance

/-- A consumer that is about to read again has settled all messages that were delivered to
it exactly when no call of its recovery path has left messages behind. -/
theorem settles_delivered_iff {events : List ConsumerEvent}
    (hrun : (consumerMachine decodeError).run .start events = some S) (hpc : S.pc = .reading) :
    (∀ m ∈ S.delivered, S.Settled m) ↔
      (consumerMachine decodeError).Guarded RecoversLast .start events := by
  have hiff : S.SettlesPassed ↔ Consumer.start.SettlesPassed ∧
      (consumerMachine decodeError).Guarded RecoversLast .start events :=
    (consumerMachine decodeError).run_iff_guarded
      (I := Consumer.Sound) (φ := Consumer.SettlesPassed)
      (fun S e T hS hnext => ((consumerStep_of_next hnext).sound_and_settlesPassed_iff hS).1)
      (fun S e T hS hnext => ((consumerStep_of_next hnext).sound_and_settlesPassed_iff hS).2)
      Consumer.sound_start hrun
  have hstart : Consumer.start.SettlesPassed := fun _ hm => absurd hm List.not_mem_nil
  rw [← (and_iff_right hstart : _ ↔ (consumerMachine decodeError).Guarded _ _ _), ← hiff,
    Consumer.SettlesPassed, hpc]
  simp [ConsumerPc.inFlight]

/-- Three attempts at a message whose handler raises. -/
def threeFailures : List ConsumerEvent :=
  [.handled (some "timeout"), .slept, .handled (some "timeout"), .slept,
    .handled (some "timeout")]

theorem settles_delivered_iff_bury_first :
    ∃ S, (consumerMachine fun _ => none).run .start
        (.delivered [⟨1, none⟩, ⟨2, none⟩] :: threeFailures ++
          [.replied .done, .replied .done, .handled none, .replied .done]) = some S ∧
      ((∀ m ∈ S.delivered, S.Settled m) ↔
        (consumerMachine fun _ => none).Guarded RecoversLast .start
          (.delivered [⟨1, none⟩, ⟨2, none⟩] :: threeFailures ++
            [.replied .done, .replied .done, .handled none, .replied .done])) :=
  ⟨_, rfl, @settles_delivered_iff (fun _ => none) _
    (.delivered [⟨1, none⟩, ⟨2, none⟩] :: threeFailures ++
      [.replied .done, .replied .done, .handled none, .replied .done]) rfl rfl⟩

/-- The second message of the batch is not read again, after the first could not be written
to the dead-letter stream. -/
theorem not_settles_delivered :
    ¬ ∀ (decodeError : StreamMessage → Option String) (events : List ConsumerEvent)
      (S : Consumer), (consumerMachine decodeError).run .start events = some S →
        S.pc = .reading → ∀ m ∈ S.delivered, S.Settled m := by
  intro h
  have hsettled := h (fun _ => none)
    (.delivered [⟨1, none⟩, ⟨2, none⟩] :: threeFailures ++
      [.replied (.raised false "connection lost"), .slept]) _ rfl rfl ⟨2, none⟩ (by decide)
  revert hsettled
  decide

end Sgr
