import Sgr.Concurrency.Machine
import Sgr.Exchange.CcxtOrders
import Sgr.Execution.Engine.Steps

/-!
# Fills while an order is monitored

`_monitor_fill` next to the exchange that fills the order. When the engine gives the
order up, at the timeout or because of the kill switch, it cancels the order and returns
the result of the last poll that was answered; after the cancellation it does not ask
again. What the exchange fills after it has read the order for that answer is missing
from the result.
-/

open Collection Concurrency

namespace Sgr

/-- An order that is monitored, and the order on the exchange. -/
structure MonitorState where
  engine : EngineState
  pc : CallPc
  book : BookOrder
  /-- The answer to the poll under way, on its way to the client. -/
  answer : Option RawOrder := none
  /-- The engine has given the order up. -/
  cancels : Bool := false

/-- The engine awaits `_cancel_order`. -/
def CallPc.isCancelling : CallPc → Bool
  | .cancelling _ => true
  | _ => false

/-- The monitoring goes on after a segment of the call. -/
def MonitorState.continue (w : MonitorState) (c : EngineState × CallPc) : MonitorState :=
  { w with
    engine := c.1
    pc := c.2
    answer := none
    cancels := w.cancels || c.2.isCancelling }

/-- What happens while an order is monitored. -/
inductive MonitorEvent
  /-- The exchange fills a part of the order. -/
  | fill (quantity : ℚ)
  /-- The order ends on the exchange: a cancellation takes effect, or it expires. -/
  | ends (status : BookStatus)
  /-- The exchange reads the order for the poll. -/
  | reads
  /-- The answer arrives; the result gets an id of its own when the exchange does not know
  that of the client. -/
  | answered (id : UUID)
  /-- The engine goes on: a sleep is over, a poll fails, the cancellation is answered or has
  failed, the database answers. -/
  | call (e : CallEvent)
  /-- The kill switch is set. -/
  | trigger

/-- The monitoring of the order `o`. -/
def monitorMachine (cfg : EngineConfig) (o : OrderRequest) (bypass : Bool) :
    Machine MonitorState MonitorEvent where
  next w e :=
    match e with
    | .fill quantity =>
        if w.book.status = .open ∧ 0 < quantity ∧ w.book.filled + quantity ≤ w.book.amount then
          some { w with book := w.book.fill quantity }
        else none
    | .ends status =>
        if w.book.status = .open ∧ status ≠ .open then
          some { w with book := w.book.finish status }
        else none
    | .reads =>
        match w.pc with
        | .polling _ _ => some { w with answer := some w.book.raw }
        | _ => none
    | .answered id =>
        w.answer.bind fun raw =>
          (callSegment cfg o bypass w.engine w.pc
            (.polled (parseOrderResult cfg.mode raw { o with id := id }))).map w.continue
    | .call (.polled _) => none
    | .call e => (callSegment cfg o bypass w.engine w.pc e).map w.continue
    | .trigger => some { w with engine := { w.engine with killSwitch := true } }

/-- The monitoring starts when the exchange has answered `place_order` with the state of
the order `b`. -/
def monitorStart (cfg : EngineConfig) (o : OrderRequest) (s : EngineState) (b : BookOrder) :
    MonitorState :=
  MonitorState.continue { engine := s, pc := .safe o.amount .submitting, book := b }
    (handleResult o s (parseOrderResult cfg.mode b.raw o))

/-- Whether there was a fill since the exchange last read the order for a poll, and since
it read it for the last answer that arrived. -/
structure Seen where
  sinceRead : Bool := false
  sinceAnswer : Bool := false
  deriving DecidableEq

/-- What an event of the schedule changes. -/
def Seen.next (seen : Seen) : MonitorEvent → Seen
  | .fill _ => ⟨true, true⟩
  | .reads => { seen with sinceRead := false }
  | .answered _ => { seen with sinceAnswer := seen.sinceRead }
  | _ => seen

/-- The exchange fills the order after it has read it for the last answer that reaches the
client. -/
def lateFill (events : List MonitorEvent) : Bool := (events.foldl Seen.next {}).sinceAnswer

/-- The result of a call that has given the order up. -/
def CallPc.abandoned : CallPc → Option OrderResult
  | .cancelling r | .persisting _ r | .persisted r | .returned r => some r
  | _ => none

/-- The result that the call has, and returns if it has given the order up. -/
def MonitorState.current (w : MonitorState) : Option OrderResult :=
  match w.pc with
  | .returned r => if w.cancels then some r else none
  | p => p.late

section Calls

variable {cfg : EngineConfig} {o : OrderRequest} {bypass : Bool} {s t : EngineState}
  {p q : CallPc} {e : CallEvent} {r : OrderResult}

theorem late_of_continues (h : Continues o s r t q) : q.late = some r ∨ q = .returned r := by
  cases h with
  | returned => exact .inr rfl
  | _ => exact .inl rfl

/-- Without an answer to a poll a call goes on with the result it has, or is aborted by an
exception. -/
theorem late_of_callSegment (hp : p.late = some r) (he : ∀ r', e ≠ .polled r')
    (h : callSegment cfg o bypass s p e = some (t, q)) :
    (q.late = some r ∨ q = .returned r) ∨ (p.abandoned = none ∧ ∃ r', q = .returned r') := by
  have hgoes {u : EngineState} {c : EngineState × CallPc} (hc : some c = some (t, q))
      (hcontinues : Continues o u r c.1 c.2) :
      (q.late = some r ∨ q = .returned r) ∨ (p.abandoned = none ∧ ∃ r', q = .returned r') := by
    cases hc
    exact .inl (late_of_continues hcontinues)
  unfold callSegment at h
  split at h
  all_goals first
    | cases hp
    | skip
  · exact hgoes h (continues_persistStatus cfg o _ r _)
  · cases h
    exact .inl (.inl rfl)
  · exact absurd rfl (he _)
  · exact hgoes h (continues_monitorLoop o _ r _)
  · cases h
    exact .inr ⟨rfl, _, rfl⟩
  · exact hgoes h (continues_persistStatus cfg o _ r o.id)
  · cases h
    exact .inl (.inl rfl)
  · cases h
    exact .inl (.inl rfl)
  · cases h
    exact .inl (.inr rfl)
  · cases h

/-- A call that has given the order up keeps its result. -/
theorem abandoned_of_callSegment (hp : p.abandoned = some r)
    (h : callSegment cfg o bypass s p e = some (t, q)) : q.abandoned = some r := by
  have hpersists (id : UUID) : (persistStatus cfg o s id r).2.abandoned = some r := by
    unfold persistStatus
    split <;> rfl
  unfold callSegment at h
  split at h
  all_goals first
    | cases hp
    | skip
  · have hq := hpersists o.id
    rwa [Option.some.inj h] at hq
  · cases h
    rfl
  · cases h
    rfl
  · cases h
    rfl
  · cases h

end Calls

/-- What is missing from the result of the call, and from the answer under way. -/
structure Follows (w : MonitorState) (seen : Seen) : Prop where
  pc : ∃ r, w.pc.late = some r ∨ w.pc = .returned r
  abandoned : w.cancels = true → w.pc.abandoned.isSome = true
  result : ∀ r, w.current = some r → r.filledQuantity ≤ w.book.filled ∧
    (r.filledQuantity = w.book.filled ↔ seen.sinceAnswer = false)
  answer : ∀ raw, w.answer = some raw → raw.filled.getD 0 ≤ w.book.filled ∧
    (raw.filled.getD 0 = w.book.filled ↔ seen.sinceRead = false)

section Follows

variable {cfg : EngineConfig} {o : OrderRequest} {bypass : Bool} {w w' : MonitorState}
  {seen : Seen} {c : EngineState × CallPc} {r : OrderResult}

theorem current_of_late (h : w.pc.late = some r) : w.current = some r := by
  obtain ⟨s, p, b, answer, cancels⟩ := w
  cases p <;> first | exact h | cases h

/-- The call goes on with the result `r`, or it is over. -/
theorem follows_continue (hc : c.2.late = some r ∨ c.2 = .returned r)
    (hcancels : w.cancels = true → c.2.abandoned.isSome = true)
    (hr : (w.continue c).current = some r → r.filledQuantity ≤ w.book.filled ∧
      (r.filledQuantity = w.book.filled ↔ seen.sinceAnswer = false)) :
    Follows (w.continue c) seen where
  pc := ⟨r, hc⟩
  abandoned := by
    intro h
    rcases Bool.or_eq_true_iff.1 h with h | h
    · exact hcancels h
    · obtain ⟨t, q⟩ := c
      cases q <;> first | rfl | cases h
  result := by
    intro r' hr'
    rcases hc with hlate | hreturned
    · have hcurrent := current_of_late (w := w.continue c) hlate
      rw [hcurrent] at hr'
      cases hr'
      exact hr hcurrent
    · have hcurrent : (w.continue c).current =
          if (w.continue c).cancels then some r else none := by
        unfold MonitorState.current MonitorState.continue
        dsimp only
        rw [hreturned]
      rw [hcurrent] at hr'
      split at hr'
      · rename_i hon
        cases hr'
        exact hr (by rw [hcurrent, if_pos hon])
      · cases hr'
  answer := by
    rintro raw ⟨⟩

theorem follows_call {e : CallEvent} (h : Follows w seen) (he : ∀ r, e ≠ .polled r)
    (hsegment : callSegment cfg o bypass w.engine w.pc e = some c) :
    Follows (w.continue c) seen := by
  obtain ⟨t, q⟩ := c
  obtain ⟨r, hlate | hreturned⟩ := h.pc
  · have hresult := h.result r (current_of_late hlate)
    rcases late_of_callSegment hlate he hsegment with hq | ⟨hgoing, r', hq⟩
    · refine follows_continue hq (fun hcancels => ?_) fun _ => hresult
      obtain ⟨r, hr⟩ := Option.isSome_iff_exists.1 (h.abandoned hcancels)
      rw [abandoned_of_callSegment hr hsegment]
      rfl
    · -- an exception ends a call that has not given the order up
      have hoff : ¬ w.cancels = true := fun hcancels => by
        have := h.abandoned hcancels
        rw [hgoing] at this
        cases this
      refine follows_continue (.inr hq) (fun hcancels => absurd hcancels hoff) fun hcurrent => ?_
      subst hq
      simp [MonitorState.current, MonitorState.continue, CallPc.isCancelling, hoff] at hcurrent
  · rw [hreturned] at hsegment
    cases e <;> cases hsegment

theorem follows_answered {raw : RawOrder} {id : UUID} (h : Follows w seen)
    (hraw : w.answer = some raw)
    (hsegment : callSegment cfg o bypass w.engine w.pc
      (.polled (parseOrderResult cfg.mode raw { o with id := id })) = some c) :
    Follows (w.continue c) (seen.next (.answered id)) := by
  obtain ⟨s, p, b, answer, cancels⟩ := w
  cases p with
  | polling r n =>
      cases hsegment
      refine follows_continue (late_of_continues (continues_pollAnswered cfg o _ _ n))
        (fun hcancels => ?_) fun _ => h.answer raw hraw
      cases h.abandoned hcancels
  | _ => cases hsegment

/-- What one event does to what is missing. -/
theorem follows_next {e : MonitorEvent} (h : Follows w seen)
    (hnext : (monitorMachine cfg o bypass).next w e = some w') :
    Follows w' (seen.next e) := by
  cases e with
  | fill quantity =>
      obtain ⟨⟨-, hpos, -⟩, hw⟩ := Option.ite_none_right_eq_some.1 hnext
      cases hw
      have hlate {x : ℚ} (hx : x ≤ w.book.filled) : x ≤ w.book.filled + quantity ∧
          (x = w.book.filled + quantity ↔ true = false) := by
        have hlt : x < w.book.filled + quantity := lt_add_of_le_of_pos hx hpos
        exact ⟨hlt.le, fun heq => absurd heq hlt.ne, fun hfalse => by cases hfalse⟩
      exact ⟨h.pc, h.abandoned, fun r hr => hlate (h.result r hr).1,
        fun raw hraw => hlate (h.answer raw hraw).1⟩
  | ends status =>
      obtain ⟨-, hw⟩ := Option.ite_none_right_eq_some.1 hnext
      cases hw
      exact ⟨h.pc, h.abandoned, h.result, h.answer⟩
  | reads =>
      obtain ⟨s, p, b, answer, cancels⟩ := w
      cases p with
      | polling r n =>
          cases hnext
          refine ⟨h.pc, h.abandoned, h.result, ?_⟩
          rintro raw ⟨⟩
          exact ⟨le_refl _, fun _ => rfl, fun _ => rfl⟩
      | _ => cases hnext
  | answered id =>
      obtain ⟨raw, hraw, hmap⟩ := Option.bind_eq_some_iff.1 hnext
      obtain ⟨c, hsegment, rfl⟩ := Option.map_eq_some_iff.1 hmap
      exact follows_answered h hraw hsegment
  | call e =>
      have hcall (he : ∀ r, e ≠ .polled r)
          (hnext : (callSegment cfg o bypass w.engine w.pc e).map w.continue = some w') :
          Follows w' (seen.next (.call e)) := by
        obtain ⟨c, hsegment, rfl⟩ := Option.map_eq_some_iff.1 hnext
        exact follows_call h he hsegment
      cases e with
      | polled r => cases hnext
      | _ => exact hcall (fun r hr => by cases hr) hnext
  | trigger =>
      cases hnext
      exact ⟨h.pc, h.abandoned, h.result, h.answer⟩

/-- What a schedule does to what is missing. -/
theorem follows_run {events : List MonitorEvent} (h : Follows w seen)
    (hrun : (monitorMachine cfg o bypass).run w events = some w') :
    Follows w' (events.foldl Seen.next seen) := by
  induction events generalizing w seen with
  | nil =>
      cases hrun
      exact h
  | cons e events ih =>
      obtain ⟨u, hu, hrun⟩ := (Machine.run_cons_eq_some_iff _).1 hrun
      exact ih (follows_next h hu) hrun

theorem follows_monitorStart (cfg : EngineConfig) (o : OrderRequest) (s : EngineState)
    (b : BookOrder) :
    Follows (monitorStart cfg o s b) {} := by
  obtain ⟨r, hr, hcontinues⟩ := continues_handleResult o s (parseOrderResult cfg.mode b.raw o)
  refine follows_continue (late_of_continues hcontinues) (fun hcancels => by cases hcancels)
    fun _ => ?_
  have hfilled : r.filledQuantity = b.filled := by
    rcases hr with rfl | rfl <;> rfl
  rw [hfilled]
  exact ⟨le_refl b.filled, fun _ => rfl, fun _ => rfl⟩

end Follows

/-- The result of an order that was given up is what the exchange has filled exactly when
the exchange filled nothing after it read the order for the last answer. -/
theorem filledQuantity_eq_iff {cfg : EngineConfig} {o : OrderRequest} {bypass : Bool}
    {s : EngineState} {b : BookOrder} {events : List MonitorEvent} {w : MonitorState}
    {r : OrderResult}
    (hrun : (monitorMachine cfg o bypass).run (monitorStart cfg o s b) events = some w)
    (hcancels : w.cancels = true) (hreturned : w.pc = .returned r) :
    r.filledQuantity = w.book.filled ↔ lateFill events = false := by
  have hfollows := follows_run (follows_monitorStart cfg o s b) hrun
  refine (hfollows.result r ?_).2
  unfold MonitorState.current
  rw [hreturned, hcancels]
  rfl

/-- An order of 2 on the exchange. -/
def restingOrder : BookOrder where
  id := "1"
  clientOrderId := "1"
  side := .sell
  amount := 2

/-- A LIVE engine whose kill switch is active. -/
def stoppedEngine : EngineState := { EngineState.init none with killSwitch := true }

/-- The closing order of 2. -/
def restingClosing : OrderRequest := .closing 1 .sell 2 .live

/-- The engine gives the order up at once. -/
theorem monitorStart_restingOrder :
    monitorStart liveEngine restingClosing stoppedEngine restingOrder =
      ⟨stoppedEngine, .cancelling (attributed restingClosing
        (parseOrderResult .live restingOrder.raw restingClosing)), restingOrder, none, true⟩ := by
  have hopen : (parseOrderResult liveEngine.mode restingOrder.raw restingClosing).status ≠
      .filled := by
    decide +kernel
  unfold monitorStart handleResult
  rw [if_neg (by decide), if_neg hopen]
  rfl

/-- The order has been given up and is returned with nothing filled. -/
def givenUp (b : BookOrder) : MonitorState :=
  let r := attributed restingClosing (parseOrderResult .live restingOrder.raw restingClosing)
  ⟨(finish restingClosing stoppedEngine r).1, .returned r, b, none, true⟩

theorem filledQuantity_eq_iff_cancelled :
    (attributed restingClosing (parseOrderResult .live restingOrder.raw
      restingClosing)).filledQuantity = (restingOrder.finish .canceled).filled := by
  have hrun : (monitorMachine liveEngine restingClosing true).run
      (monitorStart liveEngine restingClosing stoppedEngine restingOrder)
      [.ends .canceled, .call .cancelled] = some (givenUp (restingOrder.finish .canceled)) := by
    rw [monitorStart_restingOrder]
    rfl
  exact (filledQuantity_eq_iff hrun rfl rfl).2 rfl

/-- A fill before the cancellation takes effect is not reported. -/
theorem not_filledQuantity_eq :
    ¬ ∀ (cfg : EngineConfig) (o : OrderRequest) (bypass : Bool) (s : EngineState)
      (b : BookOrder) (events : List MonitorEvent) (w : MonitorState) (r : OrderResult),
      (monitorMachine cfg o bypass).run (monitorStart cfg o s b) events = some w →
        w.cancels = true → w.pc = .returned r → w.book.status ≠ .open →
          r.filledQuantity = w.book.filled := by
  intro h
  have hbook : restingOrder.fill 1 = { restingOrder with filled := 1 } := by
    simp [BookOrder.fill, restingOrder]
  have hfill (w : MonitorState) (hw : w.book = restingOrder) :
      (monitorMachine liveEngine restingClosing true).next w (.fill 1) =
        some { w with book := { restingOrder with filled := 1 } } := by
    refine (if_pos ?_).trans (by rw [hw, hbook])
    rw [hw]
    exact ⟨rfl, by decide, by decide +kernel⟩
  have hfilled := h liveEngine restingClosing true stoppedEngine restingOrder
    [.fill 1, .ends .canceled, .call .cancelled]
    (givenUp (({ restingOrder with filled := 1 } : BookOrder).finish .canceled)) _
    (by rw [monitorStart_restingOrder, Machine.run_cons, hfill _ rfl]; rfl) rfl rfl (by decide)
  exact absurd hfilled (by decide)

end Sgr
