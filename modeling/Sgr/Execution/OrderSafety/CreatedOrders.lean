import Sgr.Concurrency.Machine
import Sgr.Exchange.PionexOrders
import Sgr.Execution.OrderSafety.Steps

/-!
# Orders that Pionex has created

`place_order` of Pionex creates an order and then asks for its state. When the second request
fails, the order exists on the exchange, but `place_order` raises, and `execute_safely` answers
that the state of the order is unknown.
-/

open Collection Concurrency

namespace Sgr

/-- One `execute_safely` call. -/
def safeCallMachine (repo : Bool) (o : OrderRequest) :
    Machine (ExecutorState × SafePc) SafeEvent where
  next c e := safeSegment repo o c.1 c.2 e

/-- How the call of `place_order` ends inside `execute_safely`. -/
def submitEvent : Except ExchangeError OrderResult → SafeEvent
  | .ok r => .submitReturns r
  | .error e => .submitRaises e.text

/-- `execute_safely` has the result of `place_order`. -/
structure HoldsResult (o : OrderRequest) (r : OrderResult) (c : ExecutorState × SafePc) :
    Prop where
  pc : c.2 = .persistFinal r false ∨ c.2 = .finalPersisted r false ∨ c.2 = .finished r
  tracked : c.1.inFlight.get? o.id = some r

/-- `execute_safely` has the exception of `place_order`. -/
structure HoldsUnknown (o : OrderRequest) (error : String) (c : ExecutorState × SafePc) :
    Prop where
  pc : c.2 = .persistFinal (makeUnknownResult o error) true ∨
    c.2 = .finalPersisted (makeUnknownResult o error) true ∨
      c.2 = .finished (makeUnknownResult o error)
  untracked : ∀ r, c.2 = .finished r → c.1.inFlight.get? o.id = none

section Calls

variable {repo : Bool} {o : OrderRequest} {r : OrderResult} {error : String}
  {s t : ExecutorState} {p q : SafePc} {e : SafeEvent}

theorem safeStep_of_next (h : (safeCallMachine repo o).next (s, p) e = some (t, q)) :
    SafeStep repo o s p e t q :=
  safeStep_of_safeSegment h

theorem HoldsResult.next (h : HoldsResult o r (s, p)) (hstep : SafeStep repo o s p e t q) :
    HoldsResult o r (t, q) := by
  obtain ⟨hpc, htracked⟩ := h
  rcases hpc with rfl | rfl | rfl
  · cases hstep with
    | updateCommits =>
        exact ⟨.inr (.inl rfl), by simpa only [ExecutorState.updateStatus_inFlight]⟩
    | updateFails => exact ⟨.inr (.inl rfl), htracked⟩
  · cases hstep with
    | returns => exact ⟨.inr (.inr rfl), htracked⟩
  · cases hstep

theorem HoldsUnknown.next (h : HoldsUnknown o error (s, p))
    (hstep : SafeStep repo o s p e t q) : HoldsUnknown o error (t, q) := by
  obtain ⟨hpc, -⟩ := h
  rcases hpc with rfl | rfl | rfl
  · cases hstep with
    | updateCommits => exact ⟨.inr (.inl rfl), by simp⟩
    | updateFails => exact ⟨.inr (.inl rfl), by simp⟩
  · cases hstep with
    | dropsAndReturns => exact ⟨.inr (.inr rfl), fun _ _ => s.inFlight.get?_erase_self o.id⟩
  · cases hstep

theorem holdsResult_submitReturns
    (h : SafeStep repo o s .submitting (.submitReturns r) t q) : HoldsResult o r (t, q) := by
  cases h with
  | submitReturns =>
      refine ⟨?_, s.inFlight.get?_set_self o.id r⟩
      cases repo with
      | true => exact .inl rfl
      | false => exact .inr (.inr rfl)

theorem holdsUnknown_submitRaises
    (h : SafeStep repo o s .submitting (.submitRaises error) t q) :
    HoldsUnknown o error (t, q) := by
  cases h with
  | submitRaises => exact ⟨.inl rfl, by simp⟩
  | submitRaisesDrops => exact ⟨.inr (.inr rfl), fun _ _ => s.inFlight.get?_erase_self o.id⟩

/-- The result of a call whose `place_order` returns is that of the exchange, and tracked. -/
theorem finished_of_submitReturns {events : List SafeEvent} {r' : OrderResult}
    (h : (safeCallMachine repo o).run (s, .submitting) (.submitReturns r :: events) =
      some (t, .finished r')) : r' = r ∧ t.inFlight.get? o.id = some r := by
  obtain ⟨⟨u, q⟩, hfirst, hrun⟩ := (Machine.run_cons_eq_some_iff _).1 h
  have hstart := holdsResult_submitReturns (safeStep_of_next hfirst)
  have hend : HoldsResult o r (t, .finished r') :=
    (safeCallMachine repo o).run_invariant (HoldsResult o r)
      (fun _ _ _ hc hnext => hc.next (safeStep_of_next hnext)) hstart hrun
  refine ⟨?_, hend.tracked⟩
  rcases hend.pc with hpc | hpc | hpc
  · cases hpc
  · cases hpc
  · exact SafePc.finished.inj hpc

/-- The result of a call whose `place_order` raises is unknown, and not tracked. -/
theorem finished_of_submitRaises {events : List SafeEvent} {r' : OrderResult}
    (h : (safeCallMachine repo o).run (s, .submitting) (.submitRaises error :: events) =
      some (t, .finished r')) :
    r' = makeUnknownResult o error ∧ t.inFlight.get? o.id = none := by
  obtain ⟨⟨u, q⟩, hfirst, hrun⟩ := (Machine.run_cons_eq_some_iff _).1 h
  have hstart := holdsUnknown_submitRaises (safeStep_of_next hfirst)
  have hend : HoldsUnknown o error (t, .finished r') :=
    (safeCallMachine repo o).run_invariant (HoldsUnknown o error)
      (fun _ _ _ hc hnext => hc.next (safeStep_of_next hnext)) hstart hrun
  refine ⟨?_, hend.untracked r' rfl⟩
  rcases hend.pc with hpc | hpc | hpc
  · cases hpc
  · cases hpc
  · exact SafePc.finished.inj hpc

/-- A closed order has filled something or counts as cancelled; Pionex rejects none. -/
theorem PionexOrder.orderStatus_ne_rejected (raw : PionexOrder) :
    raw.orderStatus ≠ .rejected := by
  unfold PionexOrder.orderStatus
  split_ifs <;> simp

/-- What is known of an order that Pionex has created: the order as the follow-up request
reports it, which is tracked, or that its state is unknown. -/
structure CreatedOrderSettles (adapter : PionexAdapter) (o : OrderRequest) (uuid4 : UUID)
    (followUp : Except PionexError PionexOrder)
    (answer : Except ExchangeError OrderResult) (t : ExecutorState) (r : OrderResult) :
    Prop where
  reported : ∀ raw, followUp = .ok raw →
    answer = .ok r ∧ r = adapter.parseNativeOrder raw .futures uuid4 ∧
      r.exchangeOrderId = raw.orderId.getD "" ∧ r.status ≠ .rejected ∧
        t.inFlight.get? o.id = some r
  unknown : ∀ e, followUp = .error e →
    answer = .error (mapPionexError e) ∧ r = makeUnknownResult o (mapPionexError e).text ∧
      r.filledQuantity = 0 ∧ t.inFlight.get? o.id = none

/-- An order that Pionex has created is known as Pionex reports it, or its state is marked as
unknown. -/
theorem createdOrderSettles (adapter : PionexAdapter) (o : OrderRequest)
    (ticker : Option Ticker) (a : PionexAnswers) (uuid4 : UUID) {id : ℤ}
    (hcreated : (adapter.placeOrder o ticker a uuid4).created = some id) (repo : Bool)
    (s t : ExecutorState) (events : List SafeEvent) (r : OrderResult)
    (hrun : (safeCallMachine repo o).run (s, .submitting)
      (submitEvent (adapter.placeOrder o ticker a uuid4).answer :: events) =
        some (t, .finished r)) :
    CreatedOrderSettles adapter o uuid4 a.order (adapter.placeOrder o ticker a uuid4).answer
      t r := by
  have hanswer := answer_of_created hcreated
  rw [hanswer] at hrun ⊢
  cases horder : a.order with
  | ok raw =>
      rw [horder] at hrun
      obtain ⟨rfl, htracked⟩ := finished_of_submitReturns hrun
      refine ⟨fun raw' h => ?_, fun e h => (by cases h)⟩
      cases h
      exact ⟨rfl, rfl, rfl, raw.orderStatus_ne_rejected, htracked⟩
  | error e =>
      rw [horder] at hrun
      obtain ⟨rfl, huntracked⟩ := finished_of_submitRaises hrun
      refine ⟨fun raw h => (by cases h), fun e' h => ?_⟩
      cases h
      exact ⟨rfl, rfl, rfl, huntracked⟩

end Calls

/-- A connected adapter for LIVE futures. -/
def PionexAdapter.futures : PionexAdapter where
  tradingMode := .live
  futuresMode := true
  connected := true
  limits := {}
  upper := .ascii

/-- Pionex creates the order, and the connection is lost before its state is read. -/
def PionexAnswers.reset : PionexAnswers where
  byClientId := .error ⟨.api (some "TRADE_ORDER_NOT_EXIST"), "order not exist"⟩
  create := .ok 42
  order := .error ⟨.http 0, "connection reset"⟩

theorem createdOrderSettles_reset :
    ∃ t r, CreatedOrderSettles .futures (.market 7 .buy 1 .live) 8 PionexAnswers.reset.order
      (PionexAdapter.futures.placeOrder (.market 7 .buy 1 .live) none .reset 8).answer t r :=
  ⟨_, _, createdOrderSettles .futures (.market 7 .buy 1 .live) none .reset 8 rfl true
    .init _ [.updateCommits, .resume] _ rfl⟩

/-- A created order is reported as failed when its state cannot be read. -/
theorem not_forall_created_answer :
    ¬ ∀ (adapter : PionexAdapter) (o : OrderRequest) (ticker : Option Ticker)
      (a : PionexAnswers) (uuid4 : UUID) (id : ℤ),
      (adapter.placeOrder o ticker a uuid4).created = some id →
        ∃ r, (adapter.placeOrder o ticker a uuid4).answer = .ok r ∧
          r.exchangeOrderId = toString id := by
  intro h
  obtain ⟨r, hr, -⟩ := h .futures (.market 7 .buy 1 .live) none .reset 8 42 rfl
  cases hr

end Sgr
