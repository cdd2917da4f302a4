import Sgr.Concurrency.Machine
import Sgr.Exchange.CcxtOrders

/-!
# Submitting an order to a ccxt exchange

The LIVE part of `place_order` of `sgr/exchanges/ccxt_base.py` with the retry that
decorates it, next to the network and an exchange that does not recognise a client order
id. Each attempt looks for an order with the client order id before it creates one. The
look-up is best effort: whatever it raises counts as no order. So a second order is
kept away only by look-ups that are answered, and answered after the earlier requests
have left the network.
-/

open Concurrency

namespace Sgr

/-- The classes of ccxt exceptions that `_map_error` tells apart. -/
inductive CcxtErrorKind
  | rateLimitExceeded
  | requestTimeout
  | onMaintenance
  /-- Another `NetworkError`. -/
  | networkError
  | insufficientFunds
  | orderNotFound
  | badSymbol
  | notSupported
  | other
  deriving DecidableEq, Repr

/-- An exception that ccxt raises. -/
structure CcxtError where
  kind : CcxtErrorKind
  /-- `str(exc).lower()`. -/
  text : String := ""
  /-- The text names the end of a ban. -/
  banned : Bool := false
  deriving DecidableEq, Repr

/-- The class of an `ExchangeError` and whether it is transient. -/
structure MappedError where
  typeName : String
  retryable : Bool
  deriving DecidableEq, Repr

/-- The words that make an unknown exception transient. -/
def transientKeywords : List String := ["timeout", "connection", "network", "503", "502"]

/-- `_map_error`. -/
def mapError (e : CcxtError) : MappedError :=
  if e.banned then ⟨"ExchangeBannedError", false⟩
  else
    match e.kind with
    | .rateLimitExceeded => ⟨"RateLimitError", true⟩
    | .requestTimeout => ⟨"ExchangeConnectionError", true⟩
    | .onMaintenance => ⟨"ExchangeMaintenanceError", true⟩
    | .networkError => ⟨"ExchangeConnectionError", true⟩
    | .insufficientFunds => ⟨"InsufficientFundsError", false⟩
    | .orderNotFound => ⟨"OrderNotFoundError", false⟩
    | .badSymbol => ⟨"SymbolNotFoundError", false⟩
    | .notSupported => ⟨"NotSupportedFeatureError", false⟩
    | .other =>
        if transientKeywords.any fun word => e.text.contains word then
          ⟨"ExchangeConnectionError", true⟩
        else ⟨"ExchangeError", false⟩

/-- The error of `_require_connected`. -/
def notConnected : MappedError := ⟨"ExchangeConnectionError", true⟩

/-- `max_attempts` of `place_order`. -/
def placeOrderAttempts : ℕ := 2

/-- The control points of one `place_order` call; attempts are counted from 1. -/
inductive PlacePc
  /-- The attempt has not started: at first, and while the retry waits. -/
  | idle (attempt : ℕ)
  /-- `fetch_order` is awaited. -/
  | lookup (attempt : ℕ)
  /-- The exchange has answered, or the look-up has failed; the task has not resumed. -/
  | lookedUp (attempt : ℕ) (existing : Option RawOrder)
  /-- `create_order` is awaited. -/
  | creating (attempt : ℕ)
  | returned (result : OrderResult)
  | raised (error : MappedError)
  deriving DecidableEq

/-- The exchange and the network, as far as one client order id goes. -/
structure OrderLink where
  /-- The requests to create the order that are on their way. -/
  requests : ℕ := 0
  /-- The orders with the client order id. -/
  book : List BookOrder := []
  deriving DecidableEq

/-- A request to create the order is sent. -/
def OrderLink.send (l : OrderLink) : OrderLink := { l with requests := l.requests + 1 }

/-- The order that a request creates. -/
def createdOrder (o : OrderRequest) (id : String) : BookOrder where
  id := id
  clientOrderId := toString o.id
  side := o.side
  amount := o.quantity
  price := o.limitPrice

/-- A request reaches the exchange, which creates an order whatever is there already. -/
def OrderLink.create (l : OrderLink) (o : OrderRequest) (id : String) : OrderLink where
  requests := l.requests - 1
  book := l.book ++ [createdOrder o id]

/-- The retry of an attempt that has raised. -/
def attemptFails (attempt : ℕ) (e : MappedError) : PlacePc :=
  if e.retryable && attempt < placeOrderAttempts then .idle (attempt + 1) else .raised e

/-- The start of an attempt; `fetchOrder` says whether the exchange supports the look-up. -/
def startAttempt (fetchOrder connected : Bool) (l : OrderLink) (attempt : ℕ) :
    OrderLink × PlacePc :=
  if !connected then (l, attemptFails attempt notConnected)
  else if fetchOrder then (l, .lookup attempt)
  else (l.send, .creating attempt)

/-- `place_order` after the look-up. -/
def afterLookup (o : OrderRequest) (l : OrderLink) (attempt : ℕ) :
    Option RawOrder → OrderLink × PlacePc
  | some existing => (l, .returned (parseOrderResult .live existing o))
  | none => (l.send, .creating attempt)

/-- What happens between the client and the exchange. -/
inductive LinkEvent
  /-- `place_order` is called for the order. -/
  | call
  /-- An attempt starts. -/
  | starts (connected : Bool)
  /-- The exchange answers the look-up. -/
  | lookupAnswers
  /-- The look-up raises, whatever the exchange knows. -/
  | lookupFails
  | resumes
  /-- The response for an order of the book arrives. -/
  | createReturns (b : BookOrder)
  /-- `create_order` raises, whether or not the request has reached the exchange. -/
  | createRaises (e : CcxtError)
  /-- A request reaches the exchange. -/
  | delivers (id : String)
  /-- A request is lost, or refused by the exchange. -/
  | loses
  /-- The process dies. -/
  | crash

/-- The client, with its call under way, and the exchange. -/
structure LinkState where
  link : OrderLink := {}
  current : Option PlacePc := none
  deriving DecidableEq

/-- The client is at another control point. -/
def LinkState.of (c : OrderLink × PlacePc) : LinkState where
  link := c.1
  current := match c.2 with
    | .returned _ | .raised _ => none
    | p => some p

/-- Calls of `place_order` for the order `o`, one after the other, with crashes and a
network that may lose or delay every request and response. -/
def linkMachine (fetchOrder : Bool) (o : OrderRequest) : Machine LinkState LinkEvent where
  next := fun s e =>
    match s.current, e with
    | none, .call => some (.of (s.link, .idle 1))
    | some (.idle attempt), .starts connected =>
        some (.of (startAttempt fetchOrder connected s.link attempt))
    | some (.lookup attempt), .lookupAnswers =>
        some (.of (s.link, .lookedUp attempt (s.link.book.head?.map BookOrder.raw)))
    | some (.lookup attempt), .lookupFails => some (.of (s.link, .lookedUp attempt none))
    | some (.lookedUp attempt existing), .resumes =>
        some (.of (afterLookup o s.link attempt existing))
    | some (.creating _), .createReturns b =>
        if b ∈ s.link.book then
          some (.of (s.link, .returned (parseOrderResult .live b.raw o)))
        else none
    | some (.creating attempt), .createRaises e =>
        some (.of (s.link, attemptFails attempt (mapError e)))
    | _, .delivers id =>
        if 0 < s.link.requests then some { s with link := s.link.create o id } else none
    | _, .loses =>
        if 0 < s.link.requests then
          some { s with link := { s.link with requests := s.link.requests - 1 } }
        else none
    | _, .crash => some { s with current := none }
    | _, _ => none

/-- No request for the order is on its way or has reached the exchange. -/
def OrderLink.Silent (l : OrderLink) : Prop := l.requests = 0 ∧ l.book = []

instance (l : OrderLink) : Decidable l.Silent := inferInstanceAs (Decidable (_ ∧ _))

/-- The condition on a step under which the look-ups keep a second order away: one that
fails, or is not supported, comes before every request, and one that is answered is
answered when no request is on its way. -/
def LooksUp (fetchOrder : Bool) (s : LinkState) : LinkEvent → Prop
  | .starts connected => fetchOrder = true ∨ connected = false ∨ s.link.Silent
  | .lookupFails => s.link.Silent
  | .lookupAnswers => s.link.requests = 0
  | _ => True

instance (fetchOrder : Bool) (s : LinkState) (e : LinkEvent) :
    Decidable (LooksUp fetchOrder s e) := by
  cases e with
  | starts connected => exact inferInstanceAs (Decidable (_ ∨ _ ∨ _))
  | lookupAnswers => exact inferInstanceAs (Decidable (_ = _))
  | lookupFails => exact inferInstanceAs (Decidable s.link.Silent)
  | _ => exact isTrue trivial

/-- At most one order, counting the requests on their way, and none when the client is
about to create one. -/
structure AtMostOne (s : LinkState) : Prop where
  count : s.link.requests + s.link.book.length ≤ 1
  silent : ∀ attempt, s.current = some (.lookedUp attempt none) → s.link.Silent

section Link

variable {fetchOrder : Bool} {o : OrderRequest} {s t : LinkState} {e : LinkEvent}

theorem OrderLink.Silent.count_send {l : OrderLink} (h : l.Silent) :
    l.send.requests + l.send.book.length ≤ 1 := by
  obtain ⟨hrequests, hbook⟩ := h
  rw [OrderLink.send, hrequests, hbook]
  exact le_refl 1

/-- The client goes on without a request. -/
theorem AtMostOne.goes {p : PlacePc} (h : AtMostOne s)
    (hp : ∀ attempt, p = .lookedUp attempt none → s.link.Silent) :
    AtMostOne (.of (s.link, p)) where
  count := h.count
  silent := by
    intro attempt hcurrent
    refine hp attempt ?_
    cases p with
    | returned _ | raised _ => cases hcurrent
    | _ => exact Option.some.inj hcurrent

theorem AtMostOne.attemptFails (h : AtMostOne s) (attempt : ℕ) (e : MappedError) :
    AtMostOne (.of (s.link, attemptFails attempt e)) := by
  refine h.goes fun attempt' hp => ?_
  unfold Sgr.attemptFails at hp
  split at hp <;> cases hp

/-- The client sends its request when none has gone before. -/
theorem AtMostOne.send (h : s.link.Silent) (attempt : ℕ) :
    AtMostOne (.of (s.link.send, .creating attempt)) where
  count := h.count_send
  silent := by
    intro attempt' hcurrent
    cases hcurrent

theorem AtMostOne.startAttempt {connected : Bool} (h : AtMostOne s) (attempt : ℕ)
    (hok : fetchOrder = true ∨ connected = false ∨ s.link.Silent) :
    AtMostOne (.of (startAttempt fetchOrder connected s.link attempt)) := by
  unfold Sgr.startAttempt
  split
  · exact h.attemptFails attempt notConnected
  · rename_i hconnected
    split
    · exact h.goes fun attempt' hp => by cases hp
    · rename_i hfetch
      refine .send ?_ attempt
      rcases hok with hok | hok | hok
      · exact absurd hok hfetch
      · simp [hok] at hconnected
      · exact hok

theorem AtMostOne.afterLookup {attempt : ℕ} {existing : Option RawOrder} (h : AtMostOne s)
    (hcurrent : s.current = some (.lookedUp attempt existing)) :
    AtMostOne (.of (afterLookup o s.link attempt existing)) := by
  cases existing with
  | some existing => exact h.goes fun attempt' hp => by cases hp
  | none => exact .send (h.silent attempt hcurrent) attempt

/-- A request leaves the network, with or without an order. -/
theorem AtMostOne.leaves {l : OrderLink} (h : AtMostOne s) (hrequests : 0 < s.link.requests)
    (hcount : l.requests + l.book.length ≤ s.link.requests + s.link.book.length) :
    AtMostOne { s with link := l } where
  count := hcount.trans h.count
  silent := by
    intro attempt hcurrent
    exact absurd (h.silent attempt hcurrent).1 hrequests.ne'

theorem AtMostOne.next (h : AtMostOne s) (hok : LooksUp fetchOrder s e)
    (hnext : (linkMachine fetchOrder o).next s e = some t) : AtMostOne t := by
  unfold linkMachine at hnext
  dsimp only at hnext
  split at hnext
  · cases hnext
    exact h.goes fun attempt hp => by cases hp
  · cases hnext
    exact h.startAttempt _ hok
  · cases hnext
    refine h.goes fun attempt hp => ⟨hok, ?_⟩
    simp only [PlacePc.lookedUp.injEq, Option.map_eq_none_iff, List.head?_eq_none_iff] at hp
    exact hp.2
  · cases hnext
    exact h.goes fun _ _ => hok
  · rename_i hcurrent
    cases hnext
    exact h.afterLookup hcurrent
  · obtain ⟨-, hnext⟩ := Option.ite_none_right_eq_some.1 hnext
    cases hnext
    exact h.goes fun attempt hp => by cases hp
  · cases hnext
    exact h.attemptFails _ _
  · obtain ⟨hpos, hnext⟩ := Option.ite_none_right_eq_some.1 hnext
    cases hnext
    refine h.leaves hpos ?_
    simp only [OrderLink.create, List.length_append, List.length_singleton]
    omega
  · obtain ⟨hpos, hnext⟩ := Option.ite_none_right_eq_some.1 hnext
    cases hnext
    exact h.leaves hpos (by dsimp only; omega)
  · cases hnext
    exact ⟨h.count, fun attempt hcurrent => by cases hcurrent⟩
  · cases hnext

end Link

/-- However requests and responses are lost or delayed, at most one order is created as
long as the look-ups after a request are supported, answered, and answered after the
request has left the network. -/
theorem book_length_le_one (fetchOrder : Bool) (o : OrderRequest) {events : List LinkEvent}
    {s : LinkState} (hok : (linkMachine fetchOrder o).Guarded (LooksUp fetchOrder) {} events)
    (hrun : (linkMachine fetchOrder o).run {} events = some s) : s.link.book.length ≤ 1 := by
  have hstart : AtMostOne {} := ⟨by decide, fun attempt hcurrent => by cases hcurrent⟩
  have hinv := (linkMachine fetchOrder o).guarded_run_invariant (LooksUp fetchOrder) AtMostOne
    (fun _ _ _ h hok hnext => h.next hok hnext) hstart hok hrun
  have hcount := hinv.count
  omega

/-- A response is lost, and the retry finds the order. -/
theorem book_length_le_one_retried :
    ∃ s, (linkMachine true (.closing 1 .sell 1 .live)).run {}
        [.call, .starts true, .lookupAnswers, .resumes, .delivers "1",
          .createRaises { kind := .requestTimeout }, .starts true, .lookupAnswers,
          .resumes] = some s ∧ s.link.book.length ≤ 1 := by
  refine Exists.imp (fun s hrun => ⟨hrun, ?_⟩) ⟨_, rfl⟩
  exact book_length_le_one true _ (by decide) hrun

/-- The response is lost and the look-up of the retry fails: the retry creates a second
order. -/
theorem not_book_length_le_one :
    ¬ ∀ (o : OrderRequest) (events : List LinkEvent) (s : LinkState),
      (linkMachine true o).run {} events = some s → s.link.book.length ≤ 1 := by
  intro h
  have hlength := h (.closing 1 .sell 1 .live)
    [.call, .starts true, .lookupAnswers, .resumes, .delivers "1",
      .createRaises { kind := .requestTimeout }, .starts true, .lookupFails, .resumes,
      .delivers "2"] _ rfl
  exact absurd hlength (by decide)

end Sgr
