import Sgr.Exchange.PionexOrders
import Sgr.Execution.Engine.OpeningLimits
import Sgr.Execution.Engine.Results
import Sgr.Execution.OrderSafety.CreatedOrders

/-!
# The request of a result

`_on_fill` updates the row of `result.request_id`. The adapters build this id from what the
exchange reports: `place_order` of the ccxt adapters takes that of the order, `get_order` the
client order id of the answer, and a new one without it; the native requests of Pionex take a
new one always.
-/

open Collection Concurrency

namespace Sgr

/-- The id of the request that `get_order` of the ccxt adapters builds; `none` is a text that is
no id. -/
def RawOrder.requestId (raw : RawOrder) (uuidOfText : String → Option UUID) (uuid4 : UUID) :
    Option UUID :=
  match raw.clientOrderId with
  | none | some "" => some uuid4
  | some text => uuidOfText text

/-- `Side(raw.get("side", "buy"))`; `none` is a `ValueError`. -/
def RawOrder.requestSide (raw : RawOrder) : Option Side :=
  match raw.side with
  | none | some "buy" => some .buy
  | some "sell" => some .sell
  | some _ => none

/-- `get_order` of the ccxt adapters on an answer of the exchange; `none` is an `ExchangeError`. -/
def ccxtGetOrder (upper : UpperCase) (uuidOfText : String → Option UUID) (mode : TradingMode)
    (exchange : ExchangeID) (symbol : String) (raw : RawOrder) (uuid4 : UUID) :
    Option OrderResult := do
  let id ← raw.requestId uuidOfText uuid4
  let symbol ← parseSymbol upper symbol exchange
  let side ← raw.requestSide
  let request : OrderRequest :=
    { id := id
      signalId := uuid4
      symbol := symbol
      side := side
      orderType := .limit
      quantity := raw.amount.getD 0
      tradingMode := mode }
  some (parseOrderResult mode raw request)

/-- The two kinds of adapters. -/
inductive OrderAdapter
  | ccxt (upper : UpperCase) (limits : PaperLimits) (uuidOfText : String → Option UUID)
  | pionex (adapter : PionexAdapter)

/-- What an exchange reports of an order. -/
inductive ReportedOrder
  | ccxt (raw : RawOrder)
  | pionex (raw : PionexOrder)

namespace OrderAdapter

/-- `_simulate_order`. -/
def simulated (adapter : OrderAdapter) (o : OrderRequest) (ticker : Option Ticker) :
    Option OrderResult :=
  match adapter with
  | ccxt _ limits _ => simulateOrder limits o ticker
  | pionex adapter => simulateOrder adapter.limits o ticker

/-- The result of `place_order` for a LIVE order that the exchange reports. -/
def placed (adapter : OrderAdapter) (o : OrderRequest) (reported : ReportedOrder)
    (uuid4 : UUID) : Option OrderResult :=
  match adapter, reported with
  | ccxt _ _ _, .ccxt raw => some (parseOrderResult .live raw o)
  | pionex adapter, .pionex raw => some (adapter.parseNativeOrder raw .futures uuid4)
  | _, _ => none

/-- The result of `get_order`. -/
def polled (adapter : OrderAdapter) (o : OrderRequest) (id : String) (reported : ReportedOrder)
    (uuid4 : UUID) : Option OrderResult :=
  match adapter, reported with
  | ccxt upper _ uuidOfText, .ccxt raw =>
      ccxtGetOrder upper uuidOfText o.tradingMode o.symbol.exchange o.symbol.ccxtSymbol raw uuid4
  | pionex adapter, .pionex raw => (adapter.getOrder id (.ok raw) uuid4).toOption
  | _, _ => none

end OrderAdapter

/-- A call, the results of the adapter and the rows that have been updated. -/
structure IdentityState where
  engine : EngineState
  pc : CallPc
  results : List OrderResult
  updated : List UUID

/-- What happens to a call; `uuid4` is the id that the adapter may draw. -/
inductive IdentityEvent
  /-- `place_order` simulates a PAPER order. -/
  | simulates (ticker : Option Ticker)
  /-- `place_order` returns for a LIVE order. -/
  | places (reported : ReportedOrder) (uuid4 : UUID)
  /-- `get_order` returns. -/
  | polls (reported : ReportedOrder) (uuid4 : UUID)
  /-- Everything else. -/
  | call (e : CallEvent)

namespace IdentityState

/-- The call goes on, with a result of the adapter or without one. -/
def goesOn (cfg : EngineConfig) (o : OrderRequest) (bypass : Bool) (w : IdentityState)
    (e : CallEvent) (result : Option OrderResult) : Option IdentityState :=
  (callSegment cfg o bypass w.engine w.pc e).map fun c =>
    { engine := c.1
      pc := c.2
      results := result.toList ++ w.results
      updated := (w.pc.updates o e).toList ++ w.updated }

/-- The exchange order id that is polled. -/
def polledId (w : IdentityState) : String :=
  match w.pc with
  | .polling r _ => r.exchangeOrderId
  | _ => ""

end IdentityState

/-- One call of `execute` whose results come from an adapter. An id that is drawn is not that of
the order. -/
def identityMachine (cfg : EngineConfig) (adapter : OrderAdapter) (o : OrderRequest)
    (bypass : Bool) : Machine IdentityState IdentityEvent where
  next w e :=
    match e with
    | .simulates ticker =>
        if o.tradingMode = .paper then
          (adapter.simulated o ticker).bind fun r =>
            w.goesOn cfg o bypass (.safe (.submitReturns r)) (some r)
        else none
    | .places reported uuid4 =>
        if o.tradingMode = .live ∧ uuid4 ≠ o.id then
          (adapter.placed o reported uuid4).bind fun r =>
            w.goesOn cfg o bypass (.safe (.submitReturns r)) (some r)
        else none
    | .polls reported uuid4 =>
        if uuid4 ≠ o.id then
          (adapter.polled o w.polledId reported uuid4).bind fun r =>
            w.goesOn cfg o bypass (.polled r) (some r)
        else none
    | .call (.polled _) => none
    | .call (.safe (.submitReturns _)) => none
    | .call e => w.goesOn cfg o bypass e none

/-- Every result of the adapter is that of the order, and no row but that of the order has been
updated. -/
structure IdentityState.Kept (o : OrderRequest) (w : IdentityState) : Prop where
  results : ∀ r ∈ w.results, r.requestId = o.id
  updated : ∀ id ∈ w.updated, id = o.id

/-- The exchange reports the order with its client order id, where the adapter reads it. -/
def NamesOrder (o : OrderRequest) : OrderAdapter → IdentityEvent → Prop
  | .ccxt _ _ uuidOfText, .polls (.ccxt raw) _ =>
      ∃ text, text ≠ "" ∧ raw.clientOrderId = some text ∧ uuidOfText text = some o.id
  | .pionex _, .places _ _ => False
  | .pionex _, .polls _ _ => False
  | _, _ => True

section Results

variable {cfg : EngineConfig} {adapter : OrderAdapter} {o : OrderRequest} {bypass : Bool}
  {w v : IdentityState} {e : IdentityEvent} {r : OrderResult} {reported : ReportedOrder}
  {uuid4 : UUID}

theorem ccxtGetOrder_eq_some {upper : UpperCase} {uuidOfText : String → Option UUID}
    {mode : TradingMode} {exchange : ExchangeID} {symbol : String} {raw : RawOrder}
    (h : ccxtGetOrder upper uuidOfText mode exchange symbol raw uuid4 = some r) :
    raw.requestId uuidOfText uuid4 = some r.requestId := by
  obtain ⟨id, hid, h⟩ := Option.bind_eq_some_iff.1 h
  obtain ⟨symbol, -, h⟩ := Option.bind_eq_some_iff.1 h
  obtain ⟨side, -, h⟩ := Option.bind_eq_some_iff.1 h
  cases h
  exact hid

theorem requestId_eq_some_iff {uuidOfText : String → Option UUID} {raw : RawOrder} {id : UUID}
    (h : uuid4 ≠ id) :
    raw.requestId uuidOfText uuid4 = some id ↔
      ∃ text, text ≠ "" ∧ raw.clientOrderId = some text ∧ uuidOfText text = some id := by
  unfold RawOrder.requestId
  split
  next hnone => simp [hnone, h]
  next hempty => simp [hempty, h]
  next text hne htext =>
    constructor
    · intro hid
      exact ⟨text, hne, htext, hid⟩
    · rintro ⟨text', -, htext', hid⟩
      rw [htext] at htext'
      rwa [Option.some.inj htext']

theorem requestId_of_simulated {ticker : Option Ticker}
    (h : adapter.simulated o ticker = some r) : r.requestId = o.id := by
  cases adapter with
  | ccxt upper limits uuidOfText =>
      obtain ⟨price, -, rfl⟩ := Option.map_eq_some_iff.1 h
      rfl
  | pionex adapter =>
      obtain ⟨price, -, rfl⟩ := Option.map_eq_some_iff.1 h
      rfl

/-- A result of `place_order` is that of the order when the adapter is based on ccxt. -/
theorem requestId_of_placed (h : adapter.placed o reported uuid4 = some r)
    (huuid4 : uuid4 ≠ o.id) :
    r.requestId = o.id ↔ NamesOrder o adapter (.places reported uuid4) := by
  cases adapter with
  | ccxt upper limits uuidOfText =>
      cases reported with
      | ccxt raw =>
          cases h
          exact iff_of_true rfl trivial
      | pionex raw => cases h
  | pionex adapter =>
      cases reported with
      | ccxt raw => cases h
      | pionex raw =>
          cases h
          exact iff_of_false huuid4 id

theorem requestId_of_getOrder {adapter : PionexAdapter} {orderId : String} {raw : PionexOrder}
    (h : (adapter.getOrder orderId (.ok raw) uuid4).toOption = some r) :
    r.requestId = uuid4 := by
  unfold PionexAdapter.getOrder at h
  split at h
  next => cases h
  next =>
    split at h
    next => cases h
    next =>
      split at h
      next => cases h
      next =>
        cases h
        rfl

/-- A result of `get_order` is that of the order when ccxt reports it with its client order
id. -/
theorem requestId_of_polled {orderId : String}
    (h : adapter.polled o orderId reported uuid4 = some r)
    (huuid4 : uuid4 ≠ o.id) :
    r.requestId = o.id ↔ NamesOrder o adapter (.polls reported uuid4) := by
  cases adapter with
  | ccxt upper limits uuidOfText =>
      cases reported with
      | ccxt raw =>
          have hid := ccxtGetOrder_eq_some h
          rw [NamesOrder, ← requestId_eq_some_iff huuid4, hid, Option.some.injEq]
      | pionex raw => cases h
  | pionex adapter =>
      cases reported with
      | ccxt raw => cases h
      | pionex raw =>
          rw [requestId_of_getOrder h]
          exact iff_of_false huuid4 id

theorem goesOn_eq_some {e : CallEvent} {result : Option OrderResult}
    (h : w.goesOn cfg o bypass e result = some v) :
    callSegment cfg o bypass w.engine w.pc e = some (v.engine, v.pc) ∧
      v.results = result.toList ++ w.results ∧
        v.updated = (w.pc.updates o e).toList ++ w.updated := by
  obtain ⟨c, hc, rfl⟩ := Option.map_eq_some_iff.1 h
  exact ⟨hc, rfl, rfl⟩

/-- What a step of the machine does: it takes a result of the adapter over, whose request is
that of the order exactly when the order is named, or it goes on without one. -/
theorem identityMachine_cases (h : (identityMachine cfg adapter o bypass).next w e = some v) :
    (∃ r e', w.goesOn cfg o bypass e' (some r) = some v ∧ (e' = .polled r ∨
        e' = .safe (.submitReturns r)) ∧ (r.requestId = o.id ↔ NamesOrder o adapter e)) ∨
      (∃ e', w.goesOn cfg o bypass e' none = some v ∧ (∀ r, e' ≠ .polled r) ∧
        (∀ r, e' ≠ .safe (.submitReturns r)) ∧ NamesOrder o adapter e) := by
  cases e with
  | simulates ticker =>
      obtain ⟨-, h⟩ := Option.ite_none_right_eq_some.1 h
      obtain ⟨r, hr, h⟩ := Option.bind_eq_some_iff.1 h
      refine .inl ⟨r, _, h, .inr rfl, iff_of_true (requestId_of_simulated hr) ?_⟩
      cases adapter <;> trivial
  | places reported uuid4 =>
      obtain ⟨⟨-, huuid4⟩, h⟩ := Option.ite_none_right_eq_some.1 h
      obtain ⟨r, hr, h⟩ := Option.bind_eq_some_iff.1 h
      exact .inl ⟨r, _, h, .inr rfl, requestId_of_placed hr huuid4⟩
  | polls reported uuid4 =>
      obtain ⟨huuid4, h⟩ := Option.ite_none_right_eq_some.1 h
      obtain ⟨r, hr, h⟩ := Option.bind_eq_some_iff.1 h
      exact .inl ⟨r, _, h, .inl rfl, requestId_of_polled hr huuid4⟩
  | call e =>
      have hnames : NamesOrder o adapter (.call e) := by cases adapter <;> trivial
      unfold identityMachine at h
      dsimp only at h
      split at h
      next heq => cases heq
      next heq => cases heq
      next heq => cases heq
      next => cases h
      next => cases h
      next e' hpolled hplaced heq =>
        cases heq
        exact .inr ⟨e, h, fun r hr => hpolled r (by rw [hr]),
          fun r hr => hplaced r (by rw [hr]), hnames⟩

/-- The results that a call has come from the adapter, or carry the id of the order, or are
rejections. -/
def IdentityState.Comes (o : OrderRequest) (w : IdentityState) : Prop :=
  w.pc.Results o fun r => r.requestId = o.id ∨ r.status = .rejected ∨
    ∃ r' ∈ w.results, r.requestId = r'.requestId

theorem IdentityState.Comes.goesOn {e : CallEvent} {result : Option OrderResult}
    (hw : w.Comes o) (h : w.goesOn cfg o bypass e result = some v)
    (hresult : ∀ r, e = .polled r ∨ e = .safe (.submitReturns r) → result = some r) :
    v.Comes o := by
  obtain ⟨hcall, hresults, -⟩ := goesOn_eq_some h
  have hnew (r : OrderResult) (he : e = .polled r ∨ e = .safe (.submitReturns r)) :
      r ∈ v.results := by
    rw [hresults, hresult r he]
    exact List.mem_cons_self
  refine results_of_callSegment ?_ ?_ hcall (hw.mono ?_) ?_ ?_ ?_
  · exact fun _ h => h
  · exact fun _ h => .inr (.inl h)
  · rintro r (hid | hstatus | ⟨r', hr', hid⟩)
    · exact .inl hid
    · exact .inr (.inl hstatus)
    · exact .inr (.inr ⟨r', hresults ▸ List.mem_append_right _ hr', hid⟩)
  · exact fun r he => .inr (.inr ⟨r, hnew r (.inr he), rfl⟩)
  · exact fun r he => .inr (.inr ⟨r, hnew r (.inl he), rfl⟩)
  · intro row _
    refine .inl ?_
    unfold recoveredResult
    split <;> rfl

theorem IdentityState.Comes.next (hw : w.Comes o)
    (h : (identityMachine cfg adapter o bypass).next w e = some v) : v.Comes o := by
  rcases identityMachine_cases h with ⟨r, e', hgoes, he, -⟩ | ⟨e', hgoes, hpolled, hplaced, -⟩
  · refine hw.goesOn hgoes fun r' he' => ?_
    rcases he with rfl | rfl
    · rcases he' with he' | he'
      · cases he'
        rfl
      · cases he'
    · rcases he' with he' | he'
      · cases he'
      · cases he'
        rfl
  · refine hw.goesOn hgoes fun r he => ?_
    rcases he with he | he
    · exact absurd he (hpolled r)
    · exact absurd he (hplaced r)

/-- The row that a call updates is that of the order as long as the results are. -/
theorem updates_eq_of_kept {e : CallEvent} {id : UUID} (hw : w.Comes o) (hkept : w.Kept o)
    (h : w.pc.updates o e = some id) : id = o.id := by
  obtain ⟨engine, p, results, updated⟩ := w
  unfold CallPc.updates at h
  split at h
  · exact (Option.some.inj h).symm
  next id' r hp =>
    cases h
    cases hp
    have hpc : (r.requestId = o.id ∨ r.status = .rejected ∨
        ∃ r' ∈ results, r.requestId = r'.requestId) ∧
          (id = o.id ∨ id = r.requestId ∧ r.status = .filled) := hw
    obtain ⟨hr, hid | ⟨hid, hfilled⟩⟩ := hpc
    · exact hid
    · rcases hr with hr | hr | ⟨r', hr', hr⟩
      · exact hid.trans hr
      · rw [hfilled] at hr
        cases hr
      · exact (hid.trans hr).trans (hkept.results r' hr')
  · cases h

/-- A result of the adapter updates no row. -/
theorem updates_polled (p : CallPc) (r : OrderResult) : p.updates o (.polled r) = none := by
  cases p with
  | safe a p => cases p <;> rfl
  | _ => rfl

theorem updates_submitReturns (p : CallPc) (r : OrderResult) :
    p.updates o (.safe (.submitReturns r)) = none := by
  cases p with
  | safe a p => cases p <;> rfl
  | _ => rfl

/-- A step keeps the identity of the order exactly when the order is named. -/
theorem kept_iff_namesOrder (hw : w.Comes o) (hkept : w.Kept o)
    (h : (identityMachine cfg adapter o bypass).next w e = some v) :
    v.Kept o ↔ NamesOrder o adapter e := by
  rcases identityMachine_cases h with ⟨r, e', hgoes, he, hnames⟩ | ⟨e', hgoes, -, -, hnames⟩
  · obtain ⟨-, hresults, hupdated⟩ := goesOn_eq_some hgoes
    have hnone : w.pc.updates o e' = none := by
      rcases he with rfl | rfl
      · exact updates_polled w.pc r
      · exact updates_submitReturns w.pc r
    rw [hnone] at hupdated
    rw [← hnames]
    constructor
    · intro hv
      exact hv.results r (hresults ▸ List.mem_cons_self)
    · intro hid
      refine ⟨fun r' hr' => ?_, hupdated ▸ hkept.updated⟩
      rw [hresults] at hr'
      rcases List.mem_cons.1 hr' with rfl | hr'
      · exact hid
      · exact hkept.results r' hr'
  · obtain ⟨-, hresults, hupdated⟩ := goesOn_eq_some hgoes
    refine iff_of_true ⟨hresults ▸ hkept.results, fun id hid => ?_⟩ hnames
    rw [hupdated, List.mem_append, Option.mem_toList] at hid
    rcases hid with hid | hid
    · exact updates_eq_of_kept hw hkept hid
    · exact hkept.updated id hid

/-- In every polling history the results of the adapter are those of the order, and the row of
the order is the one that is updated, exactly when the adapter is based on ccxt and every poll
answers with the client order id of the order. -/
theorem kept_along_iff (cfg : EngineConfig) (adapter : OrderAdapter) (o : OrderRequest)
    (bypass : Bool) (s : EngineState) (events : List IdentityEvent) {v : IdentityState}
    (hrun : (identityMachine cfg adapter o bypass).run ⟨s, .idle, [], []⟩ events = some v) :
    (identityMachine cfg adapter o bypass).Along (IdentityState.Kept o) ⟨s, .idle, [], []⟩
        events ↔
      (identityMachine cfg adapter o bypass).Guarded (fun _ e => NamesOrder o adapter e)
        ⟨s, .idle, [], []⟩ events :=
  (identityMachine cfg adapter o bypass).along_iff_guarded
    (fun _ _ _ hw hnext => hw.next hnext)
    (fun _ _ _ hw hkept hnext => kept_iff_namesOrder hw hkept hnext) trivial
    ⟨fun _ h => (by cases h), fun _ h => (by cases h)⟩ hrun

end Results

/-- The closing order on Pionex. -/
def pionexClosing : OrderRequest :=
  { liveClosing with symbol := { btcUsdt with exchange := .pionex } }

/-- A call of `execute` for a LIVE order that closes a position passes the gates. -/
def passLiveGates (symbol : Symbol) : List IdentityEvent :=
  [.call (.call (fun _ => some ⟨false, true, true, true⟩) fun _ => some true),
    .call (.limitsAnswer (.ok (.unlimited symbol.exchange ["BTC/USDT"]))),
    .call (.liveAnswer ⟨.ok 0, .ok ⟨true, "open"⟩,
      .ok (.unlimited symbol.exchange ["BTC/USDT"]), .ok 1,
      .ok [{ livePosition with symbol := symbol }], .ok false,
      .ok [{ livePosition with symbol := symbol }]⟩ 0),
    .call (.tickerAnswer (.ok ⟨10, 11⟩) 0)]

/-- An order that a ccxt adapter reports as open and then as filled. -/
def namedFill : List IdentityEvent :=
  [.places (.ccxt { id := "7", clientOrderId := some "1", amount := some 1 }) 8,
    .call .slept,
    .polls (.ccxt { id := "7", clientOrderId := some "1", status := some "closed",
                    amount := some 1, filled := some 1 }) 9]

theorem kept_along_iff_namedFill :
    (identityMachine liveEngine (.ccxt .ascii {} fun _ => some 1) liveClosing false).Along
        (IdentityState.Kept liveClosing) ⟨.init (some verificationGate), .idle, [], []⟩
        (passLiveGates btcUsdt ++ namedFill) ↔
      (identityMachine liveEngine (.ccxt .ascii {} fun _ => some 1) liveClosing false).Guarded
        (fun _ e => NamesOrder liveClosing (.ccxt .ascii {} fun _ => some 1) e)
        ⟨.init (some verificationGate), .idle, [], []⟩ (passLiveGates btcUsdt ++ namedFill) :=
  kept_along_iff _ _ _ _ _ _ (Option.some_get (by decide +kernel)).symm

/-- A LIVE order on Pionex is answered with the id of another request. -/
theorem not_forall_kept_along :
    ¬ ∀ (cfg : EngineConfig) (adapter : OrderAdapter) (o : OrderRequest) (bypass : Bool)
      (s : EngineState) (events : List IdentityEvent) (v : IdentityState),
      (identityMachine cfg adapter o bypass).run ⟨s, .idle, [], []⟩ events = some v →
        (identityMachine cfg adapter o bypass).Along (IdentityState.Kept o)
          ⟨s, .idle, [], []⟩ events := by
  intro h
  have hids : ((identityMachine liveEngine (.pionex .futures) pionexClosing false).run
      ⟨.init (some verificationGate), .idle, [], []⟩
      (passLiveGates pionexClosing.symbol ++
        [.places (.pionex { orderId := some "42" }) 8])).map
          (fun v => v.results.map OrderResult.requestId) = some [8] := by
    decide +kernel
  obtain ⟨v, hrun, hids⟩ := Option.map_eq_some_iff.1 hids
  have hkept := Machine.Along.of_run _ (h _ _ _ _ _ _ v hrun) hrun
  obtain ⟨r, hr, hid⟩ := List.mem_map.1 (hids ▸ List.mem_singleton_self (8 : UUID))
  rw [hkept.results r hr] at hid
  exact absurd hid (by decide)

end Sgr
