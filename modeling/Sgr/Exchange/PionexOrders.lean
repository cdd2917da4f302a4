import Sgr.Exchange.CcxtOrders
import Sgr.Exchange.PaperAdapter
import Sgr.Exchange.SymbolNames

/-!
# Orders on Pionex

The native order requests of `sgr/exchanges/pionex.py`: `place_order`, which creates a futures
order and then asks for its state, `get_order`, and the parsing of what Pionex reports.
-/

namespace Sgr

/-- The keys of an order of Pionex that are looked up. -/
structure PionexOrder where
  orderId : Option String := none
  symbol : Option String := none
  side : Option String := none
  status : Option String := none
  size : Option ℚ := none
  filledSize : Option ℚ := none
  filledAmount : Option ℚ := none
  price : Option ℚ := none
  fee : Option ℚ := none
  deriving DecidableEq, Repr

namespace PionexOrder

variable (raw : PionexOrder)

def filled : ℚ := raw.filledSize.getD 0

/-- Pionex has two statuses; of a closed order the fill decides. -/
def orderStatus : OrderStatus :=
  if raw.status = some "CLOSED" then
    if 0 < raw.filled then .filled else .cancelled
  else if 0 < raw.filled ∧ raw.filled < raw.size.getD 0 then .partiallyFilled
  else .submitted

/-- The average price, or else the price of the order. -/
def averagePrice : Option ℚ :=
  let average := if 0 < raw.filled then raw.filledAmount.map fun a => a / raw.filled else none
  (average.filter fun price => price ≠ 0).or raw.price

end PionexOrder

/-- The exceptions of the native client. -/
inductive PionexErrorKind
  | authentication
  | http (statusCode : ℤ)
  | api (code : Option String)
  | other
  deriving DecidableEq, Repr

/-- An exception of the native client with its text. -/
structure PionexError where
  kind : PionexErrorKind
  text : String
  deriving DecidableEq, Repr

/-- `_AUTH_ERROR_CODES`. -/
def authErrorCodes : List String :=
  ["APIKEY_LOST", "SIGNATURE_LOST", "IP_NOT_WHITELISTED", "INVALID_APIKEY", "INVALIE_APIKEY",
    "INVALID_SIGNATURE", "APIKEY_EXPIRED", "INVALID_TIMESTAMP", "PERMISSION_DENIED"]

namespace ExchangeError

def connection (detail : String) : ExchangeError :=
  ⟨"ExchangeConnectionError", "Connection error on pionex: " ++ detail⟩

def authenticationFailed (detail : String) : ExchangeError :=
  ⟨"ExchangeAuthenticationError", "Authentication failed on pionex: " ++ detail⟩

def rateLimit : ExchangeError :=
  ⟨"RateLimitError", "Rate limit exceeded on pionex. Retry after 1.0s"⟩

def orderNotFound (id : String) : ExchangeError :=
  ⟨"OrderNotFoundError", "Order " ++ id ++ " not found on pionex"⟩

def symbolNotFound (symbol : String) : ExchangeError :=
  ⟨"SymbolNotFoundError", "Symbol " ++ symbol ++ " not supported on pionex"⟩

def notImplemented (feature detail : String) : ExchangeError :=
  ⟨"AdapterFeatureNotImplementedError",
    feature ++ " ist fuer pionex in SGR (noch) nicht implementiert: " ++ detail⟩

end ExchangeError

/-- `_map_pionex_error`. -/
def mapPionexError (e : PionexError) : ExchangeError :=
  match e.kind with
  | .authentication => .authenticationFailed e.text
  | .http statusCode =>
      if statusCode = 429 then .rateLimit
      else if statusCode = 401 then .authenticationFailed e.text
      else if statusCode = 0 ∨ 500 ≤ statusCode then .connection e.text
      else ⟨"ExchangeError", e.text⟩
  | .api code =>
      let code := code.getD ""
      if code ∈ authErrorCodes then .authenticationFailed e.text
      else if code = "TRADE_ORDER_NOT_EXIST" ∨ code = "TRADE_ORDER_NOT_FOUND" then
        .orderNotFound "unknown"
      else if code = "TRADE_INVALID_SYMBOL" ∨ code = "TRADE_INVAILD_SYMBOL" then
        .symbolNotFound "unknown"
      else if code.contains "RATE" ∨ code.contains "LIMIT" then .rateLimit
      else ⟨"ExchangeError", e.text⟩
  | .other => .connection e.text

/-- The adapter of Pionex without ccxt. -/
structure PionexAdapter where
  tradingMode : TradingMode
  futuresMode : Bool
  connected : Bool
  limits : PaperLimits
  upper : UpperCase

/-- `_map_order_type_to_pionex`. -/
def mapOrderTypeToPionex (orderType : OrderType) : Except ExchangeError String :=
  match orderType with
  | .market => .ok "MARKET_QTY"
  | .limit => .ok "LIMIT"
  | _ =>
      .error (.notImplemented ("order_type_" ++ orderType.value)
        ("Pionex adapter only maps MARKET/LIMIT order types (verified against " ++
          "openapi_futures.yaml: LIMIT/MARKET_QTY/IOC/FOK/POSTONLY) - " ++ orderType.value ++
          " has no verified mapping and is deliberately not guessed."))

/-- What the native client answers to the requests of `place_order`. -/
structure PionexAnswers where
  byClientId : Except PionexError PionexOrder
  create : Except PionexError ℤ
  order : Except PionexError PionexOrder

/-- What `place_order` has done: the id of the order that it has created, and its answer. -/
structure PionexPlaced where
  created : Option ℤ
  answer : Except ExchangeError OrderResult

namespace PionexAdapter

variable (adapter : PionexAdapter)

/-- `_parse_native_order`; the request gets an id of its own from `uuid4`. -/
def parseNativeOrder (raw : PionexOrder) (assetClass : AssetClass) (uuid4 : UUID) :
    OrderResult where
  requestId := uuid4
  exchangeOrderId := raw.orderId.getD ""
  symbol := fromPionexSymbol adapter.upper (raw.symbol.getD "").toList .pionex assetClass
  status := raw.orderStatus
  filledQuantity := raw.filled
  averageFillPrice := raw.averagePrice
  fees := raw.fee.getD 0
  tradingMode := adapter.tradingMode
  rawResponse := { side := raw.side }

/-- The error of `_require_connected`. -/
def requireConnected : Except ExchangeError Unit :=
  if adapter.connected then .ok ()
  else .error (.connection "Adapter not connected. Call connect() first.")

/-- `place_order` for a LIVE futures order whose type is known: it looks for the order under
the client order id before it creates one. -/
def createOrder (a : PionexAnswers) (uuid4 : UUID) : PionexPlaced :=
  match a.byClientId with
  | .ok existing => ⟨none, .ok (adapter.parseNativeOrder existing .futures uuid4)⟩
  | .error _ =>
      match a.create with
      | .error e => ⟨none, .error (mapPionexError e)⟩
      | .ok id =>
          match a.order with
          | .error e => ⟨some id, .error (mapPionexError e)⟩
          | .ok raw => ⟨some id, .ok (adapter.parseNativeOrder raw .futures uuid4)⟩

/-- `place_order`. -/
def placeOrder (o : OrderRequest) (ticker : Option Ticker) (a : PionexAnswers)
    (uuid4 : UUID) : PionexPlaced :=
  match adapter.requireConnected with
  | .error e => ⟨none, .error e⟩
  | .ok () =>
      if o.tradingMode = .paper then
        match simulateOrder adapter.limits o ticker with
        | some r => ⟨none, .ok r⟩
        | none =>
            ⟨none, .error (.connection
              ("paper fill simulation: no ticker and no limit_price for " ++ o.symbol.str))⟩
      else if !adapter.futuresMode then
        ⟨none, .error (.notImplemented "live_spot_order_submission"
          ("Pionex Spot LIVE order submission is not implemented - only the Futures write " ++
            "path has been built and verified against openapi_futures.yaml so far."))⟩
      else
        match mapOrderTypeToPionex o.orderType with
        | .error e => ⟨none, .error e⟩
        | .ok _ => adapter.createOrder a uuid4

/-- `get_order`, with what the native client answers for a numeric id. -/
def getOrder (id : String) (answer : Except PionexError PionexOrder) (uuid4 : UUID) :
    Except ExchangeError OrderResult :=
  if adapter.tradingMode ≠ .live then .error (.orderNotFound id)
  else
    match adapter.requireConnected with
    | .error e => .error e
    | .ok () =>
        match id.toInt? with
        | none => .error (.orderNotFound id)
        | some _ =>
            match answer with
            | .error e => .error (mapPionexError e)
            | .ok raw =>
                .ok (adapter.parseNativeOrder raw
                  (if adapter.futuresMode then .futures else .spot) uuid4)

end PionexAdapter

section Placed

variable {adapter : PionexAdapter} {o : OrderRequest} {ticker : Option Ticker}
  {a : PionexAnswers} {uuid4 : UUID} {id : ℤ}

/-- An order that has been created is answered with what the follow-up request returns. -/
theorem answer_of_created (h : (adapter.placeOrder o ticker a uuid4).created = some id) :
    (adapter.placeOrder o ticker a uuid4).answer =
      match a.order with
      | .ok raw => .ok (adapter.parseNativeOrder raw .futures uuid4)
      | .error e => .error (mapPionexError e) := by
  have hcreate (h : (adapter.createOrder a uuid4).created = some id) :
      (adapter.createOrder a uuid4).answer =
        match a.order with
        | .ok raw => .ok (adapter.parseNativeOrder raw .futures uuid4)
        | .error e => .error (mapPionexError e) := by
    obtain ⟨byClientId, create, order⟩ := a
    cases byClientId with
    | ok existing => cases h
    | error _ =>
        cases create with
        | error e => cases h
        | ok id => cases order <;> rfl
  unfold PionexAdapter.placeOrder at h ⊢
  split at h
  next => cases h
  next =>
    split at h
    next => split at h <;> cases h
    next hpaper =>
      split at h
      next => cases h
      next hfutures =>
        split at h
        next => cases h
        next htype =>
          rw [if_neg hpaper, if_neg hfutures]
          exact hcreate h

end Placed

end Sgr
