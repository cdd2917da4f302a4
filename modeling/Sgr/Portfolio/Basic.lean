import Mathlib.Algebra.BigOperators.Group.List.Basic
import Mathlib.Data.Finset.Option
import Sgr.Collection.Dict
import Sgr.Risk.LiveGates
import Sgr.Risk.PositionProtection

/-!
# The portfolio engine

`PortfolioEngine` of `sgr/portfolio/engine.py`. The handlers are written as the
pieces of code between their suspension points; `onOrderFilled` and `updatePrices`
are the pieces one after the other, as they run when no other call is under way.
Fresh ids and clock readings of a call come with the call.
-/

open Collection

namespace Sgr

/-- A record of `_trade_history`. -/
structure TradeRecord where
  id : UUID
  symbol : String
  side : PositionSide
  entryPrice : ℚ
  exitPrice : ℚ
  quantity : ℚ
  realizedPnl : ℚ
  fees : ℚ
  strategy : String
  openedAt : Timestamp
  closedAt : Timestamp
  tradingMode : TradingMode
  closeReason : ExitReason
  deriving DecidableEq

/-- What a portfolio engine does not change: its mode and the protection hook. -/
structure PortfolioConfig where
  tradingMode : TradingMode
  protection : Option ProtectionLimits := none

/-- `PortfolioState` and the other attributes of the engine. -/
structure PortfolioState where
  cash : ℚ
  /-- The open positions, by the text of their symbol. -/
  positions : Dict String Position
  peakValue : ℚ
  tradeHistory : List TradeRecord
  /-- `_recently_closed_protective_order_ids`. -/
  retiredOrderIds : Finset String
  /-- The entry fees not yet charged to a close. -/
  entryFees : Dict String ℚ
  /-- `_live_verification_gate`. -/
  gate : Option LiveVerificationState

/-- A fill that is passed to `on_order_filled`, with the ids and times that the
handler takes from the system. -/
structure FillCall where
  result : OrderResult
  positionId : UUID
  tradeId : UUID
  openedAt : Timestamp
  closedAt : Timestamp
  deriving DecidableEq

/-- The fills of the examples. -/
def FillCall.btc (n : ℕ) (side : Side) (quantity price : ℚ) : FillCall where
  result :=
    { requestId := n
      exchangeOrderId := side.value
      symbol := btcUsdt
      status := .filled
      filledQuantity := quantity
      averageFillPrice := some price
      tradingMode := .paper
      rawResponse := { side := some side.value } }
  positionId := n
  tradeId := n
  openedAt := 0
  closedAt := 0

/-- The symbol key of a fill. -/
def FillCall.key (f : FillCall) : String := f.result.symbol.str

/-- The signed quantity of a position. -/
def Position.signedQuantity (p : Position) : ℚ :=
  match p.side with
  | .long => p.quantity
  | .short => -p.quantity
  | .flat => 0

/-- `_infer_side`. -/
def inferSide (r : OrderResult) : Side :=
  if (r.rawResponse.side.getD "").toLower = "sell" then .sell else .buy

theorem inferSide_of_side {r : OrderResult} {side : Side}
    (h : r.rawResponse.side = some side.value) : inferSide r = side := by
  rw [inferSide, h]
  cases side
  · decide +kernel
  · decide +kernel

/-- The price of a fill that the guards of `on_order_filled` let pass. -/
def acceptedPrice (r : OrderResult) : Option ℚ :=
  if r.status ≠ .filled ∧ r.status ≠ .partiallyFilled then none
  else if r.filledQuantity ≤ 0 then none
  else r.averageFillPrice

theorem filledQuantity_pos_of_acceptedPrice {r : OrderResult} {price : ℚ}
    (h : acceptedPrice r = some price) : 0 < r.filledQuantity := by
  unfold acceptedPrice at h
  split at h
  · cases h
  · split at h
    · cases h
    next hpos => exact not_le.1 hpos

namespace PortfolioState

/-- A fresh engine. -/
def init (cash : ℚ) (gate : Option LiveVerificationState) : PortfolioState :=
  ⟨cash, Dict.empty, cash, [], ∅, Dict.empty, gate⟩

/-- `portfolio_value`. -/
def portfolioValue (s : PortfolioState) : ℚ :=
  s.cash + (s.positions.values.map fun p =>
    if p.side = .long then p.notionalValue else -p.notionalValue).sum

/-- `update_peak`. -/
def updatePeak (s : PortfolioState) : PortfolioState :=
  if s.peakValue < s.portfolioValue then { s with peakValue := s.portfolioValue } else s

/-- The signed quantity held under a key, zero when there is no position. -/
def heldQuantity (s : PortfolioState) (key : String) : ℚ :=
  match s.positions.get? key with
  | some p => p.signedQuantity
  | none => 0

@[simp] theorem updatePeak_positions (s : PortfolioState) :
    s.updatePeak.positions = s.positions := by
  unfold updatePeak
  split <;> rfl

@[simp] theorem updatePeak_cash (s : PortfolioState) : s.updatePeak.cash = s.cash := by
  unfold updatePeak
  split <;> rfl

@[simp] theorem updatePeak_entryFees (s : PortfolioState) :
    s.updatePeak.entryFees = s.entryFees := by
  unfold updatePeak
  split <;> rfl

@[simp] theorem updatePeak_retiredOrderIds (s : PortfolioState) :
    s.updatePeak.retiredOrderIds = s.retiredOrderIds := by
  unfold updatePeak
  split <;> rfl

@[simp] theorem heldQuantity_updatePeak (s : PortfolioState) (key : String) :
    s.updatePeak.heldQuantity key = s.heldQuantity key := by
  rw [heldQuantity, heldQuantity, updatePeak_positions]

theorem heldQuantity_of_get? {s : PortfolioState} {key : String} {p : Position}
    (h : s.positions.get? key = some p) : s.heldQuantity key = p.signedQuantity := by
  rw [heldQuantity, h]

theorem heldQuantity_of_none {s : PortfolioState} {key : String}
    (h : s.positions.get? key = none) : s.heldQuantity key = 0 := by
  rw [heldQuantity, h]

theorem heldQuantity_congr {s t : PortfolioState} {key : String}
    (h : t.positions.get? key = s.positions.get? key) :
    t.heldQuantity key = s.heldQuantity key := by
  rw [heldQuantity, h, heldQuantity]

end PortfolioState

/-- The position that `_open_position` stores. -/
def openedPosition (cfg : PortfolioConfig) (f : FillCall) (price : ℚ) : Position where
  id := f.positionId
  symbol := f.result.symbol
  side := (inferSide f.result).opens
  quantity := f.result.filledQuantity
  entryPrice := price
  currentPrice := price
  openedAt := f.openedAt
  strategyName := f.result.rawResponse.strategy.getD "unknown"
  tradingMode := cfg.tradingMode

/-- `_open_position` up to the persistence of the position: a long position is paid
for, a short one is credited. -/
def bookOpen (cfg : PortfolioConfig) (f : FillCall) (price : ℚ) (s : PortfolioState) :
    PortfolioState :=
  let p := openedPosition cfg f price
  let notional := f.result.filledQuantity * price
  { s with
    positions := s.positions.set f.key p
    cash :=
      if p.side = .long then s.cash - (notional + f.result.fees)
      else s.cash + (notional - f.result.fees)
    entryFees := s.entryFees.set f.key f.result.fees }

/-- What the protection hook answers to a new position. -/
def protectedPosition (cfg : PortfolioConfig) (f : FillCall) (p : Position) :
    Option Position :=
  cfg.protection.bind fun limits => onPositionOpened limits p f.result.rawResponse

/-- `_open_position` after the hook: its position replaces the stored one. -/
def protect (cfg : PortfolioConfig) (f : FillCall) (p : Position) (s : PortfolioState) :
    PortfolioState :=
  match protectedPosition cfg f p with
  | some q => { s with positions := s.positions.set f.key q }
  | none => s

/-- `is_closing` of `_update_position`. -/
def isClosing (existing : Position) (side : Side) : Bool :=
  match existing.side, side with
  | .long, .sell => true
  | .short, .buy => true
  | _, _ => false

/-- What `_update_position` computes of a closing fill before it records the trade. -/
structure CloseQuote where
  quantity : ℚ
  price : ℚ
  remainingEntryFee : ℚ
  entryFeeShare : ℚ
  realized : ℚ
  reason : ExitReason
  deriving DecidableEq

/-- The computation of `_update_position` for a closing fill. -/
def closeQuote (existing : Position) (f : FillCall) (price : ℚ) (s : PortfolioState) :
    CloseQuote :=
  let quantity := min f.result.filledQuantity existing.quantity
  let sideFactor : ℚ := if existing.side = .long then 1 else -1
  let remaining := (s.entryFees.get? f.key).getD 0
  let share :=
    if 0 < existing.quantity then remaining * (quantity / existing.quantity) else 0
  { quantity := quantity
    price := price
    remainingEntryFee := remaining
    entryFeeShare := share
    realized :=
      (price - existing.entryPrice) * quantity * sideFactor - f.result.fees - share
    reason := f.result.rawResponse.exitReason.getD .strategySignal }

/-- The record of a close. -/
def tradeRecord (cfg : PortfolioConfig) (existing : Position) (q : CloseQuote)
    (f : FillCall) : TradeRecord where
  id := f.tradeId
  symbol := existing.symbol.str
  side := existing.side
  entryPrice := existing.entryPrice
  exitPrice := q.price
  quantity := q.quantity
  realizedPnl := q.realized
  fees := f.result.fees + q.entryFeeShare
  strategy := existing.strategyName
  openedAt := existing.openedAt
  closedAt := f.closedAt
  tradingMode := cfg.tradingMode
  closeReason := q.reason

/-- The booking of the loss and `_record_trade` up to the persistence of the trade. -/
def recordTrade (cfg : PortfolioConfig) (existing : Position) (q : CloseQuote)
    (f : FillCall) (s : PortfolioState) : PortfolioState :=
  { s with
    gate :=
      if f.result.tradingMode = .live then s.gate.map fun g => g.recordRealizedLoss (-q.realized)
      else s.gate
    tradeHistory := s.tradeHistory ++ [tradeRecord cfg existing q f] }

/-- The close takes the whole position. -/
def CloseQuote.full (q : CloseQuote) (existing : Position) : Prop :=
  existing.quantity ≤ q.quantity

instance (q : CloseQuote) (existing : Position) : Decidable (q.full existing) :=
  inferInstanceAs (Decidable (existing.quantity ≤ q.quantity))

/-- The position that a partial close leaves. -/
def reducedPosition (existing : Position) (q : CloseQuote) : Position :=
  { existing with
    quantity := existing.quantity - q.quantity
    currentPrice := q.price
    unrealizedPnl := 0
    realizedPnl := existing.realizedPnl + q.realized }

/-- The cash that a close books. -/
def closeCash (existing : Position) (q : CloseQuote) (f : FillCall) (cash : ℚ) : ℚ :=
  if existing.side = .long then cash + (q.price * q.quantity - f.result.fees)
  else cash - (q.price * q.quantity + f.result.fees)

/-- `_update_position` after the trade is persisted, up to the next suspension. `del`
raises when the key is gone. -/
def bookClose (existing : Position) (q : CloseQuote) (f : FillCall) (s : PortfolioState) :
    Option PortfolioState :=
  if q.full existing then
    if (s.positions.get? f.key).isNone then none
    else
      some
        { s with
          positions := s.positions.erase f.key
          entryFees := s.entryFees.erase f.key
          cash := closeCash existing q f s.cash }
  else
    some
      { s with
        positions := s.positions.set f.key (reducedPosition existing q)
        entryFees := s.entryFees.set f.key (q.remainingEntryFee - q.entryFeeShare)
        cash := closeCash existing q f s.cash }

/-- The protective order ids of a position; empty ids do not count. -/
def protectiveIds (p : Position) : Finset String :=
  (p.slOrderId.toFinset ∪ p.tpOrderId.toFinset).erase ""

/-- `_update_position` after the close is persisted: the ids of the protective orders
are remembered. -/
def retire (existing : Position) (s : PortfolioState) : PortfolioState :=
  { s with retiredOrderIds := s.retiredOrderIds ∪ protectiveIds existing }

/-- `_open_position`. -/
def openPosition (cfg : PortfolioConfig) (f : FillCall) (price : ℚ) (s : PortfolioState) :
    PortfolioState :=
  protect cfg f (openedPosition cfg f price) (bookOpen cfg f price s)

/-- `_update_position`; a fill on the side of the position changes nothing. -/
def updatePosition (cfg : PortfolioConfig) (existing : Position) (f : FillCall) (price : ℚ)
    (s : PortfolioState) : Option PortfolioState :=
  if isClosing existing (inferSide f.result) then
    let q := closeQuote existing f price s
    (bookClose existing q f (recordTrade cfg existing q f s)).map fun t =>
      if q.full existing then retire existing t else t
  else some s

/-- `on_order_filled`; `none` is a raised exception. -/
def onOrderFilled (cfg : PortfolioConfig) (f : FillCall) (s : PortfolioState) :
    Option PortfolioState :=
  match acceptedPrice f.result with
  | none => some s
  | some price =>
      match s.positions.get? f.key with
      | none =>
          if f.result.exchangeOrderId ∈ s.retiredOrderIds then
            some
              { s with retiredOrderIds := s.retiredOrderIds.erase f.result.exchangeOrderId }
          else some (openPosition cfg f price s).updatePeak
      | some existing =>
          (updatePosition cfg existing f price s).map PortfolioState.updatePeak

/-- A position at a new price. -/
def repriced (p : Position) (price : ℚ) : Position :=
  { p with
    currentPrice := price
    unrealizedPnl :=
      (price - p.entryPrice) * p.quantity * if p.side = .long then 1 else -1 }

/-- One turn of the loop of `update_prices`. -/
def updatePrice (prices : String → Option ℚ) (d : Dict String Position)
    (e : String × Position) : Dict String Position :=
  match prices e.2.symbol.ccxtSymbol with
  | some price => d.set e.1 (repriced e.2 price)
  | none => d

/-- `update_prices` up to its first suspension: the loop runs over a copy of the
entries. -/
def updatePrices (prices : String → Option ℚ) (s : PortfolioState) : PortfolioState :=
  { s with
    positions := s.positions.entries.foldl (updatePrice prices) s.positions }.updatePeak

/-- A position after a price update. -/
def Position.atPrices (prices : String → Option ℚ) (p : Position) : Position :=
  ((prices p.symbol.ccxtSymbol).map (repriced p)).getD p

theorem get?_updatePrices (prices : String → Option ℚ) (s : PortfolioState)
    (key : String) :
    (updatePrices prices s).positions.get? key =
      (s.positions.get? key).map (Position.atPrices prices) := by
  have hloop := @Dict.get?_foldl_set _ _ _
    (fun e : String × Position => (prices e.2.symbol.ccxtSymbol).map (repriced e.2))
    (updatePrice prices)
    (fun d e v h => by
      obtain ⟨price, hprice, rfl⟩ := Option.map_eq_some_iff.1 h
      rw [updatePrice, hprice])
    (fun d e h => by rw [updatePrice, Option.map_eq_none_iff.1 h])
    _ s.positions.nodup_keys s.positions key
  rw [updatePrices, PortfolioState.updatePeak_positions]
  refine hloop.trans ?_
  change ((s.positions.get? key).bind _).or (s.positions.get? key) = _
  cases s.positions.get? key with
  | none => rfl
  | some p => cases h : prices p.symbol.ccxtSymbol <;> simp [Position.atPrices, h]

end Sgr
