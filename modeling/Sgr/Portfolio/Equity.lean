import Mathlib.Tactic.FieldSimp
import Mathlib.Tactic.Linarith
import Mathlib.Tactic.Ring
import Sgr.Collection.Totals
import Sgr.Concurrency.Machine
import Sgr.Portfolio.Effects

/-!
# Conservation of equity

An engine that starts with some cash and handles one call at a time. What it is worth
is the cash it started with, the profit of its closed trades and that of its open
positions, less the entry fees that no close has been charged with yet. The prices
cancel, so the invariant is about the entry prices only.
-/

open Collection Concurrency

namespace Sgr

/-- `on_position_opened` as the engine sees it: the position that replaces the new one,
`none` when there is no hook, when it returns `None` and when it raises. -/
abbrev ProtectionHook := Position → RawResponse → Option Position

/-- The hook of a configuration. -/
def PortfolioConfig.hook (cfg : PortfolioConfig) : ProtectionHook := fun p raw =>
  cfg.protection.bind fun limits => onPositionOpened limits p raw

/-- The hook sets protection fields only. -/
def SetsProtectionOnly (hook : ProtectionHook) : Prop :=
  ∀ p raw q, hook p raw = some q →
    q = { p with
          stopLossPrice := q.stopLossPrice
          takeProfitPrice := q.takeProfitPrice
          maxHoldingUntil := q.maxHoldingUntil
          slOrderId := q.slOrderId
          tpOrderId := q.tpOrderId
          entryRegime := q.entryRegime }

/-- The hook of the repository sets protection fields only. -/
theorem setsProtectionOnly_hook (cfg : PortfolioConfig) : SetsProtectionOnly cfg.hook := by
  intro p raw q h
  obtain ⟨limits, -, hq⟩ := Option.bind_eq_some_iff.1 h
  unfold onPositionOpened at hq
  split at hq
  · cases hq
  · split at hq
    · cases hq
    · cases hq
      rfl

section Hook

variable (hook : ProtectionHook) (cfg : PortfolioConfig)

/-- `_open_position` with any hook. -/
def openPositionWith (f : FillCall) (price : ℚ) (s : PortfolioState) : PortfolioState :=
  match hook (openedPosition cfg f price) f.result.rawResponse with
  | some q =>
      { bookOpen cfg f price s with
        positions := (bookOpen cfg f price s).positions.set f.key q }
  | none => bookOpen cfg f price s

/-- `on_order_filled` with any hook; `none` is a raised exception. -/
def onOrderFilledWith (f : FillCall) (s : PortfolioState) : Option PortfolioState :=
  match acceptedPrice f.result with
  | none => some s
  | some price =>
      match s.positions.get? f.key with
      | none =>
          if f.result.exchangeOrderId ∈ s.retiredOrderIds then
            some
              { s with retiredOrderIds := s.retiredOrderIds.erase f.result.exchangeOrderId }
          else some (openPositionWith hook cfg f price s).updatePeak
      | some existing =>
          (updatePosition cfg existing f price s).map PortfolioState.updatePeak

/-- With the hook of the configuration this is the handler of the repository. -/
theorem onOrderFilledWith_hook (f : FillCall) (s : PortfolioState) :
    onOrderFilledWith cfg.hook cfg f s = onOrderFilled cfg f s := rfl

/-- A call of the engine. -/
inductive PortfolioCall
  | onOrderFilled (f : FillCall)
  | updatePrices (prices : String → Option ℚ)

/-- An engine that handles one call after the other. -/
def serialPortfolio : Machine PortfolioState PortfolioCall where
  next
    | s, .onOrderFilled f => onOrderFilledWith hook cfg f s
    | s, .updatePrices prices => some (updatePrices prices s)

end Hook

/-- The sign of a position as the engine computes with it. -/
def Position.sideFactor (p : Position) : ℚ := if p.side = .long then 1 else -1

/-- What a position is worth at a price. -/
def Position.valueAt (price : ℚ) (p : Position) : ℚ := p.sideFactor * p.quantity * price

/-- What a position was entered for. -/
def Position.bookValue (p : Position) : ℚ := p.valueAt p.entryPrice

/-- The profit of an open position at its current price. -/
def Position.openProfit (p : Position) : ℚ :=
  (p.currentPrice - p.entryPrice) * p.quantity * p.sideFactor

/-- The realized profit of the closed trades. -/
def PortfolioState.realized (s : PortfolioState) : ℚ :=
  (s.tradeHistory.map TradeRecord.realizedPnl).sum

/-- The cash and the book value of the positions are the initial cash and the realized
profit, less the entry fees that are still held. -/
structure Conserved (initialCash : ℚ) (s : PortfolioState) : Prop where
  quantity_pos : ∀ key p, s.positions.get? key = some p → 0 < p.quantity
  entryFee : ∀ key, s.positions.get? key = none → s.entryFees.get? key = none
  balance : s.cash + s.positions.total Position.bookValue =
    initialCash + s.realized - s.entryFees.total id

theorem conserved_init (cash : ℚ) (gate : Option LiveVerificationState) :
    Conserved cash (.init cash gate) where
  quantity_pos _ _ h := by cases h
  entryFee _ _ := rfl
  balance := by simp [PortfolioState.init, PortfolioState.realized]

theorem PortfolioState.portfolioValue_eq (s : PortfolioState) :
    s.portfolioValue = s.cash + s.positions.total fun p => p.valueAt p.currentPrice := by
  have hvalue : ∀ p : Position, (if p.side = .long then p.notionalValue else -p.notionalValue) =
      p.valueAt p.currentPrice := by
    intro p
    unfold Position.valueAt Position.sideFactor Position.notionalValue
    split <;> ring
  rw [portfolioValue, Dict.total]
  simp only [hvalue]

theorem total_openProfit (d : Dict String Position) :
    (d.total fun p => p.valueAt p.currentPrice) =
      d.total Position.bookValue + d.total Position.openProfit := by
  rw [Dict.total, Dict.total, Dict.total, ← List.sum_map_add]
  congr 1
  refine List.map_congr_left fun p _ => ?_
  unfold Position.bookValue Position.valueAt Position.openProfit
  ring

namespace Conserved

variable {cash : ℚ} {s t : PortfolioState}

/-- The equation at current prices. -/
theorem portfolioValue_eq (h : Conserved cash s) :
    s.portfolioValue = cash + s.realized + s.positions.total Position.openProfit -
      s.entryFees.total id := by
  rw [s.portfolioValue_eq, total_openProfit]
  linarith [h.balance]

theorem of_eq (h : Conserved cash s) (hpositions : t.positions = s.positions)
    (hcash : t.cash = s.cash) (hfees : t.entryFees = s.entryFees)
    (hhistory : t.tradeHistory = s.tradeHistory) : Conserved cash t where
  quantity_pos := by rw [hpositions]; exact h.quantity_pos
  entryFee := by rw [hpositions, hfees]; exact h.entryFee
  balance := by
    rw [hpositions, hcash, hfees, PortfolioState.realized, hhistory]
    exact h.balance

theorem updatePeak (h : Conserved cash s) : Conserved cash s.updatePeak := by
  refine h.of_eq s.updatePeak_positions s.updatePeak_cash s.updatePeak_entryFees ?_
  unfold PortfolioState.updatePeak
  split <;> rfl

theorem updatePrices (prices : String → Option ℚ) (h : Conserved cash s) :
    Conserved cash (updatePrices prices s) := by
  have hget := get?_updatePrices prices s
  have hfields : ∀ p : Position, (p.atPrices prices).quantity = p.quantity ∧
      (p.atPrices prices).bookValue = p.bookValue := by
    intro p
    unfold Position.atPrices
    cases prices p.symbol.ccxtSymbol <;> exact ⟨rfl, rfl⟩
  have hrest : (Sgr.updatePrices prices s).cash = s.cash ∧
      (Sgr.updatePrices prices s).entryFees = s.entryFees ∧
      (Sgr.updatePrices prices s).tradeHistory = s.tradeHistory := by
    unfold Sgr.updatePrices PortfolioState.updatePeak
    split <;> exact ⟨rfl, rfl, rfl⟩
  obtain ⟨hcash, hfees, hhistory⟩ := hrest
  refine ⟨?_, ?_, ?_⟩
  · intro key q hq
    rw [hget, Option.map_eq_some_iff] at hq
    obtain ⟨p, hp, rfl⟩ := hq
    rw [(hfields p).1]
    exact h.quantity_pos key p hp
  · intro key hnone
    rw [hget, Option.map_eq_none_iff] at hnone
    rw [hfees]
    exact h.entryFee key hnone
  · rw [Dict.total_eq_of_get? hget, hcash, hfees, PortfolioState.realized, hhistory]
    simp only [(hfields _).2]
    exact h.balance

end Conserved

/-- A position that the hook returns is worth as much as the one it was given. -/
theorem SetsProtectionOnly.bookValue_eq {hook : ProtectionHook} (h : SetsProtectionOnly hook)
    {p q : Position} {raw : RawResponse} (hq : hook p raw = some q) :
    q.quantity = p.quantity ∧ q.bookValue = p.bookValue := by
  rw [h p raw q hq]
  exact ⟨rfl, rfl⟩

/-- Opening a position writes its slot with one of its size and book value. -/
theorem exists_writes_openPositionWith {hook : ProtectionHook}
    (hhook : SetsProtectionOnly hook) (cfg : PortfolioConfig) (f : FillCall) (price : ℚ)
    (s : PortfolioState) :
    ∃ q : Position, q.quantity = f.result.filledQuantity ∧
      q.bookValue = (openedPosition cfg f price).bookValue ∧
      Writes s (openPositionWith hook cfg f price s) f.key (some q) (some f.result.fees)
        (openCash f price s.cash) := by
  have hopen := writes_bookOpen cfg f price s
  unfold openPositionWith
  cases hq : hook (openedPosition cfg f price) f.result.rawResponse with
  | none => exact ⟨_, rfl, rfl, hopen⟩
  | some q =>
      obtain ⟨hquantity, hbook⟩ := hhook.bookValue_eq hq
      refine ⟨q, hquantity, hbook, fun key => ?_, hopen.entryFees, hopen.cash, hopen.retired⟩
      change ((bookOpen cfg f price s).positions.set f.key q).get? key = _
      rw [Dict.get?_set, hopen.stores]
      by_cases hk : key = f.key
      · rw [if_pos hk, if_pos hk]
      · rw [if_neg hk, if_neg hk, if_neg hk]

theorem tradeHistory_bookClose {p : Position} {q : CloseQuote} {f : FillCall}
    {s t : PortfolioState} (h : bookClose p q f s = some t) :
    t.tradeHistory = s.tradeHistory := by
  unfold bookClose at h
  split at h
  · split at h
    · cases h
    · cases h
      rfl
  · cases h
    rfl

theorem closeCash_eq (p : Position) (q : CloseQuote) (f : FillCall) (cash : ℚ) :
    closeCash p q f cash = cash + p.sideFactor * (q.price * q.quantity) - f.result.fees := by
  unfold closeCash Position.sideFactor
  split <;> ring

theorem entryFeeShare_closeQuote (p : Position) (f : FillCall) (price : ℚ)
    (s : PortfolioState) (h : 0 < p.quantity) :
    (closeQuote p f price s).entryFeeShare =
      (closeQuote p f price s).remainingEntryFee *
        ((closeQuote p f price s).quantity / p.quantity) := if_pos h

theorem realized_closeQuote (p : Position) (f : FillCall) (price : ℚ)
    (s : PortfolioState) :
    (closeQuote p f price s).realized =
      ((closeQuote p f price s).price - p.entryPrice) * (closeQuote p f price s).quantity *
        p.sideFactor - f.result.fees - (closeQuote p f price s).entryFeeShare := rfl

namespace Conserved

variable {cash : ℚ} {s t : PortfolioState}

/-- Writing one slot keeps the balance when the cash, the slot, its entry fee and the
realized profit change by amounts that cancel. -/
theorem writes (h : Conserved cash s) {key : String} {v : Option Position} {fee : Option ℚ}
    {cash' : ℚ} (profit : ℚ) (hw : Writes s t key v fee cash')
    (hrealized : t.realized = s.realized + profit)
    (hv : ∀ p, v = some p → 0 < p.quantity) (hfee : v = none → fee = none)
    (hbalance : cash' + (v.map Position.bookValue).getD 0 + fee.getD 0 =
      s.cash + s.positions.contribution Position.bookValue key +
        s.entryFees.contribution id key + profit) : Conserved cash t where
  quantity_pos := by
    intro key' p hp
    rw [hw.stores key'] at hp
    split at hp
    · exact hv p hp
    · exact h.quantity_pos key' p hp
  entryFee := by
    intro key' hnone
    rw [hw.stores key'] at hnone
    rw [hw.entryFees key']
    split at hnone
    next heq => rw [if_pos heq, hfee hnone]
    next hne => rw [if_neg hne, h.entryFee key' hnone]
  balance := by
    have hpositions := Dict.total_of_slot (φ := Position.bookValue) hw.stores
    have hfees := Dict.total_of_slot (φ := (id : ℚ → ℚ)) hw.entryFees
    rw [Option.map_id] at hfees
    rw [hw.cash, hrealized]
    have hold := h.balance
    simp only [id_eq] at hfees
    linarith

/-- A fill that opens a position pays for it, or is credited. -/
theorem openPositionWith {hook : ProtectionHook} (hhook : SetsProtectionOnly hook)
    (cfg : PortfolioConfig) {f : FillCall} (price : ℚ) (h : Conserved cash s)
    (hquantity : 0 < f.result.filledQuantity) (hnone : s.positions.get? f.key = none) :
    Conserved cash (openPositionWith hook cfg f price s) := by
  obtain ⟨q, hq, hbook, hw⟩ := exists_writes_openPositionWith hhook cfg f price s
  refine h.writes 0 hw ?_ ?_ ?_ ?_
  · unfold Sgr.openPositionWith PortfolioState.realized
    split <;> exact (add_zero _).symm
  · intro p hp
    obtain rfl := Option.some.inj hp
    rw [hq]
    exact hquantity
  · intro h
    cases h
  · rw [Dict.contribution_of_none hnone, Dict.contribution_of_none (h.entryFee f.key hnone)]
    simp only [Option.map_some, Option.getD_some, hbook]
    unfold openCash Position.bookValue Position.valueAt Position.sideFactor openedPosition
    split <;> ring

/-- A fill that closes a position, or a part of it, realizes the difference. -/
theorem bookClose (cfg : PortfolioConfig) {p : Position} {f : FillCall} (price : ℚ)
    (h : Conserved cash s) (hget : s.positions.get? f.key = some p) :
    ∃ t, bookClose p (closeQuote p f price s) f
        (recordTrade cfg p (closeQuote p f price s) f s) = some t ∧ Conserved cash t := by
  set q := closeQuote p f price s with hq
  obtain ⟨t, ht, hw⟩ := writes_bookClose p q (s := recordTrade cfg p q f s) hget
  have hpos := h.quantity_pos f.key p hget
  have hfee : s.entryFees.contribution id f.key = q.remainingEntryFee := by
    rw [Dict.contribution, Option.map_id]
    rfl
  refine ⟨t, ht, h.writes q.realized
    ⟨hw.stores, hw.entryFees, hw.cash, hw.retired⟩ ?_ ?_ ?_ ?_⟩
  · rw [PortfolioState.realized, tradeHistory_bookClose ht]
    simp [recordTrade, tradeRecord, PortfolioState.realized]
  · intro p' hp'
    unfold CloseQuote.left at hp'
    split at hp'
    · cases hp'
    next hnot =>
      obtain rfl := Option.some.inj hp'
      exact sub_pos.2 (not_le.1 hnot)
  · unfold CloseQuote.left CloseQuote.feeLeft
    split
    · exact fun _ => rfl
    · intro hnone
      cases hnone
  · have hcash : (recordTrade cfg p q f s).cash = s.cash := rfl
    rw [Dict.contribution_of_get? hget, hfee, closeCash_eq, hcash]
    unfold CloseQuote.left CloseQuote.feeLeft
    split
    next hfull =>
      -- the whole entry fee is charged to a close of the whole position
      have hquantity : q.quantity = p.quantity := le_antisymm (min_le_right _ _) hfull
      have hshare : q.entryFeeShare = q.remainingEntryFee := by
        rw [entryFeeShare_closeQuote p f price s hpos, ← hq, hquantity, div_self hpos.ne', mul_one]
      rw [realized_closeQuote, ← hq, hshare, hquantity]
      simp only [Option.map_none, Option.getD_none, Position.bookValue, Position.valueAt]
      ring
    next =>
      rw [realized_closeQuote, ← hq]
      simp only [Option.map_some, Option.getD_some, Position.bookValue, Position.valueAt,
        reducedPosition, Position.sideFactor]
      ring

/-- One fill keeps the balance, whatever it does to the positions. -/
theorem onOrderFilledWith {hook : ProtectionHook} (hhook : SetsProtectionOnly hook)
    (cfg : PortfolioConfig) (f : FillCall) (h : Conserved cash s) :
    ∃ t, onOrderFilledWith hook cfg f s = some t ∧ Conserved cash t := by
  unfold Sgr.onOrderFilledWith
  split
  next => exact ⟨s, rfl, h⟩
  next price hprice =>
    split
    next hnone =>
      split
      next => exact ⟨_, rfl, h.of_eq rfl rfl rfl rfl⟩
      next =>
        have hquantity := filledQuantity_pos_of_acceptedPrice hprice
        exact ⟨_, rfl, (h.openPositionWith hhook cfg price hquantity hnone).updatePeak⟩
    next p hget =>
      unfold updatePosition
      split
      next =>
        obtain ⟨t, ht, hconserved⟩ := h.bookClose cfg price hget
        dsimp only
        rw [ht, Option.map_some, Option.map_some]
        refine ⟨_, rfl, updatePeak ?_⟩
        split
        · exact hconserved.of_eq rfl rfl rfl rfl
        · exact hconserved
      next => exact ⟨_, rfl, h.updatePeak⟩

/-- A run of calls never raises and keeps the balance. -/
theorem exists_run {hook : ProtectionHook} (hhook : SetsProtectionOnly hook)
    (cfg : PortfolioConfig) (calls : List PortfolioCall) (h : Conserved cash s) :
    ∃ t, (serialPortfolio hook cfg).run s calls = some t ∧ Conserved cash t := by
  induction calls generalizing s with
  | nil => exact ⟨s, rfl, h⟩
  | cons call calls ih =>
      have hstep : ∃ t, (serialPortfolio hook cfg).next s call = some t ∧ Conserved cash t := by
        cases call with
        | onOrderFilled f => exact h.onOrderFilledWith hhook cfg f
        | updatePrices prices => exact ⟨_, rfl, h.updatePrices prices⟩
      obtain ⟨t, ht, hconserved⟩ := hstep
      obtain ⟨u, hu, hconserved⟩ := ih hconserved
      exact ⟨u, (Machine.run_cons_eq_some_iff _).2 ⟨t, ht, hu⟩, hconserved⟩

end Conserved

/-- After every sequence of calls on a fresh engine the portfolio is worth its initial
cash, the realized and the open profit, less the entry fees that are still held. -/
theorem portfolioValue_of_run {hook : ProtectionHook} (hhook : SetsProtectionOnly hook)
    (cfg : PortfolioConfig) (cash : ℚ) (gate : Option LiveVerificationState)
    (calls : List PortfolioCall) :
    ∃ t, (serialPortfolio hook cfg).run (.init cash gate) calls = some t ∧
      t.portfolioValue = cash + (t.tradeHistory.map TradeRecord.realizedPnl).sum +
        (t.positions.values.map fun p =>
          (p.currentPrice - p.entryPrice) * p.quantity * p.sideFactor).sum -
        t.entryFees.values.sum := by
  obtain ⟨t, ht, hconserved⟩ := (conserved_init cash gate).exists_run hhook cfg calls
  refine ⟨t, ht, ?_⟩
  have hvalue := hconserved.portfolioValue_eq
  rw [Dict.total, Dict.total, List.map_id] at hvalue
  exact hvalue

/-- The engine of the example, with the hook of the repository. -/
def PortfolioConfig.paperProtected : PortfolioConfig where
  tradingMode := .paper
  protection := some ⟨some 0, 1 / 50, 1 / 25, 60, 5 / 10000, 5 / 10000⟩

/-- A short position that is opened, repriced, reduced and closed with too large a
fill. -/
theorem portfolioValue_of_run_short :
    ∃ t, (serialPortfolio PortfolioConfig.paperProtected.hook .paperProtected).run
        (.init 1000 none)
        [.onOrderFilled (.btc 1 .sell 2 100), .updatePrices fun _ => some 90,
          .onOrderFilled (.btc 2 .buy 1 80), .onOrderFilled (.btc 3 .buy 3 110)] = some t ∧
      t.portfolioValue = 1000 + (t.tradeHistory.map TradeRecord.realizedPnl).sum +
        (t.positions.values.map fun p =>
          (p.currentPrice - p.entryPrice) * p.quantity * p.sideFactor).sum -
        t.entryFees.values.sum :=
  portfolioValue_of_run (setsProtectionOnly_hook .paperProtected) .paperProtected 1000 none _

end Sgr
