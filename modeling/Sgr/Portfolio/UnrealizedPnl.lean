import Sgr.Portfolio.Equity

/-!
# The profit of an open position

`unrealized_pnl` is stored with a position. It is zero when the position is opened, a price
update computes it anew, and a partial close sets it to zero beside the price of the fill. So
all along a run it is the profit at the current price exactly if every partial close of the run
is at the price of the entry.
-/

open Collection Concurrency

namespace Sgr

/-- `unrealized_pnl` is the profit at the current price. -/
def Position.ShowsProfit (p : Position) : Prop :=
  match p.side with
  | .long => p.unrealizedPnl = (p.currentPrice - p.entryPrice) * p.quantity
  | .short => p.unrealizedPnl = (p.entryPrice - p.currentPrice) * p.quantity
  | .flat => True

/-- Every stored position shows its profit. -/
def PortfolioState.ShowsProfits (s : PortfolioState) : Prop :=
  ∀ key p, s.positions.get? key = some p → p.ShowsProfit

/-- The call closes a part of a position, and not at the price of its entry. -/
def PortfolioCall.ClosesPartOffEntry (s : PortfolioState) : PortfolioCall → Prop
  | .onOrderFilled f => ∃ p price, s.positions.get? f.key = some p ∧
      acceptedPrice f.result = some price ∧ isClosing p (inferSide f.result) = true ∧
      f.result.filledQuantity < p.quantity ∧ price ≠ p.entryPrice
  | .updatePrices _ => False

theorem showsProfits_init (cash : ℚ) (gate : Option LiveVerificationState) :
    (PortfolioState.init cash gate).ShowsProfits := by
  intro key p h
  cases h

theorem side_of_isClosing {p : Position} {side : Side} (h : isClosing p side = true) :
    p.side = .long ∨ p.side = .short := by
  unfold isClosing at h
  split at h
  next hlong => exact .inl hlong
  next hshort => exact .inr hshort
  next => cases h

/-- A position whose profit is stored as zero shows it exactly at the price of its entry. -/
theorem Position.showsProfit_iff_of_zero {p : Position} (hside : p.side = .long ∨ p.side = .short)
    (hzero : p.unrealizedPnl = 0) (hquantity : 0 < p.quantity) :
    p.ShowsProfit ↔ p.currentPrice = p.entryPrice := by
  unfold ShowsProfit
  rcases hside with hside | hside
  · rw [hside, hzero]
    simp only [zero_eq_mul, hquantity.ne', or_false, sub_eq_zero]
  · rw [hside, hzero]
    simp only [zero_eq_mul, hquantity.ne', or_false, sub_eq_zero]
    exact eq_comm

/-- A position that is opened shows its profit, whatever protection the hook attaches. -/
theorem showsProfit_openedPosition (cfg : PortfolioConfig) (f : FillCall) (price : ℚ) :
    (openedPosition cfg f price).ShowsProfit := by
  unfold Position.ShowsProfit openedPosition
  cases (inferSide f.result).opens <;> simp

theorem SetsProtectionOnly.showsProfit {hook : ProtectionHook} (h : SetsProtectionOnly hook)
    {p q : Position} {raw : RawResponse} (hq : hook p raw = some q) (hp : p.ShowsProfit) :
    q.ShowsProfit := by
  rw [h p raw q hq]
  exact hp

theorem showsProfit_repriced (p : Position) (price : ℚ) : (repriced p price).ShowsProfit := by
  unfold Position.ShowsProfit repriced
  cases hside : p.side
  · simp
  · simp only [reduceCtorEq, if_false]
    ring
  · simp

theorem showsProfit_atPrices {prices : String → Option ℚ} {p : Position} (h : p.ShowsProfit) :
    (p.atPrices prices).ShowsProfit := by
  unfold Position.atPrices
  cases prices p.symbol.ccxtSymbol with
  | none => exact h
  | some price => exact showsProfit_repriced p price

namespace PortfolioState.ShowsProfits

variable {s t : PortfolioState} {cfg : PortfolioConfig} {f : FillCall}

theorem congr_positions (hpositions : t.positions = s.positions) :
    t.ShowsProfits ↔ s.ShowsProfits := by
  unfold PortfolioState.ShowsProfits
  rw [hpositions]

theorem of_positions (h : s.ShowsProfits) (hpositions : t.positions = s.positions) :
    t.ShowsProfits := (congr_positions hpositions).2 h

/-- Of the stored positions only the one that is written can lose it. -/
theorem stores_iff (h : s.ShowsProfits) {key : String} {v : Option Position}
    (hstores : Stores s t key v) : t.ShowsProfits ↔ ∀ p, v = some p → p.ShowsProfit := by
  constructor
  · intro ht p hp
    refine ht key p ?_
    rw [hstores key, if_pos rfl, hp]
  · intro hv key' p hp
    rw [hstores key'] at hp
    split at hp
    next => exact hv p hp
    next => exact h key' p hp

theorem updatePrices (h : s.ShowsProfits) (prices : String → Option ℚ) :
    (updatePrices prices s).ShowsProfits := by
  intro key q hq
  rw [get?_updatePrices, Option.map_eq_some_iff] at hq
  obtain ⟨p, hp, rfl⟩ := hq
  exact showsProfit_atPrices (h key p hp)

theorem openPositionWith {hook : ProtectionHook} (hhook : SetsProtectionOnly hook)
    (h : s.ShowsProfits) (price : ℚ) : (openPositionWith hook cfg f price s).ShowsProfits := by
  have hopened := showsProfit_openedPosition cfg f price
  have hbooked : (bookOpen cfg f price s).ShowsProfits := by
    refine (h.stores_iff (writes_bookOpen cfg f price s).stores).2 fun p hp => ?_
    rw [← Option.some.inj hp]
    exact hopened
  unfold Sgr.openPositionWith
  split
  next q hq =>
    refine (hbooked.stores_iff fun key => Dict.get?_set _ f.key key q).2 fun p hp => ?_
    rw [← Option.some.inj hp]
    exact hhook.showsProfit hq hopened
  next => exact hbooked

/-- What a closing fill leaves shows its profit exactly if nothing is left or the fill is at the
price of the entry. -/
theorem bookClose_iff (h : s.ShowsProfits) {p : Position} {price : ℚ}
    (hclosing : isClosing p (inferSide f.result) = true)
    (hclose : bookClose p (closeQuote p f price s) f
      (recordTrade cfg p (closeQuote p f price s) f s) = some t) :
    t.ShowsProfits ↔ (f.result.filledQuantity < p.quantity → price = p.entryPrice) := by
  have hrecorded : (recordTrade cfg p (closeQuote p f price s) f s).ShowsProfits :=
    h.of_positions rfl
  rw [hrecorded.stores_iff (stores_bookClose hclose), CloseQuote.left]
  by_cases hfull : (closeQuote p f price s).full p
  · have hle := (full_closeQuote_iff p f price s).1 hfull
    rw [if_pos hfull]
    exact iff_of_true (fun q hq => by cases hq) fun hlt => absurd hlt hle.not_gt
  · have hlt := not_le.1 (mt (full_closeQuote_iff p f price s).2 hfull)
    have hleft : 0 < p.quantity - (closeQuote p f price s).quantity := sub_pos.2 (not_le.1 hfull)
    have hshows := Position.showsProfit_iff_of_zero
      (p := reducedPosition p (closeQuote p f price s)) (side_of_isClosing hclosing) rfl hleft
    rw [if_neg hfull]
    constructor
    · exact fun hall _ => hshows.1 (hall _ rfl)
    · intro hprice q hq
      rw [← Option.some.inj hq]
      exact hshows.2 (hprice hlt)

/-- A fill of a stored position keeps the profits exactly if it does not close a part off the
entry. -/
theorem updatePosition_iff (h : s.ShowsProfits) {p : Position} {price : ℚ}
    (hupdate : updatePosition cfg p f price s = some t) :
    t.ShowsProfits ↔ ¬ (isClosing p (inferSide f.result) = true ∧
      f.result.filledQuantity < p.quantity ∧ price ≠ p.entryPrice) := by
  unfold updatePosition at hupdate
  split at hupdate
  next hclosing =>
    obtain ⟨r, hr, hrt⟩ := Option.map_eq_some_iff.1 hupdate
    have hpositions : t.positions = r.positions := by
      rw [← hrt]
      split <;> rfl
    rw [congr_positions hpositions, h.bookClose_iff hclosing hr]
    simp [hclosing]
  next hclosing =>
    cases hupdate
    exact iff_of_true h fun hpart => hclosing hpart.1

/-- A fill of a market without a position keeps the profits. -/
theorem fill_of_none {hook : ProtectionHook} (hhook : SetsProtectionOnly hook)
    (h : s.ShowsProfits) {price : ℚ} (hprice : acceptedPrice f.result = some price)
    (hget : s.positions.get? f.key = none) (hfill : onOrderFilledWith hook cfg f s = some t) :
    t.ShowsProfits := by
  unfold onOrderFilledWith at hfill
  simp only [hprice, hget] at hfill
  split at hfill
  next =>
    cases hfill
    exact h.of_positions rfl
  next =>
    cases hfill
    exact (h.openPositionWith hhook price).of_positions (updatePeak_positions _)

/-- A fill keeps the profits exactly if it does not close a part off the entry. -/
theorem fill_iff {hook : ProtectionHook} (hhook : SetsProtectionOnly hook) (h : s.ShowsProfits)
    (hfill : onOrderFilledWith hook cfg f s = some t) :
    t.ShowsProfits ↔ ¬ (PortfolioCall.onOrderFilled f).ClosesPartOffEntry s := by
  cases hprice : acceptedPrice f.result with
  | none =>
      rw [onOrderFilledWith, hprice] at hfill
      cases hfill
      exact iff_of_true h fun ⟨p, price, _, haccepted, _⟩ => by
        rw [hprice] at haccepted
        cases haccepted
  | some price =>
      cases hget : s.positions.get? f.key with
      | none =>
          exact iff_of_true (h.fill_of_none hhook hprice hget hfill) fun ⟨p, _, hp, _⟩ => by
            rw [hget] at hp
            cases hp
      | some p =>
          have hcall : (PortfolioCall.onOrderFilled f).ClosesPartOffEntry s ↔
              isClosing p (inferSide f.result) = true ∧
                f.result.filledQuantity < p.quantity ∧ price ≠ p.entryPrice := by
            simp [PortfolioCall.ClosesPartOffEntry, hget, hprice]
          unfold onOrderFilledWith at hfill
          simp only [hprice, hget, Option.map_eq_some_iff] at hfill
          obtain ⟨u, hu, rfl⟩ := hfill
          rw [congr_positions (updatePeak_positions u), h.updatePosition_iff hu, hcall]

/-- The step: a call keeps the profits exactly if it does not close a part off the entry. -/
theorem next_iff {hook : ProtectionHook} (hhook : SetsProtectionOnly hook) {call : PortfolioCall}
    (h : s.ShowsProfits) (hnext : (serialPortfolio hook cfg).next s call = some t) :
    t.ShowsProfits ↔ ¬ call.ClosesPartOffEntry s := by
  cases call with
  | updatePrices prices =>
      cases hnext
      exact iff_of_true (h.updatePrices prices) id
  | onOrderFilled f => exact h.fill_iff hhook hnext

end PortfolioState.ShowsProfits

/-- All along a run of fills and price updates the stored profits are those at the current
prices exactly if no fill of the run closes a part of a position off the price of its entry. -/
theorem along_showsProfits_iff (cfg : PortfolioConfig) (cash : ℚ)
    (gate : Option LiveVerificationState) (calls : List PortfolioCall) :
    (serialPortfolio cfg.hook cfg).Along PortfolioState.ShowsProfits (.init cash gate) calls ↔
      (serialPortfolio cfg.hook cfg).Guarded (fun s call => ¬ call.ClosesPartOffEntry s)
        (.init cash gate) calls := by
  have hhook := setsProtectionOnly_hook cfg
  obtain ⟨t, hrun, -⟩ := (conserved_init cash gate).exists_run hhook cfg calls
  exact (serialPortfolio cfg.hook cfg).along_iff_guarded (I := fun _ => True)
    (fun _ _ _ _ _ => trivial) (fun _ _ _ _ hs hnext => hs.next_iff hhook hnext) trivial
    (showsProfits_init cash gate) hrun

/-- Two units are bought at 100 and one of them is sold at 110: the other shows no profit. -/
theorem not_along_showsProfits :
    ¬ ∀ (cfg : PortfolioConfig) (cash : ℚ) (gate : Option LiveVerificationState)
      (calls : List PortfolioCall),
      (serialPortfolio cfg.hook cfg).Along PortfolioState.ShowsProfits (.init cash gate)
        calls := by
  intro h
  have halong := h ⟨.paper, none⟩ 1000 none
    [.onOrderFilled (.btc 1 .buy 2 100), .onOrderFilled (.btc 2 .sell 1 110)]
  have hleft : ((serialPortfolio (PortfolioConfig.mk .paper none).hook ⟨.paper, none⟩).run
      (.init 1000 none)
      [.onOrderFilled (.btc 1 .buy 2 100), .onOrderFilled (.btc 2 .sell 1 110)]).map
        (fun t => (t.positions.get? btcUsdt.str).map fun p =>
          (p.side, p.unrealizedPnl, (p.currentPrice - p.entryPrice) * p.quantity)) =
      some (some (.long, 0, 10)) := by
    decide +kernel
  obtain ⟨t, ht, hposition⟩ := Option.map_eq_some_iff.1 hleft
  obtain ⟨p, hp, hfields⟩ := Option.map_eq_some_iff.1 hposition
  obtain ⟨hside, hzero, hprofit⟩ : p.side = .long ∧ p.unrealizedPnl = 0 ∧
      (p.currentPrice - p.entryPrice) * p.quantity = 10 := by simpa using hfields
  have hshows := halong.of_run _ ht btcUsdt.str p hp
  rw [Position.ShowsProfit, hside, hzero, hprofit] at hshows
  norm_num at hshows

end Sgr
