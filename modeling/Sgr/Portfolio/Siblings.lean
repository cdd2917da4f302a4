import Sgr.Portfolio.Equity

/-!
# Fills of protective orders whose position is closed

When a position is closed, the ids of its stop-loss and take-profit orders are remembered, so
that a late fill of one of them does not open a position. The guard is asked only when no
position is open on the symbol, and it forgets an id with the first fill that it drops. A late
fill that finds a new position reduces it, and a fill that is delivered again opens one.

The history of an engine records next to it the protective orders of the closed positions,
the ids of the fills that have come while no position was open, and the fills of the recorded
orders with the portfolio before and after.
-/

open Collection Concurrency

namespace Sgr

/-- A handled fill, with the portfolio before and after it. -/
structure HandledFill where
  fill : FillCall
  before : PortfolioState
  after : PortfolioState

/-- An engine with what has become of its protective orders. -/
structure SiblingHistory where
  portfolio : PortfolioState
  /-- The symbol keys and ids of the protective orders of closed positions. -/
  closedOrders : Finset (String × String)
  /-- The ids of the fills that have come while no position was open on their symbol, after the
  last close of a position with such a protective order. -/
  cameFlat : Finset String
  /-- The fills of the protective orders of closed positions. -/
  siblingFills : List HandledFill

/-- The protective orders of the position that has been closed under a key. -/
def closedIds (s t : PortfolioState) (key : String) : Finset String :=
  match s.positions.get? key, t.positions.get? key with
  | some p, none => protectiveIds p
  | _, _ => ∅

/-- A fill that the handler looks at comes while no position is open on its symbol. -/
def comesFlat (s : PortfolioState) (f : FillCall) : Bool :=
  (acceptedPrice f.result).isSome && (s.positions.get? f.key).isNone

namespace SiblingHistory

/-- The id of a fill is that of a protective order of a closed position on its symbol. -/
def IsSibling (S : SiblingHistory) (f : FillCall) : Prop :=
  (f.key, f.result.exchangeOrderId) ∈ S.closedOrders

instance (S : SiblingHistory) (f : FillCall) : Decidable (S.IsSibling f) :=
  inferInstanceAs (Decidable (_ ∈ S.closedOrders))

/-- A fill has been handled. -/
def handled (S : SiblingHistory) (f : FillCall) (t : PortfolioState) : SiblingHistory where
  portfolio := t
  closedOrders := S.closedOrders ∪ (closedIds S.portfolio t f.key).image (Prod.mk f.key)
  cameFlat :=
    if comesFlat S.portfolio f then insert f.result.exchangeOrderId S.cameFlat
    else S.cameFlat \ closedIds S.portfolio t f.key
  siblingFills :=
    if S.IsSibling f then ⟨f, S.portfolio, t⟩ :: S.siblingFills else S.siblingFills

/-- No fill of a protective order of a closed position has changed positions or cash. -/
def Harmless (S : SiblingHistory) : Prop :=
  ∀ e ∈ S.siblingFills, e.after.positions = e.before.positions ∧ e.after.cash = e.before.cash

end SiblingHistory

/-- A fill of a protective order of a closed position comes either when no position is open on
its symbol, for the first time since the close, or when the open position is on the side of the
fill. -/
def ComesHarmlessly (S : SiblingHistory) : PortfolioCall → Prop
  | .onOrderFilled f => S.IsSibling f → (acceptedPrice f.result).isSome = true →
      match S.portfolio.positions.get? f.key with
      | none => f.result.exchangeOrderId ∉ S.cameFlat
      | some p => isClosing p (inferSide f.result) = false
  | .updatePrices _ => True

section Histories

variable (hook : ProtectionHook) (cfg : PortfolioConfig)

/-- An engine that handles one call after the other, with its history. -/
def siblingMachine : Machine SiblingHistory PortfolioCall where
  next S
    | .onOrderFilled f => (onOrderFilledWith hook cfg f S.portfolio).map (S.handled f)
    | .updatePrices prices => some { S with portfolio := updatePrices prices S.portfolio }

/-- An engine that has just been started, with or without restored positions. -/
def siblingStart (s : PortfolioState) : SiblingHistory :=
  ⟨{ s with retiredOrderIds := ∅ }, ∅, ∅, []⟩

/-! ### What a fill does -/

/-- The ways in which `on_order_filled` handles a fill. -/
inductive FillOutcome (f : FillCall) (s : PortfolioState) : PortfolioState → Prop
  | ignored (hprice : acceptedPrice f.result = none) : FillOutcome f s s
  | dropped {price : ℚ} (hprice : acceptedPrice f.result = some price)
      (hflat : s.positions.get? f.key = none)
      (hid : f.result.exchangeOrderId ∈ s.retiredOrderIds) :
      FillOutcome f s
        { s with retiredOrderIds := s.retiredOrderIds.erase f.result.exchangeOrderId }
  | opens {price : ℚ} (hprice : acceptedPrice f.result = some price)
      (hflat : s.positions.get? f.key = none)
      (hid : f.result.exchangeOrderId ∉ s.retiredOrderIds) :
      FillOutcome f s (openPositionWith hook cfg f price s).updatePeak
  | keeps {price : ℚ} {p : Position} (hprice : acceptedPrice f.result = some price)
      (hget : s.positions.get? f.key = some p)
      (hside : isClosing p (inferSide f.result) = false) : FillOutcome f s s.updatePeak
  | reduces {price : ℚ} {p : Position} {t : PortfolioState}
      (hprice : acceptedPrice f.result = some price) (hget : s.positions.get? f.key = some p)
      (hside : isClosing p (inferSide f.result) = true)
      (hbook : bookClose p (closeQuote p f price s) f
        (recordTrade cfg p (closeQuote p f price s) f s) = some t) :
      FillOutcome f s
        (if (closeQuote p f price s).full p then retire p t else t).updatePeak

variable {hook cfg} {f : FillCall} {s t : PortfolioState}

theorem fillOutcome_of_some (h : onOrderFilledWith hook cfg f s = some t) :
    FillOutcome hook cfg f s t := by
  unfold onOrderFilledWith at h
  split at h
  next hprice =>
    cases h
    exact .ignored hprice
  next price hprice =>
    split at h
    next hflat =>
      split at h
      next hid =>
        cases h
        exact .dropped hprice hflat hid
      next hid =>
        cases h
        exact .opens hprice hflat hid
    next p hget =>
      obtain ⟨u, hu, rfl⟩ := Option.map_eq_some_iff.1 h
      unfold updatePosition at hu
      split at hu
      next hside =>
        obtain ⟨t, ht, rfl⟩ := Option.map_eq_some_iff.1 hu
        exact .reduces hprice hget hside ht
      next hside =>
        cases hu
        exact .keeps hprice hget ((Bool.not_eq_true _).mp hside)

theorem exists_get?_openPositionWith (hook : ProtectionHook) (cfg : PortfolioConfig)
    (f : FillCall) (price : ℚ) (s : PortfolioState) :
    ∃ q, (openPositionWith hook cfg f price s).positions.get? f.key = some q := by
  unfold openPositionWith
  split
  next q _ => exact ⟨q, Dict.get?_set_self _ _ _⟩
  next => exact ⟨_, Dict.get?_set_self _ _ _⟩

theorem retiredOrderIds_openPositionWith (hook : ProtectionHook) (cfg : PortfolioConfig)
    (f : FillCall) (price : ℚ) (s : PortfolioState) :
    (openPositionWith hook cfg f price s).retiredOrderIds = s.retiredOrderIds := by
  unfold openPositionWith
  split <;> rfl

theorem retiredOrderIds_bookClose {p : Position} {q : CloseQuote} {u : PortfolioState}
    (h : bookClose p q f u = some t) : t.retiredOrderIds = u.retiredOrderIds := by
  unfold bookClose at h
  split_ifs at h
  · cases h
    rfl
  · cases h
    rfl

/-- What a closing fill leaves is not the position that it has found. -/
theorem left_closeQuote_ne {price : ℚ} {p : Position}
    (hprice : acceptedPrice f.result = some price) :
    (closeQuote p f price s).left p ≠ some p := by
  unfold CloseQuote.left
  split
  next => simp
  next hpart =>
    intro heq
    have hquantity := congrArg Position.quantity (Option.some.inj heq)
    rw [full_closeQuote_iff, not_le] at hpart
    have hpos := filledQuantity_pos_of_acceptedPrice hprice
    simp only [reducedPosition, closeQuote, min_eq_left hpart.le] at hquantity
    linarith

/-- What a closing fill leaves under its key. -/
theorem get?_reduces {price : ℚ} {p : Position} {u : PortfolioState}
    (hbook : bookClose p (closeQuote p f price s) f u = some t) :
    (if (closeQuote p f price s).full p then retire p t else t).updatePeak.positions.get? f.key =
      (closeQuote p f price s).left p := by
  have hslot := stores_bookClose hbook f.key
  rw [if_pos rfl] at hslot
  rw [PortfolioState.updatePeak_positions]
  split
  · exact hslot
  · exact hslot

/-- A fill leaves positions and cash as they are exactly when it is ignored, dropped or on the
side of the position. -/
theorem FillOutcome.unchanged_iff (h : FillOutcome hook cfg f s t) :
    (t.positions = s.positions ∧ t.cash = s.cash) ↔
      ((acceptedPrice f.result).isSome = true →
        match s.positions.get? f.key with
        | none => f.result.exchangeOrderId ∈ s.retiredOrderIds
        | some p => isClosing p (inferSide f.result) = false) := by
  cases h with
  | ignored hprice => simp [hprice]
  | dropped hprice hflat hid => simp [hflat, hid]
  | @opens price hprice hflat hid =>
      obtain ⟨q, hq⟩ := exists_get?_openPositionWith hook cfg f price s
      have hchanged : (openPositionWith hook cfg f price s).updatePeak.positions ≠
          s.positions := by
        intro heq
        rw [PortfolioState.updatePeak_positions] at heq
        rw [heq, hflat] at hq
        cases hq
      exact iff_of_false (fun h => hchanged h.1) (by simp [hprice, hflat, hid])
  | keeps hprice hget hside => simp [hprice, hget, hside]
  | @reduces price p t hprice hget hside hbook =>
      have hchanged : (if (closeQuote p f price s).full p then retire p t
          else t).updatePeak.positions ≠ s.positions := by
        intro heq
        have hleft := get?_reduces hbook
        rw [heq, hget] at hleft
        exact left_closeQuote_ne hprice hleft.symm
      exact iff_of_false (fun h => hchanged h.1) (by simp [hprice, hget, hside])

/-! ### What the engine remembers -/

/-- The ids that the engine remembers are those of the protective orders of closed positions
that no fill has had since while no position was open on its symbol. -/
def RemembersClosed (S : SiblingHistory) : Prop :=
  ∀ id, id ∈ S.portfolio.retiredOrderIds ↔
    (∃ key, (key, id) ∈ S.closedOrders) ∧ id ∉ S.cameFlat

theorem remembersClosed_siblingStart (s : PortfolioState) : RemembersClosed (siblingStart s) := by
  intro id
  simp [siblingStart]

/-- A fill that comes while no position is open forgets its id. -/
theorem RemembersClosed.handled_flat {S : SiblingHistory} (h : RemembersClosed S) {price : ℚ}
    (hprice : acceptedPrice f.result = some price)
    (hflat : S.portfolio.positions.get? f.key = none)
    (hretired : t.retiredOrderIds =
      S.portfolio.retiredOrderIds.erase f.result.exchangeOrderId) :
    RemembersClosed (S.handled f t) := by
  intro id
  have hids : closedIds S.portfolio t f.key = ∅ := by simp [closedIds, hflat]
  have hcomes : comesFlat S.portfolio f = true := by simp [comesFlat, hprice, hflat]
  simp only [SiblingHistory.handled, hids, hcomes, hretired, Finset.image_empty,
    Finset.union_empty, if_true, Finset.mem_erase, Finset.mem_insert, not_or, h id]
  tauto

/-- A fill that does not close a position and that no position has waited for. -/
theorem RemembersClosed.handled_same {S : SiblingHistory} (h : RemembersClosed S)
    (hcomes : comesFlat S.portfolio f = false) (hids : closedIds S.portfolio t f.key = ∅)
    (hretired : t.retiredOrderIds = S.portfolio.retiredOrderIds) :
    RemembersClosed (S.handled f t) := by
  intro id
  simp only [SiblingHistory.handled, hids, hcomes, hretired, Finset.image_empty,
    Finset.union_empty, Finset.sdiff_empty, h id]
  simp

/-- A full close remembers the protective orders of its position. -/
theorem RemembersClosed.handled_close {S : SiblingHistory} (h : RemembersClosed S) {p : Position}
    (hget : S.portfolio.positions.get? f.key = some p) (hclosed : t.positions.get? f.key = none)
    (hretired : t.retiredOrderIds = S.portfolio.retiredOrderIds ∪ protectiveIds p) :
    RemembersClosed (S.handled f t) := by
  intro id
  have hids : closedIds S.portfolio t f.key = protectiveIds p := by simp [closedIds, hget, hclosed]
  have hcomes : comesFlat S.portfolio f = false := by simp [comesFlat, hget]
  simp only [SiblingHistory.handled, hids, hcomes, hretired, Bool.false_eq_true, if_false,
    Finset.mem_union, Finset.mem_image, Finset.mem_sdiff, h id]
  constructor
  · rintro (⟨⟨key, hkey⟩, hnew⟩ | hid)
    · exact ⟨⟨key, .inl hkey⟩, fun hcame => hnew hcame.1⟩
    · exact ⟨⟨f.key, .inr ⟨id, hid, rfl⟩⟩, fun hcame => hcame.2 hid⟩
  · rintro ⟨⟨key, hkey | ⟨id', hid, heq⟩⟩, hnew⟩
    · by_cases hid : id ∈ protectiveIds p
      · exact .inr hid
      · exact .inl ⟨⟨key, hkey⟩, fun hcame => hnew ⟨hcame, hid⟩⟩
    · cases heq
      exact .inr hid

theorem RemembersClosed.handled {S : SiblingHistory} (h : RemembersClosed S)
    (ht : FillOutcome hook cfg f S.portfolio t) : RemembersClosed (S.handled f t) := by
  cases ht with
  | ignored hprice =>
      refine h.handled_same (by simp [comesFlat, hprice]) ?_ rfl
      unfold closedIds
      cases S.portfolio.positions.get? f.key <;> rfl
  | dropped hprice hflat hid => exact h.handled_flat hprice hflat rfl
  | opens hprice hflat hid =>
      refine h.handled_flat hprice hflat ?_
      rw [PortfolioState.updatePeak_retiredOrderIds, retiredOrderIds_openPositionWith,
        Finset.erase_eq_of_notMem hid]
  | keeps hprice hget hside =>
      refine h.handled_same (by simp [comesFlat, hget]) ?_
        S.portfolio.updatePeak_retiredOrderIds
      simp [closedIds, hget]
  | @reduces price p t hprice hget hside hbook =>
      have hleft := get?_reduces hbook
      have hsame := retiredOrderIds_bookClose hbook
      by_cases hfull : (closeQuote p f price S.portfolio).full p
      · rw [if_pos hfull] at hleft ⊢
        refine h.handled_close hget (hleft.trans (if_pos hfull)) ?_
        rw [PortfolioState.updatePeak_retiredOrderIds, retire, hsame]
        rfl
      · rw [if_neg hfull] at hleft ⊢
        refine h.handled_same (by simp [comesFlat, hget]) ?_ ?_
        · rw [closedIds, hget, hleft, CloseQuote.left, if_neg hfull]
        · rw [PortfolioState.updatePeak_retiredOrderIds, hsame]
          rfl

theorem RemembersClosed.next {S T : SiblingHistory} (h : RemembersClosed S) {call : PortfolioCall}
    (hnext : (siblingMachine hook cfg).next S call = some T) : RemembersClosed T := by
  cases call with
  | onOrderFilled f =>
      obtain ⟨t, ht, rfl⟩ := Option.map_eq_some_iff.1 hnext
      exact h.handled (fillOutcome_of_some ht)
  | updatePrices prices =>
      cases hnext
      intro id
      rw [← h id]
      exact iff_of_eq (congrArg (id ∈ ·) (PortfolioState.updatePeak_retiredOrderIds _))

/-- A call keeps the history harmless exactly when it comes harmlessly. -/
theorem harmless_next_iff {S T : SiblingHistory} (h : RemembersClosed S) {call : PortfolioCall}
    (hnext : (siblingMachine hook cfg).next S call = some T) :
    T.Harmless ↔ S.Harmless ∧ ComesHarmlessly S call := by
  cases call with
  | updatePrices prices =>
      cases hnext
      exact (and_iff_left trivial).symm
  | onOrderFilled f =>
      obtain ⟨t, ht, rfl⟩ := Option.map_eq_some_iff.1 hnext
      have hunchanged := (fillOutcome_of_some ht).unchanged_iff
      by_cases hsibling : S.IsSibling f
      · have hfills : (S.handled f t).siblingFills = ⟨f, S.portfolio, t⟩ :: S.siblingFills :=
          if_pos hsibling
        have hremembered : f.result.exchangeOrderId ∈ S.portfolio.retiredOrderIds ↔
            f.result.exchangeOrderId ∉ S.cameFlat :=
          (h _).trans (and_iff_right ⟨f.key, hsibling⟩)
        simp only [hremembered] at hunchanged
        rw [SiblingHistory.Harmless, hfills, List.forall_mem_cons, hunchanged, and_comm]
        exact and_congr_right fun _ => ⟨fun hcomes _ => hcomes, fun hcomes => hcomes hsibling⟩
      · have hfills : (S.handled f t).siblingFills = S.siblingFills := if_neg hsibling
        rw [SiblingHistory.Harmless, hfills]
        exact (and_iff_left fun h => absurd h hsibling).symm

/-- In a run no fill of a protective order of a closed position changes positions or cash
exactly when each of them comes harmlessly. -/
theorem harmless_iff_of_comesHarmlessly {s : PortfolioState} {calls : List PortfolioCall}
    {S : SiblingHistory}
    (hrun : (siblingMachine hook cfg).run (siblingStart s) calls = some S) :
    S.Harmless ↔ (siblingMachine hook cfg).Guarded ComesHarmlessly (siblingStart s) calls := by
  have hstart : (siblingStart s).Harmless := fun _ he => by cases he
  have hiff := (siblingMachine hook cfg).run_iff_guarded (I := RemembersClosed)
    (φ := SiblingHistory.Harmless) (fun _ _ _ hI hnext => hI.next hnext)
    (fun _ _ _ hI hnext => harmless_next_iff hI hnext) (remembersClosed_siblingStart s) hrun
  exact hiff.trans (and_iff_right hstart)

end Histories

/-- A position with both protective orders. -/
def protectedLong : Position where
  id := 1
  symbol := btcUsdt
  side := .long
  quantity := 1
  entryPrice := 100
  currentPrice := 100
  openedAt := 0
  strategyName := "trend"
  tradingMode := .paper
  slOrderId := some "sl"
  tpOrderId := some "tp"

/-- A portfolio that has been restored with this position. -/
def protectedPortfolio : PortfolioState :=
  { PortfolioState.init 900 none with
    positions := Dict.empty.set btcUsdt.str protectedLong }

/-- The fill of an order with an id. -/
def orderFill (orderId : String) (n : ℕ) (side : Side) (price : ℚ) : PortfolioCall :=
  .onOrderFilled
    { FillCall.btc n side 1 price with
      result := { (FillCall.btc n side 1 price).result with exchangeOrderId := orderId } }

/-- The late fill of the stop-loss order is dropped. -/
theorem harmless_iff_of_comesHarmlessly_late :
    ∃ S, (siblingMachine (fun _ _ => none) .paperProtected).run (siblingStart protectedPortfolio)
        [orderFill "tp" 1 .sell 110, orderFill "sl" 2 .sell 90] = some S ∧
      (S.Harmless ↔ (siblingMachine (fun _ _ => none) .paperProtected).Guarded ComesHarmlessly
        (siblingStart protectedPortfolio)
        [orderFill "tp" 1 .sell 110, orderFill "sl" 2 .sell 90]) := by
  have hend : ((siblingMachine (fun _ _ => none) .paperProtected).run
      (siblingStart protectedPortfolio)
      [orderFill "tp" 1 .sell 110, orderFill "sl" 2 .sell 90]).isSome = true := by
    decide +kernel
  obtain ⟨S, hS⟩ := Option.isSome_iff_exists.1 hend
  exact ⟨S, hS, harmless_iff_of_comesHarmlessly hS⟩

/-- The late fill of the stop-loss order closes the position that was opened in between. -/
theorem not_harmless :
    ¬ ∀ (hook : ProtectionHook) (cfg : PortfolioConfig) (s : PortfolioState)
      (calls : List PortfolioCall) (S : SiblingHistory),
      (siblingMachine hook cfg).run (siblingStart s) calls = some S → S.Harmless := by
  intro h
  have hend : ((siblingMachine (fun _ _ => none) .paperProtected).run
      (siblingStart protectedPortfolio)
      [orderFill "tp" 1 .sell 110, orderFill "open" 2 .buy 100, orderFill "sl" 3 .sell 90]).any
      (fun S => S.siblingFills.any fun e => e.after.cash != e.before.cash) = true := by
    decide +kernel
  obtain ⟨S, hS, hchanged⟩ := (Option.any_eq_true _ _).1 hend
  obtain ⟨e, he, hcash⟩ := List.any_eq_true.1 hchanged
  exact (bne_iff_ne.1 hcash) (h _ _ _ _ S hS e he).2

end Sgr
