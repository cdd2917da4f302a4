import Sgr.Portfolio.Basic

/-!
# What the pieces of the handlers write

The books of the engine are its positions, its cash, the entry fees and the retired
order ids; the other attributes are only read by reports. Each piece of a handler
either leaves the books alone or writes the slot of one symbol.
-/

open Collection

namespace Sgr

/-- The two states have the same books. -/
structure SameBooks (s t : PortfolioState) : Prop where
  positions : t.positions = s.positions
  cash : t.cash = s.cash
  entryFees : t.entryFees = s.entryFees
  retired : t.retiredOrderIds = s.retiredOrderIds

namespace SameBooks

theorem refl (s : PortfolioState) : SameBooks s s := ⟨rfl, rfl, rfl, rfl⟩

theorem updatePeak (s : PortfolioState) : SameBooks s s.updatePeak :=
  ⟨s.updatePeak_positions, s.updatePeak_cash, s.updatePeak_entryFees,
    s.updatePeak_retiredOrderIds⟩

theorem recordTrade (cfg : PortfolioConfig) (existing : Position) (q : CloseQuote)
    (f : FillCall) (s : PortfolioState) : SameBooks s (recordTrade cfg existing q f s) :=
  ⟨rfl, rfl, rfl, rfl⟩

end SameBooks

/-- The slot of a key has a new value and the other slots are as before. -/
def Stores (s t : PortfolioState) (key : String) (v : Option Position) : Prop :=
  ∀ key', t.positions.get? key' = if key' = key then v else s.positions.get? key'

/-- The slot of a key is written together with its entry fee and the cash. -/
structure Writes (s t : PortfolioState) (key : String) (v : Option Position)
    (fee : Option ℚ) (cash : ℚ) : Prop where
  stores : Stores s t key v
  entryFees : ∀ key', t.entryFees.get? key' =
    if key' = key then fee else s.entryFees.get? key'
  cash : t.cash = cash
  retired : t.retiredOrderIds = s.retiredOrderIds

/-- The cash after a position is opened. -/
def openCash (f : FillCall) (price cash : ℚ) : ℚ :=
  if (inferSide f.result).opens = .long then
    cash - (f.result.filledQuantity * price + f.result.fees)
  else cash + (f.result.filledQuantity * price - f.result.fees)

theorem writes_bookOpen (cfg : PortfolioConfig) (f : FillCall) (price : ℚ)
    (s : PortfolioState) :
    Writes s (bookOpen cfg f price s) f.key (some (openedPosition cfg f price))
      (some f.result.fees) (openCash f price s.cash) where
  stores key := Dict.get?_set s.positions f.key key _
  entryFees key := Dict.get?_set s.entryFees f.key key _
  cash := rfl
  retired := rfl

/-- A close takes the whole position exactly when the fill is at least as large. -/
theorem full_closeQuote_iff (p : Position) (f : FillCall) (price : ℚ)
    (s : PortfolioState) :
    (closeQuote p f price s).full p ↔ p.quantity ≤ f.result.filledQuantity := by
  simp [CloseQuote.full, closeQuote]

/-- What a close leaves of the position. -/
def CloseQuote.left (q : CloseQuote) (existing : Position) : Option Position :=
  if q.full existing then none else some (reducedPosition existing q)

/-- What a close leaves of the entry fee. -/
def CloseQuote.feeLeft (q : CloseQuote) (existing : Position) : Option ℚ :=
  if q.full existing then none else some (q.remainingEntryFee - q.entryFeeShare)

/-- A close writes its slot when the slot is not empty. -/
theorem writes_bookClose (existing : Position) (q : CloseQuote) {p : Position}
    {f : FillCall} {s : PortfolioState} (hget : s.positions.get? f.key = some p) :
    ∃ t, bookClose existing q f s = some t ∧
      Writes s t f.key (q.left existing) (q.feeLeft existing)
        (closeCash existing q f s.cash) := by
  unfold CloseQuote.left CloseQuote.feeLeft
  by_cases hfull : q.full existing
  · have hsome : ¬ (s.positions.get? f.key).isNone := by simp [hget]
    rw [if_pos hfull, if_pos hfull]
    refine ⟨_, (if_pos hfull).trans (if_neg hsome), fun key => ?_, fun key => ?_, rfl, rfl⟩
    · exact Dict.get?_erase s.positions f.key key
    · exact Dict.get?_erase s.entryFees f.key key
  · rw [if_neg hfull, if_neg hfull]
    refine ⟨_, if_neg hfull, fun key => ?_, fun key => ?_, rfl, rfl⟩
    · exact Dict.get?_set s.positions f.key key _
    · exact Dict.get?_set s.entryFees f.key key _

theorem stores_bookClose {existing : Position} {q : CloseQuote} {f : FillCall}
    {s t : PortfolioState} (h : bookClose existing q f s = some t) :
    Stores s t f.key (q.left existing) := by
  cases hget : s.positions.get? f.key with
  | some p =>
      obtain ⟨u, hu, hwrites⟩ := writes_bookClose existing q hget
      rw [h] at hu
      cases hu
      exact hwrites.stores
  | none =>
      -- a full close of a missing position raises
      unfold bookClose at h
      split at h
      · simp [hget] at h
      · rename_i hnot
        cases h
        intro key
        rw [CloseQuote.left, if_neg hnot]
        exact Dict.get?_set s.positions f.key key _

/-- The protection replaces the position that was opened. -/
theorem writes_openPosition (cfg : PortfolioConfig) (f : FillCall) (price : ℚ)
    (s : PortfolioState) :
    Writes s (openPosition cfg f price s) f.key
      (some ((protectedPosition cfg f (openedPosition cfg f price)).getD
        (openedPosition cfg f price)))
      (some f.result.fees) (openCash f price s.cash) := by
  have hopen := writes_bookOpen cfg f price s
  unfold openPosition protect
  cases protectedPosition cfg f (openedPosition cfg f price) with
  | none => exact hopen
  | some q =>
      refine ⟨fun key => ?_, hopen.entryFees, hopen.cash, hopen.retired⟩
      change ((bookOpen cfg f price s).positions.set f.key q).get? key = _
      rw [Dict.get?_set, hopen.stores]
      by_cases hk : key = f.key
      · rw [if_pos hk, if_pos hk]
        rfl
      · rw [if_neg hk, if_neg hk, if_neg hk]

/-- The hook changes neither what is held nor the order ids of a position. -/
theorem protectedPosition_eq_some {cfg : PortfolioConfig} {f : FillCall} {p q : Position}
    (h : protectedPosition cfg f p = some q) :
    q.symbol = p.symbol ∧ q.side = p.side ∧ q.quantity = p.quantity ∧
      q.entryPrice = p.entryPrice ∧ protectiveIds q = protectiveIds p := by
  obtain ⟨limits, -, hq⟩ := Option.bind_eq_some_iff.1 h
  obtain ⟨hsymbol, hside, hquantity, hentry, hsl, htp⟩ := onPositionOpened_eq_some hq
  refine ⟨hsymbol, hside, hquantity, hentry, ?_⟩
  rw [protectiveIds, protectiveIds, hsl, htp]

end Sgr
