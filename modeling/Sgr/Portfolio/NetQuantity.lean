import Sgr.Accounting.Netting
import Sgr.Portfolio.Effects

/-!
# Held quantities and the sum of the fills

The engine stores one position for each symbol. A fill on the side of that position
is dropped, and so is what a closing fill takes beyond its size. The held quantity is
the sum of the signed fills, after every prefix of a run, exactly when each fill meets
no position or reduces one by at most its size.
-/

open Collection Accounting

namespace Sgr

/-- A fill as the exchange reports it: filled or partially filled, with a positive
quantity and price, and with its side. -/
structure Fill where
  call : FillCall
  side : Side
  price : ℚ
  status_eq : call.result.status = .filled ∨ call.result.status = .partiallyFilled
  side_eq : call.result.rawResponse.side = some side.value
  price_eq : call.result.averageFillPrice = some price
  price_pos : 0 < price
  quantity_pos : 0 < call.result.filledQuantity

namespace Fill

/-- The symbol key of a fill. -/
def key (f : Fill) : String := f.call.key

/-- The signed quantity of a fill. -/
def signed (f : Fill) : ℚ :=
  match f.side with
  | .buy => f.call.result.filledQuantity
  | .sell => -f.call.result.filledQuantity

theorem signed_ne_zero (f : Fill) : f.signed ≠ 0 := by
  have hpos := f.quantity_pos
  unfold signed
  cases f.side
  · exact hpos.ne'
  · exact neg_ne_zero.2 hpos.ne'

theorem inferSide_eq (f : Fill) : inferSide f.call.result = f.side :=
  inferSide_of_side f.side_eq

theorem acceptedPrice_eq (f : Fill) : acceptedPrice f.call.result = some f.price := by
  rw [acceptedPrice, if_neg, if_neg (not_le.2 f.quantity_pos), f.price_eq]
  rintro ⟨h1, h2⟩
  rcases f.status_eq with h | h
  · exact h1 h
  · exact h2 h

end Fill

/-- What holds of the positions that an engine has booked itself: they are long or
short, have a positive size and no protective orders at the exchange. -/
structure Booked (s : PortfolioState) : Prop where
  side : ∀ key p, s.positions.get? key = some p → p.side ≠ .flat
  quantity : ∀ key p, s.positions.get? key = some p → 0 < p.quantity
  unprotected : ∀ key p, s.positions.get? key = some p → protectiveIds p = ∅
  retired : s.retiredOrderIds = ∅

theorem booked_init (cash : ℚ) (gate : Option LiveVerificationState) :
    Booked (.init cash gate) where
  side _ _ h := by cases h
  quantity _ _ h := by cases h
  unprotected _ _ h := by cases h
  retired := rfl

theorem Booked.updatePeak {s : PortfolioState} (h : Booked s) : Booked s.updatePeak where
  side := by simpa using h.side
  quantity := by simpa using h.quantity
  unprotected := by simpa using h.unprotected
  retired := by simpa using h.retired

theorem Booked.stores {s t : PortfolioState} (h : Booked s) {key : String}
    {v : Option Position} (hpositions : Stores s t key v)
    (hretired : t.retiredOrderIds = s.retiredOrderIds)
    (hv : ∀ p, v = some p → p.side ≠ .flat ∧ 0 < p.quantity ∧ protectiveIds p = ∅) :
    Booked t := by
  have hcases : ∀ key' p', t.positions.get? key' = some p' →
      v = some p' ∨ s.positions.get? key' = some p' := by
    intro key' p' hget
    rw [hpositions key'] at hget
    split at hget
    · exact .inl hget
    · exact .inr hget
  refine ⟨?_, ?_, ?_, hretired.trans h.retired⟩
  · intro key' p' hget
    rcases hcases key' p' hget with hnew | hold
    · exact (hv p' hnew).1
    · exact h.side key' p' hold
  · intro key' p' hget
    rcases hcases key' p' hget with hnew | hold
    · exact (hv p' hnew).2.1
    · exact h.quantity key' p' hold
  · intro key' p' hget
    rcases hcases key' p' hget with hnew | hold
    · exact (hv p' hnew).2.2
    · exact h.unprotected key' p' hold

theorem Stores.heldQuantity_self {s t : PortfolioState} {key : String}
    {v : Option Position} (h : Stores s t key v) :
    t.heldQuantity key = (v.map Position.signedQuantity).getD 0 := by
  rw [PortfolioState.heldQuantity, h key, if_pos rfl]
  cases v <;> rfl

theorem Stores.heldQuantity_of_ne {s t : PortfolioState} {key key' : String}
    {v : Option Position} (h : Stores s t key v) (hne : key' ≠ key) :
    t.heldQuantity key' = s.heldQuantity key' := by
  rw [PortfolioState.heldQuantity, h key', if_neg hne, PortfolioState.heldQuantity]

/-- The effect of a booked fill: the state stays sound, the slot of the fill's symbol
is netted and the other slots are untouched. -/
structure Nets (s : PortfolioState) (f : Fill) (t : PortfolioState) : Prop where
  booked : Booked t
  self : t.heldQuantity f.key = bookNet (s.heldQuantity f.key) f.signed
  other : ∀ key, key ≠ f.key → t.heldQuantity key = s.heldQuantity key

theorem Nets.updatePeak {s t : PortfolioState} {f : Fill} (h : Nets s f t) :
    Nets s f t.updatePeak where
  booked := h.booked.updatePeak
  self := by simpa using h.self
  other := by simpa using h.other

/-- A fill that stores a sound value of the netted size has the effect of a booked
fill. -/
theorem Stores.nets {s t : PortfolioState} {f : Fill} {v : Option Position}
    (h : Stores s t f.key v) (hs : Booked s)
    (hretired : t.retiredOrderIds = s.retiredOrderIds)
    (hv : ∀ p, v = some p → p.side ≠ .flat ∧ 0 < p.quantity ∧ protectiveIds p = ∅)
    (hsize : (v.map Position.signedQuantity).getD 0 =
      bookNet (s.heldQuantity f.key) f.signed) : Nets s f t where
  booked := hs.stores h hretired hv
  self := h.heldQuantity_self.trans hsize
  other _ hne := h.heldQuantity_of_ne hne

theorem opens_ne_flat (side : Side) : side.opens ≠ .flat := by
  cases side <;> decide

/-- A fill without a position opens one of its own size. -/
theorem nets_openPosition (cfg : PortfolioConfig) {s : PortfolioState} (hs : Booked s)
    (f : Fill) (hnone : s.positions.get? f.key = none) :
    Nets s f (openPosition cfg f.call f.price s) := by
  have hwrites := writes_openPosition cfg f.call f.price s
  set opened := openedPosition cfg f.call f.price with hopened
  set p := (protectedPosition cfg f.call opened).getD opened with hp
  have hsame : p.side = opened.side ∧ p.quantity = opened.quantity ∧
      protectiveIds p = ∅ := by
    cases h : protectedPosition cfg f.call opened with
    | none =>
        rw [hp, h]
        exact ⟨rfl, rfl, rfl⟩
    | some q =>
        obtain ⟨-, hside, hquantity, -, hids⟩ := protectedPosition_eq_some h
        rw [hp, h]
        exact ⟨hside, hquantity, hids⟩
  obtain ⟨hside, hquantity, hids⟩ := hsame
  have hside' : p.side = f.side.opens := by
    rw [hside, hopened, ← f.inferSide_eq]
    rfl
  refine hwrites.stores.nets hs hwrites.retired ?_ ?_
  · intro p' hp'
    cases hp'
    refine ⟨?_, ?_, hids⟩
    · rw [hside']
      exact opens_ne_flat f.side
    · rw [hquantity]
      exact f.quantity_pos
  · rw [PortfolioState.heldQuantity_of_none hnone, bookNet_zero, Option.map_some,
      Option.getD_some, Position.signedQuantity, hside', hquantity, Fill.signed]
    cases f.side <;> rfl

/-- A closing fill lies on the other side of the position. -/
theorem isClosing_iff_oppositeSigns {p : Position} (f : Fill) (hside : p.side ≠ .flat)
    (hquantity : 0 < p.quantity) :
    isClosing p f.side = true ↔ OppositeSigns p.signedQuantity f.signed := by
  have hpos := f.quantity_pos
  unfold isClosing Position.signedQuantity Fill.signed OppositeSigns
  cases hp : p.side with
  | flat => exact absurd hp hside
  | long => cases f.side <;> simp [hquantity, hpos, hquantity.le, hpos.le]
  | short => cases f.side <;> simp [hquantity, hpos, hquantity.le, hpos.le]

theorem abs_signedQuantity {p : Position} (hside : p.side ≠ .flat)
    (hquantity : 0 < p.quantity) : |p.signedQuantity| = p.quantity := by
  unfold Position.signedQuantity
  cases hp : p.side with
  | flat => exact absurd hp hside
  | long => exact abs_of_pos hquantity
  | short => rw [abs_neg, abs_of_pos hquantity]

theorem abs_signed (f : Fill) : |f.signed| = f.call.result.filledQuantity := by
  unfold Fill.signed
  cases f.side
  · exact abs_of_pos f.quantity_pos
  · rw [abs_neg, abs_of_pos f.quantity_pos]

theorem retire_of_unprotected {p : Position} (h : protectiveIds p = ∅)
    (s : PortfolioState) : retire p s = s := by
  rw [retire, h, Finset.union_empty]

/-- What is left of a position after a smaller fill on the other side. -/
theorem signedQuantity_reducedPosition {p : Position} (f : Fill) {s : PortfolioState}
    (hclosing : isClosing p f.side = true)
    (hsmall : f.call.result.filledQuantity < p.quantity) :
    (reducedPosition p (closeQuote p f.call f.price s)).signedQuantity =
      p.signedQuantity + f.signed := by
  have hmin : (closeQuote p f.call f.price s).quantity = f.call.result.filledQuantity :=
    min_eq_left hsmall.le
  unfold isClosing at hclosing
  unfold reducedPosition Position.signedQuantity Fill.signed
  rw [hmin]
  cases hp : p.side with
  | flat => simp [hp] at hclosing
  | long =>
      cases hf : f.side with
      | buy => simp [hp, hf] at hclosing
      | sell => exact sub_eq_add_neg _ _
  | short =>
      cases hf : f.side with
      | buy =>
          change -(p.quantity - f.call.result.filledQuantity) = _
          rw [neg_sub, sub_eq_neg_add]
      | sell => simp [hp, hf] at hclosing

theorem nets_updatePosition (cfg : PortfolioConfig) {s : PortfolioState} (hs : Booked s)
    (f : Fill) {p : Position} (hget : s.positions.get? f.key = some p) :
    ∃ t, updatePosition cfg p f.call f.price s = some t ∧ Nets s f t := by
  have hside := hs.side f.key p hget
  have hquantity := hs.quantity f.key p hget
  have hids := hs.unprotected f.key p hget
  have hheld : s.heldQuantity f.key = p.signedQuantity :=
    PortfolioState.heldQuantity_of_get? hget
  have hne : p.signedQuantity ≠ 0 := by
    rw [← abs_pos, abs_signedQuantity hside hquantity]
    exact hquantity
  have hclosing := isClosing_iff_oppositeSigns f hside hquantity
  have habs : |p.signedQuantity| ≤ |f.signed| ↔
      (closeQuote p f.call f.price s).full p := by
    rw [abs_signedQuantity hside hquantity, abs_signed, full_closeQuote_iff]
  rw [updatePosition, f.inferSide_eq]
  by_cases hc : isClosing p f.side = true
  · rw [if_pos hc]
    dsimp only
    set q := closeQuote p f.call f.price s with hq
    -- recording the trade does not touch what the fill is netted against
    have hget' : (recordTrade cfg p q f.call s).positions.get? f.call.key = some p := hget
    obtain ⟨t, ht, hwrites⟩ := writes_bookClose p q hget'
    have hstores : Stores s t f.key (q.left p) := hwrites.stores
    have hretired : t.retiredOrderIds = s.retiredOrderIds := hwrites.retired
    by_cases hfull : q.full p
    · rw [CloseQuote.left, if_pos hfull] at hstores
      refine ⟨t, ?_, hstores.nets hs hretired ?_ ?_⟩
      · rw [ht, Option.map_some, if_pos hfull, retire_of_unprotected hids]
      · rintro p' h
        cases h
      · rw [hheld, bookNet, if_neg hne, if_pos (hclosing.1 hc), if_pos (habs.2 hfull)]
        rfl
    · rw [CloseQuote.left, if_neg hfull] at hstores
      have hsmall : f.call.result.filledQuantity < p.quantity := by
        rw [← not_le, ← full_closeQuote_iff p f.call f.price s]
        exact hfull
      have hsigned : (reducedPosition p q).signedQuantity = p.signedQuantity + f.signed :=
        signedQuantity_reducedPosition f hc hsmall
      have hleft : 0 < (reducedPosition p q).quantity := by
        have hmin : q.quantity = f.call.result.filledQuantity := min_eq_left hsmall.le
        change 0 < p.quantity - q.quantity
        rw [hmin]
        exact sub_pos.2 hsmall
      refine ⟨t, ?_, hstores.nets hs hretired ?_ ?_⟩
      · rw [ht, Option.map_some, if_neg hfull]
      · rintro p' h
        cases h
        exact ⟨hside, hleft, hids⟩
      · rw [hheld, bookNet, if_neg hne, if_pos (hclosing.1 hc), if_neg (habs.not.2 hfull)]
        exact hsigned
  · rw [if_neg hc]
    refine ⟨s, rfl, hs, ?_, fun _ _ => rfl⟩
    rw [hheld, bookNet, if_neg hne, if_neg (hclosing.not.1 hc)]

/-- The handler books every fill of an engine that booked its positions itself. -/
theorem nets_onOrderFilled (cfg : PortfolioConfig) {s : PortfolioState} (hs : Booked s)
    (f : Fill) : ∃ t, onOrderFilled cfg f.call s = some t ∧ Nets s f t := by
  rw [onOrderFilled, f.acceptedPrice_eq]
  dsimp only
  cases hget : s.positions.get? f.call.key with
  | none =>
      refine ⟨(openPosition cfg f.call f.price s).updatePeak, ?_, ?_⟩
      · simp [hs.retired]
      · exact (nets_openPosition cfg hs f hget).updatePeak
  | some p =>
      obtain ⟨t, ht, hnets⟩ := nets_updatePosition cfg hs f hget
      refine ⟨t.updatePeak, ?_, hnets.updatePeak⟩
      simp [ht]

/-- The fills of a run, one after the other. -/
def bookFills (cfg : PortfolioConfig) (fills : List Fill) (s : PortfolioState) :
    Option PortfolioState :=
  fills.foldlM (fun s f => onOrderFilled cfg f.call s) s

/-- The sum of the signed fills of a symbol. -/
def signedSum (key : String) (fills : List Fill) : ℚ :=
  ((fills.filter fun f => f.key = key).map Fill.signed).sum

theorem signedSum_append_singleton (key : String) (fills : List Fill) (f : Fill) :
    signedSum key (fills ++ [f]) =
      signedSum key fills + if f.key = key then f.signed else 0 := by
  unfold signedSum
  rw [List.filter_append, List.map_append, List.sum_append]
  by_cases hk : f.key = key <;> simp [hk]

theorem bookFills_append_singleton (cfg : PortfolioConfig) (fills : List Fill) (f : Fill)
    (s : PortfolioState) :
    bookFills cfg (fills ++ [f]) s =
      (bookFills cfg fills s).bind (onOrderFilled cfg f.call) := by
  unfold bookFills
  rw [List.foldlM_append]
  simp [Option.bind_eq_bind]

/-- The held quantities of a state are the sums of these fills. -/
def Holds (s : PortfolioState) (fills : List Fill) : Prop :=
  ∀ key, s.heldQuantity key = signedSum key fills

/-- One more fill keeps the held quantities exact when it fits what is held. -/
theorem Nets.holds_iff {s t : PortfolioState} {f : Fill} {fills : List Fill}
    (h : Nets s f t) (hs : Holds s fills) :
    Holds t (fills ++ [f]) ↔ Fits (signedSum f.key fills) f.signed := by
  rw [← bookNet_eq_add_iff f.signed_ne_zero]
  constructor
  · intro ht
    rw [← hs f.key, ← h.self, ht f.key, signedSum_append_singleton, if_pos rfl, hs f.key]
  · intro hfits key
    rw [signedSum_append_singleton]
    by_cases hk : f.key = key
    · subst hk
      rw [if_pos rfl, h.self, hs, hfits]
    · rw [if_neg hk, add_zero, h.other key (Ne.symm hk), hs]

theorem booked_bookFills (cfg : PortfolioConfig) (fills : List Fill) {s : PortfolioState}
    (hs : Booked s) : ∃ t, bookFills cfg fills s = some t ∧ Booked t := by
  induction fills using List.reverseRecOn with
  | nil => exact ⟨s, rfl, hs⟩
  | append_singleton fills f ih =>
      obtain ⟨t, ht, hbooked⟩ := ih
      obtain ⟨u, hu, hnets⟩ := nets_onOrderFilled cfg hbooked f
      exact ⟨u, by rw [bookFills_append_singleton, ht, Option.bind_some, hu], hnets.booked⟩

/-- After every prefix the fills are booked and held in full. -/
def HoldsThroughout (cfg : PortfolioConfig) (cash : ℚ) (gate : Option LiveVerificationState)
    (fills : List Fill) : Prop :=
  ∀ pre, pre <+: fills →
    ∃ t, bookFills cfg pre (.init cash gate) = some t ∧ Holds t pre

/-- The held quantities are the sums of the fills after every prefix exactly when each
fill finds nothing held, or lies on the other side and is at most as large. -/
theorem holdsThroughout_iff (cfg : PortfolioConfig) (cash : ℚ)
    (gate : Option LiveVerificationState) (fills : List Fill) :
    HoldsThroughout cfg cash gate fills ↔
      ∀ pre f post, fills = pre ++ f :: post → Fits (signedSum f.key pre) f.signed := by
  have hstart := booked_init cash gate
  constructor
  · rintro h pre f post rfl
    obtain ⟨s, hs, hholds⟩ := h pre (List.prefix_append pre (f :: post))
    obtain ⟨t, ht, hholds'⟩ := h (pre ++ [f]) ⟨post, by simp⟩
    obtain ⟨s', hs', hbooked⟩ := booked_bookFills cfg pre hstart
    cases hs.symm.trans hs'
    obtain ⟨t', ht', hnets⟩ := nets_onOrderFilled cfg hbooked f
    rw [bookFills_append_singleton, hs, Option.bind_some, ht'] at ht
    cases ht
    exact (hnets.holds_iff hholds).1 hholds'
  · intro hfits pre hpre
    induction pre using List.reverseRecOn with
    | nil => exact ⟨_, rfl, fun _ => rfl⟩
    | append_singleton pre f ih =>
        obtain ⟨post, hpost⟩ := hpre
        obtain ⟨s, hs, hholds⟩ := ih ⟨f :: post, by rw [← hpost]; simp⟩
        obtain ⟨s', hs', hbooked⟩ := booked_bookFills cfg pre hstart
        cases hs.symm.trans hs'
        obtain ⟨t, ht, hnets⟩ := nets_onOrderFilled cfg hbooked f
        refine ⟨t, ?_, (hnets.holds_iff hholds).2 (hfits pre f post ?_)⟩
        · rw [bookFills_append_singleton, hs, Option.bind_some, ht]
        · rw [← hpost]
          simp

/-- The fills of the example below. -/
def Fill.btc (side : Side) (quantity : ℚ) (h : 0 < quantity) : Fill where
  call := .btc 0 side quantity 100
  side := side
  price := 100
  status_eq := .inl rfl
  side_eq := rfl
  price_eq := rfl
  price_pos := by norm_num
  quantity_pos := h

theorem HoldsThroughout.eq_signedSum {cfg : PortfolioConfig} {cash : ℚ}
    {gate : Option LiveVerificationState} {fills : List Fill}
    (h : HoldsThroughout cfg cash gate fills) {key : String} {held : ℚ}
    (hheld : (bookFills cfg fills (.init cash gate)).map (·.heldQuantity key) = some held) :
    held = signedSum key fills := by
  obtain ⟨t, ht, hholds⟩ := h fills (List.prefix_refl fills)
  rw [ht, Option.map_some, Option.some_inj] at hheld
  rw [← hheld, hholds key]

/-- A second purchase is dropped, and so is what a sale takes beyond the position. -/
theorem not_holdsThroughout :
    (¬ HoldsThroughout ⟨.paper, none⟩ 1000 none
        [.btc .buy 1 one_pos, .btc .buy 2 two_pos]) ∧
      ¬ HoldsThroughout ⟨.paper, none⟩ 1000 none
        [.btc .buy 1 one_pos, .btc .sell 3 three_pos] := by
  constructor
  · intro h
    have heq := @HoldsThroughout.eq_signedSum _ _ _ _ h btcUsdt.str 1 (by decide +kernel)
    exact absurd heq (by decide +kernel)
  · intro h
    have heq := @HoldsThroughout.eq_signedSum _ _ _ _ h btcUsdt.str 0 (by decide +kernel)
    exact absurd heq (by decide +kernel)

end Sgr
