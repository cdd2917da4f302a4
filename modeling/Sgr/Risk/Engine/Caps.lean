import Sgr.Risk.Engine.CloseSignals

/-!
# The caps of an order

What bounds the quantity of an order that `evaluate` lets through. The sizer caps the notional
value and rounds the quantity after it, to eight decimal places, so its caps hold of the
quantity before it is rounded. A fixed notional value replaces the sizes that adapt to the
market, the largest single position among them. The caps of the leverage and of the total
exposure come after the rounding.
-/

open Arithmetic

namespace Sgr

/-- The order stays within every cap of the risk engine. -/
structure WithinCaps (limits : RiskLimits) (call : EvaluateCall) (quantity : ℚ) : Prop where
  position : quantity * call.currentPrice ≤ limits.maxSinglePositionPct * call.portfolioValue
  capital : quantity * call.currentPrice ≤ call.availableCapital
  notional : ∀ most ∈ limits.maxOrderNotional, quantity * call.currentPrice ≤ most
  leverage : totalNotional call.openPositions + quantity * call.currentPrice ≤
    limits.maxLeverage * call.portfolioValue
  exposure : ∀ pct ∈ limits.maxTotalExposurePct,
    totalNotional call.openPositions + quantity * call.currentPrice ≤ pct * call.portfolioValue

/-- The order stays within the caps that the sizer rounds the quantity after, as far as the
quantity before the rounding is concerned, and within the caps that come after it. -/
structure WithinRoundedCaps (limits : RiskLimits) (call : EvaluateCall) (quantity : ℚ) :
    Prop where
  position : limits.positionSizeUsd = none →
    quantity ≤ quantized 8 (limits.maxSinglePositionPct * call.portfolioValue /
      call.currentPrice)
  fixed : ∀ size ∈ limits.positionSizeUsd, quantity ≤ quantized 8 (size / call.currentPrice)
  capital : quantity ≤ quantized 8 (call.availableCapital / call.currentPrice)
  notional : ∀ most ∈ limits.maxOrderNotional, quantity ≤ quantized 8 (most / call.currentPrice)
  leverage : 0 < limits.maxLeverage →
    totalNotional call.openPositions + quantity * call.currentPrice ≤
      limits.maxLeverage * call.portfolioValue
  exposure : ∀ pct ∈ limits.maxTotalExposurePct,
    totalNotional call.openPositions + quantity * call.currentPrice ≤ pct * call.portfolioValue

section Caps

variable {limits : RiskLimits} {s : RiskEngineState} {call : EvaluateCall} {sizing : SizingCall}
  {metrics : RiskMetrics}

theorem confidenceFactor_le_one (sizing : SizingCall) : sizing.confidenceFactor ≤ 1 := by
  unfold SizingCall.confidenceFactor
  split
  next hlow => rw [div_le_one (by norm_num)]; exact hlow.le
  next => exact le_rfl

/-- The quantity of an order is at most what each bound of its notional value leaves. -/
theorem CanBeSized.orderQuantity_le (h : CanBeSized limits sizing) {bound : ℚ}
    (hbound : bound ∈ notionalBounds limits sizing) :
    orderQuantity limits sizing ≤ quantized 8 (bound / sizing.currentPrice) := by
  obtain ⟨hmem, hle⟩ := isLeast_orderNotional limits sizing
  have hpos : 0 < boundedQuantity limits sizing (orderNotional limits sizing) := by
    have henough := h.enough _ hmem
    unfold EnoughToOrder minOrderSize at henough
    split at henough
    · linarith
    · linarith
  refine quantized_mono ?_
  have hprice := h.currentPrice
  unfold boundedQuantity at hpos ⊢
  split at hpos
  next hfixed =>
    rw [if_pos hfixed]
    exact div_le_div_of_nonneg_right (hle hbound) hprice.le
  next hadaptive =>
    rw [if_neg hadaptive]
    have hnotional : 0 ≤ orderNotional limits sizing :=
      (pos_of_mul_pos_left ((div_pos_iff_of_pos_right hprice).1 hpos)
        (confidenceFactor_nonneg sizing)).le
    have hreduced : orderNotional limits sizing * sizing.confidenceFactor ≤ bound :=
      (mul_le_of_le_one_right hnotional (confidenceFactor_le_one sizing)).trans (hle hbound)
    exact div_le_div_of_nonneg_right hreduced hprice.le

/-- What an assessment that is not a rejection has been through. -/
theorem assess_of_ne_rejected {size : ℚ × Option String}
    (h : (call.assess limits metrics (runAllChecks limits metrics) size).decision ≠ .rejected) :
    ∃ capped, call.capLeverage limits metrics (softFactor limits metrics * size.1) =
        some ((call.assess limits metrics (runAllChecks limits metrics) size).approvedQuantity,
          capped) ∧
      call.exceedsExposure limits
        (call.assess limits metrics (runAllChecks limits metrics) size).approvedQuantity =
          false := by
  unfold EvaluateCall.assess at h ⊢
  dsimp only at h ⊢
  rw [reduced_eq] at h ⊢
  cases hcap : call.capLeverage limits metrics (softFactor limits metrics * size.1) with
  | none =>
      rw [hcap] at h
      exact absurd rfl h
  | some x =>
      rw [hcap] at h
      dsimp only at h ⊢
      split at h
      next => exact absurd rfl h
      next hfits =>
        split at h
        next => exact absurd rfl h
        next hpos =>
          rw [if_neg hfits, if_neg hpos]
          exact ⟨x.2, rfl, by simpa using hfits⟩

/-- The leverage cap leaves the notional value within the headroom, and makes no order
larger. -/
theorem capLeverage_le {quantity q : ℚ} {capped : Bool} (hprice : 0 < call.currentPrice)
    (h : call.capLeverage limits metrics quantity = some (q, capped)) :
    q ≤ quantity ∧ (0 < limits.maxLeverage →
      q * call.currentPrice ≤ call.leverageHeadroom limits metrics) := by
  unfold EvaluateCall.capLeverage at h
  split at h
  next hcap =>
    split at h
    next => cases h
    next =>
      obtain ⟨rfl, -⟩ := Prod.mk.inj (Option.some.inj h)
      rw [div_mul_cancel₀ _ hprice.ne']
      exact ⟨((div_lt_iff₀ hprice).2 hcap.2.2).le, fun _ => le_rfl⟩
  next hcap =>
    obtain ⟨rfl, -⟩ := Prod.mk.inj (Option.some.inj h)
    exact ⟨le_rfl, fun hlimit => not_lt.1 fun hover => hcap ⟨hlimit, hprice, hover⟩⟩

/-- The headroom is what the positions leave of the leverage. -/
theorem leverageHeadroom_eq (hvalue : 0 < call.portfolioValue) :
    call.leverageHeadroom limits (call.metrics s) =
      limits.maxLeverage * call.portfolioValue - totalNotional call.openPositions := by
  have hleverage : (call.metrics s).grossLeverage =
      totalNotional call.openPositions / call.portfolioValue := if_pos hvalue
  rw [EvaluateCall.leverageHeadroom, hleverage, div_mul_cancel₀ _ hvalue.ne']

/-- An order that comes through stays within the caps up to the rounding of its quantity. -/
theorem withinRoundedCaps_evaluate
    (h : (evaluate limits s call).assessment.decision ≠ .rejected) :
    WithinRoundedCaps limits call (evaluate limits s call).assessment.approvedQuantity := by
  obtain ⟨-, size, hsize, hassessed⟩ := sized_of_ne_rejected h
  rw [hassessed] at h ⊢
  have hpos : 0 < size.1 := by
    by_contra hnone
    exact h (decision_assess_of_nonpos (not_lt.1 hnone))
  obtain ⟨hsized, hquantity⟩ := computeSize_iff.1 ⟨size.2, hsize, hpos⟩
  have hprice : 0 < call.currentPrice := hsized.currentPrice
  have hvalue : 0 < call.portfolioValue := hsized.portfolioValue
  obtain ⟨capped, hcap, hexposure⟩ := assess_of_ne_rejected h
  obtain ⟨hle, hleverage⟩ := capLeverage_le hprice hcap
  rw [exceedsExposure_eq_false_iff hvalue] at hexposure
  rw [leverageHeadroom_eq hvalue] at hleverage
  -- the soft limits reduce what the sizer has rounded
  have hfactor := softFactor_mem limits (call.metrics s)
  have hrounded := hle.trans (mul_le_of_le_one_left hpos.le hfactor.2)
  rw [hquantity] at hrounded
  have hbound : ∀ bound ∈ notionalBounds limits (call.sizing (call.metrics s)), _ :=
    fun bound hbound => hrounded.trans (hsized.orderQuantity_le hbound)
  refine ⟨fun hadaptive => ?_, fun size hfixed => ?_, ?_, fun most hmost => ?_,
    fun hlimit => ?_, fun pct hpct => ?_⟩
  · rw [mul_comm limits.maxSinglePositionPct]
    exact hbound _ (by simp [notionalBounds, hadaptive, SizingCall.maxNotional,
      EvaluateCall.sizing])
  · exact hbound size (by simp [notionalBounds, Option.mem_def.1 hfixed])
  · exact hbound _ (by simp [notionalBounds, EvaluateCall.sizing])
  · exact hbound most (by simp [notionalBounds, Option.mem_def.1 hmost])
  · linarith [hleverage hlimit]
  · linarith [hexposure pct hpct]

theorem withinRoundedCaps_handedOrder (limits : RiskLimits) (mode : TradingMode) (id : UUID)
    (s : RiskEngineState) (call : EvaluateCall) (o : OrderRequest)
    (h : handedOrder limits mode id s call = some o) :
    WithinRoundedCaps limits call o.quantity := by
  unfold handedOrder at h
  dsimp only at h
  split at h
  next => cases h
  next hdecision =>
    obtain ⟨-, hquantity, -⟩ := buildOrderRequest_eq_some h
    rw [hquantity]
    exact withinRoundedCaps_evaluate hdecision

end Caps

/-- The calls of the examples: no position, and a signal to open one. -/
def EvaluateCall.entering (availableCapital currentPrice : ℚ) : EvaluateCall where
  signal := .btc .long
  openPositions := []
  portfolioValue := 1000
  availableCapital := availableCapital
  currentPrice := currentPrice
  now := 60

theorem withinRoundedCaps_handedOrder_btc :
    ∃ o, handedOrder {} .paper 3 {} (.entering 900 100) = some o ∧
      WithinRoundedCaps {} (.entering 900 100) o.quantity := by
  have hsome : (handedOrder {} .paper 3 {} (.entering 900 100)).isSome = true := by
    decide +kernel
  obtain ⟨o, ho⟩ := Option.isSome_iff_exists.1 hsome
  exact ⟨o, ho, withinRoundedCaps_handedOrder {} .paper 3 {} (.entering 900 100) o ho⟩

/-- A fixed notional value of a half of the portfolio is above the largest single position, and
a quantity that is rounded up costs more than the capital. -/
theorem not_withinCaps_handedOrder :
    (¬ ∀ (limits : RiskLimits) (mode : TradingMode) (id : UUID) (s : RiskEngineState)
      (call : EvaluateCall) (o : OrderRequest), call.opens = true →
      handedOrder limits mode id s call = some o → WithinCaps limits call o.quantity) ∧
    ¬ ∀ (limits : RiskLimits) (mode : TradingMode) (id : UUID) (s : RiskEngineState)
      (call : EvaluateCall) (o : OrderRequest), call.opens = true →
      limits.positionSizeUsd = none → handedOrder limits mode id s call = some o →
      WithinCaps limits call o.quantity := by
  constructor
  · intro h
    have hlarge : (handedOrder { positionSizeUsd := some 500 } .paper 3 {}
        (.entering 1000 100)).any (fun o => 100 < o.quantity * 100) = true := by
      decide +kernel
    obtain ⟨o, ho, hlarge⟩ := (Option.any_eq_true _ _).1 hlarge
    have hcaps := h _ _ _ _ (.entering 1000 100) o rfl ho
    have hsmall : o.quantity * 100 ≤ 1 / 10 * 1000 := hcaps.position
    linarith [of_decide_eq_true hlarge]
  · intro h
    have hlarge : (handedOrder {} .paper 3 {} (.entering 30 7)).any
        (fun o => 30 < o.quantity * 7) = true := by
      decide +kernel
    obtain ⟨o, ho, hlarge⟩ := (Option.any_eq_true _ _).1 hlarge
    have hcaps := h _ _ _ _ (.entering 30 7) o rfl rfl ho
    have hsmall : o.quantity * 7 ≤ 30 := hcaps.capital
    linarith [of_decide_eq_true hlarge]

end Sgr
