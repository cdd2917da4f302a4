import Sgr.Risk.Engine.Gates

/-!
# Signals that close a position

`evaluate` makes an exception for a `CLOSE` signal at one of its gates only, the check for a
second position. The cooldown, the hard limits, the sizer and the exposure cap judge it as if
it opened a position, and `build_order_request` makes a `SELL` order of it that is not
reduce-only.
-/

namespace Sgr

/-- A position of the examples, whose price has not moved. -/
def Position.btc (side : PositionSide) (quantity price : ℚ) : Position where
  id := 1
  symbol := btcUsdt
  side := side
  quantity := quantity
  entryPrice := price
  currentPrice := price
  openedAt := 0
  strategyName := "trend"
  tradingMode := .paper

/-- The calls of the examples: one position, and a signal to close it. -/
def EvaluateCall.closing (side : PositionSide) (portfolioValue availableCapital : ℚ) :
    EvaluateCall where
  signal := .btc .close
  openPositions := [.btc side 1 100]
  portfolioValue := portfolioValue
  availableCapital := availableCapital
  currentPrice := 100
  now := 60

/-- The order reduces the position and does nothing else. -/
structure OrderRequest.Closes (o : OrderRequest) (p : Position) : Prop where
  side : o.side = p.side.closeSide
  quantity : o.quantity ≤ p.quantity
  reduceOnly : o.reduceOnly = true

/-- The quantity that an entry would have is at most the given one. -/
def EvaluateCall.EntryFits (limits : RiskLimits) (s : RiskEngineState) (call : EvaluateCall)
    (quantity : ℚ) : Prop :=
  (0 < limits.maxLeverage ∧
    call.leverageHeadroom limits (call.metrics s) ≤ quantity * call.currentPrice) ∨
  softFactor limits (call.metrics s) *
    orderQuantity limits (call.sizing (call.metrics s)) ≤ quantity

/-- What an order of an assessment is. -/
theorem buildOrderRequest_eq_some {limits : RiskLimits} {mode : TradingMode} {id : UUID}
    {signal : Signal} {assessment : RiskAssessment} {price : Option ℚ} {o : OrderRequest}
    (h : buildOrderRequest limits mode id signal assessment price = some o) :
    o.side = (if signal.direction = .long then .buy else .sell) ∧
      o.quantity = assessment.approvedQuantity ∧ o.reduceOnly = false := by
  simp only [buildOrderRequest, Option.ite_none_left_eq_some, Option.some.injEq] at h
  obtain ⟨-, rfl⟩ := h
  exact ⟨rfl, rfl, rfl⟩

section Order

variable {limits : RiskLimits} {s : RiskEngineState} {call : EvaluateCall}
  {metrics : RiskMetrics}

/-- The quantity of an order that is not rejected meets a bound from above when the reduced
size does or the headroom of the leverage. -/
theorem approvedQuantity_assess_le_iff (hprice : 0 < call.currentPrice)
    (hroom : 0 < limits.maxLeverage → 0 < call.leverageHeadroom limits metrics)
    {size : ℚ × Option String}
    (h : (call.assess limits metrics (runAllChecks limits metrics) size).decision ≠ .rejected)
    {room : ℚ} :
    (call.assess limits metrics (runAllChecks limits metrics) size).approvedQuantity *
        call.currentPrice ≤ room ↔
      (0 < limits.maxLeverage ∧ call.leverageHeadroom limits metrics ≤ room) ∨
        softFactor limits metrics * size.1 * call.currentPrice ≤ room := by
  obtain ⟨q, capped, hcap, -, hfits⟩ :=
    capLeverage_eq hprice hroom (softFactor limits metrics * size.1)
  have hquantity : (call.assess limits metrics (runAllChecks limits metrics)
      size).approvedQuantity = q := by
    unfold EvaluateCall.assess at h ⊢
    dsimp only at h ⊢
    rw [reduced_eq, hcap] at h ⊢
    dsimp only at h ⊢
    split at h
    next => exact absurd rfl h
    next hfits =>
      split at h
      next => exact absurd rfl h
      next hpos => rw [if_neg hfits, if_neg hpos]
  rw [hquantity]
  exact hfits room

/-- A signal that comes through has been sized. -/
theorem sized_of_ne_rejected
    (h : (evaluate limits s call).assessment.decision ≠ .rejected) :
    (call.metrics s).grossLeverage < limits.maxLeverage ∧
      ∃ size, computeSize limits (call.sizing (call.metrics s)) = some size ∧
        (evaluate limits s call).assessment = call.assess limits (call.metrics s)
          (runAllChecks limits (call.metrics s)) size := by
  obtain ⟨hinactive, hopens, hpasses⟩ := ne_rejected_iff_passes.1 h
  obtain ⟨reason, hsize, -⟩ := computeSize_iff.2 ⟨hpasses.sized, rfl⟩
  refine ⟨hpasses.leverage, _, hsize, ?_⟩
  rw [assessment_evaluate hinactive (not_cooling_iff.2 hpasses.cooled) hopens
    hpasses.not_hasHardBreach, hsize]
  rfl

/-- A `CLOSE` signal that comes through never closes a position: its order is not
reduce-only, it sells whatever the side of the position, and its quantity is the one that an
entry would have. -/
theorem handedOrder_close {mode : TradingMode} {id : UUID} {o : OrderRequest}
    (hclose : call.signal.direction = .close)
    (horder : handedOrder limits mode id s call = some o) (p : Position) :
    ¬ o.Closes p ∧ (o.side = p.side.closeSide ↔ p.side = .long) ∧
      (o.quantity ≤ p.quantity ↔ call.EntryFits limits s p.quantity) := by
  unfold handedOrder at horder
  dsimp only at horder
  split at horder
  next => cases horder
  next hdecision =>
    obtain ⟨hside, hquantity, hreduce⟩ := buildOrderRequest_eq_some horder
    have hsell : o.side = .sell := by rw [hside, if_neg (by simp [hclose])]
    refine ⟨fun h => ?_, ?_, ?_⟩
    · rw [h.reduceOnly] at hreduce
      cases hreduce
    · rw [hsell]
      cases p.side <;> simp [PositionSide.closeSide]
    obtain ⟨hleverage, size, hsize, hassessed⟩ := sized_of_ne_rejected hdecision
    rw [hassessed] at hdecision hquantity
    have hpos : 0 < size.1 := by
      by_contra hnone
      exact hdecision (decision_assess_of_nonpos (not_lt.1 hnone))
    obtain ⟨hsized, heq⟩ := computeSize_iff.1 ⟨size.2, hsize, hpos⟩
    have hprice : 0 < call.currentPrice := hsized.currentPrice
    have hroom : 0 < call.leverageHeadroom limits (call.metrics s) :=
      leverageHeadroom_pos hsized.portfolioValue hleverage
    rw [EvaluateCall.EntryFits, hquantity, ← heq, ← mul_le_mul_iff_left₀ hprice,
      approvedQuantity_assess_le_iff hprice (fun _ => hroom) hdecision,
      mul_le_mul_iff_left₀ hprice]

end Order

/-- The order that closes the position of the examples. -/
def OrderRequest.closingHanded (side : PositionSide) : Option OrderRequest :=
  handedOrder {} .paper 3 {} (.closing side 1000 900)

theorem handedOrder_close_short :
    ∃ o, OrderRequest.closingHanded .short = some o ∧
      ¬ o.Closes (.btc .short 1 100) ∧
      (o.side = PositionSide.short.closeSide ↔ PositionSide.short = .long) ∧
      (o.quantity ≤ 1 ↔ (EvaluateCall.closing .short 1000 900).EntryFits {} {} 1) := by
  have hsome : (OrderRequest.closingHanded .short).isSome = true := by decide +kernel
  obtain ⟨o, ho⟩ := Option.isSome_iff_exists.1 hsome
  exact ⟨o, ho, handedOrder_close rfl ho (.btc .short 1 100)⟩

/-- The order of a signal to close a short position sells. -/
theorem not_handedOrder_closes :
    ¬ ∀ (limits : RiskLimits) (mode : TradingMode) (id : UUID) (s : RiskEngineState)
      (call : EvaluateCall) (o : OrderRequest) (p : Position),
      p ∈ call.openPositions → p.symbol.str = call.signal.symbol.str → p.side ≠ .flat →
      call.signal.direction = .close → handedOrder limits mode id s call = some o →
      o.Closes p := by
  intro h
  have hsells : (OrderRequest.closingHanded .short).any (fun o => o.side = .sell) = true := by
    decide +kernel
  obtain ⟨o, ho, hside⟩ := (Option.any_eq_true _ _).1 hsells
  have hcloses := h {} .paper 3 {} (.closing .short 1000 900) o (.btc .short 1 100)
    (List.mem_singleton_self _) rfl (by decide) rfl ho
  have hbuy : o.side = .buy := hcloses.side
  rw [hbuy] at hside
  exact absurd hside (by decide)

end Sgr
