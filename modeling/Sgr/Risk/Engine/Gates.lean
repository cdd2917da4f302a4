import Sgr.Risk.Engine.Evaluate

/-!
# The gates of the risk engine

What `evaluate` lets through: `evaluate_ne_rejected_iff` says it gate by gate, in terms of
the portfolio, the limits and the bounds of the size.
-/

open Arithmetic

namespace Sgr

/-- The metrics that `evaluate` computes for a call. -/
def EvaluateCall.metrics (s : RiskEngineState) (call : EvaluateCall) : RiskMetrics :=
  (computeMetrics s call.portfolioValue call.openPositions call.now).2

/-- The factor by which the soft limits reduce an order. -/
def softFactor (limits : RiskLimits) (metrics : RiskMetrics) : ℚ :=
  minReductionFactor (runAllChecks limits metrics)

/-- The portfolio has reached no hard limit, an entry can be sized, and it stays within the
cap of the total exposure. -/
structure HasRoom (limits : RiskLimits) (s : RiskEngineState) (call : EvaluateCall) :
    Prop where
  drawdown : (call.metrics s).drawdownFromPeak < limits.maxPortfolioDrawdown
  dailyLoss : dailyLoss (call.metrics s) < limits.dailyLossLimit
  positions : call.openPositions.length < limits.maxOpenPositions
  leverage : (call.metrics s).grossLeverage < limits.maxLeverage
  sized : CanBeSized limits (call.sizing (call.metrics s))
  exposure : ∀ pct ∈ limits.maxTotalExposurePct,
    (0 < limits.maxLeverage ∧ totalNotional call.openPositions +
      call.leverageHeadroom limits (call.metrics s) ≤ call.portfolioValue * pct) ∨
    ∃ bound ∈ notionalBounds limits (call.sizing (call.metrics s)),
      totalNotional call.openPositions + softFactor limits (call.metrics s) *
        quantized 8 (boundedQuantity limits (call.sizing (call.metrics s)) bound) *
          call.currentPrice ≤ call.portfolioValue * pct

/-- No gate that is meant for entries is against the signal: no cooldown runs, and the
portfolio has room for an entry. -/
structure PassesEntryGates (limits : RiskLimits) (s : RiskEngineState) (call : EvaluateCall) :
    Prop extends HasRoom limits s call where
  cooled : limits.tradeCooldownSeconds ≠ 0 →
    ∀ last ∈ s.lastTradeAt
      (cooldownKey call.signal.symbol.ccxtSymbol call.signal.strategyName),
      last + limits.tradeCooldownSeconds ≤ call.now

section Gates

variable {limits : RiskLimits} {s : RiskEngineState} {call : EvaluateCall}
  {metrics : RiskMetrics} {checks : List LimitCheck}

theorem cooldownRemaining_pos_iff {signal : Signal} {now : ℚ} :
    0 < cooldownRemaining limits s signal now ↔ limits.tradeCooldownSeconds ≠ 0 ∧
      ∃ last ∈ s.lastTradeAt (cooldownKey signal.symbol.ccxtSymbol signal.strategyName),
        now < last + limits.tradeCooldownSeconds := by
  unfold cooldownRemaining
  split
  next hzero => simp [hzero]
  next hrunning =>
    cases s.lastTradeAt (cooldownKey signal.symbol.ccxtSymbol signal.strategyName) with
    | none => simp
    | some last =>
        have hiff : 0 < max 0 ((limits.tradeCooldownSeconds : ℚ) - (now - last)) ↔
            now < last + limits.tradeCooldownSeconds := by
          rw [lt_max_iff]
          constructor
          · rintro (h | h)
            · exact absurd h (lt_irrefl 0)
            · linarith
          · exact fun h => .inr (by linarith)
        simpa [hrunning] using hiff

theorem isBreached_checkThreshold {name : String} {limitType limitType' : LimitType}
    {current limit warningThreshold reductionFactor : ℚ} {message : String} :
    (checkThreshold name limitType current limit message warningThreshold
      reductionFactor).isBreached limitType' = true ↔
      limit ≤ current ∧ limitType = limitType' := by
  unfold LimitCheck.isBreached checkThreshold
  by_cases h : limit ≤ current
  · simp [h]
  · by_cases h' : limit * warningThreshold ≤ current
    · simp [h, h']
    · simp [h, h']

/-- A hard limit is breached when one of the four values has reached its limit. -/
theorem hasHardBreach_iff :
    hasHardBreach (runAllChecks limits metrics) = true ↔
      limits.maxPortfolioDrawdown ≤ metrics.drawdownFromPeak ∨
        limits.dailyLossLimit ≤ dailyLoss metrics ∨
          limits.maxOpenPositions ≤ metrics.activePositions ∨
            limits.maxLeverage ≤ metrics.grossLeverage := by
  simp only [hasHardBreach, runAllChecks, hardChecks, softChecks, List.any_append,
    List.any_cons, List.any_nil, Bool.or_eq_true, isBreached_checkThreshold, and_true,
    reduceCtorEq, and_false, or_false, Nat.cast_le, Bool.false_eq_true]

theorem reductionFactor_checkThreshold {name : String} {limitType : LimitType}
    {current limit warningThreshold reductionFactor : ℚ} {message : String}
    (h : 0 < reductionFactor ∧ reductionFactor ≤ 1) :
    0 < (checkThreshold name limitType current limit message warningThreshold
      reductionFactor).reductionFactor ∧
    (checkThreshold name limitType current limit message warningThreshold
      reductionFactor).reductionFactor ≤ 1 := by
  unfold checkThreshold
  dsimp only
  by_cases hbreached : limit ≤ current
  · simpa [hbreached] using h
  · have hok : ¬ (if limit * warningThreshold ≤ current then LimitStatus.warning
        else LimitStatus.ok) = LimitStatus.breached := by
      split
      · exact fun heq => nomatch heq
      · exact fun heq => nomatch heq
    rw [if_neg hbreached, if_neg hok]
    exact ⟨zero_lt_one, le_rfl⟩

theorem softFactor_mem (limits : RiskLimits) (metrics : RiskMetrics) :
    0 < softFactor limits metrics ∧ softFactor limits metrics ≤ 1 := by
  have hall : ∀ check ∈ runAllChecks limits metrics,
      0 < check.reductionFactor ∧ check.reductionFactor ≤ 1 := by
    have hhalf : (0 : ℚ) < 1 / 2 ∧ (1 / 2 : ℚ) ≤ 1 := by norm_num
    have hquarter : (0 : ℚ) < 1 / 4 ∧ (1 / 4 : ℚ) ≤ 1 := by norm_num
    simp only [runAllChecks, hardChecks, softChecks, List.cons_append, List.nil_append,
      List.forall_mem_cons, List.not_mem_nil, false_imp_iff, implies_true, and_true]
    exact ⟨reductionFactor_checkThreshold hhalf, reductionFactor_checkThreshold hhalf,
      reductionFactor_checkThreshold hhalf, reductionFactor_checkThreshold hhalf,
      reductionFactor_checkThreshold hhalf, reductionFactor_checkThreshold hquarter,
      reductionFactor_checkThreshold hhalf⟩
  unfold softFactor minReductionFactor
  split
  · exact ⟨zero_lt_one, le_rfl⟩
  next factor factors hfactors =>
    have hmem : factors.foldl min factor ∈ ((runAllChecks limits metrics).filter
        (LimitCheck.isBreached .soft)).map LimitCheck.reductionFactor := by
      rw [hfactors]
      exact (isLeast_foldl_min factor factors).1
    obtain ⟨check, hcheck, heq⟩ := List.mem_map.1 hmem
    rw [← heq]
    exact hall check (List.mem_filter.1 hcheck).1

/-- The soft limits reduce an order by their factor. -/
theorem reduced_eq (quantity : ℚ) :
    (if minReductionFactor (runAllChecks limits metrics) < 1 then
      quantity * minReductionFactor (runAllChecks limits metrics) else quantity) =
      softFactor limits metrics * quantity := by
  have hone := (softFactor_mem limits metrics).2
  split
  next => exact mul_comm _ _
  next hnone =>
    have hfactor : softFactor limits metrics = 1 := le_antisymm hone (not_lt.1 hnone)
    rw [hfactor, one_mul]

/-- The leverage cap makes an order smaller, but not nothing, where there is headroom. -/
theorem capLeverage_eq (hprice : 0 < call.currentPrice)
    (hroom : 0 < limits.maxLeverage → 0 < call.leverageHeadroom limits metrics)
    (quantity : ℚ) :
    ∃ q capped, call.capLeverage limits metrics quantity = some (q, capped) ∧
      (0 < q ↔ 0 < quantity) ∧ ∀ room : ℚ,
        q * call.currentPrice ≤ room ↔
          (0 < limits.maxLeverage ∧ call.leverageHeadroom limits metrics ≤ room) ∨
            quantity * call.currentPrice ≤ room := by
  unfold EvaluateCall.capLeverage
  split
  next hcap =>
    obtain ⟨hlimit, -, hover⟩ := hcap
    have hpositive := hroom hlimit
    rw [if_neg (not_le.2 hpositive)]
    refine ⟨_, _, rfl, iff_of_true (div_pos hpositive hprice) ?_, fun room => ?_⟩
    · exact (mul_pos_iff_of_pos_right hprice).1 (hpositive.trans hover)
    · rw [div_mul_cancel₀ _ hprice.ne']
      constructor
      · exact fun h => .inl ⟨hlimit, h⟩
      · rintro (h | h)
        · exact h.2
        · exact hover.le.trans h
  next hcap =>
    refine ⟨_, _, rfl, Iff.rfl, fun room => ⟨.inr, ?_⟩⟩
    rintro (⟨hlimit, h⟩ | h)
    · exact (not_lt.1 fun hover => hcap ⟨hlimit, hprice, hover⟩).trans h
    · exact h

theorem exceedsExposure_eq_false_iff (hvalue : 0 < call.portfolioValue) {quantity : ℚ} :
    call.exceedsExposure limits quantity = false ↔ ∀ pct ∈ limits.maxTotalExposurePct,
      quantity * call.currentPrice ≤
        call.portfolioValue * pct - totalNotional call.openPositions := by
  unfold EvaluateCall.exceedsExposure
  cases limits.maxTotalExposurePct with
  | none => simp
  | some pct =>
      simp only [Option.any_some, Bool.and_eq_false_iff, decide_eq_false_iff_not, not_lt,
        Option.mem_some_iff, forall_eq', le_sub_iff_add_le']
      exact ⟨fun h => h.resolve_left (not_le.2 hvalue), .inr⟩

/-- An order that is sized is not rejected when it is something and stays within the cap of
the total exposure. -/
theorem decision_assess_iff (hvalue : 0 < call.portfolioValue) (hprice : 0 < call.currentPrice)
    (hroom : 0 < limits.maxLeverage → 0 < call.leverageHeadroom limits metrics)
    (size : ℚ × Option String) :
    (call.assess limits metrics (runAllChecks limits metrics) size).decision ≠ .rejected ↔
      0 < size.1 ∧ ∀ pct ∈ limits.maxTotalExposurePct,
        (0 < limits.maxLeverage ∧ totalNotional call.openPositions +
          call.leverageHeadroom limits metrics ≤ call.portfolioValue * pct) ∨
        totalNotional call.openPositions +
          softFactor limits metrics * size.1 * call.currentPrice ≤
            call.portfolioValue * pct := by
  have hpos := (softFactor_mem limits metrics).1
  obtain ⟨q, capped, hcap, hq, hfits⟩ :=
    capLeverage_eq hprice hroom (softFactor limits metrics * size.1)
  have hsize : 0 < softFactor limits metrics * size.1 ↔ 0 < size.1 := mul_pos_iff_of_pos_left hpos
  unfold EvaluateCall.assess
  dsimp only
  rw [reduced_eq, hcap]
  dsimp only
  cases hexceeds : call.exceedsExposure limits q with
  | true =>
      refine iff_of_false (fun h => h rfl) fun h => ?_
      rw [← Bool.not_eq_false, exceedsExposure_eq_false_iff hvalue] at hexceeds
      refine hexceeds fun pct hpct => (hfits _).2 ?_
      rcases h.2 pct hpct with hroom | hsmall
      · exact .inl ⟨hroom.1, by linarith [hroom.2]⟩
      · exact .inr (by linarith)
  | false =>
      rw [exceedsExposure_eq_false_iff hvalue] at hexceeds
      rw [if_neg Bool.false_ne_true]
      split
      next hzero =>
        refine iff_of_false (fun h => h rfl) fun h => ?_
        exact absurd (hq.2 (hsize.2 h.1)) (not_lt.2 hzero)
      next hsome =>
        refine iff_of_true ?_ ⟨hsize.1 (hq.1 (not_le.1 hsome)), fun pct hpct => ?_⟩
        · dsimp only
          split
          · exact fun h => nomatch h
          · exact fun h => nomatch h
        · rcases (hfits _).1 (hexceeds pct hpct) with hroom | hsmall
          · exact .inl ⟨hroom.1, by linarith [hroom.2]⟩
          · exact .inr (by linarith)

/-- Nothing is not ordered. -/
theorem decision_assess_of_nonpos {size : ℚ × Option String} (hsize : size.1 ≤ 0) :
    (call.assess limits metrics (runAllChecks limits metrics) size).decision = .rejected := by
  have hnonpos : softFactor limits metrics * size.1 ≤ 0 :=
    mul_nonpos_of_nonneg_of_nonpos (softFactor_mem limits metrics).1.le hsize
  unfold EvaluateCall.assess
  dsimp only
  rw [reduced_eq]
  unfold EvaluateCall.capLeverage
  split
  next hnone => rfl
  next q capped hsome =>
    have hq : q ≤ 0 := by
      split at hsome
      next hcap =>
        obtain ⟨-, hprice, hover⟩ := hcap
        have hnoroom : call.leverageHeadroom limits metrics ≤ 0 :=
          hover.le.trans (mul_nonpos_of_nonpos_of_nonneg hnonpos hprice.le)
        rw [if_pos hnoroom] at hsome
        cases hsome
      next =>
        obtain ⟨rfl, -⟩ := Prod.mk.inj (Option.some.inj hsome)
        exact hnonpos
    split
    · rfl
    · rfl

theorem leverageHeadroom_pos (hvalue : 0 < call.portfolioValue)
    (hleverage : metrics.grossLeverage < limits.maxLeverage) :
    0 < call.leverageHeadroom limits metrics := by
  have hmul := mul_lt_mul_of_pos_right hleverage hvalue
  unfold EvaluateCall.leverageHeadroom
  linarith

/-- The quantity of the order meets a bound from above when one of its bounds does. -/
theorem orderQuantity_le_iff {call : SizingCall} {metrics : RiskMetrics}
    (hprice : 0 < call.currentPrice) {price : ℚ} (hprice' : 0 < price) {room : ℚ} :
    softFactor limits metrics * orderQuantity limits call * price ≤ room ↔
      ∃ bound ∈ notionalBounds limits call, softFactor limits metrics *
        quantized 8 (boundedQuantity limits call bound) * price ≤ room := by
  refine least_iff_exists (isLeast_orderNotional limits call) (φ := fun b =>
    softFactor limits metrics * quantized 8 (boundedQuantity limits call b) * price ≤ room)
    fun b c hbc hc => le_trans ?_ hc
  have hmono : boundedQuantity limits call b ≤ boundedQuantity limits call c :=
    boundedQuantity_mono hprice hbc
  exact mul_le_mul_of_nonneg_right
    (mul_le_mul_of_nonneg_left (quantized_mono hmono) (softFactor_mem limits metrics).1.le)
    hprice'.le

/-- A sized order is not rejected exactly when it can be sized and stays within the cap of
the total exposure. -/
theorem decision_sized_iff (hleverage : metrics.grossLeverage < limits.maxLeverage) :
    (((computeSize limits (call.sizing metrics)).map
      (call.assess limits metrics (runAllChecks limits metrics))).getD
        call.failed).decision ≠ .rejected ↔
      CanBeSized limits (call.sizing metrics) ∧ ∀ pct ∈ limits.maxTotalExposurePct,
        (0 < limits.maxLeverage ∧ totalNotional call.openPositions +
          call.leverageHeadroom limits metrics ≤ call.portfolioValue * pct) ∨
        ∃ bound ∈ notionalBounds limits (call.sizing metrics),
          totalNotional call.openPositions + softFactor limits metrics *
            quantized 8 (boundedQuantity limits (call.sizing metrics) bound) *
              call.currentPrice ≤ call.portfolioValue * pct := by
  have hsizes : ∀ {quantity : ℚ},
      (∃ reason, computeSize limits (call.sizing metrics) = some (quantity, reason) ∧
        0 < quantity) ↔ CanBeSized limits (call.sizing metrics) ∧
          quantity = orderQuantity limits (call.sizing metrics) := computeSize_iff
  have hunsized : (∀ quantity reason,
      computeSize limits (call.sizing metrics) = some (quantity, reason) → quantity ≤ 0) →
      ¬ CanBeSized limits (call.sizing metrics) := by
    intro hnone hsized
    obtain ⟨reason, hsome, hpos⟩ := hsizes.2 ⟨hsized, rfl⟩
    exact absurd hpos (not_lt.2 (hnone _ _ hsome))
  cases hsize : computeSize limits (call.sizing metrics) with
  | none =>
      refine iff_of_false (fun h => h rfl) fun h => hunsized (fun q r hsome => ?_) h.1
      rw [hsize] at hsome
      cases hsome
  | some size =>
      rw [Option.map_some, Option.getD_some]
      by_cases hpos : 0 < size.1
      · obtain ⟨hsized, hquantity⟩ := hsizes.1 ⟨size.2, hsize, hpos⟩
        have hvalue : 0 < call.portfolioValue := hsized.portfolioValue
        have hprice : 0 < call.currentPrice := hsized.currentPrice
        rw [decision_assess_iff hvalue hprice fun _ => leverageHeadroom_pos hvalue hleverage]
        rw [and_iff_right hpos, and_iff_right hsized]
        have hfits : ∀ room : ℚ, _ := fun room =>
          @orderQuantity_le_iff limits (call.sizing metrics) metrics hprice call.currentPrice
            hprice room
        simp only [hquantity, ← le_sub_iff_add_le', hfits]
      · refine iff_of_false (fun h => h (decision_assess_of_nonpos (not_lt.1 hpos))) fun h =>
          hunsized (fun q r hsome => ?_) h.1
        rw [hsize] at hsome
        obtain rfl := Option.some.inj hsome
        exact not_lt.1 hpos

theorem not_cooling_iff {signal : Signal} {now : ℚ} :
    ¬ 0 < cooldownRemaining limits s signal now ↔ (limits.tradeCooldownSeconds ≠ 0 →
      ∀ last ∈ s.lastTradeAt (cooldownKey signal.symbol.ccxtSymbol signal.strategyName),
        last + limits.tradeCooldownSeconds ≤ now) := by
  rw [cooldownRemaining_pos_iff]
  push Not
  rfl

/-- A portfolio with room for an entry has breached no hard limit. -/
theorem HasRoom.not_hasHardBreach (h : HasRoom limits s call) :
    ¬ hasHardBreach (runAllChecks limits (call.metrics s)) = true := by
  intro hbreach
  rcases hasHardBreach_iff.1 hbreach with hdraw | hloss | hcount | hleverage
  · exact absurd h.drawdown (not_lt.2 hdraw)
  · exact absurd h.dailyLoss (not_lt.2 hloss)
  · exact absurd h.positions (not_lt.2 hcount)
  · exact absurd h.leverage (not_lt.2 hleverage)

/-- What the gates before the sizing let through. -/
theorem assessment_evaluate (hinactive : call.killSwitchActive = false)
    (hcooled : ¬ 0 < cooldownRemaining limits s call.signal call.now)
    (hopens : (call.opens && call.hasPosition) = false)
    (hlimits : ¬ hasHardBreach (runAllChecks limits (call.metrics s)) = true) :
    (evaluate limits s call).assessment =
      ((computeSize limits (call.sizing (call.metrics s))).map
        (call.assess limits (call.metrics s)
          (runAllChecks limits (call.metrics s)))).getD call.failed := by
  unfold EvaluateCall.metrics at hlimits ⊢
  unfold evaluate
  simp only [hinactive, hcooled, hopens, hlimits, Bool.false_eq_true, if_false]

/-- A gate before the sizing rejects. -/
theorem decision_evaluate_of_gate
    (h : call.killSwitchActive = true ∨ 0 < cooldownRemaining limits s call.signal call.now ∨
      (call.opens && call.hasPosition) = true ∨
      hasHardBreach (runAllChecks limits (call.metrics s)) = true) :
    (evaluate limits s call).assessment.decision = .rejected := by
  unfold EvaluateCall.metrics at h
  unfold evaluate
  dsimp only
  split
  next => rfl
  next hinactive =>
    split
    next => rfl
    next hcooled =>
      split
      next => rfl
      next hopens =>
        split
        next => rfl
        next hlimits =>
          exact absurd h (not_or.2 ⟨hinactive, not_or.2 ⟨hcooled, not_or.2 ⟨hopens, hlimits⟩⟩⟩)

/-- The risk engine lets a signal through exactly when every gate does. -/
theorem ne_rejected_iff_passes :
    (evaluate limits s call).assessment.decision ≠ .rejected ↔
      call.killSwitchActive = false ∧ (call.opens && call.hasPosition) = false ∧
        PassesEntryGates limits s call := by
  by_cases hactive : call.killSwitchActive = true
  · refine iff_of_false (fun h => h (decision_evaluate_of_gate (.inl hactive))) fun h => ?_
    exact absurd h.1 (Bool.not_eq_false _ ▸ hactive)
  by_cases hcooling : 0 < cooldownRemaining limits s call.signal call.now
  · refine iff_of_false (fun h => h (decision_evaluate_of_gate (.inr (.inl hcooling))))
      fun h => ?_
    exact absurd hcooling (not_cooling_iff.2 h.2.2.cooled)
  by_cases hopens : (call.opens && call.hasPosition) = true
  · refine iff_of_false (fun h => h (decision_evaluate_of_gate (.inr (.inr (.inl hopens)))))
      fun h => ?_
    exact absurd h.2.1 (Bool.not_eq_false _ ▸ hopens)
  by_cases hbreach : hasHardBreach (runAllChecks limits (call.metrics s)) = true
  · refine iff_of_false (fun h => h (decision_evaluate_of_gate (.inr (.inr (.inr hbreach)))))
      fun h => ?_
    exact absurd hbreach h.2.2.not_hasHardBreach
  have hlimits := hbreach
  rw [hasHardBreach_iff] at hlimits
  push Not at hlimits
  obtain ⟨hdraw, hloss, hcount, hleverage⟩ := hlimits
  rw [Bool.not_eq_true] at hactive hopens
  rw [assessment_evaluate hactive hcooling hopens hbreach, decision_sized_iff hleverage]
  exact ⟨fun h => ⟨hactive, hopens, ⟨hdraw, hloss, hcount, hleverage, h.1, h.2⟩,
    not_cooling_iff.1 hcooling⟩, fun h => ⟨h.2.2.sized, h.2.2.exposure⟩⟩

end Gates

end Sgr
