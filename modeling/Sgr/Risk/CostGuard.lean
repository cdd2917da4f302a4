import Mathlib.Tactic.Linarith
import Mathlib.Tactic.Ring
import Sgr.Portfolio.Equity
import Sgr.Risk.Closers

/-!
# The cost guard

`_apply_cost_guard` keeps a target away from the entry by the fees and the slippage of both
sides, each reckoned on the price of the entry. The exit pays them on its own price. Below the
entry that is less, above it more, so the target of a short position covers its costs, and that
of a long one does if the slippage, which the entry does not pay again, outweighs what the
products of the rates add.
-/

namespace Sgr

/-- What `RiskLimitsConfig` lets pass. -/
structure ProtectionLimits.Validated (limits : ProtectionLimits) : Prop where
  stopLossPct : 0 < limits.stopLossPct ∧ limits.stopLossPct ≤ 1 / 2
  takeProfitPct : 0 < limits.takeProfitPct ∧ limits.takeProfitPct ≤ 1
  maxHoldingMinutes : 1 ≤ limits.maxHoldingMinutes ∧ limits.maxHoldingMinutes ≤ 10080
  paperTakerFeePct : 0 ≤ limits.paperTakerFeePct ∧ limits.paperTakerFeePct ≤ 1 / 100
  paperSlippagePct : 0 ≤ limits.paperSlippagePct ∧ limits.paperSlippagePct ≤ 1 / 100

/-- The limits that the paper simulation reads of the same configuration. -/
def ProtectionLimits.paper (limits : ProtectionLimits) (paperMakerFeePct : ℚ) : PaperLimits where
  paperSlippagePct := limits.paperSlippagePct
  paperTakerFeePct := limits.paperTakerFeePct
  paperMakerFeePct := paperMakerFeePct

/-- The fill of the watchdog's order when the exchange quotes the target. -/
def takeProfitFill (limits : PaperLimits) (p : Position) (id : UUID) : Option OrderResult :=
  p.takeProfitPrice.bind fun target =>
    simulateOrder limits (watchdogOrder p .takeProfit id) (some ⟨target, target⟩)

/-- What a position has made with its exit, less the fees of the exit and of the entry. -/
def Position.netProfit (limits : PaperLimits) (p : Position) (exit : OrderResult) : ℚ :=
  exit.averageFillPrice.elim 0 fun price =>
    (price - p.entryPrice) * exit.filledQuantity * p.sideFactor - exit.fees -
      p.quantity * p.entryPrice * limits.paperTakerFeePct

/-- The target before the guard: that of the strategy, else that of the configuration. -/
def unguardedTarget (limits : ProtectionLimits) (p : Position) (raw : RawResponse) : ℚ :=
  ((extractStrategyPrices raw p.side p.entryPrice).getD
    (configPrices limits p.side p.entryPrice)).1

/-- The slippage outweighs the products of the rates. -/
def ProtectionLimits.SlippageOutweighs (limits : ProtectionLimits) : Prop :=
  2 * limits.paperTakerFeePct ^ 2 ≤ limits.paperSlippagePct *
    (1 - 3 * limits.paperTakerFeePct - 2 * limits.paperSlippagePct +
      2 * limits.paperTakerFeePct ^ 2 + 2 * limits.paperTakerFeePct * limits.paperSlippagePct)

/-- The target before the guard covers the costs of both sides. -/
def CoversCosts (limits : ProtectionLimits) (p : Position) (raw : RawResponse) : Prop :=
  p.entryPrice * (1 + limits.paperTakerFeePct) ≤
    unguardedTarget limits p raw * (1 - limits.paperSlippagePct) * (1 - limits.paperTakerFeePct)

section Fill

variable {limits : ProtectionLimits} {p q : Position} {raw : RawResponse} {maker : ℚ} {id : UUID}

/-- The hook attaches the guarded target and changes nothing that the profit depends on. -/
theorem takeProfitPrice_of_opened (h : onPositionOpened limits p raw = some q) :
    q.takeProfitPrice =
        some (applyCostGuard limits p.entryPrice (unguardedTarget limits p raw) p.side) ∧
      q.side = p.side ∧ q.quantity = p.quantity ∧ q.entryPrice = p.entryPrice := by
  unfold onPositionOpened at h
  split at h
  · cases h
  · split at h
    · cases h
    · cases h
      exact ⟨rfl, rfl, rfl, rfl⟩

/-- The profit at a target of a long position. -/
theorem netProfit_long {target : ℚ} (hside : q.side = .long)
    (htarget : q.takeProfitPrice = some target) :
    ∃ r, takeProfitFill (limits.paper maker) q id = some r ∧
      q.netProfit (limits.paper maker) r =
        q.quantity * (target * (1 - limits.paperSlippagePct) * (1 - limits.paperTakerFeePct) -
          q.entryPrice * (1 + limits.paperTakerFeePct)) := by
  refine ⟨_, by rw [takeProfitFill, htarget]; rfl, ?_⟩
  simp only [Position.netProfit, watchdogOrder, closingOrder, hside, PositionSide.closeSide,
    Option.elim_some, Position.sideFactor, if_true, simulatedFeeRate, reduceCtorEq, if_false,
    ProtectionLimits.paper]
  ring

/-- The profit at a target of a short position. -/
theorem netProfit_short {target : ℚ} (hside : q.side ≠ .long)
    (htarget : q.takeProfitPrice = some target) :
    ∃ r, takeProfitFill (limits.paper maker) q id = some r ∧
      q.netProfit (limits.paper maker) r =
        q.quantity * (q.entryPrice * (1 - limits.paperTakerFeePct) -
          target * (1 + limits.paperSlippagePct) * (1 + limits.paperTakerFeePct)) := by
  have hclose : q.side.closeSide = .buy := by
    cases hq : q.side with
    | long => exact absurd hq hside
    | short => rfl
    | flat => rfl
  refine ⟨_, by rw [takeProfitFill, htarget]; rfl, ?_⟩
  simp only [Position.netProfit, watchdogOrder, closingOrder, hclose, hside, Option.elim_some,
    Position.sideFactor, simulatedFeeRate, reduceCtorEq, if_false, ProtectionLimits.paper]
  ring

end Fill

theorem applyCostGuard_long (limits : ProtectionLimits) (entry target : ℚ) :
    applyCostGuard limits entry target .long = max target
      (entry + entry * (2 * (limits.paperTakerFeePct + limits.paperSlippagePct))) := by
  simp only [applyCostGuard, if_true]
  split
  next h => exact (max_eq_right (by linarith)).symm
  next h => exact (max_eq_left (by linarith)).symm

theorem applyCostGuard_le {limits : ProtectionLimits} {entry target : ℚ} {side : PositionSide}
    (hside : side ≠ .long) : applyCostGuard limits entry target side ≤
      entry - entry * (2 * (limits.paperTakerFeePct + limits.paperSlippagePct)) := by
  simp only [applyCostGuard, hside, if_false]
  split
  next => exact le_rfl
  next h => linarith

/-- The costs of a round trip on the price of the entry. -/
theorem roundTrip_long (entry fee slip : ℚ) :
    (entry + entry * (2 * (fee + slip))) * (1 - slip) * (1 - fee) - entry * (1 + fee) =
      entry * (slip * (1 - 3 * fee - 2 * slip + 2 * fee ^ 2 + 2 * fee * slip) - 2 * fee ^ 2) := by
  ring

theorem roundTrip_short (entry fee slip : ℚ) :
    entry * (1 - fee) - (entry - entry * (2 * (fee + slip))) * (1 + slip) * (1 + fee) =
      entry * (slip + 3 * slip * fee + 2 * fee ^ 2 + 2 * slip ^ 2 + 2 * slip * fee ^ 2 +
        2 * slip ^ 2 * fee) := by
  ring

/-- A long position covers its costs at the guarded target exactly if it does at the target
before the guard, or the slippage outweighs the products of the rates. -/
theorem covers_long_iff {limits : ProtectionLimits} (hvalid : limits.Validated) {entry : ℚ}
    (hentry : 0 < entry) (target : ℚ) :
    entry * (1 + limits.paperTakerFeePct) ≤ applyCostGuard limits entry target .long *
        (1 - limits.paperSlippagePct) * (1 - limits.paperTakerFeePct) ↔
      limits.SlippageOutweighs ∨ entry * (1 + limits.paperTakerFeePct) ≤
        target * (1 - limits.paperSlippagePct) * (1 - limits.paperTakerFeePct) := by
  have hslip : 0 ≤ 1 - limits.paperSlippagePct := by linarith [hvalid.paperSlippagePct.2]
  have hfee : 0 ≤ 1 - limits.paperTakerFeePct := by linarith [hvalid.paperTakerFeePct.2]
  have hguard : entry * (1 + limits.paperTakerFeePct) ≤
      (entry + entry * (2 * (limits.paperTakerFeePct + limits.paperSlippagePct))) *
        (1 - limits.paperSlippagePct) * (1 - limits.paperTakerFeePct) ↔
      limits.SlippageOutweighs := by
    rw [← sub_nonneg, roundTrip_long, mul_nonneg_iff_of_pos_left hentry, sub_nonneg,
      ProtectionLimits.SlippageOutweighs]
  rw [applyCostGuard_long, max_mul_of_nonneg _ _ hslip, max_mul_of_nonneg _ _ hfee, le_max_iff,
    hguard]
  exact or_comm

/-- The products of the rates are on the side of a short position. -/
theorem covers_short {limits : ProtectionLimits} (hvalid : limits.Validated) {entry : ℚ}
    (hentry : 0 < entry) (target : ℚ) {side : PositionSide} (hside : side ≠ .long) :
    applyCostGuard limits entry target side * (1 + limits.paperSlippagePct) *
        (1 + limits.paperTakerFeePct) ≤ entry * (1 - limits.paperTakerFeePct) := by
  have hslip := hvalid.paperSlippagePct.1
  have hfee := hvalid.paperTakerFeePct.1
  have hguard : applyCostGuard limits entry target side * (1 + limits.paperSlippagePct) *
      (1 + limits.paperTakerFeePct) ≤
      (entry - entry * (2 * (limits.paperTakerFeePct + limits.paperSlippagePct))) *
        (1 + limits.paperSlippagePct) * (1 + limits.paperTakerFeePct) := by
    gcongr
    exact applyCostGuard_le hside
  have hcosts : 0 ≤ entry * (1 - limits.paperTakerFeePct) -
      (entry - entry * (2 * (limits.paperTakerFeePct + limits.paperSlippagePct))) *
        (1 + limits.paperSlippagePct) * (1 + limits.paperTakerFeePct) := by
    rw [roundTrip_short]
    positivity
  linarith

/-- A target that the hook attaches does not lose money when it is met, exactly if the position
is short, or the slippage outweighs the products of the rates, or the target before the guard
covers the costs already. -/
theorem netProfit_nonneg_iff {limits : ProtectionLimits} (hvalid : limits.Validated)
    {p q : Position} {raw : RawResponse} (hentry : 0 < p.entryPrice) (hquantity : 0 < p.quantity)
    (hopened : onPositionOpened limits p raw = some q) (maker : ℚ) (id : UUID) :
    (∃ r, takeProfitFill (limits.paper maker) q id = some r ∧
        0 ≤ q.netProfit (limits.paper maker) r) ↔
      p.side ≠ .long ∨ limits.SlippageOutweighs ∨ CoversCosts limits p raw := by
  obtain ⟨htarget, hside, hq, he⟩ := takeProfitPrice_of_opened hopened
  by_cases hlong : p.side = .long
  · obtain ⟨r, hr, hprofit⟩ : ∃ r, takeProfitFill (limits.paper maker) q id = some r ∧
        q.netProfit (limits.paper maker) r = _ := netProfit_long (hside.trans hlong) htarget
    have hfill : (∃ r, takeProfitFill (limits.paper maker) q id = some r ∧
        0 ≤ q.netProfit (limits.paper maker) r) ↔ 0 ≤ q.netProfit (limits.paper maker) r := by
      rw [hr]
      simp
    rw [hfill, hprofit, hq, mul_nonneg_iff_of_pos_left hquantity, sub_nonneg, he, hlong,
      covers_long_iff hvalid hentry]
    simp [CoversCosts]
  · obtain ⟨r, hr, hprofit⟩ : ∃ r, takeProfitFill (limits.paper maker) q id = some r ∧
        q.netProfit (limits.paper maker) r = _ :=
      netProfit_short (fun h => hlong (hside.symm.trans h)) htarget
    refine iff_of_true ⟨r, hr, ?_⟩ (.inl hlong)
    rw [hprofit, hq, he]
    exact mul_nonneg hquantity.le (sub_nonneg.2 (covers_short hvalid hentry _ hlong))

/-- The limits of the examples: a fee and no slippage. -/
def ProtectionLimits.withoutSlippage : ProtectionLimits :=
  ⟨some 0, 1 / 100, 1 / 1000, 30, 5 / 10000, 0⟩

theorem validated_withoutSlippage : ProtectionLimits.withoutSlippage.Validated := by
  constructor <;> decide +kernel

/-- A position of one unit that is entered at 100. -/
def Position.atHundred (side : PositionSide) : Position where
  id := 1
  symbol := btcUsdt
  side := side
  quantity := 1
  entryPrice := 100
  currentPrice := 100
  openedAt := 0
  strategyName := "trend_following_v1"
  tradingMode := .paper

theorem netProfit_nonneg_iff_short :
    ∃ q, onPositionOpened .withoutSlippage (.atHundred .short) {} = some q ∧
      ((∃ r, takeProfitFill (ProtectionLimits.withoutSlippage.paper 0) q 1 = some r ∧
          0 ≤ q.netProfit (ProtectionLimits.withoutSlippage.paper 0) r) ↔
        PositionSide.short ≠ .long ∨ ProtectionLimits.withoutSlippage.SlippageOutweighs ∨
          CoversCosts .withoutSlippage (.atHundred .short) {}) :=
  ⟨_, rfl, netProfit_nonneg_iff (p := .atHundred .short) validated_withoutSlippage
    (by decide +kernel) (by decide +kernel) rfl 0 1⟩

/-- A long position from 100 to a target of 100.1 pays more than it makes. -/
theorem not_netProfit_nonneg :
    ¬ ∀ (limits : ProtectionLimits) (p q : Position) (raw : RawResponse) (maker : ℚ) (id : UUID)
      (r : OrderResult), limits.Validated → 0 < p.entryPrice → 0 < p.quantity →
      onPositionOpened limits p raw = some q →
      takeProfitFill (limits.paper maker) q id = some r →
        0 ≤ q.netProfit (limits.paper maker) r := by
  intro h
  have hnonneg := h .withoutSlippage (.atHundred .long) _ {} 0 1 _ validated_withoutSlippage
    (by decide +kernel) (by decide +kernel) rfl rfl
  revert hnonneg
  decide +kernel

end Sgr
