import Mathlib.Algebra.Order.BigOperators.Group.List
import Sgr.Arithmetic.Decimal
import Sgr.Collection.Dict
import Sgr.Core.Types

/-!
# Performance fees

The `PerformanceFeeEngine` of `sgr/saas/fees.py`: a settlement charges the profit above the
high-water mark and raises the mark to the new equity. A fee below `MIN_FEE_AMOUNT` is waived and
its profit is recorded as zero, but the mark rises all the same. So each unit of new profit lies in
exactly one settlement, which charges or waives it.
-/

open Arithmetic Collection

namespace Sgr

/-- `FeeStatus`. -/
inductive FeeStatus
  | pending
  | invoiced
  | paid
  | waived
  deriving DecidableEq, Repr

/-- `HighWaterMark` without its user, under whom it is cached, and its currency. -/
structure HighWaterMark where
  currentHwm : ℚ
  lastFeeDate : Option Timestamp := none
  cumulativeFeesPaid : ℚ := 0
  deriving DecidableEq, Repr

namespace HighWaterMark

/-- `calculate_new_high`. -/
def calculateNewHigh (h : HighWaterMark) (value : ℚ) : ℚ :=
  if value ≤ h.currentHwm then 0 else value - h.currentHwm

/-- `update_hwm`. -/
def updateHwm (h : HighWaterMark) (value : ℚ) : HighWaterMark :=
  if h.currentHwm < value then { h with currentHwm := value } else h

end HighWaterMark

/-- `PerformanceFeeCalculation`, with its details as numbers. -/
structure PerformanceFeeCalculation where
  userId : String
  periodStart : Timestamp
  periodEnd : Timestamp
  portfolioValueStart : ℚ
  portfolioValueEnd : ℚ
  highWaterMark : ℚ
  profitAboveHwm : ℚ
  feeRate : ℚ
  feeAmount : ℚ
  status : FeeStatus
  hwmBefore : ℚ
  hwmAfter : ℚ
  portfolioGrowthPct : ℚ
  deriving DecidableEq, Repr

/-- `DEFAULT_FEE_RATE`. -/
def defaultFeeRate : ℚ := 5 / 100

/-- `MIN_FEE_AMOUNT`. -/
def minFeeAmount : ℚ := 1

/-- The charged profit and the fee of `calculate_fee`. -/
def chargedFee (profit feeRate : ℚ) : ℚ × ℚ :=
  if profit ≤ 0 then (profit, 0)
  else
    let feeAmount := roundedHalfUp 2 (profit * feeRate)
    if feeAmount < minFeeAmount then (0, 0) else (profit, feeAmount)

/-- `calculate_fee`: the record and the mark after it. -/
def calculateFee (userId : String) (periodStart periodEnd : Timestamp)
    (portfolioValueStart portfolioValueEnd : ℚ) (hwm : HighWaterMark) (feeRate : ℚ) :
    PerformanceFeeCalculation × HighWaterMark :=
  let charged := chargedFee (hwm.calculateNewHigh portfolioValueEnd) feeRate
  ({ userId := userId
     periodStart := periodStart
     periodEnd := periodEnd
     portfolioValueStart := portfolioValueStart
     portfolioValueEnd := portfolioValueEnd
     highWaterMark := hwm.currentHwm
     profitAboveHwm := charged.1
     feeRate := feeRate
     feeAmount := charged.2
     status := .pending
     hwmBefore := hwm.currentHwm
     hwmAfter := max hwm.currentHwm portfolioValueEnd
     portfolioGrowthPct :=
       if 0 < portfolioValueStart then
         (portfolioValueEnd - portfolioValueStart) / portfolioValueStart * 100
       else 0 },
   hwm.updateHwm portfolioValueEnd)

/-- `PerformanceFeeEngine`. -/
structure PerformanceFeeEngine where
  hwmCache : Dict String HighWaterMark

/-- The arguments of one `run_monthly_settlement`, and its time. -/
structure Settlement where
  userId : String
  currentPortfolioValue : ℚ
  initialCapital : ℚ
  feeRate : ℚ := defaultFeeRate
  now : Timestamp
  deriving DecidableEq, Repr

namespace PerformanceFeeEngine

/-- `get_hwm`: a user without a mark starts at the initial capital. -/
def getHwm (e : PerformanceFeeEngine) (userId : String) (initialCapital : ℚ) : HighWaterMark :=
  (e.hwmCache.get? userId).getD { currentHwm := initialCapital }

/-- `run_monthly_settlement`. -/
def runMonthlySettlement (e : PerformanceFeeEngine) (s : Settlement) :
    PerformanceFeeCalculation × PerformanceFeeEngine :=
  let hwm := e.getHwm s.userId s.initialCapital
  let r := calculateFee s.userId (hwm.lastFeeDate.getD s.now) s.now hwm.currentHwm
    s.currentPortfolioValue hwm s.feeRate
  (r.1,
   ⟨e.hwmCache.set s.userId
      { r.2 with
        lastFeeDate := some s.now
        cumulativeFeesPaid := r.2.cumulativeFeesPaid + r.1.feeAmount }⟩)

/-- The settlements of a list, one after the other: the records and the engine after them. -/
def settleAll : PerformanceFeeEngine → List Settlement →
    List PerformanceFeeCalculation × PerformanceFeeEngine
  | e, [] => ([], e)
  | e, s :: ss =>
      let r := e.runMonthlySettlement s
      let rest := r.2.settleAll ss
      (r.1 :: rest.1, rest.2)

/-- The mark of a user. -/
def mark (e : PerformanceFeeEngine) (userId : String) : Option ℚ :=
  (e.hwmCache.get? userId).map HighWaterMark.currentHwm

/-- The mark of a user before his first settlement in the list. -/
def initialMark (e : PerformanceFeeEngine) (userId : String) (ss : List Settlement) : Option ℚ :=
  (e.mark userId).or
    ((ss.find? fun s => s.userId = userId).map Settlement.initialCapital)

end PerformanceFeeEngine

namespace PerformanceFeeCalculation

/-- The profit above the mark. -/
def newProfit (c : PerformanceFeeCalculation) : ℚ := max 0 (c.portfolioValueEnd - c.highWaterMark)

/-- There is new profit and its fee is below the minimum. -/
def Waived (c : PerformanceFeeCalculation) : Prop :=
  0 < c.newProfit ∧ roundedHalfUp 2 (c.newProfit * c.feeRate) < minFeeAmount

instance (c : PerformanceFeeCalculation) : Decidable c.Waived := by
  unfold Waived
  infer_instance

/-- The profit whose fee is waived. -/
def waivedProfit (c : PerformanceFeeCalculation) : ℚ := if c.Waived then c.newProfit else 0

end PerformanceFeeCalculation

/-- The sum of an amount over the records of a user. -/
def sumOf (userId : String) (amount : PerformanceFeeCalculation → ℚ)
    (cs : List PerformanceFeeCalculation) : ℚ :=
  ((cs.filter fun c => c.userId = userId).map amount).sum

/-! ### One settlement -/

theorem calculateNewHigh_eq_max (h : HighWaterMark) (value : ℚ) :
    h.calculateNewHigh value = max 0 (value - h.currentHwm) := by
  unfold HighWaterMark.calculateNewHigh
  split
  next hle => rw [max_eq_left (sub_nonpos.2 hle)]
  next hlt => rw [max_eq_right (sub_nonneg.2 (not_le.1 hlt).le)]

theorem currentHwm_updateHwm (h : HighWaterMark) (value : ℚ) :
    (h.updateHwm value).currentHwm = max h.currentHwm value := by
  unfold HighWaterMark.updateHwm
  split
  next hlt => rw [max_eq_right hlt.le]
  next hle => rw [max_eq_left (not_lt.1 hle)]

/-- A fee below a whole unit comes from a product that rounds to less. -/
theorem waived_iff (c : PerformanceFeeCalculation) :
    c.Waived ↔ 0 < c.newProfit ∧ c.newProfit * c.feeRate < 199 / 200 := by
  have hround : roundedHalfUp 2 (c.newProfit * c.feeRate) < ((100 : ℤ) : ℚ) / 10 ^ 2 ↔
      c.newProfit * c.feeRate < (((100 : ℤ) : ℚ) - 1 / 2) / 10 ^ 2 :=
    roundedHalfUp_lt_iff (by decide)
  have hmin : minFeeAmount = ((100 : ℤ) : ℚ) / 10 ^ 2 := by norm_num [minFeeAmount]
  have hbound : (((100 : ℤ) : ℚ) - 1 / 2) / 10 ^ 2 = 199 / 200 := by norm_num
  rw [PerformanceFeeCalculation.Waived, hmin, hround, hbound]

section Step

variable (e : PerformanceFeeEngine) (s : Settlement)

theorem mark_runMonthlySettlement_self :
    (e.runMonthlySettlement s).2.mark s.userId =
      some (max (e.getHwm s.userId s.initialCapital).currentHwm s.currentPortfolioValue) := by
  rw [PerformanceFeeEngine.mark, PerformanceFeeEngine.runMonthlySettlement, Dict.get?_set_self]
  exact congrArg some (currentHwm_updateHwm _ _)

theorem mark_runMonthlySettlement_of_ne {userId : String} (h : userId ≠ s.userId) :
    (e.runMonthlySettlement s).2.mark userId = e.mark userId := by
  rw [PerformanceFeeEngine.mark, PerformanceFeeEngine.runMonthlySettlement,
    Dict.get?_set_of_ne _ h, PerformanceFeeEngine.mark]

theorem newProfit_runMonthlySettlement :
    (e.runMonthlySettlement s).1.newProfit =
      max (e.getHwm s.userId s.initialCapital).currentHwm s.currentPortfolioValue -
        (e.getHwm s.userId s.initialCapital).currentHwm := by
  change max 0 (s.currentPortfolioValue - (e.getHwm s.userId s.initialCapital).currentHwm) = _
  generalize (e.getHwm s.userId s.initialCapital).currentHwm = m
  rcases le_total m s.currentPortfolioValue with hle | hle
  · rw [max_eq_right (sub_nonneg.2 hle), max_eq_right hle]
  · rw [max_eq_left (sub_nonpos.2 hle), max_eq_left hle, sub_self]

/-- A settlement charges its new profit or waives it. -/
theorem profit_add_waivedProfit :
    (e.runMonthlySettlement s).1.profitAboveHwm + (e.runMonthlySettlement s).1.waivedProfit =
      (e.runMonthlySettlement s).1.newProfit := by
  have hprofit : (e.runMonthlySettlement s).1.profitAboveHwm =
      (chargedFee (e.runMonthlySettlement s).1.newProfit
        (e.runMonthlySettlement s).1.feeRate).1 := by
    change (chargedFee (HighWaterMark.calculateNewHigh _ _) _).1 = _
    rw [calculateNewHigh_eq_max]
    rfl
  generalize (e.runMonthlySettlement s).1 = c at hprofit ⊢
  have hnonneg : 0 ≤ c.newProfit := le_max_left _ _
  rw [hprofit, chargedFee, PerformanceFeeCalculation.waivedProfit]
  split
  next hle =>
    have hnot : ¬ c.Waived := fun h => absurd hle (not_le.2 h.1)
    rw [if_neg hnot, add_zero]
  next hlt =>
    dsimp only
    split
    next hfee =>
      have hwaived : c.Waived := ⟨not_le.1 hlt, hfee⟩
      rw [if_pos hwaived, zero_add]
    next hfee =>
      have hnot : ¬ c.Waived := fun h => hfee h.2
      rw [if_neg hnot, add_zero]

end Step

/-! ### Settlements one after the other -/

theorem sumOf_cons_self (c : PerformanceFeeCalculation) (amount : PerformanceFeeCalculation → ℚ)
    (cs : List PerformanceFeeCalculation) :
    sumOf c.userId amount (c :: cs) = amount c + sumOf c.userId amount cs := by
  rw [sumOf, List.filter_cons_of_pos (by simp), List.map_cons, List.sum_cons, sumOf]

theorem sumOf_cons_of_ne {c : PerformanceFeeCalculation} {userId : String} (h : c.userId ≠ userId)
    (amount : PerformanceFeeCalculation → ℚ) (cs : List PerformanceFeeCalculation) :
    sumOf userId amount (c :: cs) = sumOf userId amount cs := by
  rw [sumOf, List.filter_cons_of_neg (by simpa using h), sumOf]

theorem initialMark_cons_self (e : PerformanceFeeEngine) (s : Settlement) (ss : List Settlement) :
    e.initialMark s.userId (s :: ss) =
      some (e.getHwm s.userId s.initialCapital).currentHwm := by
  rw [PerformanceFeeEngine.initialMark, List.find?_cons_of_pos (by simp),
    PerformanceFeeEngine.mark, PerformanceFeeEngine.getHwm]
  cases e.hwmCache.get? s.userId with
  | none => rfl
  | some h => rfl

theorem initialMark_cons_of_ne (e : PerformanceFeeEngine) {s : Settlement} {userId : String}
    (h : s.userId ≠ userId) (ss : List Settlement) :
    e.initialMark userId (s :: ss) = (e.runMonthlySettlement s).2.initialMark userId ss := by
  rw [PerformanceFeeEngine.initialMark, List.find?_cons_of_neg (by simpa using h),
    PerformanceFeeEngine.initialMark, mark_runMonthlySettlement_of_ne e s (Ne.symm h)]

/-- The profits of a user, charged or not, make up the rise of his mark. -/
theorem sumOf_newProfit (e : PerformanceFeeEngine) (ss : List Settlement) {userId : String} {m : ℚ}
    (hm : e.initialMark userId ss = some m) :
    ∃ m', (e.settleAll ss).2.mark userId = some m' ∧
      sumOf userId PerformanceFeeCalculation.newProfit (e.settleAll ss).1 = m' - m := by
  induction ss generalizing e m with
  | nil =>
      rw [PerformanceFeeEngine.initialMark, List.find?_nil, Option.map_none, Option.or_none] at hm
      exact ⟨m, hm, (sub_self m).symm⟩
  | cons s ss ih =>
      have hrecord : (e.runMonthlySettlement s).1.userId = s.userId := rfl
      rw [PerformanceFeeEngine.settleAll]
      dsimp only
      by_cases huser : s.userId = userId
      · subst huser
        have hstart : (e.getHwm s.userId s.initialCapital).currentHwm = m :=
          Option.some.inj ((initialMark_cons_self e s ss).symm.trans hm)
        have hmark := mark_runMonthlySettlement_self e s
        rw [hstart] at hmark
        obtain ⟨m', hm', hsum⟩ := ih (e.runMonthlySettlement s).2
          (by rw [PerformanceFeeEngine.initialMark, hmark, Option.some_or])
        refine ⟨m', hm', ?_⟩
        have hcons := sumOf_cons_self (e.runMonthlySettlement s).1
          PerformanceFeeCalculation.newProfit ((e.runMonthlySettlement s).2.settleAll ss).1
        rw [hrecord] at hcons
        rw [hcons, hsum, newProfit_runMonthlySettlement, hstart]
        ring
      · rw [sumOf_cons_of_ne (by rwa [hrecord])]
        exact ih _ ((initialMark_cons_of_ne e huser ss).symm.trans hm)

/-- Every record of a list of settlements charges its new profit or waives it. -/
theorem sumOf_profit_add_waivedProfit (e : PerformanceFeeEngine) (ss : List Settlement)
    (userId : String) :
    sumOf userId PerformanceFeeCalculation.profitAboveHwm (e.settleAll ss).1 +
        sumOf userId PerformanceFeeCalculation.waivedProfit (e.settleAll ss).1 =
      sumOf userId PerformanceFeeCalculation.newProfit (e.settleAll ss).1 := by
  induction ss generalizing e with
  | nil => exact add_zero 0
  | cons s ss ih =>
      have hrecord : (e.runMonthlySettlement s).1.userId = s.userId := rfl
      have hstep := profit_add_waivedProfit e s
      have hrest := ih (e.runMonthlySettlement s).2
      rw [PerformanceFeeEngine.settleAll]
      dsimp only
      by_cases huser : s.userId = userId
      · subst huser
        rw [← hrecord] at hrest ⊢
        simp only [sumOf_cons_self]
        linarith
      · have hne : (e.runMonthlySettlement s).1.userId ≠ userId := by rwa [hrecord]
        simp only [sumOf_cons_of_ne hne]
        exact hrest

theorem waivedProfit_nonneg (c : PerformanceFeeCalculation) : 0 ≤ c.waivedProfit := by
  unfold PerformanceFeeCalculation.waivedProfit
  split
  next h => exact h.1.le
  next => exact le_rfl

theorem waivedProfit_eq_zero_iff (c : PerformanceFeeCalculation) :
    c.waivedProfit = 0 ↔ ¬ c.Waived := by
  unfold PerformanceFeeCalculation.waivedProfit
  split
  next h => exact ⟨fun hzero => absurd hzero h.1.ne', fun hnot => absurd h hnot⟩
  next h => exact ⟨fun _ => h, fun _ => rfl⟩

/-- The waived profits add up to nothing exactly if nothing is waived. -/
theorem sumOf_waivedProfit_eq_zero_iff (userId : String) (cs : List PerformanceFeeCalculation) :
    sumOf userId PerformanceFeeCalculation.waivedProfit cs = 0 ↔
      ∀ c ∈ cs, c.userId = userId → ¬ c.Waived := by
  induction cs with
  | nil => simp [sumOf]
  | cons c cs ih =>
      rw [List.forall_mem_cons, ← ih]
      by_cases huser : c.userId = userId
      · subst huser
        have hrest : 0 ≤ sumOf c.userId PerformanceFeeCalculation.waivedProfit cs := by
          refine List.sum_nonneg fun x hx => ?_
          obtain ⟨d, -, rfl⟩ := List.mem_map.1 hx
          exact waivedProfit_nonneg d
        rw [sumOf_cons_self, add_eq_zero_iff_of_nonneg (waivedProfit_nonneg c) hrest,
          waivedProfit_eq_zero_iff]
        exact and_congr_left fun _ => ⟨fun h _ => h, fun h => h rfl⟩
      · rw [sumOf_cons_of_ne huser]
        exact ⟨fun h => ⟨fun heq => absurd heq huser, h⟩, And.right⟩

/-- The charged and the waived profits of a user add up to the rise of his mark, and the charged
ones alone do so exactly if no fee of his was waived. -/
theorem charged_add_waived (e : PerformanceFeeEngine) (ss : List Settlement) {userId : String}
    {m : ℚ} (hm : e.initialMark userId ss = some m) :
    ∃ m', (e.settleAll ss).2.mark userId = some m' ∧
      sumOf userId PerformanceFeeCalculation.profitAboveHwm (e.settleAll ss).1 +
        sumOf userId PerformanceFeeCalculation.waivedProfit (e.settleAll ss).1 = m' - m ∧
      (sumOf userId PerformanceFeeCalculation.profitAboveHwm (e.settleAll ss).1 = m' - m ↔
        ∀ c ∈ (e.settleAll ss).1, c.userId = userId → ¬ c.Waived) := by
  obtain ⟨m', hm', hsum⟩ := sumOf_newProfit e ss hm
  rw [← sumOf_profit_add_waivedProfit] at hsum
  refine ⟨m', hm', hsum, ?_⟩
  rw [← sumOf_waivedProfit_eq_zero_iff, ← hsum]
  exact ⟨fun h => by linarith, fun h => by linarith⟩

/-- Two months of a user who gains 10 and then 100. -/
def smallGain : List Settlement :=
  [{ userId := "u1", currentPortfolioValue := 10010, initialCapital := 10000, now := 1 },
   { userId := "u1", currentPortfolioValue := 10110, initialCapital := 10000, now := 2 }]

theorem charged_add_waived_smallGain :
    ∃ m', ((⟨Dict.empty⟩ : PerformanceFeeEngine).settleAll smallGain).2.mark "u1" = some m' ∧
      sumOf "u1" PerformanceFeeCalculation.profitAboveHwm
          ((⟨Dict.empty⟩ : PerformanceFeeEngine).settleAll smallGain).1 +
        sumOf "u1" PerformanceFeeCalculation.waivedProfit
          ((⟨Dict.empty⟩ : PerformanceFeeEngine).settleAll smallGain).1 = m' - 10000 ∧
      (sumOf "u1" PerformanceFeeCalculation.profitAboveHwm
          ((⟨Dict.empty⟩ : PerformanceFeeEngine).settleAll smallGain).1 = m' - 10000 ↔
        ∀ c ∈ ((⟨Dict.empty⟩ : PerformanceFeeEngine).settleAll smallGain).1,
          c.userId = "u1" → ¬ c.Waived) :=
  charged_add_waived ⟨Dict.empty⟩ smallGain rfl

/-- The first gain raises the mark and is never charged. -/
theorem not_forall_charged_eq :
    ¬ ∀ (e : PerformanceFeeEngine) (ss : List Settlement) (userId : String) (m m' : ℚ),
      e.initialMark userId ss = some m → (e.settleAll ss).2.mark userId = some m' →
        sumOf userId PerformanceFeeCalculation.profitAboveHwm (e.settleAll ss).1 = m' - m := by
  intro h
  have hsum := h ⟨Dict.empty⟩ smallGain "u1" 10000 10110 rfl (by decide +kernel)
  exact absurd hsum (by decide +kernel)

end Sgr
