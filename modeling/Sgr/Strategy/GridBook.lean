import Sgr.Concurrency.Machine
import Sgr.Strategy.FuturesGrid

/-!
# The grids of the strategies before the risk engine

A proposal of `evaluate` always has the leverage, the number of levels and the size of the
defaults. So the risk engine can only turn it down for what is open already or for the costs,
and with the limits of the source the exposure is exhausted before the number of grids is.
-/

open Concurrency

namespace Sgr

/-- The limits leave room for the defaults of the strategies. -/
structure GridOpeningLimits.AdmitDefaults (limits : GridOpeningLimits) : Prop where
  leverage : 2 ≤ limits.maxLeverage
  orders : 10 ≤ limits.maxGridOrders
  position : 200 ≤ limits.maxGridPositionUsd
  distance : limits.maxLiquidationDistancePct ≤ 1 / 2

/-- What a cycle of the grid must bring in, as a share of the price. -/
def GridOpeningLimits.requiredSpacing (limits : GridOpeningLimits) (costs : PaperLimits) : ℚ :=
  (costs.paperMakerFeePct + costs.paperTakerFeePct + 2 * costs.paperSlippagePct) *
    limits.costGuardSafetyMargin

/-- The proposal of the scheduler, which passes neither liquidity nor funding nor volatility. -/
def FuturesGridParameters.proposal (p : FuturesGridParameters) (price : ℚ)
    (directional : Option ℚ) : GridProposal where
  parameters := p
  currentPrice := price
  directionalExposureUsd := directional

section Approval

variable {limits : GridOpeningLimits} {ratioPower : ℚ → ℕ → ℕ → ℚ} {costs : Option PaperLimits}
  {s : GridPortfolioSnapshot} {context : MarketContext} {fundingRate : Option ℚ}
  {strategy : FuturesGridStrategy} {p : FuturesGridParameters} {price : ℚ}
  {directional : Option ℚ}

theorem totalNotional_of_evaluate
    (hp : p ∈ (strategy.evaluate context fundingRate).parameters) : p.totalNotional = 200 := by
  obtain ⟨-, -, atr, -, haround⟩ := gridAround_of_evaluate hp
  rw [FuturesGridParameters.totalNotional, haround.positionSize, haround.gridCount]
  norm_num

/-- The cost guard compares the distance of the first two levels with the costs of a cycle. -/
theorem checkCostGuard_iff {q : GridProposal} (hfunding : q.fundingRateAnnualizedPct = none) :
    limits.checkCostGuard ratioPower costs q = .ok none ↔
      (0 < q.currentPrice → ∃ c ∈ costs,
        limits.requiredSpacing c ≤
          q.parameters.effectiveGridSpacing ratioPower / q.currentPrice) := by
  unfold GridOpeningLimits.checkCostGuard
  by_cases hprice : q.currentPrice ≤ 0
  · rw [if_pos hprice]
    exact ⟨fun _ hpos => absurd hprice (not_le.2 hpos), fun _ => rfl⟩
  · rw [if_neg hprice]
    cases costs with
    | none =>
        constructor
        · intro h
          cases h
        · intro h
          obtain ⟨c, hc, -⟩ := h (not_le.1 hprice)
          cases hc
    | some c =>
        simp only [hfunding, Option.bind_none, Except.ok.injEq, Option.orElse_eq_none,
          rejectIf_eq_none_iff, not_lt, and_true]
        constructor
        · intro h _
          exact ⟨c, rfl, h⟩
        · intro h
          obtain ⟨c', hc', hle⟩ := h (not_le.1 hprice)
          obtain rfl := Option.some.inj hc'
          exact hle

/-- Of the other checks, those about the defaults do not reject. -/
theorem rejection_eq_none_iff {q : GridProposal} {atr : ℚ} (hlimits : limits.AdmitDefaults)
    (haround : GridAround q.parameters context.primary.close atr)
    (hnotional : q.parameters.totalNotional = 200) (hliquidity : q.liquidityUsd = none)
    (hfunding : q.fundingRateAnnualizedPct = none) (hvolatility : q.volatilityAtrPct = none) :
    limits.rejection s q = none ↔
      s.activeGrids.length < limits.maxOpenGrids ∧
      s.existingExposure + 200 ≤ limits.maxGridExposureUsd ∧
      limits.rejectCombined s.portfolioValue (s.existingExposure + 200)
        q.directionalExposureUsd = none := by
  simp only [GridOpeningLimits.rejection, Option.orElse_eq_none, rejectIf_eq_none_iff, hliquidity,
    hfunding, hvolatility, hnotional, haround.leverage, haround.gridCount, Option.bind_none,
    not_le, not_lt]
  constructor
  · rintro ⟨hopen, -, -, -, hexposure, hcombined, -⟩
    exact ⟨hopen, hexposure, hcombined⟩
  · rintro ⟨hopen, hexposure, hcombined⟩
    exact ⟨hopen, hlimits.leverage, hlimits.orders, hlimits.position, hexposure, hcombined,
      trivial, trivial, trivial, hlimits.distance⟩

/-- A proposal is approved exactly when another grid may be open, its notional value fits under
each cap together with what is open, and its levels are far enough apart for the costs. -/
theorem approved_evaluate_iff (hlimits : limits.AdmitDefaults)
    (hp : p ∈ (strategy.evaluate context fundingRate).parameters) :
    (limits.evaluateNewGrid ratioPower costs s (p.proposal price directional)).approved = true ↔
      (s.activeGrids.length < limits.maxOpenGrids ∧
        s.existingExposure + 200 ≤ limits.maxGridExposureUsd ∧
        limits.rejectCombined s.portfolioValue (s.existingExposure + 200) directional = none) ∧
      (0 < price → ∃ c ∈ costs,
        limits.requiredSpacing c ≤ p.effectiveGridSpacing ratioPower / price) := by
  obtain ⟨-, -, atr, -, haround⟩ := gridAround_of_evaluate hp
  rw [approved_iff, checkCostGuard_iff rfl,
    rejection_eq_none_iff hlimits haround (totalNotional_of_evaluate hp) rfl rfl rfl]
  rfl

theorem admitDefaults_quarter : GridOpeningLimits.quarter.AdmitDefaults :=
  ⟨by decide +kernel, by decide +kernel, by decide +kernel, by decide +kernel⟩

theorem approved_evaluate_iff_calmContext :
    ∃ p ∈ (FuturesGridStrategy.adaptive.evaluate calmContext).parameters,
      ((GridOpeningLimits.quarter.evaluateNewGrid (fun _ _ _ => 1) (some {}) ⟨[], 1000⟩
        (p.proposal 100 (some 0))).approved = true ↔
        ((GridPortfolioSnapshot.mk [] 1000).activeGrids.length <
            GridOpeningLimits.quarter.maxOpenGrids ∧
          (GridPortfolioSnapshot.mk [] 1000).existingExposure + 200 ≤
            GridOpeningLimits.quarter.maxGridExposureUsd ∧
          GridOpeningLimits.quarter.rejectCombined 1000
            ((GridPortfolioSnapshot.mk [] 1000).existingExposure + 200) (some 0) = none) ∧
        ((0 : ℚ) < 100 → ∃ c ∈ some ({} : PaperLimits),
          GridOpeningLimits.quarter.requiredSpacing c ≤
            p.effectiveGridSpacing (fun _ _ _ => 1) / 100)) := by
  obtain ⟨p, hp⟩ := Option.isSome_iff_exists.1
    (show (FuturesGridStrategy.adaptive.evaluate calmContext).parameters.isSome = true by
      decide +kernel)
  exact ⟨p, hp, approved_evaluate_iff admitDefaults_quarter hp⟩

end Approval

/-! ### What is open -/

/-- What changes the grids that count for the risk engine. -/
inductive GridBookEvent
  /-- A strategy is asked at a price, and its proposal is opened if it is approved. -/
  | asks (strategy : FuturesGridStrategy) (context : MarketContext) (fundingRate : Option ℚ)
      (price : ℚ) (directional : Option ℚ) (plan : GridPlan)
  /-- A grid is closed. -/
  | leaves (i : ℕ)
  | values (portfolioValue : ℚ)

/-- The grids of the strategies over time. -/
def gridBook (limits : GridOpeningLimits) (ratioPower : ℚ → ℕ → ℕ → ℚ)
    (costs : Option PaperLimits) : Machine GridPortfolioSnapshot GridBookEvent where
  next s
    | .asks strategy context fundingRate price directional plan =>
        match (strategy.evaluate context fundingRate).parameters with
        | none => some s
        | some p =>
            if (limits.evaluateNewGrid ratioPower costs s (p.proposal price directional)).approved
            then some (s.opened plan ratioPower p)
            else some s
    | .leaves i => some { s with openGrids := s.openGrids.eraseIdx i }
    | .values portfolioValue => some { s with portfolioValue := portfolioValue }

/-- Each active grid has the notional value of the defaults, and together they fit. -/
structure GridBookInvariant (limits : GridOpeningLimits) (s : GridPortfolioSnapshot) : Prop where
  notional : ∀ g ∈ s.activeGrids, g.parameters.totalNotional = some 200
  exposure : s.activeGrids ≠ [] → 200 * (s.activeGrids.length : ℚ) ≤ limits.maxGridExposureUsd

section Book

variable {limits : GridOpeningLimits} {ratioPower : ℚ → ℕ → ℕ → ℚ} {costs : Option PaperLimits}
  {s t : GridPortfolioSnapshot}

theorem GridBookInvariant.existingExposure (h : GridBookInvariant limits s) :
    s.existingExposure = 200 * (s.activeGrids.length : ℚ) := by
  have hsum : ∀ grids : List GridState,
      (∀ g ∈ grids, g.parameters.totalNotional = some 200) →
        (grids.map fun g => g.parameters.totalNotional.getD 0).sum = 200 * (grids.length : ℚ) := by
    intro grids hgrids
    induction grids with
    | nil => simp
    | cons g grids ih =>
        rw [List.map_cons, List.sum_cons, hgrids g List.mem_cons_self,
          ih fun g' hg' => hgrids g' (List.mem_cons_of_mem g hg'), List.length_cons]
        push_cast
        rw [Option.getD_some]
        ring
  exact hsum s.activeGrids h.notional

/-- Of fewer active grids it holds as well. -/
theorem GridBookInvariant.of_sublist (h : GridBookInvariant limits s)
    (hsub : t.activeGrids.Sublist s.activeGrids) : GridBookInvariant limits t where
  notional g hg := h.notional g (hsub.subset hg)
  exposure hne := by
    have hlength : (t.activeGrids.length : ℚ) ≤ s.activeGrids.length :=
      Nat.cast_le.2 hsub.length_le
    have hsome : s.activeGrids ≠ [] := by
      intro hnil
      rw [hnil] at hsub
      exact hne (List.sublist_nil.1 hsub)
    linarith [h.exposure hsome]

theorem GridBookInvariant.opened {context : MarketContext} {fundingRate : Option ℚ}
    {strategy : FuturesGridStrategy} {p : FuturesGridParameters} {price : ℚ}
    {directional : Option ℚ} (h : GridBookInvariant limits s)
    (hp : p ∈ (strategy.evaluate context fundingRate).parameters)
    (happroved : (limits.evaluateNewGrid ratioPower costs s
      (p.proposal price directional)).approved = true) (plan : GridPlan) :
    GridBookInvariant limits (s.opened plan ratioPower p) := by
  have hnotional := totalNotional_of_evaluate hp
  constructor
  · intro g hg
    rw [activeGrids_opened] at hg
    rcases List.mem_cons.1 hg with rfl | hg
    · exact congrArg some hnotional
    · exact h.notional g hg
  · intro _
    have hcaps := (withinGridCaps_of_approved happroved plan).1.exposure
    have hexposure : (s.opened plan ratioPower p).existingExposure = s.existingExposure + 200 := by
      rw [existingExposure_opened, hnotional]
    rw [show (p.proposal price directional).parameters = p from rfl, hexposure,
      h.existingExposure] at hcaps
    rw [activeGrids_opened, List.length_cons]
    push_cast
    linarith

theorem GridBookInvariant.step (e : GridBookEvent) (h : GridBookInvariant limits s)
    (hnext : (gridBook limits ratioPower costs).next s e = some t) :
    GridBookInvariant limits t := by
  cases e with
  | asks strategy context fundingRate price directional plan =>
      simp only [gridBook] at hnext
      split at hnext
      · obtain rfl := Option.some.inj hnext
        exact h
      next p hp =>
        split at hnext
        next happroved =>
          obtain rfl := Option.some.inj hnext
          exact h.opened hp happroved plan
        · obtain rfl := Option.some.inj hnext
          exact h
  | leaves i =>
      obtain rfl := Option.some.inj hnext
      exact h.of_sublist ((List.eraseIdx_sublist _ _).filter _)
  | values portfolioValue =>
      obtain rfl := Option.some.inj hnext
      exact ⟨h.notional, h.exposure⟩

/-- With less room than for three grids of the defaults, there are never more than two at a time,
however many may be open. -/
theorem length_activeGrids_le_two {value : ℚ} {events : List GridBookEvent}
    (hroom : limits.maxGridExposureUsd < 600)
    (hrun : (gridBook limits ratioPower costs).run ⟨[], value⟩ events = some t) :
    t.activeGrids.length ≤ 2 := by
  have hstart : GridBookInvariant limits ⟨[], value⟩ := by
    constructor
    · intro g hg
      cases hg
    · intro hne
      exact absurd rfl hne
  have hinv : GridBookInvariant limits t :=
    Machine.run_invariant _ (GridBookInvariant limits) (fun _ e _ h hnext => h.step e hnext)
      hstart hrun
  by_contra hmore
  have hthree : 3 ≤ t.activeGrids.length := by omega
  have hne : t.activeGrids ≠ [] := by
    rintro hnil
    rw [hnil] at hthree
    exact absurd hthree (by decide)
  have hcast : (3 : ℚ) ≤ t.activeGrids.length := by exact_mod_cast hthree
  linarith [hinv.exposure hne]

end Book

/-- Three candles on which a grid is proposed. -/
def calmBookEvents : List GridBookEvent :=
  [.asks .adaptive calmContext none 100 (some 0) .btc,
    .asks .long calmContext none 100 (some 0) .btc,
    .asks .short calmContext none 100 (some 0) .btc]

theorem length_activeGrids_le_two_calmBookEvents :
    ∃ t, (gridBook .quarter (fun _ _ _ => 1) (some {})).run ⟨[], 10000⟩ calmBookEvents = some t ∧
      t.activeGrids.length = 2 ∧ t.activeGrids.length ≤ 2 := by
  obtain ⟨t, hrun, htwo⟩ := (Option.any_eq_true _ _).1
    (show ((gridBook .quarter (fun _ _ _ => 1) (some {})).run ⟨[], 10000⟩ calmBookEvents).any
      (fun t => decide (t.activeGrids.length = 2)) = true by decide +kernel)
  exact ⟨t, hrun, of_decide_eq_true htwo, length_activeGrids_le_two (by decide +kernel) hrun⟩

end Sgr
