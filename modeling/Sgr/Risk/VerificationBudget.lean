import Mathlib.Algebra.Order.BigOperators.Group.List
import Sgr.Risk.VerificationRuns

/-!
# The budget of a verification run

`check_order_allowed` compares the notional of each order with `max_position_size_usd` and
`max_total_budget_usd`; no limit is read of what the orders come to together, and
`max_exposure_usd` is read nowhere. What bounds a run is the number of its orders. So the budget
and the exposure of a profile are kept in every run exactly if `max_orders` orders of the largest
size fit into them.
-/

open Concurrency

namespace Sgr

/-- A gate with the notionals of the positions that allowed orders have opened and that have not
been closed. -/
structure BudgetRun where
  run : GateRun
  exposed : List ℚ

/-- What happens to a gate and to the positions of its orders. -/
inductive BudgetEvent
  | gate (e : GateEvent)
  /-- The `k`-th open position is closed. -/
  | closes (k : ℕ)

namespace BudgetRun

/-- A new gate. -/
def start (p : LiveVerificationProfile) (now : Timestamp) : BudgetRun := ⟨.start p now, []⟩

/-- The positions after an event of the gate: an allowed opening order opens one. -/
def opened (c : BudgetRun) : GateEvent → List ℚ
  | .order o now =>
      if (c.run.gate.check o now).1 = none ∧ o.reduceOnly = false then o.notional :: c.exposed
      else c.exposed
  | _ => c.exposed

/-- What an event does. -/
def step (c : BudgetRun) : BudgetEvent → BudgetRun
  | .gate e => ⟨c.run.step e, c.opened e⟩
  | .closes k => ⟨c.run, c.exposed.eraseIdx k⟩

/-- The summed notional of the opening orders that the gate has allowed. -/
def spent (c : BudgetRun) : ℚ :=
  ((c.run.allowed.filter fun o => !o.reduceOnly).map GateOrder.notional).sum

/-- The notional that is open. -/
def exposure (c : BudgetRun) : ℚ := c.exposed.sum

end BudgetRun

/-- The gate with its events and the positions of its orders. -/
def budgetMachine : Machine BudgetRun BudgetEvent where
  next c e := some (c.step e)

/-- The budget and the exposure of the profile bound the run. -/
def BudgetKept (p : LiveVerificationProfile) (c : BudgetRun) : Prop :=
  c.spent ≤ p.maxTotalBudgetUsd ∧ c.exposure ≤ p.maxExposureUsd

/-- The largest notional that the gate allows. -/
def LiveVerificationProfile.largestOrder (p : LiveVerificationProfile) : ℚ :=
  min p.maxPositionSizeUsd p.maxTotalBudgetUsd

theorem LiveVerificationProfile.largestOrder_pos (p : LiveVerificationProfile) :
    0 < p.largestOrder := lt_min p.maxPositionSizeUsd_pos p.maxTotalBudgetUsd_pos

/-- As many orders as the profile allows, each of the largest size, fit into its budget and its
exposure. -/
def LiveVerificationProfile.Covers (p : LiveVerificationProfile) : Prop :=
  p.maxOrders * p.largestOrder ≤ p.maxTotalBudgetUsd ∧
    p.maxOrders * p.largestOrder ≤ p.maxExposureUsd

/-! ### What bounds a run -/

/-- Every order is at most the largest, and no more positions are open than orders allowed. -/
structure Sized (p : LiveVerificationProfile) (c : BudgetRun) : Prop where
  counted : Counted p c.run
  orders : ∀ o ∈ c.run.allowed, o.notional ≤ p.largestOrder
  exposed : ∀ x ∈ c.exposed, x ≤ p.largestOrder
  exposed_le : c.exposed.length ≤ c.run.allowed.length

section Bounds

variable {p : LiveVerificationProfile} {c d : BudgetRun} {e : BudgetEvent}

theorem sized_start (p : LiveVerificationProfile) (now : Timestamp) : Sized p (.start p now) :=
  ⟨counted_start p now, nofun, nofun, Nat.zero_le _⟩

theorem WithinLimits.le_largestOrder {g : LiveVerificationState} {notional leverage : ℚ}
    {gridId : Option UUID} {now : Timestamp} (h : WithinLimits g notional leverage gridId now) :
    notional ≤ g.profile.largestOrder := le_min h.positionSize h.budget

/-- An order at the gate opens a position only together with an allowed order. -/
theorem Sized.order (h : Sized p c) (o : GateOrder) (now : Timestamp) :
    Sized p (c.step (.gate (.order o now))) := by
  have hcounted := h.counted.step (gateRunStep_step c.run (.order o now))
  have hcheck := c.run.gate.checkStep_check o now
  generalize hr : c.run.gate.check o now = r at hcheck
  obtain ⟨verdict, g⟩ := r
  cases verdict with
  | some reason =>
      have hstep : c.step (.gate (.order o now)) = ⟨⟨g, c.run.allowed⟩, c.exposed⟩ := by
        simp [BudgetRun.step, BudgetRun.opened, GateRun.step_order_of_some hr, hr]
      rw [GateRun.step_order_of_some hr] at hcounted
      rw [hstep]
      exact ⟨hcounted, h.orders, h.exposed, h.exposed_le⟩
  | none =>
      have hle : o.notional ≤ p.largestOrder :=
        h.counted.profile ▸ hcheck.of_none.1.le_largestOrder
      have hstep : c.step (.gate (.order o now)) =
          ⟨⟨g.recordOrderSubmitted o.gridId, o :: c.run.allowed⟩,
            if o.reduceOnly = false then o.notional :: c.exposed else c.exposed⟩ := by
        simp [BudgetRun.step, BudgetRun.opened, GateRun.step_order_of_none hr, hr]
      rw [GateRun.step_order_of_none hr] at hcounted
      rw [hstep]
      refine ⟨hcounted, List.forall_mem_cons.2 ⟨hle, h.orders⟩, ?_, ?_⟩
      · dsimp only
        split
        · exact List.forall_mem_cons.2 ⟨hle, h.exposed⟩
        · exact h.exposed
      · dsimp only
        split
        · exact Nat.succ_le_succ h.exposed_le
        · exact h.exposed_le.trans (Nat.le_succ _)

theorem Sized.step (h : Sized p c) (e : BudgetEvent) : Sized p (c.step e) := by
  cases e with
  | closes k =>
      exact ⟨h.counted, h.orders, fun x hx => h.exposed x (List.mem_of_mem_eraseIdx hx),
        (List.length_eraseIdx_le _ _).trans h.exposed_le⟩
  | gate e =>
      have hcounted := h.counted.step (gateRunStep_step c.run e)
      cases e with
      | order o now => exact h.order o now
      | loss x => exact ⟨hcounted, h.orders, h.exposed, h.exposed_le⟩
      | deactivate reason => exact ⟨hcounted, h.orders, h.exposed, h.exposed_le⟩

/-- So many orders of at most the largest size. -/
theorem sum_le_of_length_le {l : List ℚ} (h : ∀ x ∈ l, x ≤ p.largestOrder)
    (hlength : l.length ≤ p.maxOrders) : l.sum ≤ p.maxOrders * p.largestOrder :=
  calc l.sum ≤ l.length • p.largestOrder := List.sum_le_card_nsmul l _ h
    _ = l.length * p.largestOrder := nsmul_eq_mul _ _
    _ ≤ p.maxOrders * p.largestOrder :=
      mul_le_mul_of_nonneg_right (by exact_mod_cast hlength) p.largestOrder_pos.le

theorem Sized.spent_le (h : Sized p c) : c.spent ≤ p.maxOrders * p.largestOrder := by
  refine sum_le_of_length_le ?_ ?_
  · intro x hx
    obtain ⟨o, ho, rfl⟩ := List.mem_map.1 hx
    exact h.orders o (List.mem_of_mem_filter ho)
  · rw [List.length_map]
    exact (List.length_filter_le _ _).trans h.counted.orders_le

theorem Sized.exposure_le (h : Sized p c) : c.exposure ≤ p.maxOrders * p.largestOrder :=
  sum_le_of_length_le h.exposed (h.exposed_le.trans h.counted.orders_le)

end Bounds

/-! ### A run that spends as much as it may -/

/-- An opening order of the largest size. -/
def LiveVerificationProfile.fullOrder (p : LiveVerificationProfile) : GateOrder where
  notional := p.largestOrder

/-- The gate at its start after `k` orders of the largest size. -/
def spentRun (p : LiveVerificationProfile) (k : ℕ) : BudgetRun where
  run :=
    { gate := { LiveVerificationState.start p p.startedAt with ordersSubmitted := k }
      allowed := List.replicate k p.fullOrder }
  exposed := List.replicate k p.largestOrder

section Spending

variable (p : LiveVerificationProfile)

theorem maybeResetDailyLoss_spentRun (k : ℕ) :
    (spentRun p k).run.gate.maybeResetDailyLoss p.startedAt = (spentRun p k).run.gate := by
  unfold LiveVerificationState.maybeResetDailyLoss
  have hsame : (spentRun p k).run.gate.dailyLossResetAt = p.startedAt := rfl
  rw [if_neg (by rw [hsame, sub_self]; decide)]

theorem withinLimits_spentRun {k : ℕ} (hk : k < p.maxOrders) :
    WithinLimits (spentRun p k).run.gate p.largestOrder 1 none p.startedAt where
  active := rfl
  window := by
    have hpos : 0 < 60 * (p.maxDurationMinutes : ℤ) := by
      have := p.maxDurationMinutes_pos
      omega
    exact Int.lt_add_of_pos_right _ hpos
  loss := p.maxLossUsd_pos
  dailyLoss := by
    rw [maybeResetDailyLoss_spentRun]
    exact p.maxDailyLossUsd_pos
  orders := hk
  grids := nofun
  leverage := p.one_le_maxLeverage
  positionSize := min_le_left _ _
  budget := min_le_right _ _

theorem step_spentRun {k : ℕ} (hk : k < p.maxOrders) :
    (spentRun p k).step (.gate (.order p.fullOrder p.startedAt)) = spentRun p (k + 1) := by
  have hcheck : (spentRun p k).run.gate.check p.fullOrder p.startedAt =
      (none, (spentRun p k).run.gate) := by
    rw [LiveVerificationState.check_of_withinLimits (withinLimits_spentRun p hk),
      maybeResetDailyLoss_spentRun]
  rw [BudgetRun.step, BudgetRun.opened, GateRun.step_order_of_none hcheck, hcheck]
  rfl

/-- The orders of a profile may all be of the largest size. -/
theorem run_replicate_fullOrder (k n : ℕ) (h : k + n ≤ p.maxOrders) :
    budgetMachine.run (spentRun p k)
      (List.replicate n (.gate (.order p.fullOrder p.startedAt))) = some (spentRun p (k + n)) := by
  induction n generalizing k with
  | zero => rfl
  | succ n ih =>
      rw [List.replicate_succ, Machine.run_cons]
      change budgetMachine.run ((spentRun p k).step _) _ = _
      rw [step_spentRun p (by omega), ih (k + 1) (by omega), Nat.add_right_comm, Nat.add_assoc]

theorem spent_spentRun (k : ℕ) : (spentRun p k).spent = k * p.largestOrder := by
  have hopening : (List.replicate k p.fullOrder).filter (fun o => !o.reduceOnly) =
      List.replicate k p.fullOrder := List.filter_replicate_of_pos rfl
  change (((List.replicate k p.fullOrder).filter fun o => !o.reduceOnly).map _).sum = _
  rw [hopening, List.map_replicate, List.sum_replicate, nsmul_eq_mul]
  rfl

theorem exposure_spentRun (k : ℕ) : (spentRun p k).exposure = k * p.largestOrder := by
  rw [BudgetRun.exposure, spentRun, List.sum_replicate, nsmul_eq_mul]

end Spending

/-- The budget and the exposure of a profile are kept in every run exactly if its orders, each of
the largest size, fit into them. -/
theorem budgetKept_iff_covers (p : LiveVerificationProfile) :
    (∀ (now : Timestamp) (es : List BudgetEvent) (c : BudgetRun),
        budgetMachine.run (.start p now) es = some c → BudgetKept p c) ↔ p.Covers := by
  constructor
  · intro h
    have hrun := run_replicate_fullOrder p 0 p.maxOrders (by omega)
    rw [Nat.zero_add] at hrun
    have hkept := h p.startedAt _ _ hrun
    rwa [BudgetKept, spent_spentRun, exposure_spentRun] at hkept
  · intro hcovers now es c hrun
    have hsized : Sized p c := budgetMachine.run_invariant (Sized p)
      (fun c e d h hnext => Option.some.inj hnext ▸ h.step e) (sized_start p now) hrun
    exact ⟨hsized.spent_le.trans hcovers.1, hsized.exposure_le.trans hcovers.2⟩

/-- A profile with a budget of 100, orders of up to 50 and three orders. -/
def threeOrderProfile : LiveVerificationProfile :=
  { verificationGate.profile with
    maxOrders := 3
    maxPositionSizeUsd := 50
    maxOrders_pos := by decide
    maxPositionSizeUsd_pos := by decide }

/-- Three opening orders of 50 are allowed on a budget of 100. -/
theorem not_forall_budgetKept :
    ¬ ∀ (p : LiveVerificationProfile) (now : Timestamp) (es : List BudgetEvent) (c : BudgetRun),
      budgetMachine.run (.start p now) es = some c → BudgetKept p c := by
  intro h
  have hkept := h threeOrderProfile 0
    (List.replicate 3 (.gate (.order { notional := 50 } 0))) _ rfl
  exact absurd hkept.1 (by decide +kernel)

end Sgr
