import Sgr.Concurrency.Machine
import Sgr.Risk.LiveGates

/-!
# Runs of a verification gate

Orders come to a `LiveVerificationGate` next to booked losses and a manual deactivation. The
engine calls `check_order_allowed` and, for an allowed order, `record_order_submitted` without
a suspension in between, so both are one event of a run. The counters of the gate say what it
has allowed so far, and a gate that has stopped allows nothing more.
-/

open Concurrency

namespace Sgr

/-- What the gate is told of an order. -/
structure GateOrder where
  reduceOnly : Bool := false
  notional : ℚ
  leverage : ℚ := 1
  gridId : Option UUID := none
  deriving DecidableEq, Repr

namespace LiveVerificationState

/-- `LiveVerificationGate(profile)`. -/
def start (p : LiveVerificationProfile) (now : Timestamp) : LiveVerificationState where
  profile := p
  dailyLossResetAt := now

/-- `check_order_allowed` for an order. -/
def check (g : LiveVerificationState) (o : GateOrder) (now : Timestamp) :
    Option String × LiveVerificationState :=
  g.checkOrderAllowed o.notional o.leverage o.gridId now

/-- The gate is deactivated, or the total loss is at its limit. -/
def Stopped (g : LiveVerificationState) : Prop :=
  g.deactivationReason ≠ none ∨ g.profile.maxLossUsd ≤ g.cumulativeRealizedLossUsd

/-- What `check_order_allowed` answers and makes of the gate. -/
inductive CheckStep (g : LiveVerificationState) (o : GateOrder) (now : Timestamp) :
    Option String → LiveVerificationState → Prop
  | deactivated (reason : String) (h : g.deactivationReason ≠ none) :
      CheckStep g o now (some reason) g
  /-- The time window is over or the total loss is at its limit. -/
  | stops (reason text : String) (hactive : g.deactivationReason = none)
      (h : g.profile.expiresAt ≤ now ∨ g.profile.maxLossUsd ≤ g.cumulativeRealizedLossUsd) :
      CheckStep g o now (some reason) (g.deactivate text)
  | dailyLoss (reason text : String) (hactive : g.deactivationReason = none)
      (hwindow : now < g.profile.expiresAt)
      (hloss : g.cumulativeRealizedLossUsd < g.profile.maxLossUsd)
      (h : g.profile.maxDailyLossUsd ≤ (g.maybeResetDailyLoss now).dailyRealizedLossUsd) :
      CheckStep g o now (some reason) ((g.maybeResetDailyLoss now).deactivate text)
  | refused (reason : String) (hactive : g.deactivationReason = none)
      (hwindow : now < g.profile.expiresAt)
      (hloss : g.cumulativeRealizedLossUsd < g.profile.maxLossUsd)
      (hdaily : (g.maybeResetDailyLoss now).dailyRealizedLossUsd < g.profile.maxDailyLossUsd) :
      CheckStep g o now (some reason) (g.maybeResetDailyLoss now)
  | allowed (h : WithinLimits g o.notional o.leverage o.gridId now) :
      CheckStep g o now none (g.maybeResetDailyLoss now)

theorem maybeResetDailyLoss_profile (g : LiveVerificationState) (now : Timestamp) :
    (g.maybeResetDailyLoss now).profile = g.profile := by
  obtain ⟨loss, resetAt, hreset⟩ := g.maybeResetDailyLoss_eq now
  rw [hreset]

theorem checkStep_check (g : LiveVerificationState) (o : GateOrder) (now : Timestamp) :
    CheckStep g o now (g.check o now).1 (g.check o now).2 := by
  have hallowed : (g.checkOrderAllowed o.notional o.leverage o.gridId now).1 = none ↔
      WithinLimits g o.notional o.leverage o.gridId now := checkOrderAllowed_eq_none_iff
  unfold check
  unfold checkOrderAllowed at hallowed ⊢
  split at hallowed
  next reason hreason => exact .deactivated _ (by rw [hreason]; simp)
  next hactive =>
    dsimp only at hallowed ⊢
    split_ifs at hallowed ⊢ with hwindow hloss hdaily
    · exact .stops _ _ hactive (.inl hwindow)
    · exact .stops _ _ hactive (.inr hloss)
    · rw [maybeResetDailyLoss_profile] at hdaily
      exact .dailyLoss _ _ hactive (not_le.1 hwindow) (not_le.1 hloss) hdaily
    · rw [maybeResetDailyLoss_profile] at hdaily
      revert hallowed
      cases (g.maybeResetDailyLoss now).orderRefusal o.notional o.leverage o.gridId with
      | some reason =>
          intro _
          exact .refused reason hactive (not_le.1 hwindow) (not_le.1 hloss) (not_le.1 hdaily)
      | none => exact fun hallowed => .allowed (hallowed.1 rfl)

theorem CheckStep.of_none {g g' : LiveVerificationState} {o : GateOrder} {now : Timestamp}
    (h : CheckStep g o now none g') :
    WithinLimits g o.notional o.leverage o.gridId now ∧ g' = g.maybeResetDailyLoss now := by
  generalize hverdict : (none : Option String) = verdict at h
  cases h with
  | allowed h => exact ⟨h, rfl⟩
  | _ => cases hverdict

/-- The check of an order within the limits. -/
theorem check_of_withinLimits {g : LiveVerificationState} {o : GateOrder} {now : Timestamp}
    (h : WithinLimits g o.notional o.leverage o.gridId now) :
    g.check o now = (none, g.maybeResetDailyLoss now) := by
  have hcheck := g.checkStep_check o now
  have hnone : (g.check o now).1 = none := checkOrderAllowed_eq_none_iff.2 h
  rw [hnone] at hcheck
  exact Prod.ext hnone hcheck.of_none.2

/-- A check changes the loss of the day and may deactivate the gate. -/
structure Checked (g g' : LiveVerificationState) : Prop where
  profile : g'.profile = g.profile
  loss : g'.cumulativeRealizedLossUsd = g.cumulativeRealizedLossUsd
  orders : g'.ordersSubmitted = g.ordersSubmitted
  grids : g'.activeGridIds = g.activeGridIds
  deactivated : g.deactivationReason ≠ none → g'.deactivationReason ≠ none

theorem checked_maybeResetDailyLoss (g : LiveVerificationState) (now : Timestamp) :
    Checked g (g.maybeResetDailyLoss now) := by
  obtain ⟨loss, resetAt, hreset⟩ := g.maybeResetDailyLoss_eq now
  rw [hreset]
  exact ⟨rfl, rfl, rfl, rfl, id⟩

theorem Checked.deactivate {g g' : LiveVerificationState} (h : Checked g g') (text : String) :
    Checked g (g'.deactivate text) := by
  refine ⟨h.profile, h.loss, h.orders, h.grids, fun _ => ?_⟩
  unfold LiveVerificationState.deactivate
  cases g'.deactivationReason <;> simp

theorem CheckStep.checked {g g' : LiveVerificationState} {o : GateOrder} {now : Timestamp}
    {verdict : Option String} (h : CheckStep g o now verdict g') : Checked g g' := by
  have hrefl : Checked g g := ⟨rfl, rfl, rfl, rfl, id⟩
  cases h with
  | deactivated => exact hrefl
  | stops reason text => exact hrefl.deactivate text
  | dailyLoss reason text => exact (checked_maybeResetDailyLoss g now).deactivate text
  | refused => exact checked_maybeResetDailyLoss g now
  | allowed => exact checked_maybeResetDailyLoss g now

theorem Checked.stopped {g g' : LiveVerificationState} (h : Checked g g') (hg : g.Stopped) :
    g'.Stopped := by
  rcases hg with hreason | hloss
  · exact .inl (h.deactivated hreason)
  · exact .inr (by rwa [h.profile, h.loss])

end LiveVerificationState

theorem WithinLimits.not_stopped {g : LiveVerificationState} {notional leverage : ℚ}
    {gridId : Option UUID} {now : Timestamp} (h : WithinLimits g notional leverage gridId now) :
    ¬ g.Stopped := by
  rintro (hreason | hloss)
  · exact hreason h.active
  · exact absurd h.loss (not_lt.2 hloss)

/-- What happens to a gate. -/
inductive GateEvent
  /-- An order comes to the gate. -/
  | order (o : GateOrder) (now : Timestamp)
  /-- `record_realized_loss`. -/
  | loss (loss : ℚ)
  /-- `deactivate`, by hand. -/
  | deactivate (reason : String)

/-- A gate with the orders that it has allowed, newest first. -/
structure GateRun where
  gate : LiveVerificationState
  allowed : List GateOrder

namespace GateRun

/-- A new gate. -/
def start (p : LiveVerificationProfile) (now : Timestamp) : GateRun := ⟨.start p now, []⟩

/-- What an event does to the gate. -/
def step (c : GateRun) : GateEvent → GateRun
  | .order o now =>
      match c.gate.check o now with
      | (some _, g) => ⟨g, c.allowed⟩
      | (none, g) => ⟨g.recordOrderSubmitted o.gridId, o :: c.allowed⟩
  | .loss x => ⟨c.gate.recordRealizedLoss x, c.allowed⟩
  | .deactivate reason => ⟨c.gate.deactivate reason, c.allowed⟩

variable {c : GateRun} {o : GateOrder} {now : Timestamp} {g : LiveVerificationState}

theorem step_order_of_some {reason : String} (h : c.gate.check o now = (some reason, g)) :
    c.step (.order o now) = ⟨g, c.allowed⟩ := by
  simp only [step, h]

theorem step_order_of_none (h : c.gate.check o now = (none, g)) :
    c.step (.order o now) = ⟨g.recordOrderSubmitted o.gridId, o :: c.allowed⟩ := by
  simp only [step, h]

end GateRun

/-- The gate with its events. -/
def gateMachine : Machine GateRun GateEvent where
  next c e := some (c.step e)

/-- The ways in which an event changes a run. -/
inductive GateRunStep (c : GateRun) : GateEvent → GateRun → Prop
  | allowed {o : GateOrder} {now : Timestamp}
      (h : WithinLimits c.gate o.notional o.leverage o.gridId now) :
      GateRunStep c (.order o now)
        ⟨(c.gate.maybeResetDailyLoss now).recordOrderSubmitted o.gridId, o :: c.allowed⟩
  | refused {o : GateOrder} {now : Timestamp} {g : LiveVerificationState}
      (h : LiveVerificationState.Checked c.gate g) : GateRunStep c (.order o now) ⟨g, c.allowed⟩
  | loss {x : ℚ} : GateRunStep c (.loss x) ⟨c.gate.recordRealizedLoss x, c.allowed⟩
  | deactivate {reason : String} :
      GateRunStep c (.deactivate reason) ⟨c.gate.deactivate reason, c.allowed⟩

theorem gateRunStep_step (c : GateRun) (e : GateEvent) : GateRunStep c e (c.step e) := by
  cases e with
  | order o now =>
      have hcheck := c.gate.checkStep_check o now
      generalize hr : c.gate.check o now = r at hcheck
      obtain ⟨verdict, g⟩ := r
      cases verdict with
      | some reason =>
          rw [GateRun.step_order_of_some hr]
          exact .refused hcheck.checked
      | none =>
          obtain ⟨hlimits, rfl⟩ := hcheck.of_none
          rw [GateRun.step_order_of_none hr]
          exact .allowed hlimits
  | loss x => exact .loss
  | deactivate reason => exact .deactivate

theorem gateRunStep_of_next {c d : GateRun} {e : GateEvent} (h : gateMachine.next c e = some d) :
    GateRunStep c e d := by
  obtain rfl := Option.some.inj h
  exact gateRunStep_step c e

theorem LiveVerificationState.recordRealizedLoss_eq (g : LiveVerificationState) (x : ℚ) :
    ∃ total daily, g.cumulativeRealizedLossUsd ≤ total ∧ g.recordRealizedLoss x =
      { g with cumulativeRealizedLossUsd := total, dailyRealizedLossUsd := daily } := by
  unfold recordRealizedLoss
  split
  next => exact ⟨_, _, le_refl _, rfl⟩
  next h => exact ⟨_, _, le_add_of_nonneg_right (not_le.1 h).le, rfl⟩

/-- A gate that has stopped stays so and allows no order. -/
theorem GateRunStep.stopped {c d : GateRun} {e : GateEvent} (h : GateRunStep c e d)
    (hc : c.gate.Stopped) : d.gate.Stopped ∧ d.allowed = c.allowed := by
  cases h with
  | allowed h => exact absurd hc h.not_stopped
  | refused h => exact ⟨h.stopped hc, rfl⟩
  | @loss x =>
      obtain ⟨total, daily, htotal, heq⟩ := c.gate.recordRealizedLoss_eq x
      rw [heq]
      exact ⟨hc.imp_right fun hloss => hloss.trans htotal, rfl⟩
  | @deactivate reason =>
      have hrefl : LiveVerificationState.Checked c.gate c.gate := ⟨rfl, rfl, rfl, rfl, id⟩
      exact ⟨(hrefl.deactivate reason).stopped hc, rfl⟩

/-- The distinct grids of a list of orders. -/
def gridsOf (orders : List GateOrder) : Finset UUID := (orders.filterMap GateOrder.gridId).toFinset

theorem gridsOf_cons (o : GateOrder) (orders : List GateOrder) :
    gridsOf (o :: orders) =
      match o.gridId with
      | some k => insert k (gridsOf orders)
      | none => gridsOf orders := by
  unfold gridsOf
  cases hgrid : o.gridId with
  | none => rw [List.filterMap_cons_none hgrid]
  | some k => rw [List.filterMap_cons_some hgrid, List.toFinset_cons]

/-- The counters of the gate are those of the orders it has allowed, and within the limits. -/
structure Counted (p : LiveVerificationProfile) (c : GateRun) : Prop where
  profile : c.gate.profile = p
  orders : c.gate.ordersSubmitted = c.allowed.length
  grids : c.gate.activeGridIds = gridsOf c.allowed
  orders_le : c.allowed.length ≤ p.maxOrders
  grids_le : (gridsOf c.allowed).card ≤ p.maxConcurrentGrids

theorem counted_start (p : LiveVerificationProfile) (now : Timestamp) :
    Counted p (.start p now) :=
  ⟨rfl, rfl, rfl, Nat.zero_le _, Nat.zero_le _⟩

namespace Counted

variable {p : LiveVerificationProfile} {c d : GateRun} {e : GateEvent}

/-- An allowed order is within the limits of the grids. -/
theorem grids_le_cons (h : Counted p c) {o : GateOrder} {now : Timestamp}
    (hlimits : WithinLimits c.gate o.notional o.leverage o.gridId now) :
    (gridsOf (o :: c.allowed)).card ≤ p.maxConcurrentGrids := by
  rw [gridsOf_cons]
  cases hgrid : o.gridId with
  | none => exact h.grids_le
  | some k =>
      have hroom := hlimits.grids k hgrid
      rw [h.grids, h.profile] at hroom
      dsimp only
      rcases hroom with hmem | hlt
      · rw [Finset.insert_eq_of_mem hmem]
        exact h.grids_le
      · exact (Finset.card_insert_le _ _).trans hlt

theorem step (h : Counted p c) (hstep : GateRunStep c e d) : Counted p d := by
  cases hstep with
  | @allowed o now hlimits =>
      have hreset := LiveVerificationState.checked_maybeResetDailyLoss c.gate now
      have horders := hlimits.orders
      rw [h.orders, h.profile] at horders
      refine ⟨hreset.profile.trans h.profile, ?_, ?_, horders, h.grids_le_cons hlimits⟩
      · change (c.gate.maybeResetDailyLoss now).ordersSubmitted + 1 = _
        rw [hreset.orders, h.orders, List.length_cons]
      · rw [gridsOf_cons]
        unfold LiveVerificationState.recordOrderSubmitted
        cases o.gridId with
        | none => exact hreset.grids.trans h.grids
        | some k =>
            dsimp only
            rw [hreset.grids, h.grids]
  | refused hchecked =>
      exact ⟨hchecked.profile.trans h.profile, hchecked.orders.trans h.orders,
        hchecked.grids.trans h.grids, h.orders_le, h.grids_le⟩
  | @loss x =>
      obtain ⟨total, daily, -, heq⟩ := c.gate.recordRealizedLoss_eq x
      rw [heq]
      exact ⟨h.profile, h.orders, h.grids, h.orders_le, h.grids_le⟩
  | deactivate => exact ⟨h.profile, h.orders, h.grids, h.orders_le, h.grids_le⟩

end Counted

/-- Whatever happens to a gate, it allows no more orders and no more grids than its profile. -/
theorem counted_of_run {p : LiveVerificationProfile} {now : Timestamp} {es : List GateEvent}
    {c : GateRun} (hrun : gateMachine.run (.start p now) es = some c) : Counted p c :=
  gateMachine.run_invariant (Counted p) (fun _ _ _ h hnext => h.step (gateRunStep_of_next hnext))
    (counted_start p now) hrun

end Sgr
