import Mathlib.Algebra.Order.BigOperators.Group.List
import Sgr.Risk.VerificationRuns

/-!
# The daily loss of a verification run

`record_realized_loss` adds to the counter of the day; only `check_order_allowed` resets it, when
24 hours have passed since the last reset. A window of the gate ends 24 hours after the check that
opened it, and what is recorded from there on belongs to the next window. The reset comes later,
with the next check, and wipes what has been recorded in between.
-/

open Concurrency

namespace Sgr

/-- The calls of a gate. -/
inductive LossEvent
  /-- `check_order_allowed`. -/
  | check (o : GateOrder)
  /-- `record_order_submitted`. -/
  | submitted (gridId : Option UUID)
  /-- `record_realized_loss`. -/
  | loss (x : ℚ)
  /-- `deactivate`, by hand. -/
  | deactivate (reason : String)

/-- A gate with the losses it has been told of, newest first. -/
structure LossRun where
  gate : LiveVerificationState
  /-- The time of the last call. -/
  clock : Timestamp
  /-- When the current window of the gate begins. -/
  windowStart : Timestamp
  recorded : List (Timestamp × ℚ)
  /-- The losses of the window whenever an order was allowed. -/
  allowedAt : List ℚ

/-- The length of a window. -/
def lossWindow : Timestamp := 24 * 60 * 60

/-- The losses that are recorded from a time on. -/
def lossesSince (recorded : List (Timestamp × ℚ)) (start : Timestamp) : ℚ :=
  ((recorded.filter fun l => start ≤ l.1).map Prod.snd).sum

namespace LossRun

/-- A new gate. -/
def start (p : LiveVerificationProfile) (now : Timestamp) : LossRun :=
  ⟨.start p now, now, now, [], []⟩

/-- The losses of the current window. -/
def windowLosses (c : LossRun) : ℚ := lossesSince c.recorded c.windowStart

/-- The run after a check has made `g` of the gate: a new window begins where the last one has
ended. -/
def checked (c : LossRun) (now : Timestamp) (g : LiveVerificationState) : LossRun :=
  { c with
    gate := g
    clock := now
    windowStart :=
      if g.dailyLossResetAt = c.gate.dailyLossResetAt then c.windowStart
      else c.gate.dailyLossResetAt + lossWindow }

/-- What a call does. -/
def step (c : LossRun) (now : Timestamp) : LossEvent → LossRun
  | .check o =>
      match c.gate.check o now with
      | (some _, g) => c.checked now g
      | (none, g) =>
          let d := c.checked now g
          { d with allowedAt := d.windowLosses :: d.allowedAt }
  | .submitted gridId => { c with gate := c.gate.recordOrderSubmitted gridId, clock := now }
  | .loss x =>
      { c with
        gate := c.gate.recordRealizedLoss x
        clock := now
        recorded := if 0 < x then (now, x) :: c.recorded else c.recorded }
  | .deactivate reason => { c with gate := c.gate.deactivate reason, clock := now }

end LossRun

/-- The gate with its calls, at times that do not decrease. -/
def lossMachine : Machine LossRun (Timestamp × LossEvent) where
  next c a := if a.1 < c.clock then none else some (c.step a.1 a.2)

/-- The counter of the gate is the loss of its window, and orders were allowed only below the
limit. -/
def LossesCounted (p : LiveVerificationProfile) (c : LossRun) : Prop :=
  c.gate.dailyRealizedLossUsd = c.windowLosses ∧ ∀ x ∈ c.allowedAt, x < p.maxDailyLossUsd

/-- No check that comes to the reset finds the window over and a loss recorded after its end. -/
def ResetsInTime (c : LossRun) : Timestamp × LossEvent → Prop
  | (now, .check _) =>
      c.gate.deactivationReason = none → now < c.gate.profile.expiresAt →
        c.gate.cumulativeRealizedLossUsd < c.gate.profile.maxLossUsd →
        c.gate.dailyLossResetAt + lossWindow ≤ now →
          ∀ l ∈ c.recorded, l.1 < c.gate.dailyLossResetAt + lossWindow
  | _ => True

/-! ### The losses of a window -/

theorem lossesSince_cons_of_le {recorded : List (Timestamp × ℚ)} {start now : Timestamp} {x : ℚ}
    (h : start ≤ now) : lossesSince ((now, x) :: recorded) start =
      lossesSince recorded start + x := by
  rw [lossesSince, List.filter_cons_of_pos (by simpa using h), List.map_cons, List.sum_cons,
    add_comm]
  rfl

/-- Recorded losses add up to nothing only where none is recorded. -/
theorem lossesSince_eq_zero_iff {recorded : List (Timestamp × ℚ)} {start : Timestamp}
    (hpos : ∀ l ∈ recorded, 0 < l.2) :
    lossesSince recorded start = 0 ↔ ∀ l ∈ recorded, l.1 < start := by
  induction recorded with
  | nil => simp [lossesSince]
  | cons l recorded ih =>
      obtain ⟨hl, hpos⟩ := List.forall_mem_cons.1 hpos
      rw [List.forall_mem_cons, ← ih hpos]
      by_cases hstart : start ≤ l.1
      · have hsum : 0 ≤ lossesSince recorded start := by
          refine List.sum_nonneg fun x hx => ?_
          obtain ⟨k, hk, rfl⟩ := List.mem_map.1 hx
          exact (hpos k (List.mem_of_mem_filter hk)).le
        rw [show (l :: recorded) = (l.1, l.2) :: recorded from rfl, lossesSince_cons_of_le hstart]
        constructor
        · intro hzero
          exact absurd hzero (add_pos_of_nonneg_of_pos hsum hl).ne'
        · rintro ⟨hlt, -⟩
          exact absurd hstart (not_le.2 hlt)
      · have hskip : lossesSince (l :: recorded) start = lossesSince recorded start := by
          rw [lossesSince, List.filter_cons_of_neg (by simpa using hstart)]
          rfl
        rw [hskip]
        exact ⟨fun h => ⟨not_le.1 hstart, h⟩, And.right⟩

/-! ### One call -/

theorem LiveVerificationState.maybeResetDailyLoss_cases (g : LiveVerificationState)
    (now : Timestamp) :
    (now < g.dailyLossResetAt + lossWindow ∧ g.maybeResetDailyLoss now = g) ∨
      (g.dailyLossResetAt + lossWindow ≤ now ∧ g.maybeResetDailyLoss now =
        { g with dailyRealizedLossUsd := 0, dailyLossResetAt := now }) := by
  unfold maybeResetDailyLoss lossWindow
  split
  next h => exact .inr ⟨le_sub_iff_add_le'.1 h, rfl⟩
  next h => exact .inl ⟨sub_lt_iff_lt_add'.1 (not_le.1 h), rfl⟩

/-- What a check does to the counter of the day. -/
inductive DayCheck (c : LossRun) (o : GateOrder) (now : Timestamp) (g : LiveVerificationState) :
    Prop
  | same (hdaily : g.dailyRealizedLossUsd = c.gate.dailyRealizedLossUsd)
      (hreset : g.dailyLossResetAt = c.gate.dailyLossResetAt)
      (hok : ResetsInTime c (now, .check o))
  | reset (hdaily : g.dailyRealizedLossUsd = 0) (hreset : g.dailyLossResetAt = now)
      (hover : c.gate.dailyLossResetAt + lossWindow ≤ now)
      (hok : ResetsInTime c (now, .check o) →
        ∀ l ∈ c.recorded, l.1 < c.gate.dailyLossResetAt + lossWindow)

section Calls

variable {p : LiveVerificationProfile} {c d : LossRun} {o : GateOrder} {now : Timestamp}
  {e : LossEvent} {g : LiveVerificationState}

/-- A check that comes to the reset. -/
theorem dayCheck_maybeResetDailyLoss (hactive : c.gate.deactivationReason = none)
    (hwindow : now < c.gate.profile.expiresAt)
    (hloss : c.gate.cumulativeRealizedLossUsd < c.gate.profile.maxLossUsd) :
    DayCheck c o now (c.gate.maybeResetDailyLoss now) := by
  rcases c.gate.maybeResetDailyLoss_cases now with ⟨hopen, heq⟩ | ⟨hover, heq⟩
  · rw [heq]
    exact .same rfl rfl fun _ _ _ hover => absurd hopen (not_lt.2 hover)
  · rw [heq]
    exact .reset rfl rfl hover fun hok => hok hactive hwindow hloss hover

theorem DayCheck.deactivate (h : DayCheck c o now g) (text : String) :
    DayCheck c o now (g.deactivate text) := by
  cases h with
  | same hdaily hreset hok => exact .same hdaily hreset hok
  | reset hdaily hreset hover hok => exact .reset hdaily hreset hover hok

theorem LiveVerificationState.CheckStep.dayCheck {verdict : Option String}
    (h : CheckStep c.gate o now verdict g) : DayCheck c o now g := by
  cases h with
  | deactivated reason hreason =>
      exact .same rfl rfl fun hactive => absurd hactive hreason
  | stops reason text hactive hstops =>
      refine .same rfl rfl fun _ hwindow hloss => ?_
      rcases hstops with hover | hlimit
      · exact absurd hwindow (not_lt.2 hover)
      · exact absurd hloss (not_lt.2 hlimit)
  | dailyLoss reason text hactive hwindow hloss =>
      exact (dayCheck_maybeResetDailyLoss hactive hwindow hloss).deactivate text
  | refused reason hactive hwindow hloss =>
      exact dayCheck_maybeResetDailyLoss hactive hwindow hloss
  | allowed hlimits =>
      exact dayCheck_maybeResetDailyLoss hlimits.active hlimits.window hlimits.loss

/-- What the calls keep. -/
structure Timed (p : LiveVerificationProfile) (c : LossRun) : Prop where
  profile : c.gate.profile = p
  start_le : c.windowStart ≤ c.gate.dailyLossResetAt
  reset_le : c.gate.dailyLossResetAt ≤ c.clock
  positive : ∀ l ∈ c.recorded, 0 < l.2

theorem timed_start (p : LiveVerificationProfile) (now : Timestamp) : Timed p (.start p now) :=
  ⟨rfl, le_rfl, le_rfl, nofun⟩

theorem lossWindow_pos : 0 < lossWindow := by decide

theorem windowStart_checked_of_same (hreset : g.dailyLossResetAt = c.gate.dailyLossResetAt) :
    (c.checked now g).windowStart = c.windowStart := if_pos hreset

theorem windowStart_checked_of_over (hreset : g.dailyLossResetAt = now)
    (hover : c.gate.dailyLossResetAt + lossWindow ≤ now) :
    (c.checked now g).windowStart = c.gate.dailyLossResetAt + lossWindow := by
  refine if_neg ?_
  rw [hreset]
  exact ((lt_add_of_pos_right _ lossWindow_pos).trans_le hover).ne'

/-- After a check the counter is right exactly if the reset was in time. -/
theorem DayCheck.counted_iff (h : DayCheck c o now g) (hc : Timed p c)
    (hcounted : c.gate.dailyRealizedLossUsd = c.windowLosses) :
    g.dailyRealizedLossUsd = (c.checked now g).windowLosses ↔
      ResetsInTime c (now, .check o) := by
  cases h with
  | same hdaily hreset hok =>
      rw [LossRun.windowLosses, windowStart_checked_of_same hreset, hdaily, hcounted]
      exact ⟨fun _ => hok, fun _ => rfl⟩
  | reset hdaily hreset hover hok =>
      rw [LossRun.windowLosses, windowStart_checked_of_over hreset hover, hdaily, eq_comm]
      exact (lossesSince_eq_zero_iff hc.positive).trans ⟨fun h _ _ _ _ => h, hok⟩

theorem Timed.checked (hc : Timed p c) (hnow : c.clock ≤ now) (h : DayCheck c o now g)
    (hprofile : g.profile = c.gate.profile) : Timed p (c.checked now g) := by
  cases h with
  | same hdaily hreset hok =>
      refine ⟨hprofile.trans hc.profile, ?_, ?_, hc.positive⟩
      · rw [windowStart_checked_of_same hreset]
        exact hc.start_le.trans hreset.ge
      · exact hreset.le.trans (hc.reset_le.trans hnow)
  | reset hdaily hreset hover hok =>
      refine ⟨hprofile.trans hc.profile, ?_, hreset.le, hc.positive⟩
      rw [windowStart_checked_of_over hreset hover]
      exact hover.trans hreset.ge

/-- The ways in which a call changes a run. -/
inductive LossStep (c : LossRun) (now : Timestamp) : LossEvent → LossRun → Prop
  | refused {o : GateOrder} {g : LiveVerificationState} (h : DayCheck c o now g)
      (hprofile : g.profile = c.gate.profile) : LossStep c now (.check o) (c.checked now g)
  | allowed {o : GateOrder} {g : LiveVerificationState} (h : DayCheck c o now g)
      (hprofile : g.profile = c.gate.profile)
      (hdaily : g.dailyRealizedLossUsd < c.gate.profile.maxDailyLossUsd) :
      LossStep c now (.check o) { c.checked now g with
        allowedAt := (c.checked now g).windowLosses :: c.allowedAt }
  | recorded {x : ℚ} (hx : 0 < x) :
      LossStep c now (.loss x)
        { c with
          gate :=
            { c.gate with
              cumulativeRealizedLossUsd := c.gate.cumulativeRealizedLossUsd + x
              dailyRealizedLossUsd := c.gate.dailyRealizedLossUsd + x }
          clock := now
          recorded := (now, x) :: c.recorded }
  /-- The other calls leave the losses of the day alone. -/
  | other {e : LossEvent} {g : LiveVerificationState}
      (hprofile : g.profile = c.gate.profile)
      (hdaily : g.dailyRealizedLossUsd = c.gate.dailyRealizedLossUsd)
      (hreset : g.dailyLossResetAt = c.gate.dailyLossResetAt)
      (hok : ResetsInTime c (now, e)) : LossStep c now e { c with gate := g, clock := now }

theorem lossStep_step (c : LossRun) (now : Timestamp) (e : LossEvent) :
    LossStep c now e (c.step now e) := by
  cases e with
  | check o =>
      have hcheck := c.gate.checkStep_check o now
      unfold LossRun.step
      dsimp only
      generalize c.gate.check o now = r at hcheck ⊢
      obtain ⟨verdict, g⟩ := r
      cases verdict with
      | some reason => exact .refused hcheck.dayCheck hcheck.checked.profile
      | none =>
          refine .allowed hcheck.dayCheck hcheck.checked.profile ?_
          obtain ⟨hlimits, rfl⟩ := hcheck.of_none
          exact hlimits.dailyLoss
  | submitted gridId => exact .other rfl rfl rfl trivial
  | deactivate reason => exact .other rfl rfl rfl trivial
  | loss x =>
      unfold LossRun.step LiveVerificationState.recordRealizedLoss
      dsimp only
      split
      next hle =>
        rw [if_neg (not_lt.2 hle)]
        exact .other rfl rfl rfl trivial
      next hlt =>
        rw [if_pos (not_le.1 hlt)]
        exact .recorded (not_le.1 hlt)

theorem LossStep.timed (h : LossStep c now e d) (hc : Timed p c) (hnow : c.clock ≤ now) :
    Timed p d := by
  cases h with
  | refused h hprofile => exact hc.checked hnow h hprofile
  | allowed h hprofile _ =>
      have hd := hc.checked hnow h hprofile
      exact ⟨hd.profile, hd.start_le, hd.reset_le, hd.positive⟩
  | recorded hx =>
      exact ⟨hc.profile, hc.start_le, hc.reset_le.trans hnow,
        List.forall_mem_cons.2 ⟨hx, hc.positive⟩⟩
  | other hprofile _ hreset _ =>
      exact ⟨hprofile.trans hc.profile, hc.start_le.trans hreset.ge,
        hreset.le.trans (hc.reset_le.trans hnow), hc.positive⟩

/-- A call keeps the count exactly if it does not reset too late. -/
theorem LossStep.lossesCounted_iff (h : LossStep c now e d) (hc : Timed p c)
    (hnow : c.clock ≤ now) (hcounted : LossesCounted p c) :
    LossesCounted p d ↔ ResetsInTime c (now, e) := by
  obtain ⟨hcounter, hallowed⟩ := hcounted
  cases h with
  | refused h _ =>
      rw [← h.counted_iff hc hcounter]
      exact ⟨And.left, fun hcounter' => ⟨hcounter', hallowed⟩⟩
  | allowed h _ hdaily =>
      rw [← h.counted_iff hc hcounter]
      refine ⟨And.left, fun hcounter' => ⟨hcounter', List.forall_mem_cons.2 ⟨?_, hallowed⟩⟩⟩
      rwa [← hcounter', ← hc.profile]
  | @recorded x hx =>
      refine ⟨fun _ => trivial, fun _ => ⟨?_, hallowed⟩⟩
      have hstart : c.windowStart ≤ now := hc.start_le.trans (hc.reset_le.trans hnow)
      change c.gate.dailyRealizedLossUsd + x = lossesSince ((now, x) :: c.recorded) c.windowStart
      rw [lossesSince_cons_of_le hstart, hcounter, LossRun.windowLosses]
  | other _ hdaily _ hok => exact ⟨fun _ => hok, fun _ => ⟨hdaily.trans hcounter, hallowed⟩⟩

end Calls

/-! ### Runs -/

theorem step_of_lossMachine_next {c d : LossRun} {a : Timestamp × LossEvent}
    (h : lossMachine.next c a = some d) : c.clock ≤ a.1 ∧ LossStep c a.1 a.2 d := by
  unfold lossMachine at h
  dsimp only at h
  split at h
  next => cases h
  next hle =>
    obtain rfl := Option.some.inj h
    exact ⟨not_lt.1 hle, lossStep_step c a.1 a.2⟩

/-- All along a run at times that do not decrease, the counter of the day is the loss of the
window, and orders are allowed only below the limit, exactly if no check resets the counter after
a loss that was recorded when the window was over. -/
theorem lossesCounted_along_iff {p : LiveVerificationProfile} {now : Timestamp}
    {as : List (Timestamp × LossEvent)} {c : LossRun}
    (hrun : lossMachine.run (.start p now) as = some c) :
    lossMachine.Along (LossesCounted p) (.start p now) as ↔
      lossMachine.Guarded ResetsInTime (.start p now) as := by
  refine lossMachine.along_iff_guarded (I := Timed p) ?_ ?_ (timed_start p now) ⟨rfl, nofun⟩ hrun
  · intro c a d hc hnext
    obtain ⟨hnow, hstep⟩ := step_of_lossMachine_next hnext
    exact hstep.timed hc hnow
  · intro c a d hc hcounted hnext
    obtain ⟨hnow, hstep⟩ := step_of_lossMachine_next hnext
    exact hstep.lossesCounted_iff hc hnow hcounted

/-- A profile for three days with a limit of 10 a day. -/
def threeDayProfile : LiveVerificationProfile :=
  { verificationGate.profile with
    maxLossUsd := 30
    maxDurationMinutes := 4320
    maxLossUsd_pos := by decide
    maxDurationMinutes_pos := by decide }

/-- A loss of 5 after 23 hours, an order after 25 hours. -/
def lossInTime : List (Timestamp × LossEvent) :=
  [(82800, .loss 5), (90000, .check { notional := 1 })]

theorem lossesCounted_along_lossInTime :
    ∃ c, lossMachine.run (.start threeDayProfile 0) lossInTime = some c ∧
      (lossMachine.Along (LossesCounted threeDayProfile) (.start threeDayProfile 0) lossInTime ↔
        lossMachine.Guarded ResetsInTime (.start threeDayProfile 0) lossInTime) := by
  have hsome : (lossMachine.run (.start threeDayProfile 0) lossInTime).isSome = true := by
    decide +kernel
  obtain ⟨c, hc⟩ := Option.isSome_iff_exists.1 hsome
  exact ⟨c, hc, lossesCounted_along_iff hc⟩

/-- A loss of 15 after 25 hours is wiped by the check an hour later, which allows an order. -/
theorem not_forall_allowedAt_lt :
    ¬ ∀ (p : LiveVerificationProfile) (now : Timestamp) (as : List (Timestamp × LossEvent))
      (c : LossRun), lossMachine.run (.start p now) as = some c →
        ∀ x ∈ c.allowedAt, x < p.maxDailyLossUsd := by
  intro h
  have hend : (lossMachine.run (.start threeDayProfile 0)
      [(90000, .loss 15), (93600, .check { notional := 1 })]).any
        (fun c => c.allowedAt == [15]) = true := by
    decide +kernel
  obtain ⟨c, hc, hallowed⟩ := (Option.any_eq_true _ _).1 hend
  have hmem : (15 : ℚ) ∈ c.allowedAt := by
    rw [beq_iff_eq.1 hallowed]
    exact List.mem_singleton.2 rfl
  exact absurd (h threeDayProfile 0 _ c hc 15 hmem) (by decide +kernel)

end Sgr
