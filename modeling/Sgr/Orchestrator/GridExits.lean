import Sgr.Orchestrator.GridKeys
import Sgr.Risk.GridRisk

/-!
# Exits of active grids

`check_ongoing_grid` is called by `monitor_grids` only, and a candle does not come to it:
the scheduler gives the active grid of a symbol a price tick, whatever the risk engine has
against it. So a candle closes what has to be closed exactly when nothing has to.
-/

open Collection Concurrency

namespace Sgr

/-- The funding rate and the volatility that are known when a candle is processed. -/
structure CandleRates where
  fundingRateAnnualizedPct : Option ℚ := none
  volatilityAtrPct : Option ℚ := none

/-- The market at the close of a candle. -/
def CandleCall.market (c : CandleCall) (rates : CandleRates) : GridMarket where
  price := c.close
  fundingRateAnnualizedPct := rates.fundingRateAnnualizedPct
  volatilityAtrPct := rates.volatilityAtrPct
  now := c.now

/-- The grid is closed, and has no filled level that was not filled before. -/
def GridState.ClosesWithout (g' g : GridState) : Prop :=
  g'.status = .closed ∧
    ∀ l' ∈ g'.levels, l'.isFilled = true → ∃ l ∈ g.levels, l.index = l'.index ∧ l.isFilled = true

instance (g' g : GridState) : Decidable (g'.ClosesWithout g) :=
  inferInstanceAs (Decidable (_ ∧ _))

section Exits

variable (cfg : GridSchedulerConfig) (limits : GridRiskLimits) (rates : CandleCall → CandleRates)

/-- The active grids of the symbol of a candle that have a hard violation at its close. -/
def GridScheduler.violating (s : GridScheduler) (c : CandleCall) : List GridState :=
  if cfg.enabled && c.isTradable then
    s.ctl.activeGrids.filter fun g =>
      g.symbolKey = c.symbol.key && !(hardViolations limits g (c.market (rates c))).isEmpty
  else []

/-- The processing of a candle closes the grids that have a hard violation at its close. -/
def ExitsViolating (s : GridScheduler) : SchedulerEvent → Prop
  | .candle c => ∀ g ∈ s.violating cfg limits rates c,
      ∃ g' ∈ (s.onCandleEvent cfg c).ctl.grids.get? g.id, g'.ClosesWithout g
  | _ => True

/-- No grid has a hard violation at the close of a candle. -/
def FindsNoViolation (s : GridScheduler) : SchedulerEvent → Prop
  | .candle c => s.violating cfg limits rates c = []
  | _ => True

end Exits

/-! ### Candles -/

section Candles

variable {cfg : GridSchedulerConfig} {limits : GridRiskLimits} {rates : CandleCall → CandleRates}
  {s : GridScheduler} {e : SchedulerEvent}

/-- A candle leaves the active grids of its symbol active. -/
theorem runs_onCandleEvent {c : CandleCall} {g : GridState} (hg : g ∈ s.ctl.activeGrids)
    (hsymbol : g.symbolKey = c.symbol.key) :
    (s.onCandleEvent cfg c).ctl.Runs g.id g.openKey := by
  obtain ⟨hget, hactive⟩ := GridController.mem_activeGrids_iff.1 hg
  have hruns : s.ctl.Runs g.id g.openKey := ⟨g, hget, hactive, rfl⟩
  have hstep := candleStep_onCandleEvent cfg c s
  generalize s.onCandleEvent cfg c = t at hstep ⊢
  cases hstep with
  | rests => exact hruns
  | ticks id => exact (runs_onPriceTick_iff ..).2 hruns
  | opens hgrid =>
      -- a candle whose symbol has an active grid opens no other
      have hne := List.find?_eq_none.1 hgrid g hg
      exact absurd (decide_eq_true hsymbol) hne

theorem exitsViolating_iff :
    ExitsViolating cfg limits rates s e ↔ FindsNoViolation cfg limits rates s e := by
  cases e with
  | candle c =>
      constructor
      · intro hexits
        rw [FindsNoViolation, List.eq_nil_iff_forall_not_mem]
        intro g hg
        obtain ⟨g', hget, hclosed, -⟩ := hexits g hg
        unfold GridScheduler.violating at hg
        split at hg
        · obtain ⟨hactive, hviolates⟩ := List.mem_filter.1 hg
          have hsymbol := of_decide_eq_true (Bool.and_eq_true_iff.1 hviolates).1
          obtain ⟨g'', hget', hactive', -⟩ := @runs_onCandleEvent cfg _ _ _ hactive hsymbol
          obtain rfl := Option.some.inj (hget.symm.trans hget')
          rw [GridState.isActive, hclosed] at hactive'
          cases hactive'
        · cases hg
      · intro hnone g hg
        rw [FindsNoViolation] at hnone
        rw [hnone] at hg
        cases hg
  | close => exact Iff.rfl
  | restart restored gate => exact Iff.rfl

/-- Every candle of a run closes the grids that have a hard violation at its close, exactly
when there are none. -/
theorem guarded_exitsViolating_iff (cfg : GridSchedulerConfig) (limits : GridRiskLimits)
    (rates : CandleCall → CandleRates) (gate : Option LiveVerificationState)
    (events : List SchedulerEvent) :
    (schedulerMachine cfg).Guarded (ExitsViolating cfg limits rates) (.start gate) events ↔
      (schedulerMachine cfg).Guarded (FindsNoViolation cfg limits rates) (.start gate) events :=
  (schedulerMachine cfg).guarded_congr (fun _ _ => exitsViolating_iff) _ _

end Candles

/-- The grid of the examples is not closed when the price falls below its breakout limit. -/
theorem not_guarded_exitsViolating :
    ¬ ∀ (cfg : GridSchedulerConfig) (limits : GridRiskLimits)
      (rates : CandleCall → CandleRates) (gate : Option LiveVerificationState)
      (events : List SchedulerEvent) (s : GridScheduler),
      (schedulerMachine cfg).run (.start gate) events = some s →
        (schedulerMachine cfg).Guarded (ExitsViolating cfg limits rates) (.start gate)
          events := by
  intro h
  have hend : ((schedulerMachine .paper).run (.start none)
      [.candle (.btc 1), .candle { CandleCall.btc 2 with close := 60 }]).isSome = true := by
    decide +kernel
  obtain ⟨s, hs⟩ := Option.isSome_iff_exists.1 hend
  have hexits := h .paper {} (fun _ => {}) none _ s hs
  have hsecond := exitsViolating_iff.1 (hexits.2 _ rfl).1
  revert hsecond
  show ¬ (_ : List GridState) = []
  decide +kernel

end Sgr
