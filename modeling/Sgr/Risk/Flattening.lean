import Sgr.Execution.Engine.Executions
import Sgr.Risk.Liquidation

/-!
# The emergency close under an active kill switch

The emergency close runs while the kill switch is active, at an exchange that fills
every order it receives. The orders of the liquidator bypass the kill switch, and those
of the grid controller do not: positions of a PAPER engine are closed, and no grid ever
is. `flat_iff` says what this leaves.
-/

open Collection

namespace Sgr

/-- The gates of a PAPER engine let the closing order of the position pass. -/
structure Flattens (cfg : EngineConfig) (ex : FillingExchange) (ids : FillIds)
    (p : Position) : Prop where
  side : p.side ≠ .flat
  passes : Passes cfg ex (liquidationOrder p ids.order) true

section Positions

variable {cfg : EngineConfig} {ex : FillingExchange}

theorem isClosing_closeSide_iff (p : Position) :
    isClosing p p.side.closeSide = true ↔ p.side ≠ .flat := by
  unfold isClosing PositionSide.closeSide
  cases p.side <;> simp

/-- The complete fill of a closing order closes the position. -/
theorem closesWhole_iff_of_fills {p : Position} {ids : FillIds} {r : OrderResult}
    (hfills : Fills (liquidationOrder p ids.order) r) (hquantity : 0 < p.quantity) :
    ClosesWhole p (attributed (liquidationOrder p ids.order) r) ↔ p.side ≠ .flat := by
  have hfilled : r.filledQuantity = p.quantity := hfills.quantity
  have haccepted : acceptedPrice (attributed (liquidationOrder p ids.order) r) =
      r.averageFillPrice := by
    have hpos : ¬ r.filledQuantity ≤ 0 := by
      rw [hfilled]
      exact not_le.2 hquantity
    rw [acceptedPrice, if_neg (by simp [hfills.status])]
    exact if_neg hpos
  have hside : inferSide (attributed (liquidationOrder p ids.order) r) =
      p.side.closeSide := inferSide_of_side hfills.side
  constructor
  · intro h
    rw [← isClosing_closeSide_iff, ← hside]
    exact h.closing
  · intro h
    refine ⟨?_, ?_, hfilled.ge⟩
    · rw [haccepted]
      exact hfills.price
    · rw [hside, isClosing_closeSide_iff]
      exact h

theorem not_closesWhole_of_refuses {p : Position} {o : OrderRequest} {r : OrderResult}
    (h : Refuses o r) : ¬ ClosesWhole p r := by
  intro hcloses
  have hstatus := hcloses.status
  rw [h.status] at hstatus
  simp at hstatus

/-- While the kill switch is active, the order for a position closes it exactly when it
passes the gates. -/
theorem liquidates_iff {call : LiquidationCall} {k : ℕ}
    (h : ExecutesActive cfg ex (call.execute k)) (p : Position) :
    Liquidates call k p ↔ Flattens cfg ex (call.ids k) p := by
  unfold Liquidates
  rcases (h (liquidationOrder p (call.ids k).order) true rfl).eq_or_refused rfl with
    ⟨hpasses, hanswer⟩ | ⟨hnot, hanswer⟩
  · rw [hanswer]
    have hiff := closesWhole_iff_of_fills (ex.fills (liquidationOrder p (call.ids k).order))
      hpasses.quantity
    constructor
    · rintro ⟨r, hr, hcloses⟩
      obtain rfl := ExecuteAnswer.returned.inj hr
      exact ⟨hiff.1 hcloses, hpasses⟩
    · intro hflattens
      exact ⟨_, rfl, hiff.2 hflattens.side⟩
  · have hrefused : ¬ ∃ r, call.execute k (liquidationOrder p (call.ids k).order) true =
        .returned r ∧ ClosesWhole p r := by
      rintro ⟨r, hr, hcloses⟩
      rcases hanswer with hanswer | ⟨r', hanswer, hrefuses⟩
      · rw [hanswer] at hr
        cases hr
      · rw [hanswer] at hr
        obtain rfl := ExecuteAnswer.returned.inj hr
        exact not_closesWhole_of_refuses hrefuses hcloses
    exact iff_of_false hrefused fun hflattens => hnot hflattens.passes

theorem aboutSymbols_of_executesActive {call : LiquidationCall}
    (h : ∀ k, ExecutesActive cfg ex (call.execute k)) : call.AboutSymbols := by
  intro k o r hreduce hr
  rcases (h k o true hreduce).eq_or_refused hreduce with
    ⟨-, hanswer⟩ | ⟨-, hanswer | ⟨r', hanswer, hrefuses⟩⟩
  · obtain rfl := ExecuteAnswer.returned.inj (hr.symm.trans hanswer)
    rw [attributed_symbol, (ex.fills o).symbol]
  · rw [hanswer] at hr
    cases hr
  · obtain rfl := ExecuteAnswer.returned.inj (hr.symm.trans hanswer)
    rw [hrefuses.symbol]

end Positions

section Grids

variable {cfg : EngineConfig} {ex : FillingExchange}

/-- The closing orders of a grid do not bypass the kill switch, so none is filled. -/
theorem neverFills_of_executesActive {level : LevelCall}
    (h : ExecutesActive cfg ex level.execute) : level.NeverFills := by
  intro o r hreduce hr
  rcases (h o false hreduce).eq_or_refused hreduce with
    ⟨hpasses, -⟩ | ⟨-, hanswer | ⟨r', hanswer, hrefuses⟩⟩
  · cases hpasses.bypass
  · rw [hanswer] at hr
    cases hr
  · obtain rfl := ExecuteAnswer.returned.inj (hr.symm.trans hanswer)
    rw [acceptedFill, if_pos (by simp [hrefuses.status])]

theorem levels_closeGrids {call : LiquidationCall} (reason : String)
    (h : ∀ id i, ((call.grid id).level i).NeverFills) (gs : List GridState)
    (ctl : GridController) (id : UUID) :
    ((closeGrids call reason gs ctl).1.grids.get? id).map GridState.levels =
      (ctl.grids.get? id).map GridState.levels := by
  induction gs generalizing ctl with
  | nil => rfl
  | cons g gs ih =>
      rw [closeGrids]
      split
      next => exact ih ctl
      next price _ =>
        have hclose := ctl.levels_get?_closeGrid g.id id (h g.id) (gridCloseReason reason)
          price true
        split
        next ctl' hctl' =>
          rw [hctl'] at hclose
          exact (ih ctl').trans hclose
        next ctl' closed hctl' =>
          rw [hctl'] at hclose
          exact (ih ctl').trans hclose

theorem empty_iff_of_levels {ctl ctl' : GridController}
    (h : ∀ id, (ctl'.grids.get? id).map GridState.levels =
      (ctl.grids.get? id).map GridState.levels) : ctl'.Empty ↔ ctl.Empty := by
  have himp : ∀ {c c' : GridController}, (∀ id, (c'.grids.get? id).map GridState.levels =
      (c.grids.get? id).map GridState.levels) → c.Empty → c'.Empty := by
    intro c c' h hempty id g' hget l hl
    have hlevels := h id
    rw [hget, Option.map_some] at hlevels
    obtain ⟨g, hg, heq⟩ := Option.map_eq_some_iff.1 hlevels.symm
    exact hempty id g hg l (heq ▸ hl)
  exact ⟨himp fun id => (h id).symm, himp h⟩

end Grids

/-- The engine answers every order of the run while the kill switch is active. -/
structure LiquidationCall.ServedActive (call : LiquidationCall) (cfg : EngineConfig)
    (ex : FillingExchange) : Prop where
  positions : ∀ k, ExecutesActive cfg ex (call.execute k)
  grids : ∀ id i, ExecutesActive cfg ex ((call.grid id).level i).execute

theorem LiquidationCall.ServedActive.empty_closeAllGrids_iff {call : LiquidationCall}
    {cfg : EngineConfig} {ex : FillingExchange} (h : call.ServedActive cfg ex)
    (reason : String) (controller : Option GridController) :
    (∀ ctl', (closeAllGrids call reason controller).1 = some ctl' → ctl'.Empty) ↔
      ∀ ctl, controller = some ctl → ctl.Empty := by
  cases controller with
  | none => simp [closeAllGrids]
  | some ctl =>
      have hlevels := levels_closeGrids reason
        (fun id i => neverFills_of_executesActive (h.grids id i)) ctl.activeGrids ctl
      simpa [closeAllGrids] using empty_iff_of_levels hlevels

/-- An emergency close under an active kill switch comes to its end, and it leaves
neither an open position nor a filled level exactly when the closing orders of the
positions pass the gates of a PAPER engine and no grid had a filled level to begin
with. -/
theorem exists_flat_iff (cfg : LiquidatorConfig) {ecfg : EngineConfig}
    {ex : FillingExchange} {event : KillSwitchEvent} {call : LiquidationCall}
    {s : LiquidationState} (hkeyed : s.portfolio.Keyed) (hevent : event.Concerns cfg)
    (hserved : call.ServedActive ecfg ex) :
    ∃ s' report, onKillSwitchEvent cfg event call s = some (s', report) ∧
      (s'.Flat ↔
        (∀ (k : ℕ) p, s.portfolio.positions.values[k]? = some p →
          Flattens ecfg ex (call.ids k) p) ∧
        ∀ ctl, s.controller = some ctl → ctl.Empty) := by
  obtain ⟨t, flat, hrun, hpositions⟩ := exists_onKillSwitchEvent hkeyed
    (aboutSymbols_of_executesActive hserved.positions) hevent
  refine ⟨_, _, hrun, ?_⟩
  have hliquidates : (∀ (k : ℕ) p, s.portfolio.positions.values[k]? = some p →
      Liquidates call k p) ↔ ∀ (k : ℕ) p, s.portfolio.positions.values[k]? = some p →
        Flattens ecfg ex (call.ids k) p :=
    forall₃_congr fun k p _ => liquidates_iff (hserved.positions k) p
  rw [LiquidationState.Flat, hpositions, hliquidates, hserved.empty_closeAllGrids_iff]

/-- A PAPER engine with an adapter for every exchange. -/
def EngineConfig.paper : EngineConfig where
  mode := .paper
  repo := true
  pool := fun _ => true

/-- The PAPER exchange of the examples, where everything costs 100. -/
def FillingExchange.at100 : FillingExchange :=
  .paper {} (fun _ => some (.ok (.unlimited .binance []))) fun _ => ⟨100, 100⟩

/-- The run of the examples at an engine. -/
def LiquidationCall.at (execute : Execute) : LiquidationCall where
  ids := fun k => ⟨k, k, k, 0, 0⟩
  execute := fun _ => execute
  grid := fun _ => ⟨fun i => ⟨i, 0, true, execute⟩, 0⟩

theorem servedActive_at {cfg : EngineConfig} {ex : FillingExchange} {execute : Execute}
    (h : ExecutesActive cfg ex execute) : (LiquidationCall.at execute).ServedActive cfg ex :=
  ⟨fun _ => h, fun _ _ => h⟩

/-- The long position is closed next to a grid without levels. -/
theorem exists_flat_iff_btc :
    ∃ execute s' report, ExecutesActive .paper .at100 execute ∧
      onKillSwitchEvent .paper .drawdown (.at execute)
        (.btc { GridState.btc with levels := [] }) = some (s', report) ∧ s'.Flat := by
  obtain ⟨execute, hexecute⟩ := exists_executesActive .paper .at100
  have hconcerns : KillSwitchEvent.drawdown.Concerns .paper := ⟨rfl, rfl⟩
  obtain ⟨s', report, hrun, hiff⟩ := exists_flat_iff .paper
    (s := .btc { GridState.btc with levels := [] }) keyed_btc hconcerns
    (servedActive_at hexecute)
  refine ⟨execute, s', report, hexecute, hrun, hiff.2 ⟨?_, ?_⟩⟩
  · rintro (_ | k) p hp
    · obtain rfl := Option.some.inj hp
      exact ⟨by decide +kernel, rfl, rfl, rfl, rfl, one_pos, _, rfl, rfl⟩
    · cases hp
  · rintro ctl hctl id g hget l hl
    obtain rfl := Option.some.inj hctl
    rw [GridController.get?_put] at hget
    split at hget
    · obtain rfl := Option.some.inj hget
      cases hl
    · cases hget

/-- The closing orders of a grid are refused because of the kill switch that asks for
them. -/
theorem not_flat_under_killSwitch :
    ¬ ∀ (cfg : LiquidatorConfig) (ecfg : EngineConfig) (ex : FillingExchange)
      (event : KillSwitchEvent) (call : LiquidationCall) (s s' : LiquidationState)
      (report : CloseReport), s.portfolio.Keyed → event.Concerns cfg →
        call.ServedActive ecfg ex →
          onKillSwitchEvent cfg event call s = some (s', report) → s'.Flat := by
  intro h
  obtain ⟨execute, hexecute⟩ := exists_executesActive .paper .at100
  have hserved := servedActive_at hexecute
  have hconcerns : KillSwitchEvent.drawdown.Concerns .paper := ⟨rfl, rfl⟩
  obtain ⟨t, flat, hrun, -⟩ := exists_onKillSwitchEvent (s := .btc .btc) keyed_btc
    (aboutSymbols_of_executesActive hserved.positions) hconcerns
  have hflat := h _ _ _ _ _ _ _ _ keyed_btc hconcerns hserved hrun
  have hbefore := (hserved.empty_closeAllGrids_iff _ _).1 hflat.2
  have hget : ((GridController.init none).put ⟨.btc, none⟩).grids.get? 7 =
      some GridState.btc := GridController.get?_put _ _ _
  cases hbefore _ rfl 7 .btc hget _ List.mem_cons_self

end Sgr
