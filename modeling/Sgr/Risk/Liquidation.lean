import Sgr.Grid.Controller
import Sgr.Portfolio.Closing
import Sgr.Risk.Closers

/-!
# The emergency close

`PositionLiquidator` (`sgr/risk/position_liquidator.py`) from the kill switch event to
its report, as it runs when nothing else touches the portfolio and the grids. The report
is derived from the statuses of the closing orders and from the net positions of the
grids that were active; `complete_flat_iff` says when a complete report is true.
-/

open Collection

namespace Sgr

/-- `KillSwitchEvent`. -/
structure KillSwitchEvent where
  closePositions : Bool
  tenantId : Option String
  reason : String

/-- What the liquidator does not change. -/
structure LiquidatorConfig where
  portfolio : PortfolioConfig
  tenantId : Option String

/-- The portfolio and, once it is injected, the grid controller. -/
structure LiquidationState where
  portfolio : PortfolioState
  controller : Option GridController

/-- What a run takes from outside: for each position of its copy the ids and the engine,
for each grid a call of `close_grid`. -/
structure LiquidationCall where
  ids : ℕ → FillIds
  execute : ℕ → Execute
  grid : UUID → CloseCall

/-- How a run ends. -/
inductive CloseReport
  /-- The event asks for nothing, or is that of another tenant. -/
  | ignored
  /-- `emergency_close_complete`, with `net_exposure_zero`. -/
  | complete
  /-- `emergency_close_incomplete`. -/
  | incomplete (positionsFlat gridsFlat : Bool)
  deriving DecidableEq

/-- The fill that is booked for a result. -/
def FillIds.fillCall (ids : FillIds) (r : OrderResult) : FillCall where
  result := r
  positionId := ids.position
  tradeId := ids.trade
  openedAt := ids.openedAt
  closedAt := ids.closedAt

/-- `_close_position` with what it returns; `none` is an exception of
`on_order_filled`. The order bypasses the kill switch. -/
def closePosition (cfg : PortfolioConfig) (ids : FillIds) (execute : Execute)
    (p : Position) (s : PortfolioState) : Option (PortfolioState × Bool) :=
  match execute (liquidationOrder p ids.order) true with
  | .raised => some (s, false)
  | .returned r =>
      if r.status = .filled ∨ r.status = .partiallyFilled then
        (onOrderFilled cfg (ids.fillCall r) s).map fun t => (t, decide (r.status = .filled))
      else some (s, false)

/-- The loop of `on_kill_switch_event` over the positions, the first of which has the
number `k`; the flag is `positions_flat`. -/
def closePositions (cfg : PortfolioConfig) (call : LiquidationCall) :
    ℕ → List Position → PortfolioState → Option (PortfolioState × Bool)
  | _, [], s => some (s, true)
  | k, p :: ps, s =>
      (closePosition cfg (call.ids k) (call.execute k) p s).bind fun r =>
        (closePositions cfg call (k + 1) ps r.1).map fun u => (u.1, r.2 && u.2)

/-- The reason that the liquidator gives for closing a grid. -/
def gridCloseReason (reason : String) : String := "kill_switch:" ++ reason

/-- The loop of `_close_all_grids`. A grid without a price is left alone; `is_flat` looks
at the net position only. -/
def closeGrids (call : LiquidationCall) (reason : String) :
    List GridState → GridController → GridController × Bool
  | [], ctl => (ctl, true)
  | g :: gs, ctl =>
      match g.lastPrice with
      | none => ((closeGrids call reason gs ctl).1, false)
      | some price =>
          match ctl.closeGrid g.id (call.grid g.id) (gridCloseReason reason) price true with
          | (ctl', none) => ((closeGrids call reason gs ctl').1, false)
          | (ctl', some closed) =>
              let r := closeGrids call reason gs ctl'
              (r.1, decide (|closed.netPositionQty| < gridEpsilon) && r.2)

/-- `_close_all_grids`. -/
def closeAllGrids (call : LiquidationCall) (reason : String) :
    Option GridController → Option GridController × Bool
  | none => (none, true)
  | some ctl =>
      let r := closeGrids call reason ctl.activeGrids ctl
      (some r.1, r.2)

/-- `on_kill_switch_event`; `none` is an exception. -/
def onKillSwitchEvent (cfg : LiquidatorConfig) (event : KillSwitchEvent)
    (call : LiquidationCall) (s : LiquidationState) :
    Option (LiquidationState × CloseReport) :=
  if !event.closePositions then some (s, .ignored)
  else if event.tenantId ≠ cfg.tenantId then some (s, .ignored)
  else
    (closePositions cfg.portfolio call 0 s.portfolio.positions.values s.portfolio).map
      fun r =>
        let grids := closeAllGrids call event.reason s.controller
        (⟨r.1, grids.1⟩, if r.2 && grids.2 then .complete else .incomplete r.2 grids.2)

/-- There is no open position, and no grid has a filled level, whatever its status. -/
def LiquidationState.Flat (s : LiquidationState) : Prop :=
  s.portfolio.positions.values = [] ∧ ∀ ctl, s.controller = some ctl → ctl.Empty

/-- The grid under an id has a filled level. -/
def LiquidationState.exposedGrid (s : LiquidationState) (id : UUID) : Bool :=
  (s.controller.bind fun ctl => ctl.grids.get? id).any fun g =>
    g.levels.any GridLevelState.isFilled

theorem LiquidationState.not_flat_of_exposedGrid {s : LiquidationState} {id : UUID}
    (h : s.exposedGrid id = true) : ¬ s.Flat := by
  rintro ⟨-, hempty⟩
  obtain ⟨g, hget, hany⟩ := (Option.any_eq_true _ _).1 h
  obtain ⟨ctl, hctl, hget⟩ := Option.bind_eq_some_iff.1 hget
  obtain ⟨l, hl, hfilled⟩ := List.any_eq_true.1 hany
  rw [hempty ctl hctl id g hget l hl] at hfilled
  cases hfilled

/-- The answers of the engine to closing orders are about the symbols of the orders. -/
def LiquidationCall.AboutSymbols (call : LiquidationCall) : Prop :=
  ∀ k o r, o.reduceOnly = true → call.execute k o true = .returned r →
    r.symbol.str = o.symbol.str

/-- The order for the position with the number `k` of the copy gets a result that closes
the position. -/
def Liquidates (call : LiquidationCall) (k : ℕ) (p : Position) : Prop :=
  ∃ r, call.execute k (liquidationOrder p (call.ids k).order) true = .returned r ∧
    ClosesWhole p r

section Positions

variable (cfg : PortfolioConfig) {call : LiquidationCall}

/-- One order of the liquidator writes the slot of its position. -/
theorem exists_closePosition (hsymbols : call.AboutSymbols) (k : ℕ) {p : Position}
    {s : PortfolioState} (hget : s.positions.get? p.symbol.str = some p) :
    ∃ t flat v, closePosition cfg (call.ids k) (call.execute k) p s = some (t, flat) ∧
      Stores s t p.symbol.str v ∧ (v = none ↔ Liquidates call k p) := by
  unfold closePosition Liquidates
  cases hanswer : call.execute k (liquidationOrder p (call.ids k).order) true with
  | raised =>
      refine ⟨s, false, some p, rfl, stores_self hget, ?_⟩
      simp
  | returned r =>
      have hsymbol := hsymbols k _ r rfl hanswer
      have hkey : ((call.ids k).fillCall r).key = p.symbol.str := hsymbol
      dsimp only
      split
      next hstatus =>
        rw [← hkey] at hget ⊢
        obtain ⟨t, v, ht, hbooks⟩ := exists_onOrderFilled cfg hget
        refine ⟨t, decide (r.status = .filled), v, ?_, hbooks.stores, ?_⟩
        · rw [ht, Option.map_some]
        · rw [hbooks.closes]
          constructor
          · intro hcloses
            exact ⟨r, rfl, hcloses⟩
          · rintro ⟨r', hr', hcloses⟩
            obtain rfl := ExecuteAnswer.returned.inj hr'
            exact hcloses
      next hstatus =>
        refine ⟨s, false, some p, rfl, stores_self hget, ?_⟩
        have hnot : ¬ ∃ r', ExecuteAnswer.returned r = .returned r' ∧ ClosesWhole p r' := by
          rintro ⟨r', hr', hcloses⟩
          obtain rfl := ExecuteAnswer.returned.inj hr'
          exact hstatus hcloses.status
        exact iff_of_false (Option.some_ne_none p) hnot

/-- The loop closes the positions whose orders get a closing result, and leaves the
others open. -/
theorem exists_closePositions (hsymbols : call.AboutSymbols) (k : ℕ) {ps : List Position}
    (hnodup : (ps.map fun p => p.symbol.str).Nodup) {s : PortfolioState}
    (hget : ∀ p ∈ ps, s.positions.get? p.symbol.str = some p) :
    ∃ t flat, closePositions cfg call k ps s = some (t, flat) ∧
      (∀ key, key ∉ ps.map (fun p => p.symbol.str) →
        t.positions.get? key = s.positions.get? key) ∧
      ∀ i p, ps[i]? = some p →
        (t.positions.get? p.symbol.str = none ↔ Liquidates call (k + i) p) := by
  induction ps generalizing k s with
  | nil =>
      refine ⟨s, true, rfl, ?_, ?_⟩
      · intro key _
        rfl
      · intro i p h
        cases h
  | cons p ps ih =>
      rw [List.map_cons, List.nodup_cons] at hnodup
      obtain ⟨hp, hnodup⟩ := hnodup
      obtain ⟨t, flat, v, ht, hstores, hv⟩ :=
        exists_closePosition cfg hsymbols k (hget p List.mem_cons_self)
      have hget' : ∀ q ∈ ps, t.positions.get? q.symbol.str = some q := by
        intro q hq
        have hne : q.symbol.str ≠ p.symbol.str := by
          intro heq
          exact hp (heq ▸ List.mem_map.2 ⟨q, hq, rfl⟩)
        rw [hstores, if_neg hne]
        exact hget q (List.mem_cons_of_mem p hq)
      obtain ⟨u, rest, hu, hframe, hcloses⟩ := ih (k + 1) hnodup hget'
      refine ⟨u, flat && rest, ?_, ?_, ?_⟩
      · rw [closePositions, ht, Option.bind_some, hu, Option.map_some]
      · intro key hkey
        rw [List.map_cons, List.mem_cons, not_or] at hkey
        rw [hframe key hkey.2, hstores, if_neg hkey.1]
      · intro i q hq
        cases i with
        | zero =>
            obtain rfl : p = q := Option.some.inj hq
            rw [hframe _ hp, hstores, if_pos rfl, hv, Nat.add_zero]
        | succ i =>
            rw [hcloses i q hq, Nat.add_right_comm, Nat.add_assoc]

end Positions

section Grids

variable {call : LiquidationCall} {reason : String}

/-- When the loop reports flat grids, each of them was returned by `close_grid`: it has
no filled level exactly when the orders of its filled levels have been filled. -/
theorem closeGrids_of_flat {gs : List GridState} {ctl ctl' : GridController}
    (hnodup : (gs.map GridState.id).Nodup)
    (hgs : ∀ g ∈ gs, ctl.grids.get? g.id = some g ∧ g.isActive = true)
    (h : closeGrids call reason gs ctl = (ctl', true)) :
    (∀ id, id ∉ gs.map GridState.id → ctl'.grids.get? id = ctl.grids.get? id) ∧
      ∀ g ∈ gs, ∃ price g', g.lastPrice = some price ∧ ctl'.grids.get? g.id = some g' ∧
        ((∀ l ∈ g'.levels, l.isFilled = false) ↔ ClosesAll (call.grid g.id) price true g) := by
  induction gs generalizing ctl with
  | nil =>
      obtain rfl : ctl = ctl' := congrArg Prod.fst h
      exact ⟨fun _ _ => rfl, fun g hg => absurd hg List.not_mem_nil⟩
  | cons g gs ih =>
      rw [List.map_cons, List.nodup_cons] at hnodup
      obtain ⟨hg, hnodup⟩ := hnodup
      obtain ⟨hget, hactive⟩ := hgs g List.mem_cons_self
      rw [closeGrids] at h
      split at h
      next => cases congrArg Prod.snd h
      next price hprice =>
        split at h
        next => cases congrArg Prod.snd h
        next ctl₁ closed hclose =>
          have hctl : (closeGrids call reason gs ctl₁).1 = ctl' := congrArg Prod.fst h
          have hflag : (decide (|closed.netPositionQty| < gridEpsilon) &&
              (closeGrids call reason gs ctl₁).2) = true := congrArg Prod.snd h
          rw [Bool.and_eq_true] at hflag
          have hframe : ∀ id, id ≠ g.id → ctl₁.grids.get? id = ctl.grids.get? id := by
            intro id hid
            have hother := ctl.get?_closeGrid_of_ne hid (call.grid g.id)
              (gridCloseReason reason) price true
            rwa [hclose] at hother
          have hgs' : ∀ g' ∈ gs, ctl₁.grids.get? g'.id = some g' ∧ g'.isActive = true := by
            intro g' hg'
            have hne : g'.id ≠ g.id := by
              intro heq
              exact hg (heq ▸ List.mem_map.2 ⟨g', hg', rfl⟩)
            rw [hframe g'.id hne]
            exact hgs g' (List.mem_cons_of_mem g hg')
          obtain ⟨hother, hrest⟩ := ih hnodup hgs' (Prod.ext hctl hflag.2)
          refine ⟨?_, ?_⟩
          · intro id hid
            rw [List.map_cons, List.mem_cons, not_or] at hid
            rw [hother id hid.2, hframe id hid.1]
          · intro g' hg'
            rcases List.mem_cons.1 hg' with rfl | hg'
            · obtain ⟨hclosed, hiff⟩ :=
                GridController.closeGrid_eq_some hget hactive hclose
              exact ⟨price, closed, hprice, (hother g'.id hg).trans hclosed, hiff⟩
            · exact hrest g' hg'

end Grids

/-- The orders of each active grid are filled, and a grid that is not active has no
filled level. -/
structure ClosesGrids (call : LiquidationCall) (ctl : GridController) : Prop where
  active : ∀ g price, ctl.grids.get? g.id = some g → g.isActive = true →
    g.lastPrice = some price → ClosesAll (call.grid g.id) price true g
  inactive : ∀ g, ctl.grids.get? g.id = some g → g.isActive = false →
    ∀ l ∈ g.levels, l.isFilled = false

theorem not_mem_activeGrids_ids {ctl : GridController} {g : GridState}
    (hget : ctl.grids.get? g.id = some g) (hactive : g.isActive = false) :
    g.id ∉ ctl.activeGrids.map GridState.id := by
  intro hmem
  obtain ⟨g', hg', hid⟩ := List.mem_map.1 hmem
  obtain ⟨hget', hactive'⟩ := GridController.mem_activeGrids_iff.1 hg'
  rw [hid, hget] at hget'
  obtain rfl := Option.some.inj hget'
  rw [hactive] at hactive'
  cases hactive'

/-- When the loop reports flat grids, no level is left exactly when the orders of the
active grids have been filled and the other grids had no filled level. -/
theorem empty_closeGrids_iff {call : LiquidationCall} {reason : String}
    {ctl ctl' : GridController}
    (h : closeGrids call reason ctl.activeGrids ctl = (ctl', true)) :
    ctl'.Empty ↔ ClosesGrids call ctl := by
  obtain ⟨hframe, hclosed⟩ := closeGrids_of_flat ctl.nodup_ids_activeGrids
    (fun g hg => GridController.mem_activeGrids_iff.1 hg) h
  constructor
  · intro hempty
    constructor
    · intro g price hget hactive hprice
      obtain ⟨price', g', hprice', hget', hiff⟩ :=
        hclosed g (GridController.mem_activeGrids_iff.2 ⟨hget, hactive⟩)
      obtain rfl := Option.some.inj (hprice.symm.trans hprice')
      exact hiff.1 (hempty g.id g' hget')
    · intro g hget hactive
      apply hempty g.id g
      rw [hframe g.id (not_mem_activeGrids_ids hget hactive), hget]
  · intro hcloses id g' hget'
    by_cases hid : id ∈ ctl.activeGrids.map GridState.id
    · obtain ⟨g, hg, rfl⟩ := List.mem_map.1 hid
      obtain ⟨hget, hactive⟩ := GridController.mem_activeGrids_iff.1 hg
      obtain ⟨price, g₁, hprice, hget₁, hiff⟩ := hclosed g hg
      obtain rfl := Option.some.inj (hget'.symm.trans hget₁)
      exact hiff.2 (hcloses.active g price hget hactive hprice)
    · rw [hframe id hid] at hget'
      obtain rfl := ctl.keyed id g' hget'
      apply hcloses.inactive g' hget'
      refine Bool.eq_false_iff.2 fun hactive => hid ?_
      exact List.mem_map.2 ⟨g', GridController.mem_activeGrids_iff.2 ⟨hget', hactive⟩, rfl⟩

/-- The exposure that a run finds is closed by the answers that its orders get. -/
structure ClosesExposure (call : LiquidationCall) (s : LiquidationState) : Prop where
  positions : ∀ (k : ℕ) p, s.portfolio.positions.values[k]? = some p → Liquidates call k p
  grids : ∀ ctl, s.controller = some ctl → ClosesGrids call ctl

theorem PortfolioState.Keyed.get?_of_mem_values {s : PortfolioState} (h : s.Keyed)
    {p : Position} (hp : p ∈ s.positions.values) :
    s.positions.get? p.symbol.str = some p := by
  obtain ⟨key, hget⟩ := (s.positions.mem_values_iff p).1 hp
  rw [h key p hget, hget]

theorem PortfolioState.Keyed.nodup_symbols {s : PortfolioState} (h : s.Keyed) :
    (s.positions.values.map fun p => p.symbol.str).Nodup := by
  have hkeys : (s.positions.values.map fun p => p.symbol.str) =
      s.positions.entries.map Prod.fst := by
    rw [Dict.values, List.map_map]
    apply List.map_congr_left
    rintro ⟨key, p⟩ hmem
    exact h key p ((Dict.mem_entries_iff _ _ _).1 hmem)
  rw [hkeys]
  exact s.positions.nodup_keys

/-- After the loop over the positions none is open exactly when each has been closed by
the result of its order. -/
theorem exists_closePositions_values (cfg : PortfolioConfig) {call : LiquidationCall}
    {s : PortfolioState} (hkeyed : s.Keyed) (hsymbols : call.AboutSymbols) :
    ∃ t flat, closePositions cfg call 0 s.positions.values s = some (t, flat) ∧
      (t.positions.values = [] ↔
        ∀ (k : ℕ) p, s.positions.values[k]? = some p → Liquidates call k p) := by
  obtain ⟨t, flat, ht, hframe, hcloses⟩ := exists_closePositions cfg hsymbols 0
    hkeyed.nodup_symbols fun p hp => hkeyed.get?_of_mem_values hp
  refine ⟨t, flat, ht, ?_⟩
  rw [List.eq_nil_iff_forall_not_mem]
  constructor
  · intro hnil k p hp
    have hiff := hcloses k p hp
    rw [Nat.zero_add] at hiff
    apply hiff.1
    rw [Option.eq_none_iff_forall_not_mem]
    intro q hq
    exact hnil q ((t.positions.mem_values_iff q).2 ⟨_, hq⟩)
  · intro hall q hq
    obtain ⟨key, hget⟩ := (t.positions.mem_values_iff q).1 hq
    by_cases hkey : key ∈ s.positions.values.map fun p => p.symbol.str
    · obtain ⟨p, hp, rfl⟩ := List.mem_map.1 hkey
      obtain ⟨k, hk⟩ := List.mem_iff_getElem?.1 hp
      have hiff := hcloses k p hk
      rw [Nat.zero_add] at hiff
      rw [hiff.2 (hall k p hk)] at hget
      cases hget
    · rw [hframe key hkey] at hget
      apply hkey
      rw [← hkeyed key q hget]
      exact List.mem_map.2 ⟨q, (s.positions.mem_values_iff q).2 ⟨key, hget⟩, rfl⟩

/-- The event asks the liquidator to close. -/
def KillSwitchEvent.Concerns (event : KillSwitchEvent) (cfg : LiquidatorConfig) : Prop :=
  event.closePositions = true ∧ event.tenantId = cfg.tenantId

/-- A run for an event that concerns the liquidator does not raise. -/
theorem exists_onKillSwitchEvent {cfg : LiquidatorConfig} {event : KillSwitchEvent}
    {call : LiquidationCall} {s : LiquidationState} (hkeyed : s.portfolio.Keyed)
    (hsymbols : call.AboutSymbols) (hevent : event.Concerns cfg) :
    ∃ t flat, onKillSwitchEvent cfg event call s =
        some (⟨t, (closeAllGrids call event.reason s.controller).1⟩,
          if flat && (closeAllGrids call event.reason s.controller).2 then .complete
          else .incomplete flat (closeAllGrids call event.reason s.controller).2) ∧
      (t.positions.values = [] ↔ ∀ (k : ℕ) p, s.portfolio.positions.values[k]? = some p →
        Liquidates call k p) := by
  obtain ⟨t, flat, ht, hpositions⟩ :=
    exists_closePositions_values cfg.portfolio hkeyed hsymbols
  refine ⟨t, flat, ?_, hpositions⟩
  rw [onKillSwitchEvent, if_neg (by simp [hevent.1]), if_neg (not_not.2 hevent.2), ht]
  rfl

theorem concerns_of_complete {cfg : LiquidatorConfig} {event : KillSwitchEvent}
    {call : LiquidationCall} {s s' : LiquidationState}
    (h : onKillSwitchEvent cfg event call s = some (s', .complete)) : event.Concerns cfg := by
  unfold onKillSwitchEvent at h
  split at h
  next => cases h
  next hclose =>
    split at h
    next => cases h
    next htenant => exact ⟨by simpa using hclose, not_not.1 htenant⟩

/-- A run that reports a complete close leaves neither an open position nor a filled
level exactly when the results of its orders have closed the positions and the levels of
the active grids, and the other grids had no filled level to begin with. -/
theorem complete_flat_iff (cfg : LiquidatorConfig) {event : KillSwitchEvent}
    {call : LiquidationCall} {s s' : LiquidationState} (hkeyed : s.portfolio.Keyed)
    (hsymbols : call.AboutSymbols)
    (h : onKillSwitchEvent cfg event call s = some (s', .complete)) :
    s'.Flat ↔ ClosesExposure call s := by
  obtain ⟨t, flat, ht, hpositions⟩ :=
    exists_onKillSwitchEvent hkeyed hsymbols (concerns_of_complete h)
  rw [ht, Option.some.injEq, Prod.mk.injEq] at h
  obtain ⟨rfl, hreport⟩ := h
  have hflat : (flat && (closeAllGrids call event.reason s.controller).2) = true := by
    by_contra hnot
    rw [if_neg hnot] at hreport
    cases hreport
  rw [Bool.and_eq_true] at hflat
  have hgrids : (∀ ctl', (closeAllGrids call event.reason s.controller).1 = some ctl' →
      ctl'.Empty) ↔ ∀ ctl, s.controller = some ctl → ClosesGrids call ctl := by
    cases hctl : s.controller with
    | none => simp [closeAllGrids]
    | some ctl =>
        rw [hctl] at hflat
        have hiff := empty_closeGrids_iff (Prod.ext rfl hflat.2 :
          closeGrids call event.reason ctl.activeGrids ctl = (_, true))
        simpa [closeAllGrids] using hiff
  rw [LiquidationState.Flat, hpositions, hgrids]
  exact ⟨fun ⟨hp, hg⟩ => ⟨hp, hg⟩, fun ⟨hp, hg⟩ => ⟨hp, hg⟩⟩

/-- The portfolio of the examples: a long position of 1. -/
def PortfolioState.btc : PortfolioState :=
  bookOpen { tradingMode := .paper } (.btc 1 .buy 1 100) 100 (.init 1000 none)

theorem keyed_btc : PortfolioState.btc.Keyed := by
  apply (keyed_init 1000 none).stores (writes_bookOpen _ _ _ _).stores
  intro p hp
  obtain rfl := Option.some.inj hp
  rfl

/-- The runs of the examples, at an engine that fills the orders up to a quantity. -/
def LiquidationCall.upTo (bound : ℚ) : LiquidationCall where
  ids := fun k => ⟨k, k, k, 0, 0⟩
  execute := fun _ => .upTo bound
  grid := fun _ => .upTo bound

theorem aboutSymbols_upTo (bound : ℚ) : (LiquidationCall.upTo bound).AboutSymbols := by
  rintro k o r - h
  cases h
  rfl

/-- The liquidator and the event of the examples. -/
def LiquidatorConfig.paper : LiquidatorConfig := ⟨{ tradingMode := .paper }, none⟩

def KillSwitchEvent.drawdown : KillSwitchEvent := ⟨true, none, "drawdown"⟩

/-- The exposure of the examples: the long position and a grid. -/
def LiquidationState.btc (g : GridState) : LiquidationState :=
  ⟨.btc, some ((GridController.init none).put ⟨g, none⟩)⟩

theorem complete_flat_iff_btc :
    ∃ s', onKillSwitchEvent .paper .drawdown (.upTo 2) (.btc .btc) = some (s', .complete) ∧
      (s'.Flat ↔ ClosesExposure (.upTo 2) (.btc .btc)) := by
  have hreport : (onKillSwitchEvent .paper .drawdown (.upTo 2) (.btc .btc)).map Prod.snd =
      some .complete := by decide +kernel
  obtain ⟨⟨s', report⟩, h, rfl⟩ := Option.map_eq_some_iff.1 hreport
  exact ⟨s', h, complete_flat_iff .paper keyed_btc (aboutSymbols_upTo 2) h⟩

/-- A grid that was closed although the order of a level had not been filled is not
looked at. -/
theorem not_complete_flat :
    ¬ ∀ (cfg : LiquidatorConfig) (event : KillSwitchEvent) (call : LiquidationCall)
      (s s' : LiquidationState), s.portfolio.Keyed → call.AboutSymbols →
        onKillSwitchEvent cfg event call s = some (s', .complete) → s'.Flat := by
  intro h
  let g : GridState := { GridState.btc with status := .closed }
  have hrun : (onKillSwitchEvent .paper .drawdown (.upTo 2) (.btc g)).any
      (fun r => decide (r.2 = .complete) && r.1.exposedGrid 7) = true := by decide +kernel
  obtain ⟨⟨s', report⟩, hrun, hresult⟩ := (Option.any_eq_true _ _).1 hrun
  rw [Bool.and_eq_true, decide_eq_true_eq] at hresult
  obtain ⟨rfl, hexposed⟩ := hresult
  exact LiquidationState.not_flat_of_exposedGrid hexposed
    (h .paper .drawdown (.upTo 2) (.btc g) s' keyed_btc (aboutSymbols_upTo 2) hrun)

end Sgr
