import Sgr.Orchestrator.GridScheduler

/-!
# Open grids and their keys

The keys that count as open are those of the active grids all along a run in which no
active grid is closed and none is restored. A closed grid keeps its key, and a restored
grid has none.
-/

open Collection Concurrency

namespace Sgr

/-- The grid of the id is active under the key. -/
def GridController.Runs (ctl : GridController) (id : UUID) (key : String) : Prop :=
  ∃ g, ctl.grids.get? id = some g ∧ g.isActive = true ∧ g.openKey = key

/-- At most one grid is active under a key, the keys that count as open are those of the
active grids, and the first proposal for a candle is opened when it is approved and
neither its symbol nor its key has an active grid. -/
structure GridScheduler.TracksGrids (cfg : GridSchedulerConfig) (s : GridScheduler) : Prop where
  unique : ∀ id id' key, s.ctl.Runs id key → s.ctl.Runs id' key → id = id'
  keys : ∀ key, key ∈ s.openGridKeys ↔ ∃ id, s.ctl.Runs id key
  reopens : ∀ (c : CandleCall) (name : String) (p : ProposedGrid) (id : UUID),
    (cfg.enabled && c.isTradable && c.hasFeatures && c.hasAccount) = true →
    c.opening = .approved id →
    c.strategies.findSome? (fun strategy =>
      strategy.decision.proposed.map fun p => (strategy.name, p)) = some (name, p) →
    s.gridOf c.symbol.key = none →
    (∀ id', ¬ s.ctl.Runs id' (openKey c.symbol.key name)) →
    (s.onCandleEvent cfg c).ctl.Runs id (openKey c.symbol.key name)

/-- No active grid is closed, and none is restored. -/
def LeavesGrids (s : GridScheduler) : SchedulerEvent → Prop
  | .candle _ => True
  | .close id _ _ _ _ => (s.ctl.grids.get? id).all (fun g => !g.isActive) = true
  | .restart restored _ => ∀ g ∈ restored, g.isActive = false

instance (s : GridScheduler) (e : SchedulerEvent) : Decidable (LeavesGrids s e) := by
  cases e with
  | candle c => exact isTrue trivial
  | close => exact inferInstanceAs (Decidable (_ = true))
  | restart restored gate => exact inferInstanceAs (Decidable (∀ g ∈ restored, _))

/-! ### What a tick and a close leave of a grid -/

/-- Two states of a grid that count as open alike. -/
structure GridState.SameRun (g g' : GridState) : Prop where
  id : g'.id = g.id
  exchange : g'.exchange = g.exchange
  symbol : g'.symbol = g.symbol
  strategyName : g'.strategyName = g.strategyName
  status : g'.status = g.status

namespace GridState.SameRun

variable {g g' g'' : GridState}

theorem refl (g : GridState) : g.SameRun g := ⟨rfl, rfl, rfl, rfl, rfl⟩

theorem trans (h : g.SameRun g') (h' : g'.SameRun g'') : g.SameRun g'' where
  id := h'.id.trans h.id
  exchange := h'.exchange.trans h.exchange
  symbol := h'.symbol.trans h.symbol
  strategyName := h'.strategyName.trans h.strategyName
  status := h'.status.trans h.status

theorem symbolKey (h : g.SameRun g') : g'.symbolKey = g.symbolKey := by
  rw [GridState.symbolKey, h.exchange, h.symbol, GridState.symbolKey]

theorem openKey (h : g.SameRun g') : g'.openKey = g.openKey := by
  rw [GridState.openKey, h.symbolKey, h.strategyName, GridState.openKey]

theorem isActive (h : g.SameRun g') : g'.isActive = g.isActive := by
  rw [GridState.isActive, h.status, GridState.isActive]

end GridState.SameRun

section Frames

variable (w : GridWork)

theorem sameRun_bookFill (g : GridState) (i : ℕ) (l : GridLevelState) (price : ℚ)
    (opening : Bool) (quantity : ℚ) (r : OrderResult) (now : Timestamp) :
    g.SameRun (updateMarkToMarket (bookFill g i l price opening quantity r now) price) := by
  cases opening <;> exact ⟨rfl, rfl, rfl, rfl, rfl⟩

theorem sameRun_onPriceTick (call : TickCall) (price : ℚ) :
    w.grid.SameRun (onPriceTick call price w).1.grid := by
  have hloop := rel_tickLevels .refl (fun _ _ _ => .trans) sameRun_bookFill call price
    (w.grid.lastPrice.getD price) (tickCells w.grid) w
  unfold onPriceTick
  split
  · exact .refl _
  · split
    next v hv =>
      rw [hv] at hloop
      exact hloop
    next v hv =>
      rw [hv] at hloop
      exact ⟨hloop.id, hloop.exchange, hloop.symbol, hloop.strategyName, hloop.status⟩

/-- After `close_grid` a grid is not active, whether it returns or raises. -/
theorem not_isActive_closeGrid (call : CloseCall) (reason : String) (price : ℚ) (force : Bool) :
    (closeGrid call reason price force w).1.grid.isActive = false := by
  unfold closeGrid
  split
  next h => simpa using h
  · have hloop := rel_closeLevels call price force
      { w with grid := { w.grid with status := .closing } } .refl (fun _ _ _ => .trans)
      sameRun_bookFill (List.range w.grid.levels.length)
    split
    next v hv =>
      rw [hv] at hloop
      rw [hloop.isActive]
      rfl
    next v hv => rfl

end Frames

/-! ### What an event does to the active grids -/

section Runs

variable {ctl : GridController} {w : GridWork} {g : GridState} {id id' : UUID} {key : String}

/-- A grid that is put back as it counted before. -/
theorem runs_put_of_sameRun (hget : ctl.grids.get? id = some g) (h : g.SameRun w.grid) :
    (ctl.put w).Runs id' key ↔ ctl.Runs id' key := by
  have hid : w.grid.id = id := h.id.trans (ctl.keyed id g hget)
  unfold GridController.Runs
  rw [GridController.get?_put, hid]
  by_cases heq : id' = id
  · subst heq
    rw [if_pos rfl, hget]
    constructor
    · rintro ⟨g', hg', hactive, hkey⟩
      obtain rfl := Option.some.inj hg'
      exact ⟨g, rfl, h.isActive ▸ hactive, h.openKey ▸ hkey⟩
    · rintro ⟨g', hg', hactive, hkey⟩
      obtain rfl := Option.some.inj hg'
      exact ⟨w.grid, rfl, h.isActive.trans hactive, h.openKey.trans hkey⟩
  · rw [if_neg heq]

theorem runs_onPriceTick_iff (ctl : GridController) (id : UUID) (tick : TickCall) (price : ℚ) :
    (ctl.onPriceTick id tick price).Runs id' key ↔ ctl.Runs id' key := by
  unfold GridController.onPriceTick
  split
  · exact Iff.rfl
  next g hget => exact runs_put_of_sameRun hget (sameRun_onPriceTick ⟨g, ctl.gate⟩ tick price)

/-- A new grid is active next to the others. -/
theorem runs_put_iff (hfresh : ctl.grids.get? w.grid.id = none) (hactive : w.grid.isActive = true) :
    (ctl.put w).Runs id key ↔ (id = w.grid.id ∧ w.grid.openKey = key) ∨ ctl.Runs id key := by
  unfold GridController.Runs
  rw [GridController.get?_put]
  by_cases heq : id = w.grid.id
  · subst heq
    simp [hfresh, hactive]
  · simp [heq]

theorem runs_closeGrid_iff (ctl : GridController) (id : UUID) (call : CloseCall)
    (reason : String) (price : ℚ) (force : Bool) :
    (ctl.closeGrid id call reason price force).1.Runs id' key ↔
      ctl.Runs id' key ∧ id' ≠ id := by
  by_cases heq : id' = id
  · subst heq
    refine iff_of_false ?_ fun h => h.2 rfl
    rintro ⟨g', hget', hactive, -⟩
    unfold GridController.closeGrid at hget'
    split at hget'
    next hnone =>
      rw [hnone] at hget'
      cases hget'
    next g hget =>
      have hid := (sameOrders_closeGrid call reason price force ⟨g, ctl.gate⟩).id
      rw [ctl.keyed id' g hget] at hid
      dsimp only at hget'
      rw [GridController.get?_put, hid, if_pos rfl] at hget'
      obtain rfl := Option.some.inj hget'
      rw [not_isActive_closeGrid] at hactive
      cases hactive
  · unfold GridController.Runs
    rw [ctl.get?_closeGrid_of_ne heq]
    simp [heq]

theorem get?_restore_of_forall_ne {restored : List GridState}
    (h : ∀ g ∈ restored, g.id ≠ id) (ctl : GridController) :
    (ctl.restore restored).grids.get? id = ctl.grids.get? id := by
  induction restored generalizing ctl with
  | nil => rfl
  | cons g restored ih =>
      rw [GridController.restore, List.foldl_cons]
      refine (ih (fun x hx => h x (List.mem_cons_of_mem g hx)) _).trans ?_
      rw [GridController.get?_put, if_neg (h g List.mem_cons_self).symm]

theorem get?_restore_of_mem {restored : List GridState}
    (hids : (restored.map GridState.id).Nodup) (hg : g ∈ restored) (ctl : GridController) :
    (ctl.restore restored).grids.get? g.id = some g := by
  induction restored generalizing ctl with
  | nil => cases hg
  | cons x restored ih =>
      rw [List.map_cons, List.nodup_cons] at hids
      rw [GridController.restore, List.foldl_cons]
      rcases List.mem_cons.1 hg with rfl | hg
      · refine (get?_restore_of_forall_ne (fun y hy heq => ?_) _).trans ?_
        · exact hids.1 (heq ▸ List.mem_map_of_mem hy)
        · rw [GridController.get?_put, if_pos rfl]
      · exact ih hids.2 hg _

/-- After a restart the active grids are the restored ones. -/
theorem runs_restore_iff {restored : List GridState} (gate : Option LiveVerificationState)
    (hids : (restored.map GridState.id).Nodup) :
    ((GridController.init gate).restore restored).Runs id key ↔
      ∃ g ∈ restored, g.id = id ∧ g.isActive = true ∧ g.openKey = key := by
  constructor
  · rintro ⟨g, hget, hactive, hkey⟩
    by_cases hmem : ∃ x ∈ restored, x.id = id
    · obtain ⟨x, hx, rfl⟩ := hmem
      rw [get?_restore_of_mem hids hx] at hget
      obtain rfl := Option.some.inj hget
      exact ⟨x, hx, rfl, hactive, hkey⟩
    · rw [get?_restore_of_forall_ne fun x hx heq => hmem ⟨x, hx, heq⟩] at hget
      cases hget
  · rintro ⟨g, hg, rfl, hactive, hkey⟩
    exact ⟨g, get?_restore_of_mem hids hg _, hactive, hkey⟩

end Runs

/-! ### Candles -/

section Candles

variable {cfg : GridSchedulerConfig} {c : CandleCall} {s t : GridScheduler}

/-- The grid that a candle opens for a strategy. -/
def openedGrid (cfg : GridSchedulerConfig) (c : CandleCall) (name : String) (p : ProposedGrid)
    (id : UUID) : GridState :=
  buildGridState
    { id := id
      symbol := c.symbol
      strategyName := name
      tradingMode := cfg.tradingMode
      direction := p.longOrShort
      parameters := p.parameters
      prices := p.prices
      currentPrice := c.close
      openedAt := c.now }

/-- What a candle does. -/
inductive CandleStep (cfg : GridSchedulerConfig) (c : CandleCall) (s : GridScheduler) :
    GridScheduler → Prop
  | rests : CandleStep cfg c s s
  | ticks (id : UUID) :
      CandleStep cfg c s { s with ctl := s.ctl.onPriceTick id c.tick c.close }
  | opens {name : String} {p : ProposedGrid} {id : UUID}
      (hgrid : s.gridOf c.symbol.key = none) (hproposal : s.proposal c = some (name, p))
      (hopening : c.opening = .approved id) :
      CandleStep cfg c s
        { ctl := s.ctl.put ⟨openedGrid cfg c name p id, s.ctl.gate⟩
          openGridKeys := openKey c.symbol.key name :: s.openGridKeys }

theorem candleStep_onCandleEvent (cfg : GridSchedulerConfig) (c : CandleCall)
    (s : GridScheduler) : CandleStep cfg c s (s.onCandleEvent cfg c) := by
  unfold GridScheduler.onCandleEvent
  split
  · exact .rests
  · unfold GridScheduler.processSymbol
    split
    next g hg => exact .ticks g.id
    next hgrid =>
      split
      · exact .rests
      · split
        next hproposal hopening => exact .opens hgrid hproposal hopening
        · exact .rests

/-- A proposal is not for a key that counts as open. -/
theorem GridScheduler.not_mem_of_proposal {name : String} {p : ProposedGrid}
    (h : s.proposal c = some (name, p)) : openKey c.symbol.key name ∉ s.openGridKeys := by
  obtain ⟨strategy, hmem, hsome⟩ := List.exists_of_findSome?_eq_some h
  obtain ⟨q, -, hpair⟩ := Option.map_eq_some_iff.1 hsome
  cases hpair
  simpa using (List.mem_filter.1 hmem).2

theorem findSome?_filter {α β : Type*} {f : α → Option β} {q : α → Bool} {l : List α} {b : β}
    (h : l.findSome? f = some b) (hq : ∀ a, f a = some b → q a = true) :
    (l.filter q).findSome? f = some b := by
  induction l with
  | nil => cases h
  | cons a l ih =>
      rw [List.findSome?_cons] at h
      cases ha : f a with
      | none =>
          rw [ha] at h
          rw [List.filter_cons]
          split
          · rw [List.findSome?_cons, ha]
            exact ih h
          · exact ih h
      | some b' =>
          rw [ha] at h
          obtain rfl := Option.some.inj h
          rw [List.filter_cons, if_pos (hq a ha), List.findSome?_cons, ha]

theorem runs_openedGrid_iff {name : String} {p : ProposedGrid} {id id' : UUID}
    {key : String} (hfresh : s.ctl.grids.get? id = none) :
    (s.ctl.put ⟨openedGrid cfg c name p id, s.ctl.gate⟩).Runs id' key ↔
      (id' = id ∧ openKey c.symbol.key name = key) ∨ s.ctl.Runs id' key :=
  runs_put_iff (w := ⟨openedGrid cfg c name p id, s.ctl.gate⟩) hfresh rfl

/-- Where the keys are those of the active grids, an approved proposal under a free key is
opened. -/
theorem GridScheduler.tracksGrids_of_keys
    (hunique : ∀ id id' key, s.ctl.Runs id key → s.ctl.Runs id' key → id = id')
    (hkeys : ∀ key, key ∈ s.openGridKeys ↔ ∃ id, s.ctl.Runs id key) : s.TracksGrids cfg where
  unique := hunique
  keys := hkeys
  reopens := by
    intro c name p id hready hopening hfirst hgrid hfree
    simp only [Bool.and_eq_true] at hready
    obtain ⟨⟨⟨henabled, htradable⟩, hfeatures⟩, haccount⟩ := hready
    have hkey : openKey c.symbol.key name ∉ s.openGridKeys := by
      rw [hkeys]
      rintro ⟨id', hruns⟩
      exact hfree id' hruns
    have hproposal : s.proposal c = some (name, p) := by
      refine findSome?_filter hfirst fun strategy hstrategy => ?_
      obtain ⟨q, -, hpair⟩ := Option.map_eq_some_iff.1 hstrategy
      cases hpair
      simpa using hkey
    have hopened : (s.onCandleEvent cfg c).ctl =
        s.ctl.put ⟨openedGrid cfg c name p id, s.ctl.gate⟩ := by
      simp only [GridScheduler.onCandleEvent, GridScheduler.processSymbol, henabled, htradable,
        hfeatures, haccount, hgrid, hproposal, hopening]
      rfl
    rw [hopened]
    refine ⟨openedGrid cfg c name p id, ?_, rfl, rfl⟩
    rw [GridController.get?_put]
    exact if_pos rfl

/-- A candle keeps the keys in step with the active grids. -/
theorem GridScheduler.TracksGrids.onCandleEvent (h : s.TracksGrids cfg) (hfresh : c.IsFresh s) :
    (s.onCandleEvent cfg c).TracksGrids cfg := by
  have hstep := candleStep_onCandleEvent cfg c s
  generalize s.onCandleEvent cfg c = t at hstep ⊢
  cases hstep with
  | rests => exact h
  | ticks id =>
      refine tracksGrids_of_keys (fun id₁ id₂ key => ?_) fun key => ?_
      · dsimp only
        rw [runs_onPriceTick_iff, runs_onPriceTick_iff]
        exact h.unique id₁ id₂ key
      · simp only [runs_onPriceTick_iff]
        exact h.keys key
  | @opens name p id hgrid hproposal hopening =>
      have hnew := not_mem_of_proposal hproposal
      have hid : s.ctl.grids.get? id = none := by
        rw [CandleCall.IsFresh, hopening] at hfresh
        exact hfresh
      have hnone : ∀ id', ¬ s.ctl.Runs id' (openKey c.symbol.key name) :=
        fun id' hruns => hnew ((h.keys _).2 ⟨id', hruns⟩)
      refine tracksGrids_of_keys (fun id₁ id₂ key => ?_) fun key => ?_
      · dsimp only
        rw [runs_openedGrid_iff hid, runs_openedGrid_iff hid]
        rintro (⟨rfl, rfl⟩ | hold₁) (⟨rfl, hkey⟩ | hold₂)
        · rfl
        · exact absurd hold₂ (hnone id₂)
        · exact absurd (hkey ▸ hold₁) (hnone id₁)
        · exact h.unique id₁ id₂ key hold₁ hold₂
      · simp only [runs_openedGrid_iff hid]
        rw [List.mem_cons, h.keys key]
        constructor
        · rintro (rfl | ⟨id', hruns⟩)
          · exact ⟨id, .inl ⟨rfl, rfl⟩⟩
          · exact ⟨id', .inr hruns⟩
        · rintro ⟨id', ⟨rfl, rfl⟩ | hruns⟩
          · exact .inl rfl
          · exact .inr ⟨id', hruns⟩

end Candles

/-! ### Runs -/

section Histories

variable {cfg : GridSchedulerConfig} {s t : GridScheduler} {e : SchedulerEvent}

/-- A close keeps the keys in step exactly when its grid is not active. -/
theorem GridScheduler.TracksGrids.close_iff (h : s.TracksGrids cfg) (id : UUID)
    (call : CloseCall) (reason : String) (price : ℚ) (force : Bool) :
    TracksGrids cfg { s with ctl := (s.ctl.closeGrid id call reason price force).1 } ↔
      (s.ctl.grids.get? id).all (fun g => !g.isActive) = true := by
  constructor
  · intro ht
    cases hget : s.ctl.grids.get? id with
    | none => rfl
    | some g =>
        rw [Option.all_some, Bool.not_eq_true']
        by_contra hactive
        have hruns : s.ctl.Runs id g.openKey := ⟨g, hget, Bool.of_not_eq_false hactive, rfl⟩
        obtain ⟨id', hid'⟩ := (ht.keys g.openKey).1 ((h.keys g.openKey).2 ⟨id, hruns⟩)
        obtain ⟨hold, hne⟩ := (runs_closeGrid_iff ..).1 hid'
        exact hne (h.unique id' id g.openKey hold hruns)
  · intro hidle
    have hsame : ∀ id' key, (s.ctl.closeGrid id call reason price force).1.Runs id' key ↔
        s.ctl.Runs id' key := by
      intro id' key
      rw [runs_closeGrid_iff]
      refine and_iff_left_of_imp ?_
      rintro ⟨g, hget, hactive, -⟩ rfl
      rw [hget, Option.all_some, hactive] at hidle
      cases hidle
    refine tracksGrids_of_keys (fun id₁ id₂ key => ?_) fun key => ?_
    · dsimp only
      rw [hsame, hsame]
      exact h.unique id₁ id₂ key
    · simp only [hsame]
      exact h.keys key

/-- A restart keeps the keys in step exactly when no restored grid is active. -/
theorem tracksGrids_restart_iff {restored : List GridState}
    (gate : Option LiveVerificationState) (hids : (restored.map GridState.id).Nodup) :
    GridScheduler.TracksGrids cfg ⟨(GridController.init gate).restore restored, []⟩ ↔
      ∀ g ∈ restored, g.isActive = false := by
  constructor
  · intro ht g hg
    by_contra hactive
    have hruns : ((GridController.init gate).restore restored).Runs g.id g.openKey :=
      (runs_restore_iff gate hids).2 ⟨g, hg, rfl, Bool.of_not_eq_false hactive, rfl⟩
    exact absurd ((ht.keys g.openKey).2 ⟨g.id, hruns⟩) List.not_mem_nil
  · intro hidle
    have hnone : ∀ id key, ¬ ((GridController.init gate).restore restored).Runs id key := by
      intro id key hruns
      obtain ⟨g, hg, -, hactive, -⟩ := (runs_restore_iff gate hids).1 hruns
      rw [hidle g hg] at hactive
      cases hactive
    exact GridScheduler.tracksGrids_of_keys (fun id _ key h => absurd h (hnone id key))
      fun key => by simp [hnone]

theorem GridScheduler.TracksGrids.step_iff (h : s.TracksGrids cfg)
    (hnext : (schedulerMachine cfg).next s e = some t) :
    t.TracksGrids cfg ↔ LeavesGrids s e := by
  cases e with
  | candle c =>
      dsimp only [schedulerMachine] at hnext
      split at hnext
      next hfresh =>
        obtain rfl := Option.some.inj hnext
        exact iff_of_true (h.onCandleEvent hfresh) trivial
      next => cases hnext
  | close id call reason price force =>
      obtain rfl := Option.some.inj hnext
      exact h.close_iff id call reason price force
  | restart restored gate =>
      dsimp only [schedulerMachine] at hnext
      split at hnext
      next hids =>
        obtain rfl := Option.some.inj hnext
        exact tracksGrids_restart_iff gate hids
      next => cases hnext

theorem tracksGrids_start (cfg : GridSchedulerConfig) (gate : Option LiveVerificationState) :
    (GridScheduler.start gate).TracksGrids cfg := by
  have hnone : ∀ id key, ¬ (GridScheduler.start gate).ctl.Runs id key := by
    rintro id key ⟨g, hget, -⟩
    cases hget
  exact GridScheduler.tracksGrids_of_keys (fun id _ key h => absurd h (hnone id key)) fun key =>
    iff_of_false List.not_mem_nil fun ⟨id, h⟩ => hnone id key h

/-- All along a run the keys are those of the active grids, exactly when the run closes no
active grid and restores none. -/
theorem along_tracksGrids_iff {gate : Option LiveVerificationState}
    {events : List SchedulerEvent}
    (hrun : (schedulerMachine cfg).run (.start gate) events = some s) :
    (schedulerMachine cfg).Along (·.TracksGrids cfg) (.start gate) events ↔
      (schedulerMachine cfg).Guarded LeavesGrids (.start gate) events :=
  (schedulerMachine cfg).along_iff_guarded (I := fun _ => True)
    (fun _ _ _ _ _ => trivial) (fun _ _ _ _ h hnext => h.step_iff hnext) trivial
    (tracksGrids_start cfg gate) hrun

end Histories

/-! ### A grid that is closed -/

/-- The parameters of the examples. -/
def GridParameters.btc : GridParameters where
  positionSize := 90
  gridLowerPrice := some 90
  gridUpperPrice := some 100

/-- A strategy that proposes the grid of the examples. -/
def GridStrategyCall.btc : GridStrategyCall where
  name := "futures_grid"
  decision := ⟨.long, some ⟨.long, .btc, [90, 100]⟩⟩

/-- A candle for which its proposal is approved. -/
def CandleCall.btc (id : UUID) : CandleCall where
  symbol := btcUsdt
  close := 95
  tick := .completely
  strategies := [.btc]
  opening := .approved id

/-- A scheduler that is switched on. -/
def GridSchedulerConfig.paper : GridSchedulerConfig := ⟨true, .paper⟩

theorem along_tracksGrids_iff_btc :
    (schedulerMachine .paper).Along (·.TracksGrids .paper) (.start none)
        [.candle (.btc 1), .candle (.btc 2)] ↔
      (schedulerMachine .paper).Guarded LeavesGrids (.start none)
        [.candle (.btc 1), .candle (.btc 2)] := by
  have hend : ((schedulerMachine .paper).run (.start none)
      [.candle (.btc 1), .candle (.btc 2)]).isSome = true := by decide +kernel
  obtain ⟨s, hs⟩ := Option.isSome_iff_exists.1 hend
  exact along_tracksGrids_iff hs

/-- After the grid has been closed its key still counts as open. -/
theorem not_along_tracksGrids :
    ¬ ∀ (cfg : GridSchedulerConfig) (gate : Option LiveVerificationState)
      (events : List SchedulerEvent) (s : GridScheduler),
      (schedulerMachine cfg).run (.start gate) events = some s →
        (schedulerMachine cfg).Along (·.TracksGrids cfg) (.start gate) events := by
  intro h
  have hend : ((schedulerMachine .paper).run (.start none)
      [.candle (.btc 1), .close 1 (.upTo 1) "manual" 95 true]).any (fun s =>
        decide (openKey btcUsdt.key "futures_grid" ∈ s.openGridKeys) &&
          s.ctl.activeGrids.isEmpty) = true := by decide +kernel
  obtain ⟨s, hs, hstale⟩ := (Option.any_eq_true _ _).1 hend
  obtain ⟨hkey, hempty⟩ := Bool.and_eq_true_iff.1 hstale
  obtain ⟨id, g, hget, hactive, -⟩ := (((h _ _ _ s hs).of_run _ hs).keys _).1
    (of_decide_eq_true hkey)
  have hid := s.ctl.keyed id g hget
  have hmem : g ∈ s.ctl.activeGrids :=
    GridController.mem_activeGrids_iff.2 ⟨hid ▸ hget, hactive⟩
  rw [List.isEmpty_iff.1 hempty] at hmem
  exact List.not_mem_nil hmem

end Sgr
