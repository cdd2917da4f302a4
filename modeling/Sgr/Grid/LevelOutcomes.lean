import Sgr.Grid.CrashConsistency
import Sgr.Grid.PriceTick

/-!
# What a tick makes of the levels

`on_price_tick` of `sgr/execution/grid_controller.py` with any answers of the rate limiter and
of an engine that returns. A level is the entry of one cell at most, so a tick makes of it
what the grid before the tick and the answers for this level say. A run of ticks is one call
of `on_price_tick` after the other.
-/

namespace Sgr

/-- The fill that the answers of a call bring for an order. -/
def LevelCall.filled (c : LevelCall) (o : OrderRequest) : Option (OrderResult × ℚ) :=
  if !c.allowed then none
  else
    match c.execute o false with
    | .raised => none
    | .returned r => (acceptedFill r).map fun quantity => (r, quantity)

/-- A level after a fill. -/
def bookedLevel (l : GridLevelState) (opening : Bool) (r : OrderResult) (quantity : ℚ)
    (now : Timestamp) : GridLevelState :=
  let l' := { l with lastOrderId := some r.exchangeOrderId, lastFilledAt := some now }
  if opening then openedLevel l' quantity else closedLevel l' quantity

/-- A level after a call of `_fill_level`. -/
def levelAfter (g : GridState) (l : GridLevelState) (f : LevelFill) (c : LevelCall) :
    GridLevelState :=
  ((levelOrder g l f.price f.opening f.fillType c.id).bind c.filled).elim l fun x =>
    bookedLevel l f.opening x.1 x.2 c.now

/-- The entry level of a cell after a tick. -/
def entryAfter (call : TickCall) (g : GridState) (price previous : ℚ) (cell : ℕ × ℕ)
    (entry exit : GridLevelState) : GridLevelState :=
  if g.fires price previous call.blocked entry exit then
    levelAfter g entry (cellFill cell.1 entry exit) (call.level cell.1)
  else entry

/-- The level at the entry of a cell after a tick, where there is one. -/
def cellAfter (call : TickCall) (g : GridState) (price previous : ℚ) (cell : ℕ × ℕ) :
    Option GridLevelState :=
  (g.levels[cell.1]?).map fun entry =>
    (g.levels[cell.2]?).elim entry (entryAfter call g price previous cell entry)

/-- Every call of the engine returns. -/
def TickCall.Returns (call : TickCall) : Prop :=
  ∀ i o, ∃ r, (call.level i).execute o false = .returned r

/-- Every order is admitted and filled completely. -/
structure TickCall.FillsEvery (call : TickCall) : Prop where
  allowed : ∀ i, (call.level i).allowed = true
  fills : ∀ i o, ∃ r, (call.level i).execute o false = .returned r ∧ r.status = .filled ∧
    r.filledQuantity = o.quantity

/-- The ticks of a run, one after the other. -/
def runTicks (ticks : List (TickCall × ℚ)) (w : GridWork) : GridWork :=
  ticks.foldl (fun w t => (onPriceTick t.1 t.2 w).1) w

/-- What the loop over the cells has made of the levels. -/
structure TicksLevels (call : TickCall) (r p : ℚ) (cells : List (ℕ × ℕ)) (g g' : GridState) :
    Prop where
  course : g.SameCourse g'
  frame : ∀ j, j ∉ cells.map Prod.fst → g'.levels[j]? = g.levels[j]?
  level : ∀ cell ∈ cells, g'.levels[cell.1]? = cellAfter call g r p cell

section Levels

variable {call : TickCall} {c : LevelCall} {w : GridWork} {g g₁ g' : GridState} {f : LevelFill}
  {l entry exit exit' : GridLevelState} {r p : ℚ} {cell : ℕ × ℕ} {cells : List (ℕ × ℕ)}

theorem place_bookedLevel (l : GridLevelState) (opening : Bool) (r : OrderResult) (quantity : ℚ)
    (now : Timestamp) : (bookedLevel l opening r quantity now).place = l.place := by
  unfold bookedLevel openedLevel closedLevel
  dsimp only
  split_ifs <;> rfl

theorem place_levelAfter (g : GridState) (l : GridLevelState) (f : LevelFill) (c : LevelCall) :
    (levelAfter g l f c).place = l.place := by
  unfold levelAfter
  cases (levelOrder g l f.price f.opening f.fillType c.id).bind c.filled with
  | none => rfl
  | some x => exact place_bookedLevel l f.opening x.1 x.2 c.now

theorem place_entryAfter (call : TickCall) (g : GridState) (r p : ℚ) (cell : ℕ × ℕ)
    (entry exit : GridLevelState) :
    (entryAfter call g r p cell entry exit).place = entry.place := by
  unfold entryAfter
  split
  · exact place_levelAfter g entry _ _
  · rfl

theorem place_cellAfter (call : TickCall) (g : GridState) (r p : ℚ) (cell : ℕ × ℕ) :
    (cellAfter call g r p cell).map GridLevelState.place =
      (g.levels[cell.1]?).map GridLevelState.place := by
  unfold cellAfter
  rw [Option.map_map]
  congr 1
  funext entry
  cases g.levels[cell.2]? with
  | none => rfl
  | some exit => exact place_entryAfter call g r p cell entry exit

theorem levelAfter_congr (h : g.SameOrders g') : levelAfter g' l f c = levelAfter g l f c := by
  rw [levelAfter, h.levelOrder, levelAfter]

/-- A tick sees of the exit level its price. -/
theorem entryAfter_congr (h : g.SameOrders g') (hexit : exit'.price = exit.price) :
    entryAfter call g' r p cell entry exit' = entryAfter call g r p cell entry exit := by
  have hfires : g'.fires r p call.blocked entry exit' =
      g.fires r p call.blocked entry exit := by
    simp only [GridState.fires, GridState.closesAt, GridState.opensAt, h.direction, hexit]
  have hfill : cellFill cell.1 entry exit' = cellFill cell.1 entry exit := by
    simp only [cellFill, hexit]
  rw [entryAfter, hfires, hfill, levelAfter_congr h, entryAfter]

theorem cellAfter_congr (h : g.SameOrders g') (hentry : g'.levels[cell.1]? = g.levels[cell.1]?)
    (hexit : (g'.levels[cell.2]?).map GridLevelState.place =
      (g.levels[cell.2]?).map GridLevelState.place) :
    cellAfter call g' r p cell = cellAfter call g r p cell := by
  rw [cellAfter, hentry, cellAfter]
  congr 1
  funext entry
  cases hl : g.levels[cell.2]? with
  | none =>
      rw [hl, Option.map_none, Option.map_eq_none_iff] at hexit
      rw [hexit]
      rfl
  | some exit =>
      rw [hl, Option.map_some] at hexit
      obtain ⟨exit', hexit', hplace⟩ := Option.map_eq_some_iff.1 hexit
      rw [hexit', Option.elim_some, Option.elim_some]
      exact entryAfter_congr h (congrArg Prod.snd hplace)

/-! ### The loop -/

theorem sameCourse_bookFill (g : GridState) (i : ℕ) (l : GridLevelState) (price : ℚ)
    (opening : Bool) (quantity : ℚ) (r : OrderResult) (now : Timestamp) :
    g.SameCourse (updateMarkToMarket (bookFill g i l price opening quantity r now) price) := by
  cases opening <;> exact ⟨⟨rfl, rfl, rfl, rfl, rfl, rfl⟩, rfl⟩

theorem sameCourse_fillLevel (w : GridWork) (f : LevelFill) (c : LevelCall) :
    w.grid.SameCourse (fillLevel w f.place f.price f.opening f.fillType c).1.grid :=
  rel_fillLevel f.price w .refl sameCourse_bookFill f.place f.opening f.fillType c

theorem set_getElem?_self {α : Type*} {xs : List α} {i : ℕ} {x : α} (h : xs[i]? = some x) :
    xs.set i x = xs := by
  obtain ⟨hlt, rfl⟩ := List.getElem?_eq_some_iff.1 h
  exact List.set_getElem_self hlt

/-- A call of `_fill_level` changes one level, and it does so when an order was filled. -/
theorem levels_fillLevel (hl : w.grid.levels[f.place]? = some l) (c : LevelCall) :
    (fillLevel w f.place f.price f.opening f.fillType c).1.grid.levels =
      w.grid.levels.set f.place (levelAfter w.grid l f c) := by
  unfold fillLevel levelAfter
  rw [hl]
  dsimp only
  cases levelOrder w.grid l f.price f.opening f.fillType c.id with
  | none => exact (set_getElem?_self hl).symm
  | some o =>
      rw [Option.bind_some, LevelCall.filled]
      dsimp only
      split
      · exact (set_getElem?_self hl).symm
      · cases c.execute o false with
        | raised => exact (set_getElem?_self hl).symm
        | returned r =>
            dsimp only
            unfold fillResult
            cases acceptedFill r with
            | none => exact (set_getElem?_self hl).symm
            | some quantity => cases f.opening <;> rfl

theorem TickCall.Returns.fillLevel_snd (h : call.Returns) (w : GridWork) (f : LevelFill) :
    (fillLevel w f.place f.price f.opening f.fillType (call.level f.place)).2 = false := by
  unfold fillLevel
  split
  · rfl
  · split
    · rfl
    next o ho =>
      obtain ⟨r, hr⟩ := h f.place o
      split
      · rfl
      · rw [hr]

namespace TicksLevels

theorem nil (g : GridState) : TicksLevels call r p [] g g :=
  ⟨.refl g, fun _ _ => rfl, by simp⟩

/-- A cell that nothing is ordered for. -/
theorem skip (h : cellAfter call g r p cell = g.levels[cell.1]?) :
    TicksLevels call r p [cell] g g where
  course := .refl g
  frame := fun _ _ => rfl
  level := fun c hc => by rw [List.mem_singleton.1 hc, h]

theorem places (h : TicksLevels call r p cells g g') (j : ℕ) :
    (g'.levels[j]?).map GridLevelState.place = (g.levels[j]?).map GridLevelState.place := by
  by_cases hj : j ∈ cells.map Prod.fst
  · obtain ⟨cell, hcell, rfl⟩ := List.mem_map.1 hj
    rw [h.level cell hcell, place_cellAfter]
  · rw [h.frame j hj]

theorem cons (hcell : cell.1 ∉ cells.map Prod.fst) (h : TicksLevels call r p [cell] g g₁)
    (h' : TicksLevels call r p cells g₁ g') : TicksLevels call r p (cell :: cells) g g' where
  course := h.course.trans h'.course
  frame := by
    intro j hj
    rw [List.map_cons, List.mem_cons, not_or] at hj
    rw [h'.frame j hj.2, h.frame j (by simpa using hj.1)]
  level := by
    intro c hc
    rcases List.mem_cons.1 hc with rfl | hc
    · rw [h'.frame c.1 hcell, h.level c List.mem_cons_self]
    · rw [h'.level c hc]
      refine cellAfter_congr h.course.orders (h.frame c.1 fun hmem => hcell ?_) (h.places c.2)
      rw [List.map_singleton, List.mem_singleton] at hmem
      exact hmem ▸ List.mem_map_of_mem hc

end TicksLevels

/-- The loop fills a cell when the tick fires for its levels. -/
theorem GridLoop.tick_fill_eq_some_iff {blocked : Bool} :
    (GridLoop.tick r p blocked).fill g cell = some f ↔
      ∃ entry exit, g.levels[cell.1]? = some entry ∧ g.levels[cell.2]? = some exit ∧
        g.fires r p blocked entry exit = true ∧ f = cellFill cell.1 entry exit := by
  cases hentry : g.levels[cell.1]? with
  | none => simp [GridLoop.fill, hentry]
  | some entry =>
      cases hexit : g.levels[cell.2]? with
      | none => simp [GridLoop.fill, hentry, hexit]
      | some exit =>
          simp only [GridLoop.fill, hentry, hexit, tickFill_eq, Option.some.injEq,
            exists_and_left, exists_eq_left']
          cases g.fires r p blocked entry exit <;> simp [eq_comm]

/-- A cell that the loop passes over. -/
theorem ticksLevels_of_fill_eq_none
    (hf : (GridLoop.tick r p call.blocked).fill g cell = none) :
    TicksLevels call r p [cell] g g := by
  refine .skip ?_
  rw [cellAfter]
  cases hentry : g.levels[cell.1]? with
  | none => rfl
  | some entry =>
      cases hexit : g.levels[cell.2]? with
      | none => rfl
      | some exit =>
          have hfires : g.fires r p call.blocked entry exit = false := by
            by_contra hfires
            rw [GridLoop.tick_fill_eq_some_iff.2
              ⟨entry, exit, hentry, hexit, by simpa using hfires, rfl⟩] at hf
            cases hf
          simp [entryAfter, hfires]

/-- A cell that the loop fills. -/
theorem ticksLevels_of_fill_eq_some (h : call.Returns)
    (hf : (GridLoop.tick r p call.blocked).fill w.grid cell = some f) :
    ∃ w', fillLevel w f.place f.price f.opening f.fillType (call.level f.place) = (w', false) ∧
      TicksLevels call r p [cell] w.grid w'.grid := by
  obtain ⟨entry, exit, hentry, hexit, hfires, rfl⟩ := GridLoop.tick_fill_eq_some_iff.1 hf
  refine ⟨_, Prod.ext rfl (h.fillLevel_snd w _), sameCourse_fillLevel w _ _, fun j hj => ?_,
    fun c hc => ?_⟩
  · rw [List.map_singleton, List.mem_singleton] at hj
    rw [levels_fillLevel hentry]
    exact List.getElem?_set_ne (Ne.symm hj)
  · obtain ⟨hlt, -⟩ := List.getElem?_eq_some_iff.1 hentry
    obtain rfl := List.mem_singleton.1 hc
    rw [levels_fillLevel hentry, cellAfter, hentry, hexit, Option.map_some, Option.elim_some,
      entryAfter, hfires, if_pos rfl]
    exact List.getElem?_set_self hlt

/-- The loop comes to its end, and makes of each entry level what it finds for its cell. -/
theorem tickLevels_ticksLevels (h : call.Returns) (hcells : (cells.map Prod.fst).Nodup)
    (w : GridWork) :
    ∃ w', tickLevels call r p cells w = (w', false) ∧
      TicksLevels call r p cells w.grid w'.grid := by
  induction cells generalizing w with
  | nil => exact ⟨w, rfl, .nil w.grid⟩
  | cons cell cells ih =>
      rw [List.map_cons, List.nodup_cons] at hcells
      rw [tickLevels]
      cases hf : (GridLoop.tick r p call.blocked).fill w.grid cell with
      | none =>
          obtain ⟨w', hw', hrest⟩ := ih hcells.2 w
          exact ⟨w', hw', .cons hcells.1 (ticksLevels_of_fill_eq_none hf) hrest⟩
      | some f =>
          obtain ⟨w₁, hw₁, hfirst⟩ := ticksLevels_of_fill_eq_some h hf
          obtain ⟨w', hw', hrest⟩ := ih hcells.2 w₁
          refine ⟨w', ?_, .cons hcells.1 hfirst hrest⟩
          dsimp only
          rw [hw₁]
          exact hw'

/-- A tick of an active grid. -/
theorem onPriceTick_ticksLevels (h : call.Returns) (hactive : w.grid.isActive = true) (r : ℚ) :
    ∃ w', onPriceTick call r w = (w', false) ∧ w'.grid.lastPrice = some r ∧
      TicksLevels call r (w.grid.lastPrice.getD r) (tickCells w.grid) w.grid w'.grid := by
  obtain ⟨w', hw', hticks⟩ := tickLevels_ticksLevels (r := r) (p := w.grid.lastPrice.getD r) h
    (nodup_tickCells w.grid) w
  exact ⟨_, onPriceTick_of_tickLevels hactive hw', rfl, hticks.course.marked r, hticks.frame,
    hticks.level⟩

end Levels

/-! ### What no tick changes -/

section Frame

variable {call : TickCall} {w : GridWork} {g g' g'' : GridState} {r p : ℚ} {cell : ℕ × ℕ}
  {cells : List (ℕ × ℕ)} {ticks : List (TickCall × ℚ)}

/-- Two states of a grid with the same course and with the same levels up to their fills. -/
structure GridState.SameFrame (g g' : GridState) : Prop where
  course : g.SameCourse g'
  places : g'.levels.map GridLevelState.place = g.levels.map GridLevelState.place

namespace GridState.SameFrame

theorem refl (g : GridState) : g.SameFrame g := ⟨.refl g, rfl⟩

theorem trans (h : g.SameFrame g') (h' : g'.SameFrame g'') : g.SameFrame g'' :=
  ⟨h.course.trans h'.course, h'.places.trans h.places⟩

theorem length_eq (h : g.SameFrame g') : g'.levels.length = g.levels.length := by
  simpa using congrArg List.length h.places

theorem prices_eq (h : g.SameFrame g') :
    g'.levels.map GridLevelState.price = g.levels.map GridLevelState.price := by
  have hprices := congrArg (List.map Prod.snd) h.places
  rwa [List.map_map, List.map_map] at hprices

theorem indices_eq (h : g.SameFrame g') :
    g'.levels.map GridLevelState.index = g.levels.map GridLevelState.index := by
  have hindices := congrArg (List.map Prod.fst) h.places
  rwa [List.map_map, List.map_map] at hindices

theorem isActive (h : g.SameFrame g') : g'.isActive = g.isActive := by
  rw [GridState.isActive, h.course.status, GridState.isActive]

theorem tickCells_eq (h : g.SameFrame g') : tickCells g' = tickCells g := by
  have hindex : g'.indexAt = g.indexAt := by
    funext j
    have hj := congrArg (fun is : List ℕ => (is[j]?).elim 0 fun n => n) h.indices_eq
    simpa [GridState.indexAt, Option.elim_map, Function.comp_def] using hj
  simp only [tickCells, sortedPlaces, hindex, h.length_eq, h.course.orders.direction]

theorem inOrder (h : g.SameFrame g') (hg : g.InOrder) : g'.InOrder := by
  rw [GridState.InOrder, h.indices_eq, h.length_eq, hg]

end GridState.SameFrame

theorem TicksLevels.sameFrame (h : TicksLevels call r p cells g g') : g.SameFrame g' where
  course := h.course
  places := by
    apply List.ext_getElem?
    intro j
    simpa using h.places j

theorem sameFrame_onPriceTick (h : call.Returns) (r : ℚ) (w : GridWork) :
    w.grid.SameFrame (onPriceTick call r w).1.grid := by
  cases hactive : w.grid.isActive with
  | false =>
      rw [onPriceTick_of_not_isActive hactive]
      exact .refl w.grid
  | true =>
      obtain ⟨w', hw', -, hticks⟩ := onPriceTick_ticksLevels h hactive r
      rw [hw']
      exact hticks.sameFrame

theorem lastPrice_onPriceTick (h : call.Returns) (hactive : w.grid.isActive = true) (r : ℚ) :
    (onPriceTick call r w).1.grid.lastPrice = some r := by
  obtain ⟨w', hw', hlast, -⟩ := onPriceTick_ticksLevels h hactive r
  rw [hw']
  exact hlast

theorem sameFrame_runTicks (h : ∀ t ∈ ticks, t.1.Returns) :
    w.grid.SameFrame (runTicks ticks w).grid := by
  induction ticks generalizing w with
  | nil => exact .refl w.grid
  | cons t ticks ih =>
      have hfirst := sameFrame_onPriceTick (h t List.mem_cons_self) t.2 w
      exact hfirst.trans (ih fun t' ht' => h t' (List.mem_cons_of_mem t ht'))

end Frame

/-- A new grid has its levels in the order of their indices. -/
theorem inOrder_buildGridState (plan : GridPlan) : (buildGridState plan).InOrder := by
  have hindices := indices_freshLevels plan.prices
  have hlength := length_freshLevels plan.prices
  rw [GridState.InOrder]
  show (freshLevels plan.prices).map GridLevelState.index =
    List.range (freshLevels plan.prices).length
  rw [hindices, hlength]

/-! ### An engine that fills every order -/

section FillsEvery

variable {call : TickCall} {g : GridState} {l entry exit : GridLevelState} {f : LevelFill}
  {place i : ℕ}

theorem TickCall.FillsEvery.returns (h : call.FillsEvery) : call.Returns := fun i o =>
  let ⟨r, hr, _⟩ := h.fills i o
  ⟨r, hr⟩

/-- An order for a positive quantity is filled by this quantity. -/
theorem TickCall.FillsEvery.filled (h : call.FillsEvery) (i : ℕ) (o : OrderRequest) :
    ∃ r, (call.level i).filled o = if o.quantity ≤ 0 then none else some (r, o.quantity) := by
  obtain ⟨r, hr, hstatus, hquantity⟩ := h.fills i o
  have haccepted : acceptedFill r = if o.quantity ≤ 0 then none else some o.quantity := by
    unfold acceptedFill
    rw [hstatus, hquantity, if_neg (by decide)]
  refine ⟨r, ?_⟩
  rw [LevelCall.filled, h.allowed i, hr, Bool.not_true, if_neg Bool.false_ne_true]
  dsimp only
  rw [haccepted]
  split_ifs <;> rfl

/-- A level is filled by the quantity that is ordered for it. -/
theorem TickCall.FillsEvery.levelAfter_eq (h : call.FillsEvery) {quantity : ℚ}
    (hquantity : fillQuantity g l f.price f.opening = some quantity) (hpos : 0 < quantity)
    (i : ℕ) :
    ∃ r, levelAfter g l f (call.level i) =
      bookedLevel l f.opening r quantity (call.level i).now := by
  unfold levelAfter levelOrder
  rw [hquantity, Option.map_some, Option.bind_some]
  obtain ⟨r, hr⟩ := h.filled i _
  refine ⟨r, ?_⟩
  rw [hr, if_neg (not_le.2 hpos), Option.elim_some]

/-- A level stays as it is when no positive quantity is ordered for it. -/
theorem TickCall.FillsEvery.levelAfter_eq_self (h : call.FillsEvery)
    (hnonpos : ∀ quantity ∈ fillQuantity g l f.price f.opening, quantity ≤ 0) (i : ℕ) :
    levelAfter g l f (call.level i) = l := by
  unfold levelAfter levelOrder
  cases hquantity : fillQuantity g l f.price f.opening with
  | none => rfl
  | some quantity =>
      obtain ⟨r, hr⟩ := h.filled i _
      rw [Option.map_some, Option.bind_some, hr, if_pos (hnonpos quantity hquantity),
        Option.elim_none]

/-- An empty level is opened with the position size at its price, where this is a positive
quantity. -/
theorem TickCall.FillsEvery.levelAfter_opening (h : call.FillsEvery)
    (hentry : entry.isFilled = false) (g : GridState) (place i : ℕ) (exit : GridLevelState) :
    levelAfter g entry (cellFill place entry exit) (call.level i) = entry ∨
      (levelAfter g entry (cellFill place entry exit) (call.level i)).isFilled = true ∧
      (levelAfter g entry (cellFill place entry exit) (call.level i)).quantity =
        g.parameters.positionSize / entry.price ∧
      0 < g.parameters.positionSize / entry.price := by
  have hquantity : fillQuantity g entry (cellFill place entry exit).price
      (cellFill place entry exit).opening =
        if g.parameters.positionSize ≤ 0 then none
        else some (g.parameters.positionSize / entry.price) := by
    simp [cellFill, hentry, fillQuantity]
  by_cases hsize : g.parameters.positionSize ≤ 0
  · refine .inl (h.levelAfter_eq_self ?_ i)
    simp [hquantity, hsize]
  · rw [if_neg hsize] at hquantity
    by_cases hpos : 0 < g.parameters.positionSize / entry.price
    · obtain ⟨r, hr⟩ := h.levelAfter_eq hquantity hpos i
      rw [hr]
      simp [cellFill, hentry, bookedLevel, openedLevel, hpos]
    · refine .inl (h.levelAfter_eq_self ?_ i)
      simpa [hquantity] using hpos

/-- A level at a positive price is opened, where the position size is positive. -/
theorem TickCall.FillsEvery.isFilled_levelAfter_opening (h : call.FillsEvery)
    (hentry : entry.isFilled = false) (hprice : 0 < entry.price) (g : GridState) (place i : ℕ)
    (exit : GridLevelState) :
    (levelAfter g entry (cellFill place entry exit) (call.level i)).isFilled =
      decide (0 < g.parameters.positionSize) := by
  by_cases hsize : g.parameters.positionSize ≤ 0
  · rw [h.levelAfter_eq_self (by simp [cellFill, hentry, fillQuantity, hsize]), hentry]
    simp [hsize]
  · obtain ⟨r, hr⟩ := h.levelAfter_eq (g := g) (l := entry) (f := cellFill place entry exit)
      (by simp [cellFill, hentry, fillQuantity, hsize]) (div_pos (not_le.1 hsize) hprice) i
    rw [hr]
    simp [cellFill, hentry, bookedLevel, openedLevel, not_le.1 hsize]

/-- A level that holds something is closed. -/
theorem TickCall.FillsEvery.isFilled_levelAfter_closing (h : call.FillsEvery)
    (hentry : entry.isFilled = true) (hheld : 0 < entry.quantity) (g : GridState)
    (place i : ℕ) (exit : GridLevelState) :
    (levelAfter g entry (cellFill place entry exit) (call.level i)).isFilled = false := by
  have hquantity : fillQuantity g entry (cellFill place entry exit).price
      (cellFill place entry exit).opening = some entry.quantity := by
    simp [cellFill, hentry, fillQuantity, hheld]
  obtain ⟨r, hr⟩ := h.levelAfter_eq hquantity hheld i
  rw [hr]
  simp [cellFill, hentry, bookedLevel, closedLevel, gridEpsilon_pos.le]

theorem fillsEvery_completely : TickCall.completely.FillsEvery where
  allowed := fun _ => rfl
  fills := fun _ _ => ⟨_, rfl, rfl, rfl⟩

end FillsEvery

end Sgr
