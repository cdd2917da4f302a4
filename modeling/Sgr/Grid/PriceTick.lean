import Mathlib.Tactic.Linarith
import Sgr.Grid.LevelTotals

/-!
# Price ticks

`on_price_tick` of `sgr/execution/grid_controller.py`, one call after the other. With an
engine that fills every order completely, a tick does to each cell what depends on that
cell only; so a monotone price move comes to the same, however finely it is sampled.
-/

namespace Sgr

/-- What a call of `on_price_tick` takes from outside: a call for each place of the list of
levels, and whether the symbol is deactivated. -/
structure TickCall where
  level : ℕ → LevelCall
  blocked : Bool := false

/-- The loop of `on_price_tick` over the cells. -/
def tickLevels (call : TickCall) (price previous : ℚ) :
    List (ℕ × ℕ) → GridWork → GridWork × Bool
  | [], w => (w, false)
  | cell :: cells, w =>
      match (GridLoop.tick price previous call.blocked).fill w.grid cell with
      | none => tickLevels call price previous cells w
      | some f =>
          match fillLevel w f.place f.price f.opening f.fillType (call.level f.place) with
          | (w', true) => (w', true)
          | (w', false) => tickLevels call price previous cells w'

/-- `on_price_tick`; the flag says that an exception has left it. -/
def onPriceTick (call : TickCall) (price : ℚ) (w : GridWork) : GridWork × Bool :=
  if !w.grid.isActive then (w, false)
  else
    match tickLevels call price (w.grid.lastPrice.getD price) (tickCells w.grid) w with
    | (w', true) => (w', true)
    | (w', false) =>
        ({ w' with grid := updateMarkToMarket { w'.grid with lastPrice := some price } price },
          false)

/-- A tick of an active grid whose loop ends without an exception. -/
theorem onPriceTick_of_tickLevels {call : TickCall} {price : ℚ} {w w' : GridWork}
    (hactive : w.grid.isActive = true)
    (h : tickLevels call price (w.grid.lastPrice.getD price) (tickCells w.grid) w = (w', false)) :
    onPriceTick call price w =
      ({ w' with grid := updateMarkToMarket { w'.grid with lastPrice := some price } price },
        false) := by
  rw [onPriceTick, hactive, Bool.not_true, if_neg Bool.false_ne_true, h]

/-- What every booking of a fill keeps, the loop of `on_price_tick` keeps. -/
theorem rel_tickLevels {R : GridState → GridState → Prop} (hrefl : ∀ g, R g g)
    (htrans : ∀ g g' g'', R g g' → R g' g'' → R g g'')
    (hbook : ∀ g i l price opening quantity r now,
      R g (updateMarkToMarket (bookFill g i l price opening quantity r now) price))
    (call : TickCall) (price previous : ℚ) (cells : List (ℕ × ℕ)) (w : GridWork) :
    R w.grid (tickLevels call price previous cells w).1.grid := by
  induction cells generalizing w with
  | nil => exact hrefl _
  | cons cell cells ih =>
      rw [tickLevels]
      split
      · exact ih w
      next f hf =>
        have hfill := rel_fillLevel f.price w hrefl hbook f.place f.opening f.fillType
          (call.level f.place)
        split
        next v hv =>
          rw [hv] at hfill
          exact hfill
        next v hv =>
          rw [hv] at hfill
          exact htrans _ _ _ hfill (ih v)

/-- An order without the ids, which are new for each order. -/
def OrderRequest.anonymous (o : OrderRequest) : OrderRequest := { o with id := 0, signalId := 0 }

/-- Every order is admitted and filled completely, for fees that depend on the order. -/
structure TickCall.FillsAll (call : TickCall) (fees : OrderRequest → ℚ) : Prop where
  allowed : ∀ i, (call.level i).allowed = true
  fills : ∀ i o, ∃ r, (call.level i).execute o false = .returned r ∧ r.status = .filled ∧
    r.filledQuantity = o.quantity ∧ r.fees = fees o.anonymous

/-- A level without the id and the time of its last order. -/
def GridLevelState.core (l : GridLevelState) : GridLevelState :=
  { l with lastOrderId := none, lastFilledAt := none }

/-- The level at a place, without the id and the time of its last order. -/
def GridState.coreAt (g : GridState) (i : ℕ) : Option GridLevelState :=
  (g.levels[i]?).map GridLevelState.core

/-- Two grids with the same level fill states, level quantities, net position and realized
profit. -/
structure GridState.SameFills (g g' : GridState) : Prop where
  levels : g'.levels.map GridLevelState.core = g.levels.map GridLevelState.core
  net : g'.netPositionQty = g.netPositionQty
  realized : g'.realizedPnl = g.realizedPnl

/-! ### What a tick does to a cell -/

namespace GridState

/-- The price has crossed the level in the direction in which the grid opens. -/
def opensAt (g : GridState) (price previous level : ℚ) : Bool :=
  crossed price previous level &&
    if g.direction = .long then decide (price < previous) else decide (previous < price)

/-- The price has crossed the level in the direction in which the grid closes. -/
def closesAt (g : GridState) (price previous level : ℚ) : Bool :=
  crossed price previous level &&
    if g.direction = .long then decide (previous < price) else decide (price < previous)

/-- A tick fills the cell. -/
def fires (g : GridState) (price previous : ℚ) (blocked : Bool)
    (entry exit : GridLevelState) : Bool :=
  if entry.isFilled then g.closesAt price previous exit.price
  else g.opensAt price previous entry.price && !blocked

end GridState

/-- The fill of a cell. -/
def cellFill (place : ℕ) (entry exit : GridLevelState) : LevelFill where
  place := place
  price := if entry.isFilled then exit.price else entry.price
  opening := !entry.isFilled
  fillType := gridFillTypeLevelCross

/-- What a tick does to the entry level of a cell, and what it adds to the net position and
to the realized profit. -/
structure CellChange where
  after : GridLevelState
  net : ℚ := 0
  realized : ℚ := 0

/-- What a fill does to a level, when its order is filled completely. -/
def fillChange (fees : OrderRequest → ℚ) (g : GridState) (l : GridLevelState) (f : LevelFill) :
    CellChange :=
  match levelOrder g l f.price f.opening f.fillType 0 with
  | none => ⟨l, 0, 0⟩
  | some o =>
      if o.quantity ≤ 0 then ⟨l, 0, 0⟩
      else if f.opening then ⟨openedLevel l o.quantity, g.sideFactor * o.quantity, 0⟩
      else
        ⟨closedLevel l o.quantity, -(g.sideFactor * o.quantity),
          (f.price - l.price) * o.quantity * g.sideFactor - fees o⟩

/-- What a tick does to a cell, when every order is filled completely. -/
def tickChange (fees : OrderRequest → ℚ) (g : GridState) (price previous : ℚ) (blocked : Bool)
    (entry exit : GridLevelState) : CellChange :=
  if g.fires price previous blocked entry exit then
    fillChange fees g entry (cellFill 0 entry exit)
  else ⟨entry, 0, 0⟩

section Cells

variable {fees : OrderRequest → ℚ} {g g' : GridState} {p q r level : ℚ} {blocked : Bool}
  {place : ℕ} {l entry exit exit' : GridLevelState} {f : LevelFill}

theorem tickFill_eq (g : GridState) (r p : ℚ) (blocked : Bool) (place : ℕ)
    (entry exit : GridLevelState) :
    tickFill g r p blocked place entry exit =
      if g.fires r p blocked entry exit then some (cellFill place entry exit) else none := by
  cases hentry : entry.isFilled with
  | true =>
      by_cases hlong : g.direction = .long
      · simp [tickFill, GridState.fires, GridState.closesAt, cellFill, hentry, hlong]
      · simp [tickFill, GridState.fires, GridState.closesAt, cellFill, hentry, hlong]
  | false =>
      by_cases hlong : g.direction = .long
      · cases blocked <;>
          simp [tickFill, GridState.fires, GridState.opensAt, cellFill, hentry, hlong]
      · cases blocked <;>
          simp [tickFill, GridState.fires, GridState.opensAt, cellFill, hentry, hlong]

theorem fillChange_congr (h : g.SameOrders g') :
    fillChange fees g' l f = fillChange fees g l f := by
  simp only [fillChange, h.levelOrder, h.sideFactor]

/-- A cell is changed by what the grid orders for, its entry level and its exit price. -/
theorem tickChange_congr (h : g.SameOrders g') (hexit : exit'.price = exit.price) :
    tickChange fees g' r p blocked entry exit' = tickChange fees g r p blocked entry exit := by
  have hfires : g'.fires r p blocked entry exit' = g.fires r p blocked entry exit := by
    simp only [GridState.fires, GridState.closesAt, GridState.opensAt, h.direction, hexit]
  have hfill : cellFill 0 entry exit' = cellFill 0 entry exit := by
    simp only [cellFill, hexit]
  rw [tickChange, hfires, hfill, fillChange_congr h, tickChange]

/-- A monotone move from the first price to the last comes through the second. -/
def MovesThrough (p q r : ℚ) : Prop := p ≤ q ∧ q ≤ r ∨ r ≤ q ∧ q ≤ p

theorem opensAt_comp (h : MovesThrough p q r) :
    g.opensAt r p level = (g.opensAt q p level || g.opensAt r q level) := by
  unfold GridState.opensAt crossed MovesThrough at *
  grind

theorem closesAt_comp (h : MovesThrough p q r) :
    g.closesAt r p level = (g.closesAt q p level || g.closesAt r q level) := by
  unfold GridState.closesAt crossed MovesThrough at *
  grind

/-- A price that goes on in the direction in which it has opened a level crosses nothing
that it could fill on the way. -/
theorem not_opensAt_of_opensAt (h : MovesThrough p q r) (hopens : g.opensAt q p level = true) :
    g.opensAt r q level = false ∧ ∀ level', g.closesAt r q level' = false := by
  unfold GridState.opensAt GridState.closesAt crossed MovesThrough at *
  grind

theorem not_closesAt_of_closesAt (h : MovesThrough p q r) (hcloses : g.closesAt q p level = true) :
    g.closesAt r q level = false ∧ ∀ level', g.opensAt r q level' = false := by
  unfold GridState.opensAt GridState.closesAt crossed MovesThrough at *
  grind

theorem fires_comp (h : MovesThrough p q r) :
    g.fires r p blocked entry exit =
      (g.fires q p blocked entry exit || g.fires r q blocked entry exit) := by
  unfold GridState.fires
  split
  · exact closesAt_comp h
  · rw [opensAt_comp h, Bool.and_or_distrib_right]

/-- The fill of a cell turns its level over, or nothing is ordered for it. -/
theorem after_fillChange_cellFill (fees : OrderRequest → ℚ) (g : GridState) (place : ℕ)
    (entry exit : GridLevelState) :
    (fillChange fees g entry (cellFill place entry exit)).after = entry ∨
      (fillChange fees g entry (cellFill place entry exit)).after.isFilled = !entry.isFilled := by
  unfold fillChange
  split
  · exact .inl rfl
  next o ho =>
    split
    · exact .inl rfl
    next hpos =>
      right
      cases hentry : entry.isFilled with
      | false => simp [cellFill, hentry, openedLevel]
      | true =>
          have hquantity : o.quantity = entry.quantity := by
            obtain ⟨quantity, hquantity, rfl⟩ := Option.map_eq_some_iff.1 ho
            simp only [cellFill, hentry, fillQuantity, Bool.not_true, Bool.false_eq_true,
              if_false] at hquantity
            split at hquantity
            · cases hquantity
            · exact (Option.some.inj hquantity).symm
          have heps := gridEpsilon_pos
          simp [cellFill, hentry, closedLevel, hquantity, heps.le]

/-- A fill moves no level. -/
theorem place_fillChange (fees : OrderRequest → ℚ) (g : GridState) (l : GridLevelState)
    (f : LevelFill) :
    (fillChange fees g l f).after.index = l.index ∧
      (fillChange fees g l f).after.price = l.price := by
  unfold fillChange
  split
  · exact ⟨rfl, rfl⟩
  · unfold openedLevel closedLevel
    split_ifs <;> exact ⟨rfl, rfl⟩

/-- A cell that has been filled on the way is not filled again. -/
theorem not_fires_after (h : MovesThrough p q r) (hfires : g.fires q p blocked entry exit = true) :
    g.fires r q blocked (fillChange fees g entry (cellFill place entry exit)).after exit =
      false := by
  have hafter := after_fillChange_cellFill fees g place entry exit
  have hprice := (place_fillChange fees g entry (cellFill place entry exit)).2
  revert hafter hprice
  generalize (fillChange fees g entry (cellFill place entry exit)).after = entry'
  intro hafter hprice
  cases hentry : entry.isFilled with
  | true =>
      rw [GridState.fires, hentry, if_pos rfl] at hfires
      obtain ⟨hcloses, hopens⟩ := not_closesAt_of_closesAt h hfires
      rcases hafter with rfl | hafter
      · rw [GridState.fires, hentry, if_pos rfl, hcloses]
      · rw [GridState.fires, hafter, hentry, Bool.not_true, if_neg Bool.false_ne_true, hopens,
          Bool.false_and]
  | false =>
      rw [GridState.fires, hentry, if_neg Bool.false_ne_true, Bool.and_eq_true] at hfires
      obtain ⟨hopens, hcloses⟩ := not_opensAt_of_opensAt h hfires.1
      rcases hafter with rfl | hafter
      · rw [GridState.fires, hentry, if_neg Bool.false_ne_true, hopens, Bool.false_and]
      · rw [GridState.fires, hafter, hentry, Bool.not_false, if_pos rfl, hcloses]

/-- One change after the other. -/
def CellChange.andThen (c d : CellChange) : CellChange :=
  ⟨d.after, c.net + d.net, c.realized + d.realized⟩

/-- A cell comes to the same in two ticks as in one. -/
theorem tickChange_comp (fees : OrderRequest → ℚ) (g : GridState) (blocked : Bool)
    (entry exit : GridLevelState) (h : MovesThrough p q r) :
    tickChange fees g r p blocked entry exit =
      (tickChange fees g q p blocked entry exit).andThen
        (tickChange fees g r q blocked (tickChange fees g q p blocked entry exit).after exit) := by
  cases hfires : g.fires q p blocked entry exit with
  | true =>
      have hlate : g.fires r q blocked (fillChange fees g entry (cellFill 0 entry exit)).after
          exit = false := not_fires_after h hfires
      simp [tickChange, fires_comp h, hfires, hlate, CellChange.andThen]
  | false => simp [tickChange, fires_comp h, hfires, CellChange.andThen]

theorem place_tickChange (fees : OrderRequest → ℚ) (g : GridState) (r p : ℚ) (blocked : Bool)
    (entry exit : GridLevelState) :
    (tickChange fees g r p blocked entry exit).after.index = entry.index ∧
      (tickChange fees g r p blocked entry exit).after.price = entry.price := by
  unfold tickChange
  split
  · exact place_fillChange fees g entry _
  · exact ⟨rfl, rfl⟩

end Cells

/-! ### What a tick does to a grid -/

section Fills

variable {fees : OrderRequest → ℚ} {call : TickCall} {w : GridWork} {g g' g'' : GridState}
  {f : LevelFill} {l : GridLevelState} {c : CellChange} {i : ℕ}

/-- Two states of a grid that are worked on in the same way. -/
structure GridState.SameCourse (g g' : GridState) : Prop where
  orders : g.SameOrders g'
  status : g'.status = g.status

theorem GridState.SameCourse.refl (g : GridState) : g.SameCourse g := ⟨.refl g, rfl⟩

theorem GridState.SameCourse.trans (h : g.SameCourse g') (h' : g'.SameCourse g'') :
    g.SameCourse g'' :=
  ⟨h.orders.trans h'.orders, h'.status.trans h.status⟩

/-- The last price and the mark to market have no part in the course of a grid. -/
theorem GridState.SameCourse.marked (h : g.SameCourse g') (price : ℚ) :
    g.SameCourse (updateMarkToMarket { g' with lastPrice := some price } price) :=
  ⟨⟨h.orders.id, h.orders.symbol, h.orders.strategyName, h.orders.tradingMode, h.orders.direction,
    h.orders.parameters⟩, h.status⟩

/-- The change `c` of the level at place `i`. -/
structure GridState.Changes (g g' : GridState) (i : ℕ) (c : CellChange) : Prop where
  course : g.SameCourse g'
  frame : ∀ j, j ≠ i → g'.coreAt j = g.coreAt j
  level : g'.coreAt i = some c.after
  net : g'.netPositionQty = g.netPositionQty + c.net
  realized : g'.realizedPnl = g.realizedPnl + c.realized

theorem GridState.coreAt_of_getElem? (hl : g.levels[i]? = some l) :
    g.coreAt i = some l.core := by
  rw [coreAt, hl, Option.map_some]

theorem GridState.Changes.none (hl : g.coreAt i = some l) : g.Changes g i ⟨l, 0, 0⟩ where
  course := .refl g
  frame := fun _ _ => rfl
  level := hl
  net := (add_zero _).symm
  realized := (add_zero _).symm

theorem anonymous_levelOrder (g : GridState) (l : GridLevelState) (price : ℚ) (opening : Bool)
    (fillType : String) (id : UUID) :
    (levelOrder g l price opening fillType id).map OrderRequest.anonymous =
      levelOrder g l.core price opening fillType 0 := by
  rw [levelOrder, Option.map_map, levelOrder]
  rfl

theorem bookFill_changes (hl : g.levels[f.place]? = some l) (r : OrderResult) (now : Timestamp)
    {o : OrderRequest} (hfees : r.fees = fees o.anonymous) (hpos : 0 < o.quantity)
    (ho : levelOrder g l.core f.price f.opening f.fillType 0 = some o.anonymous) :
    g.Changes (updateMarkToMarket (bookFill g f.place l f.price f.opening o.quantity r now)
      f.price) f.place (fillChange fees g l.core f) := by
  obtain ⟨hlt, -⟩ := List.getElem?_eq_some_iff.1 hl
  have hchange : fillChange fees g l.core f =
      if f.opening then ⟨openedLevel l.core o.quantity, g.sideFactor * o.quantity, 0⟩
      else ⟨closedLevel l.core o.quantity, -(g.sideFactor * o.quantity),
        (f.price - l.price) * o.quantity * g.sideFactor - fees o.anonymous⟩ := by
    rw [fillChange, ho]
    exact if_neg (not_le.2 hpos)
  rw [hchange]
  cases hopening : f.opening with
  | true =>
      refine ⟨⟨⟨rfl, rfl, rfl, rfl, rfl, rfl⟩, rfl⟩, fun j hj => ?_, ?_, rfl,
        (add_zero _).symm⟩
      · exact congrArg _ (List.getElem?_set_ne (Ne.symm hj))
      · exact congrArg (Option.map GridLevelState.core) (List.getElem?_set_self hlt)
  | false =>
      refine ⟨⟨⟨rfl, rfl, rfl, rfl, rfl, rfl⟩, rfl⟩, fun j hj => ?_, ?_,
        sub_eq_add_neg _ _, ?_⟩
      · exact congrArg _ (List.getElem?_set_ne (Ne.symm hj))
      · refine (congrArg (Option.map GridLevelState.core) (List.getElem?_set_self hlt)).trans ?_
        rw [if_neg Bool.false_ne_true]
        unfold closedLevel
        split <;> split <;> first | rfl | contradiction
      · rw [if_neg Bool.false_ne_true, ← hfees]
        rfl

/-- A call of `_fill_level` whose order is filled completely. -/
theorem fillLevel_fillsAll (h : call.FillsAll fees) (hl : w.grid.levels[f.place]? = some l) :
    ∃ w', fillLevel w f.place f.price f.opening f.fillType (call.level f.place) = (w', false) ∧
      w.grid.Changes w'.grid f.place (fillChange fees w.grid l.core f) := by
  have hanonymous := anonymous_levelOrder w.grid l f.price f.opening f.fillType
    (call.level f.place).id
  unfold fillLevel
  rw [hl]
  dsimp only
  cases ho : levelOrder w.grid l f.price f.opening f.fillType (call.level f.place).id with
  | none =>
      rw [ho, Option.map_none] at hanonymous
      refine ⟨w, rfl, ?_⟩
      rw [fillChange, ← hanonymous]
      exact .none (GridState.coreAt_of_getElem? hl)
  | some o =>
      rw [ho, Option.map_some] at hanonymous
      obtain ⟨r, hr, hstatus, hquantity, hfees⟩ := h.fills f.place o
      refine ⟨fillResult w f.place l f.price f.opening r (call.level f.place).now, ?_, ?_⟩
      · simp only [h.allowed f.place, hr, Bool.not_true, Bool.false_eq_true, if_false]
      · unfold fillResult acceptedFill
        rw [hstatus, hquantity, if_neg (by decide)]
        by_cases hpos : o.quantity ≤ 0
        · have hnone : fillChange fees w.grid l.core f = ⟨l.core, 0, 0⟩ := by
            rw [fillChange, ← hanonymous]
            exact if_pos hpos
          rw [if_pos hpos, hnone]
          exact .none (GridState.coreAt_of_getElem? hl)
        · rw [if_neg hpos]
          exact bookFill_changes hl r _ hfees (not_le.1 hpos) hanonymous.symm

end Fills

section Ticks

variable {fees : OrderRequest → ℚ} {call : TickCall} {w : GridWork} {g g₁ g' : GridState}
  {p q r : ℚ} {blocked : Bool} {cell : ℕ × ℕ} {cells : List (ℕ × ℕ)}

/-- What a tick does to a cell of a grid, when every order is filled completely. -/
def cellChange (fees : OrderRequest → ℚ) (g : GridState) (price previous : ℚ) (blocked : Bool)
    (cell : ℕ × ℕ) : Option CellChange :=
  (g.coreAt cell.1).map fun entry =>
    (g.coreAt cell.2).elim ⟨entry, 0, 0⟩ fun exit =>
      tickChange fees g price previous blocked entry exit

/-- The index and the price of a level. -/
def GridLevelState.place (l : GridLevelState) : ℕ × ℚ := (l.index, l.price)

/-- What the loop over the cells has done to the grid, with the last price `p`. -/
structure TicksCells (fees : OrderRequest → ℚ) (r p : ℚ) (blocked : Bool)
    (cells : List (ℕ × ℕ)) (g g' : GridState) : Prop where
  course : g.SameCourse g'
  places : ∀ j, (g'.coreAt j).map GridLevelState.place = (g.coreAt j).map GridLevelState.place
  frame : ∀ j, j ∉ cells.map Prod.fst → g'.coreAt j = g.coreAt j
  level : ∀ cell ∈ cells,
    g'.coreAt cell.1 = (cellChange fees g r p blocked cell).map CellChange.after
  net : g'.netPositionQty = g.netPositionQty +
    (cells.map fun cell => (cellChange fees g r p blocked cell).elim 0 CellChange.net).sum
  realized : g'.realizedPnl = g.realizedPnl +
    (cells.map fun cell => (cellChange fees g r p blocked cell).elim 0 CellChange.realized).sum

theorem cellChange_congr (h : g.SameOrders g') (hentry : g'.coreAt cell.1 = g.coreAt cell.1)
    (hexit : (g'.coreAt cell.2).map GridLevelState.place =
      (g.coreAt cell.2).map GridLevelState.place) :
    cellChange fees g' r p blocked cell = cellChange fees g r p blocked cell := by
  rw [cellChange, hentry, cellChange]
  congr 1
  funext entry
  cases hcore : g.coreAt cell.2 with
  | none =>
      rw [hcore, Option.map_none, Option.map_eq_none_iff] at hexit
      rw [hexit]
      rfl
  | some exit =>
      rw [hcore, Option.map_some] at hexit
      obtain ⟨exit', hexit', hplace⟩ := Option.map_eq_some_iff.1 hexit
      rw [hexit', Option.elim_some, Option.elim_some]
      exact tickChange_congr h (congrArg Prod.snd hplace)

theorem place_cellChange (fees : OrderRequest → ℚ) (g : GridState) (r p : ℚ) (blocked : Bool)
    (cell : ℕ × ℕ) :
    ((cellChange fees g r p blocked cell).map CellChange.after).map GridLevelState.place =
      (g.coreAt cell.1).map GridLevelState.place := by
  unfold cellChange
  cases g.coreAt cell.1 with
  | none => rfl
  | some entry =>
      cases g.coreAt cell.2 with
      | none => rfl
      | some exit =>
          obtain ⟨hindex, hprice⟩ := place_tickChange fees g r p blocked entry exit
          simp [GridLevelState.place, hindex, hprice]

namespace TicksCells

theorem nil (g : GridState) : TicksCells fees r p blocked [] g g :=
  ⟨.refl g, fun _ => rfl, fun _ _ => rfl, by simp, by simp, by simp⟩

/-- A cell without levels. -/
theorem skip (h : cellChange fees g r p blocked cell = none) :
    TicksCells fees r p blocked [cell] g g where
  course := .refl g
  places := fun _ => rfl
  frame := fun _ _ => rfl
  level := fun c hc => by
    obtain rfl := List.mem_singleton.1 hc
    rw [h]
    exact Option.map_eq_none_iff.1 h
  net := by simp [h]
  realized := by simp [h]

theorem single {c : CellChange} (h : g.Changes g' cell.1 c)
    (hc : cellChange fees g r p blocked cell = some c) :
    TicksCells fees r p blocked [cell] g g' where
  course := h.course
  places := fun j => by
    by_cases hj : j = cell.1
    · subst hj
      rw [h.level, ← place_cellChange fees g r p blocked cell, hc, Option.map_some]
      rfl
    · rw [h.frame j hj]
  frame := fun j hj => h.frame j (by simpa using hj)
  level := fun c' hc' => by
    obtain rfl := List.mem_singleton.1 hc'
    rw [hc, h.level, Option.map_some]
  net := by simp [hc, h.net]
  realized := by simp [hc, h.realized]

theorem cons (hcell : cell.1 ∉ cells.map Prod.fst)
    (h : TicksCells fees r p blocked [cell] g g₁) (h' : TicksCells fees r p blocked cells g₁ g') :
    TicksCells fees r p blocked (cell :: cells) g g' := by
  have hrest : ∀ c ∈ cells,
      cellChange fees g₁ r p blocked c = cellChange fees g r p blocked c := by
    intro c hc
    refine cellChange_congr h.course.orders (h.frame c.1 fun hmem => hcell ?_) (h.places c.2)
    rw [List.map_singleton, List.mem_singleton] at hmem
    exact hmem ▸ List.mem_map_of_mem hc
  refine ⟨h.course.trans h'.course, fun j => (h'.places j).trans (h.places j), ?_, ?_, ?_, ?_⟩
  · intro j hj
    rw [List.map_cons, List.mem_cons, not_or] at hj
    rw [h'.frame j hj.2, h.frame j (by simpa using hj.1)]
  · intro c hc
    rcases List.mem_cons.1 hc with rfl | hc
    · rw [h'.frame c.1 hcell, h.level c List.mem_cons_self]
    · rw [h'.level c hc, hrest c hc]
  · have hsum := List.map_congr_left fun c hc =>
      congrArg (fun x : Option CellChange => x.elim 0 CellChange.net) (hrest c hc)
    rw [h'.net, h.net, hsum]
    simp only [List.map_cons, List.map_nil, List.sum_cons, List.sum_nil, add_zero, add_assoc]
  · have hsum := List.map_congr_left fun c hc =>
      congrArg (fun x : Option CellChange => x.elim 0 CellChange.realized) (hrest c hc)
    rw [h'.realized, h.realized, hsum]
    simp only [List.map_cons, List.map_nil, List.sum_cons, List.sum_nil, add_zero, add_assoc]

end TicksCells

/-- The loop comes to its end, and changes each of its cells as it finds it. -/
theorem tickLevels_fillsAll (h : call.FillsAll fees) (hcells : (cells.map Prod.fst).Nodup)
    (w : GridWork) :
    ∃ w', tickLevels call r p cells w = (w', false) ∧
      TicksCells fees r p call.blocked cells w.grid w'.grid := by
  induction cells generalizing w with
  | nil => exact ⟨w, rfl, .nil w.grid⟩
  | cons cell cells ih =>
      rw [List.map_cons, List.nodup_cons] at hcells
      have hgo : ∀ w₁ : GridWork, TicksCells fees r p call.blocked [cell] w.grid w₁.grid →
          ∃ w', tickLevels call r p cells w₁ = (w', false) ∧
            TicksCells fees r p call.blocked (cell :: cells) w.grid w'.grid := by
        intro w₁ hfirst
        obtain ⟨w', hw', hrest⟩ := ih hcells.2 w₁
        exact ⟨w', hw', .cons hcells.1 hfirst hrest⟩
      cases hentry : w.grid.levels[cell.1]? with
      | none =>
          have hskip : cellChange fees w.grid r p call.blocked cell = none := by
            simp [cellChange, GridState.coreAt, hentry]
          rw [tickLevels]
          simp only [GridLoop.fill, hentry]
          exact hgo w (.skip hskip)
      | some entry =>
          have hcore := GridState.coreAt_of_getElem? hentry
          cases hexit : w.grid.levels[cell.2]? with
          | none =>
              have hchange : cellChange fees w.grid r p call.blocked cell =
                  some ⟨entry.core, 0, 0⟩ := by
                simp [cellChange, GridState.coreAt, hentry, hexit]
              rw [tickLevels]
              simp only [GridLoop.fill, hentry, hexit]
              exact hgo w (.single (.none hcore) hchange)
          | some exit =>
              have hchange : cellChange fees w.grid r p call.blocked cell =
                  some (tickChange fees w.grid r p call.blocked entry.core exit.core) := by
                simp [cellChange, GridState.coreAt, hentry, hexit]
              have hfires : w.grid.fires r p call.blocked entry.core exit.core =
                  w.grid.fires r p call.blocked entry exit := rfl
              rw [tickLevels]
              simp only [GridLoop.fill, hentry, hexit, tickFill_eq]
              cases hfire : w.grid.fires r p call.blocked entry exit with
              | false =>
                  rw [tickChange, hfires, hfire, if_neg Bool.false_ne_true] at hchange
                  exact hgo w (.single (.none hcore) hchange)
              | true =>
                  obtain ⟨w₁, hw₁, hfill⟩ := fillLevel_fillsAll (w := w)
                    (f := cellFill cell.1 entry exit) h hentry
                  rw [tickChange, hfires, hfire, if_pos rfl] at hchange
                  rw [if_pos rfl]
                  dsimp only
                  rw [hw₁]
                  exact hgo w₁ (.single hfill hchange)

/-! ### Two ticks -/

/-- A cell comes to the same in two ticks as in one. -/
theorem cellChange_comp (h : MovesThrough p q r) (horders : g.SameOrders g₁)
    (hentry : g₁.coreAt cell.1 = (cellChange fees g q p blocked cell).map CellChange.after)
    (hexit : (g₁.coreAt cell.2).map GridLevelState.place =
      (g.coreAt cell.2).map GridLevelState.place) :
    cellChange fees g r p blocked cell = (cellChange fees g q p blocked cell).bind fun c =>
      (cellChange fees g₁ r q blocked cell).map c.andThen := by
  cases hcore : g.coreAt cell.1 with
  | none => simp [cellChange, hcore]
  | some entry =>
      cases hcore' : g.coreAt cell.2 with
      | none =>
          rw [hcore', Option.map_none, Option.map_eq_none_iff] at hexit
          simp only [cellChange, hcore, hcore', Option.map_some, Option.elim_none] at hentry
          simp [cellChange, hcore, hcore', hentry, hexit, CellChange.andThen]
      | some exit =>
          rw [hcore', Option.map_some] at hexit
          obtain ⟨exit₁, hexit₁, hplace⟩ := Option.map_eq_some_iff.1 hexit
          simp only [cellChange, hcore, hcore', Option.map_some, Option.elim_some] at hentry
          simp only [cellChange, hcore, hcore', hentry, hexit₁, Option.map_some,
            Option.elim_some, Option.bind_some]
          rw [tickChange_congr horders (congrArg Prod.snd hplace),
            ← tickChange_comp fees g blocked entry exit h]

theorem length_eq_of_places
    (h : ∀ j, (g'.coreAt j).map GridLevelState.place = (g.coreAt j).map GridLevelState.place) :
    g'.levels.length = g.levels.length := by
  have hmap : g'.levels.map (GridLevelState.place ∘ GridLevelState.core) =
      g.levels.map (GridLevelState.place ∘ GridLevelState.core) := by
    apply List.ext_getElem?
    intro j
    simpa [GridState.coreAt] using h j
  simpa using congrArg List.length hmap

/-- A tick does not change the order in which the cells come. -/
theorem TicksCells.tickCells_eq (h : TicksCells fees r p blocked cells g g') :
    tickCells g' = tickCells g := by
  have hindex : g'.indexAt = g.indexAt := by
    funext j
    have hplace := congrArg (fun x : Option (ℕ × ℚ) => x.elim 0 Prod.fst) (h.places j)
    simp only [GridState.coreAt, Option.map_map, Option.elim_map] at hplace
    exact hplace
  simp only [tickCells, sortedPlaces, hindex, length_eq_of_places h.places,
    h.course.orders.direction]

theorem nodup_sortedPlaces (g : GridState) : (sortedPlaces g).Nodup :=
  (List.perm_insertionSort _ _).nodup_iff.2 List.nodup_range

theorem map_fst_zip_sublist {α β : Type*} (xs : List α) (ys : List β) :
    ((xs.zip ys).map Prod.fst).Sublist xs := by
  induction xs generalizing ys with
  | nil => simp
  | cons x xs ih =>
      cases ys with
      | nil => simp
      | cons y ys => simpa using ih ys

theorem nodup_tickCells (g : GridState) : ((tickCells g).map Prod.fst).Nodup := by
  have hnodup := nodup_sortedPlaces g
  unfold tickCells
  rw [List.map_map]
  by_cases hlong : g.direction = .long
  · have hfst : (Prod.fst ∘ fun c : ℕ × ℕ => if g.direction = .long then c else c.swap) =
        Prod.fst := by
      funext c
      simp [hlong]
    rw [hfst]
    exact hnodup.sublist (map_fst_zip_sublist _ _)
  · have hsnd : (Prod.fst ∘ fun c : ℕ × ℕ => if g.direction = .long then c else c.swap) =
        Prod.snd := by
      funext c
      simp [hlong]
    rw [hsnd, List.map_snd_zip (by simp)]
    exact hnodup.sublist (List.tail_sublist _)

/-- The levels stand in the order of their indices. -/
def GridState.InOrder (g : GridState) : Prop :=
  g.levels.map GridLevelState.index = List.range g.levels.length

theorem GridState.InOrder.sortedPlaces_eq (h : g.InOrder) :
    sortedPlaces g = List.range g.levels.length := by
  have hindex : ∀ j < g.levels.length, g.indexAt j = j := by
    intro j hj
    have hl : (g.levels.map GridLevelState.index)[j]? = some j := by
      rw [h, List.getElem?_range hj]
    rw [List.getElem?_map] at hl
    obtain ⟨l, hl, hl'⟩ := Option.map_eq_some_iff.1 hl
    rw [GridState.indexAt, hl, Option.elim_some, hl']
  refine List.Pairwise.insertionSort_eq ?_
  refine List.pairwise_lt_range.imp_of_mem fun {a b} ha hb hlt => ?_
  rw [hindex a (List.mem_range.1 ha), hindex b (List.mem_range.1 hb)]
  exact hlt.le

/-- A cell lies between two neighbouring levels, and is entered at the lower one for `LONG`. -/
theorem GridState.InOrder.mem_tickCells_iff {cell : ℕ × ℕ} (h : g.InOrder) :
    cell ∈ tickCells g ↔ ∃ i, i + 1 < g.levels.length ∧
      cell = if g.direction = .long then (i, i + 1) else (i + 1, i) := by
  rw [tickCells, h.sortedPlaces_eq, List.mem_map]
  constructor
  · rintro ⟨c, hc, rfl⟩
    obtain ⟨i, hi⟩ := List.mem_iff_getElem?.1 hc
    rw [List.getElem?_zip_eq_some, List.getElem?_tail] at hi
    obtain ⟨hlt, hfst⟩ := List.getElem?_eq_some_iff.1 hi.1
    obtain ⟨hlt', hsnd⟩ := List.getElem?_eq_some_iff.1 hi.2
    rw [List.length_range] at hlt'
    rw [List.getElem_range] at hfst hsnd
    refine ⟨i, hlt', ?_⟩
    rw [← Prod.mk.eta (p := c), ← hfst, ← hsnd, Prod.swap_prod_mk]
  · rintro ⟨i, hi, rfl⟩
    refine ⟨(i, i + 1), ?_, rfl⟩
    refine List.mem_of_getElem? (i := i) ?_
    rw [List.getElem?_zip_eq_some, List.getElem?_tail, List.getElem?_range hi,
      List.getElem?_range (Nat.lt_of_succ_lt hi)]
    exact ⟨rfl, rfl⟩

/-- An active grid that a tick has come to. -/
theorem onPriceTick_fillsAll (h : call.FillsAll fees) (hactive : w.grid.isActive = true) (r : ℚ) :
    ∃ w', onPriceTick call r w = (w', false) ∧ w'.grid.lastPrice = some r ∧
      TicksCells fees r (w.grid.lastPrice.getD r) call.blocked (tickCells w.grid) w.grid
        w'.grid := by
  obtain ⟨w', hw', hticks⟩ := tickLevels_fillsAll (r := r) (p := w.grid.lastPrice.getD r) h
    (nodup_tickCells w.grid) w
  exact ⟨_, onPriceTick_of_tickLevels hactive hw', rfl, hticks.course.marked r, hticks.places,
    hticks.frame, hticks.level, hticks.net, hticks.realized⟩

theorem onPriceTick_of_not_isActive (h : w.grid.isActive = false) (call : TickCall) (r : ℚ) :
    onPriceTick call r w = (w, false) := by
  rw [onPriceTick, h, Bool.not_false, if_pos rfl]

theorem TicksCells.sameFills {first second whole : GridState} (h : MovesThrough p q r)
    (hfirst : TicksCells fees q p blocked cells g first)
    (hsecond : TicksCells fees r q blocked cells first second)
    (hwhole : TicksCells fees r p blocked cells g whole) : whole.SameFills second := by
  have hcomp : ∀ cell ∈ cells, cellChange fees g r p blocked cell =
      (cellChange fees g q p blocked cell).bind fun c =>
        (cellChange fees first r q blocked cell).map c.andThen :=
    fun cell hcell => cellChange_comp h hfirst.course.orders (hfirst.level cell hcell)
      (hfirst.places cell.2)
  have hboth : ∀ cell ∈ cells, (cellChange fees first r q blocked cell).isSome =
      (cellChange fees g q p blocked cell).isSome := by
    intro cell hcell
    have hlevel := congrArg Option.isSome (hfirst.level cell hcell)
    simpa [cellChange] using hlevel
  have hsum : ∀ f : CellChange → ℚ, (∀ c d : CellChange, f (c.andThen d) = f c + f d) →
      (cells.map fun cell => (cellChange fees g r p blocked cell).elim 0 f).sum =
        (cells.map fun cell => (cellChange fees g q p blocked cell).elim 0 f).sum +
          (cells.map fun cell => (cellChange fees first r q blocked cell).elim 0 f).sum := by
    intro f hf
    rw [← List.sum_map_add]
    congr 1
    apply List.map_congr_left
    intro cell hcell
    rw [hcomp cell hcell]
    have hsome := hboth cell hcell
    cases hc : cellChange fees g q p blocked cell with
    | none =>
        rw [hc, Option.isSome_none, Option.isSome_eq_false_iff, Option.isNone_iff_eq_none] at hsome
        simp [hsome]
    | some c =>
        rw [hc, Option.isSome_some] at hsome
        obtain ⟨d, hd⟩ := Option.isSome_iff_exists.1 hsome
        simp [hd, hf]
  refine ⟨?_, ?_, ?_⟩
  · apply List.ext_getElem?
    intro j
    rw [List.getElem?_map, List.getElem?_map]
    show second.coreAt j = whole.coreAt j
    by_cases hj : j ∈ cells.map Prod.fst
    · obtain ⟨cell, hcell, rfl⟩ := List.mem_map.1 hj
      have hsome := hboth cell hcell
      rw [hsecond.level cell hcell, hwhole.level cell hcell, hcomp cell hcell]
      cases hc : cellChange fees g q p blocked cell with
      | none =>
          rw [hc, Option.isSome_none, Option.isSome_eq_false_iff,
            Option.isNone_iff_eq_none] at hsome
          simp [hsome]
      | some c => simp [CellChange.andThen, Function.comp_def]
    · rw [hsecond.frame j hj, hfirst.frame j hj, hwhole.frame j hj]
  · rw [hsecond.net, hfirst.net, hwhole.net, hsum CellChange.net fun _ _ => rfl, add_assoc]
  · rw [hsecond.realized, hfirst.realized, hwhole.realized,
      hsum CellChange.realized fun _ _ => rfl, add_assoc]

/-- One tick comes to the same fills as two ticks on the way, when every order is filled
completely and the symbol is blocked in all of them or in none. -/
theorem sameFills_onPriceTick {first second whole : TickCall} (hfirst : first.FillsAll fees)
    (hsecond : second.FillsAll fees) (hwhole : whole.FillsAll fees)
    (hblocked : first.blocked = whole.blocked ∧ second.blocked = whole.blocked)
    (hlast : w.grid.lastPrice = some p) (h : MovesThrough p q r) :
    (onPriceTick whole r w).1.grid.SameFills
      (onPriceTick second r (onPriceTick first q w).1).1.grid := by
  cases hactive : w.grid.isActive with
  | false =>
      rw [onPriceTick_of_not_isActive hactive, onPriceTick_of_not_isActive hactive,
        onPriceTick_of_not_isActive hactive]
      exact ⟨rfl, rfl, rfl⟩
  | true =>
      obtain ⟨w₁, hw₁, hlast₁, hticks₁⟩ := onPriceTick_fillsAll hfirst hactive q
      have hactive₁ : w₁.grid.isActive = true := by
        rw [GridState.isActive, hticks₁.course.status]
        exact hactive
      obtain ⟨w₂, hw₂, -, hticks₂⟩ := onPriceTick_fillsAll hsecond hactive₁ r
      obtain ⟨w', hw', -, hticks⟩ := onPriceTick_fillsAll hwhole hactive r
      rw [hlast₁, Option.getD_some, hticks₁.tickCells_eq, hblocked.2] at hticks₂
      rw [hlast, Option.getD_some] at hticks hticks₁
      rw [hblocked.1] at hticks₁
      rw [hw₁, hw₂, hw']
      exact TicksCells.sameFills h hticks₁ hticks₂ hticks

end Ticks

/-- An engine whose exchange fills every order without fees. -/
def Execute.completely : Execute := fun o _ =>
  .returned
    { requestId := o.id
      exchangeOrderId := "PAPER-" ++ toString o.id
      symbol := o.symbol
      status := .filled
      filledQuantity := o.quantity
      averageFillPrice := some 90
      tradingMode := .paper
      rawResponse := {} }

/-- A tick at that engine. -/
def TickCall.completely : TickCall where
  level := fun i => ⟨i, 0, true, Execute.completely⟩

theorem fillsAll_completely : TickCall.completely.FillsAll fun _ => 0 where
  allowed := fun _ => rfl
  fills := fun _ _ => ⟨_, rfl, rfl, rfl, rfl⟩

theorem sameFills_onPriceTick_btc :
    (onPriceTick .completely 89 ⟨buildGridState .btc, none⟩).1.grid.SameFills
      (onPriceTick .completely 89
        (onPriceTick .completely 90 ⟨buildGridState .btc, none⟩).1).1.grid :=
  sameFills_onPriceTick (p := 95) fillsAll_completely fillsAll_completely fillsAll_completely
    ⟨rfl, rfl⟩ rfl (.inr ⟨by norm_num, by norm_num⟩)

end Sgr
