import Sgr.Grid.LevelOutcomes

/-!
# The open cells of a grid

A grid whose orders are all filled completely. As long as the levels ascend, a tick that
comes to the exit of a filled level closes it, and a tick that opens a level stops short of its
exit. So no open cell has an exit that the last price has come to, and the open cells are
fewer than the levels.
-/

namespace Sgr

namespace GridState

/-- The exit of the level at a place: the next higher level for `LONG`, the next lower one
otherwise. -/
def exitAt (g : GridState) : ℕ → Option GridLevelState
  | 0 => if g.direction = .long then g.levels[1]? else none
  | i + 1 => if g.direction = .long then g.levels[i + 2]? else g.levels[i]?

/-- The price has still to come to the exit. -/
def StopsShort (g : GridState) (price exit : ℚ) : Prop :=
  if g.direction = .long then price < exit else exit < price

/-- Every filled level has an exit, and the last price has not come to it. -/
def CellsOpen (g : GridState) : Prop :=
  ∀ i l, g.levels[i]? = some l → l.isFilled = true →
    ∃ exit price, g.exitAt i = some exit ∧ g.lastPrice = some price ∧
      g.StopsShort price exit.price

/-- The notional of the open entries at their level prices. -/
def openNotional (g : GridState) : ℚ :=
  ((g.levels.filter GridLevelState.isFilled).map fun l => l.price * l.quantity).sum

end GridState

/-- The invariant of a grid whose orders are all filled completely. -/
structure OpenCells (g : GridState) : Prop where
  inOrder : g.InOrder
  increasing : (g.levels.map GridLevelState.price).Pairwise (· < ·)
  cells : g.CellsOpen
  held : ∀ l ∈ g.levels, l.isFilled = true →
    0 < l.quantity ∧ l.price * l.quantity = g.parameters.positionSize

section Prices

variable {g g' : GridState} {call : TickCall} {w : GridWork} {l entry exit : GridLevelState}
  {r p : ℚ} {i j : ℕ}

theorem price_lt_of_lt (h : (g.levels.map GridLevelState.price).Pairwise (· < ·))
    (hentry : g.levels[i]? = some entry) (hexit : g.levels[j]? = some exit) (hij : i < j) :
    entry.price < exit.price := by
  obtain ⟨hi, rfl⟩ := List.getElem?_eq_some_iff.1 hentry
  obtain ⟨hj, rfl⟩ := List.getElem?_eq_some_iff.1 hexit
  have hlt := List.pairwise_iff_getElem.1 h i j (by simpa using hi) (by simpa using hj) hij
  simpa using hlt

/-- The exit of a level is the other end of its cell. -/
theorem exitAt_eq_some_iff (h : g.InOrder) (hl : g.levels[i]? = some l) :
    g.exitAt i = some exit ↔ ∃ j, (i, j) ∈ tickCells g ∧ g.levels[j]? = some exit := by
  obtain ⟨hi, -⟩ := List.getElem?_eq_some_iff.1 hl
  simp only [h.mem_tickCells_iff]
  by_cases hlong : g.direction = .long
  · have hnext : g.exitAt i = g.levels[i + 1]? := by
      cases i <;> simp [GridState.exitAt, hlong]
    simp only [hnext, hlong, if_true, Prod.mk.injEq]
    constructor
    · intro hexit
      exact ⟨i + 1, ⟨i, (List.getElem?_eq_some_iff.1 hexit).1, rfl, rfl⟩, hexit⟩
    · rintro ⟨-, ⟨k, -, rfl, rfl⟩, hexit⟩
      exact hexit
  · simp only [hlong, if_false, Prod.mk.injEq]
    cases i with
    | zero => simp [GridState.exitAt, hlong]
    | succ i =>
        have hnext : g.exitAt (i + 1) = g.levels[i]? := by simp [GridState.exitAt, hlong]
        rw [hnext]
        constructor
        · intro hexit
          exact ⟨i, ⟨i, hi, rfl, rfl⟩, hexit⟩
        · rintro ⟨j, ⟨k, -, hk, rfl⟩, hexit⟩
          rwa [Nat.succ.inj hk]

/-- A level without an exit is the entry of no cell. -/
theorem not_mem_of_exitAt_eq_none (h : g.InOrder) (hl : g.levels[i]? = some l)
    (hexit : g.exitAt i = none) : i ∉ (tickCells g).map Prod.fst := by
  intro hmem
  obtain ⟨⟨i', j⟩, hcell, rfl⟩ := List.mem_map.1 hmem
  have hj : j < g.levels.length := by
    obtain ⟨k, hk, heq⟩ := h.mem_tickCells_iff.1 hcell
    split_ifs at heq
    · rw [(Prod.mk.inj heq).2]
      exact hk
    · rw [(Prod.mk.inj heq).2]
      exact Nat.lt_of_succ_lt hk
  have hsome := (exitAt_eq_some_iff h hl).2 ⟨j, hcell, List.getElem?_eq_getElem hj⟩
  rw [hexit] at hsome
  cases hsome

/-- A level is opened at a price that stops short of its exit. -/
theorem stopsShort_of_opensAt (h : g.InOrder)
    (hincreasing : (g.levels.map GridLevelState.price).Pairwise (· < ·))
    (hcell : (i, j) ∈ tickCells g) (hentry : g.levels[i]? = some entry)
    (hexit : g.levels[j]? = some exit) (hopens : g.opensAt r p entry.price = true) :
    g.StopsShort r exit.price := by
  obtain ⟨k, -, heq⟩ := h.mem_tickCells_iff.1 hcell
  unfold GridState.StopsShort
  unfold GridState.opensAt crossed at hopens
  by_cases hlong : g.direction = .long
  · rw [if_pos hlong] at heq ⊢
    obtain ⟨rfl, rfl⟩ := Prod.mk.inj heq
    have hlt := price_lt_of_lt hincreasing hentry hexit (Nat.lt_succ_self _)
    grind
  · rw [if_neg hlong] at heq ⊢
    obtain ⟨rfl, rfl⟩ := Prod.mk.inj heq
    have hlt := price_lt_of_lt hincreasing hexit hentry (Nat.lt_succ_self _)
    grind

/-- A price that does not close a level still has to come to its exit. -/
theorem stopsShort_of_not_closesAt {level : ℚ} (h : g.StopsShort p level)
    (hcloses : g.closesAt r p level = false) : g.StopsShort r level := by
  unfold GridState.StopsShort GridState.closesAt crossed at *
  grind

end Prices

/-! ### Ticks -/

section Ticks

variable {g g' : GridState} {call : TickCall} {w : GridWork} {r p : ℚ} {plan : GridPlan}
  {ticks : List (TickCall × ℚ)}

theorem StopsShort_congr (h : g.SameOrders g') (price exit : ℚ) :
    g'.StopsShort price exit ↔ g.StopsShort price exit := by
  rw [GridState.StopsShort, h.direction, GridState.StopsShort]

/-- What a tick makes of the entry of a cell, when the level is filled afterwards: it was
filled and stays as it is, or it is opened with the position size. -/
theorem entryAfter_isFilled (h : OpenCells g) (hcall : call.FillsEvery) {cell : ℕ × ℕ}
    {entry exit : GridLevelState} (hcell : cell ∈ tickCells g)
    (hentry : g.levels[cell.1]? = some entry) (hexit : g.levels[cell.2]? = some exit)
    (hp : ∀ q ∈ g.lastPrice, p = q)
    (hfilled : (entryAfter call g r p cell entry exit).isFilled = true) :
    g.StopsShort r exit.price ∧
      0 < (entryAfter call g r p cell entry exit).quantity ∧
      entry.price * (entryAfter call g r p cell entry exit).quantity =
        g.parameters.positionSize := by
  unfold entryAfter at hfilled ⊢
  cases hbefore : entry.isFilled with
  | true =>
      obtain ⟨exit', q, hexit', hq, hshort⟩ := h.cells cell.1 entry hentry hbefore
      obtain rfl : exit' = exit := by
        have hsome := (exitAt_eq_some_iff h.inOrder hentry).2 ⟨cell.2, hcell, hexit⟩
        exact Option.some.inj (hexit'.symm.trans hsome)
      obtain ⟨hpos, hsize⟩ := h.held entry (List.mem_of_getElem? hentry) hbefore
      cases hfires : g.fires r p call.blocked entry exit' with
      | true =>
          rw [hfires, if_pos rfl, hcall.isFilled_levelAfter_closing hbefore hpos] at hfilled
          cases hfilled
      | false =>
          rw [if_neg Bool.false_ne_true]
          rw [GridState.fires, hbefore, if_pos rfl] at hfires
          rw [hp q hq] at hfires
          exact ⟨stopsShort_of_not_closesAt hshort hfires, hpos, hsize⟩
  | false =>
      cases hfires : g.fires r p call.blocked entry exit with
      | true =>
          rw [hfires, if_pos rfl] at hfilled
          rw [if_pos rfl]
          rcases hcall.levelAfter_opening hbefore g cell.1 cell.1 exit with
            hself | ⟨-, hquantity, hpos⟩
          · rw [hself, hbefore] at hfilled
            cases hfilled
          · rw [GridState.fires, hbefore, if_neg Bool.false_ne_true, Bool.and_eq_true] at hfires
            refine ⟨stopsShort_of_opensAt h.inOrder h.increasing hcell hentry hexit hfires.1,
              hquantity ▸ hpos, ?_⟩
            have hne : entry.price ≠ 0 := by
              intro hzero
              rw [hzero, div_zero] at hpos
              exact lt_irrefl 0 hpos
            rw [hquantity, mul_div_cancel₀ _ hne]
      | false =>
          rw [hfires, if_neg Bool.false_ne_true, hbefore] at hfilled
          cases hfilled

/-- The levels that are filled after a tick. -/
theorem filled_of_ticksLevels (h : OpenCells g) (hcall : call.FillsEvery)
    (hticks : TicksLevels call r p (tickCells g) g g') (hp : ∀ q ∈ g.lastPrice, p = q) {i : ℕ}
    {l : GridLevelState} (hl : g'.levels[i]? = some l) (hfilled : l.isFilled = true) :
    ∃ exit, g.exitAt i = some exit ∧ g.StopsShort r exit.price ∧ 0 < l.quantity ∧
      l.price * l.quantity = g.parameters.positionSize := by
  have hplace := hticks.places i
  rw [hl, Option.map_some] at hplace
  obtain ⟨entry, hentry, hplace⟩ := Option.map_eq_some_iff.1 hplace.symm
  cases hexit : g.exitAt i with
  | none =>
      have hsame := hticks.frame i (not_mem_of_exitAt_eq_none h.inOrder hentry hexit)
      rw [hl] at hsame
      obtain ⟨exit, -, hexit', -⟩ := h.cells i l hsame.symm hfilled
      rw [hexit] at hexit'
      cases hexit'
  | some exit =>
      obtain ⟨j, hcell, hj⟩ := (exitAt_eq_some_iff h.inOrder hentry).1 hexit
      have hlevel := hticks.level (i, j) hcell
      rw [hl, cellAfter, hentry, hj, Option.map_some, Option.elim_some] at hlevel
      obtain rfl := Option.some.inj hlevel
      have hprice : entry.price = (entryAfter call g r p (i, j) entry exit).price :=
        congrArg Prod.snd hplace
      obtain ⟨hshort, hpos, hsize⟩ := entryAfter_isFilled h hcall hcell hentry hj hp hfilled
      exact ⟨exit, rfl, hshort, hpos, hprice ▸ hsize⟩

/-- The price of the exit does not change. -/
theorem exitAt_of_ticksLevels {cells : List (ℕ × ℕ)} (h : TicksLevels call r p cells g g')
    {i : ℕ} {exit : GridLevelState} (hexit : g.exitAt i = some exit) :
    ∃ exit' : GridLevelState, g'.exitAt i = some exit' ∧ exit'.price = exit.price := by
  have hplaces : ∀ j : ℕ, g.levels[j]? = some exit →
      ∃ exit' : GridLevelState, g'.levels[j]? = some exit' ∧ exit'.price = exit.price := by
    intro j hj
    have hplace := h.places j
    rw [hj, Option.map_some] at hplace
    obtain ⟨exit', hexit', hplace⟩ := Option.map_eq_some_iff.1 hplace
    exact ⟨exit', hexit', congrArg Prod.snd hplace⟩
  cases i with
  | zero =>
      unfold GridState.exitAt at hexit ⊢
      rw [h.course.orders.direction]
      split_ifs at hexit ⊢
      exact hplaces _ hexit
  | succ i =>
      unfold GridState.exitAt at hexit ⊢
      rw [h.course.orders.direction]
      split_ifs at hexit ⊢
      · exact hplaces _ hexit
      · exact hplaces _ hexit

/-- A tick keeps the invariant. -/
theorem OpenCells.onPriceTick (h : OpenCells w.grid) (hcall : call.FillsEvery) (r : ℚ) :
    OpenCells (Sgr.onPriceTick call r w).1.grid := by
  cases hactive : w.grid.isActive with
  | false =>
      rw [onPriceTick_of_not_isActive hactive]
      exact h
  | true =>
      obtain ⟨w', hw', hlast, hticks⟩ := onPriceTick_ticksLevels hcall.returns hactive r
      rw [hw']
      have hp : ∀ q ∈ w.grid.lastPrice, w.grid.lastPrice.getD r = q := by
        intro q hq
        rw [Option.mem_def.1 hq, Option.getD_some]
      refine ⟨hticks.sameFrame.inOrder h.inOrder, hticks.sameFrame.prices_eq ▸ h.increasing, ?_, ?_⟩
      · intro i l hl hfilled
        obtain ⟨exit, hexit, hshort, -⟩ := filled_of_ticksLevels h hcall hticks hp hl hfilled
        obtain ⟨exit', hexit', hprice⟩ := exitAt_of_ticksLevels hticks hexit
        refine ⟨exit', r, hexit', hlast, ?_⟩
        rw [hprice, StopsShort_congr hticks.course.orders]
        exact hshort
      · intro l hl hfilled
        obtain ⟨i, hi⟩ := List.mem_iff_getElem?.1 hl
        obtain ⟨-, -, -, hpos, hsize⟩ := filled_of_ticksLevels h hcall hticks hp hi hfilled
        rw [hticks.course.orders.parameters]
        exact ⟨hpos, hsize⟩

theorem openCells_buildGridState (hprices : plan.prices.Pairwise (· < ·)) :
    OpenCells (buildGridState plan) := by
  have hempty : ∀ l ∈ (buildGridState plan).levels, l.isFilled = true → False := by
    intro l hl hfilled
    obtain ⟨x, -, rfl⟩ := List.mem_map.1 hl
    cases hfilled
  refine ⟨inOrder_buildGridState plan, ?_, fun i l hl hfilled => ?_, fun l hl hfilled => ?_⟩
  · have hmap : (buildGridState plan).levels.map GridLevelState.price = plan.prices :=
      (List.map_map ..).trans (List.zipIdx_map_fst 0 plan.prices)
    rw [hmap]
    exact hprices
  · exact (hempty l (List.mem_of_getElem? hl) hfilled).elim
  · exact (hempty l hl hfilled).elim

theorem OpenCells.runTicks (h : OpenCells w.grid) (hticks : ∀ t ∈ ticks, t.1.FillsEvery) :
    OpenCells (Sgr.runTicks ticks w).grid := by
  induction ticks generalizing w with
  | nil => exact h
  | cons t ticks ih =>
      have hfirst := h.onPriceTick (hticks t List.mem_cons_self) t.2
      exact ih hfirst fun t' ht' => hticks t' (List.mem_cons_of_mem t ht')

end Ticks

/-! ### The notional of the open entries -/

/-- One level at least has no cell to enter. -/
theorem OpenCells.length_filled_le {g : GridState} (h : OpenCells g) :
    (g.levels.filter GridLevelState.isFilled).length ≤ g.levels.length - 1 := by
  rcases Nat.eq_zero_or_pos g.levels.length with hzero | hpos
  · rw [List.length_eq_zero_iff.1 hzero]
    exact le_rfl
  · have hempty : ∃ l ∈ g.levels, ¬ l.isFilled = true := by
      by_contra hall
      push Not at hall
      by_cases hlong : g.direction = .long
      · have hlast := List.getElem?_eq_getElem (Nat.sub_lt hpos one_pos)
        obtain ⟨exit, -, hexit, -⟩ := h.cells _ _ hlast (hall _ (List.mem_of_getElem? hlast))
        obtain ⟨j, hcell, hj⟩ := (exitAt_eq_some_iff h.inOrder hlast).1 hexit
        obtain ⟨i, hi, heq⟩ := h.inOrder.mem_tickCells_iff.1 hcell
        rw [if_pos hlong] at heq
        have hfst := (Prod.mk.inj heq).1
        omega
      · have hfirst := List.getElem?_eq_getElem hpos
        obtain ⟨exit, -, hexit, -⟩ := h.cells _ _ hfirst (hall _ (List.mem_of_getElem? hfirst))
        simp [GridState.exitAt, hlong] at hexit
    exact Nat.le_sub_one_of_lt (List.length_filter_lt_length_iff_exists.2 hempty)

theorem OpenCells.openNotional_eq {g : GridState} (h : OpenCells g) :
    g.openNotional = (g.levels.filter GridLevelState.isFilled).length *
      g.parameters.positionSize := by
  have hmap : (g.levels.filter GridLevelState.isFilled).map (fun l => l.price * l.quantity) =
      (g.levels.filter GridLevelState.isFilled).map fun _ => g.parameters.positionSize := by
    apply List.map_congr_left
    intro l hl
    obtain ⟨hmem, hfilled⟩ := List.mem_filter.1 hl
    exact (h.held l hmem hfilled).2
  rw [GridState.openNotional, hmap, List.map_const', List.sum_replicate, nsmul_eq_mul]

theorem OpenCells.openNotional_le {g : GridState} (h : OpenCells g) :
    g.openNotional ≤ max g.parameters.positionSize 0 * (g.levels.length - 1 : ℕ) := by
  rw [h.openNotional_eq, mul_comm]
  have hcount : ((g.levels.filter GridLevelState.isFilled).length : ℚ) ≤
      (g.levels.length - 1 : ℕ) := Nat.cast_le.2 h.length_filled_le
  calc g.parameters.positionSize * ((g.levels.filter GridLevelState.isFilled).length : ℚ)
      ≤ max g.parameters.positionSize 0 *
          ((g.levels.filter GridLevelState.isFilled).length : ℚ) :=
        mul_le_mul_of_nonneg_right (le_max_left _ _) (Nat.cast_nonneg _)
    _ ≤ max g.parameters.positionSize 0 * (g.levels.length - 1 : ℕ) :=
        mul_le_mul_of_nonneg_left hcount (le_max_right _ _)

end Sgr
