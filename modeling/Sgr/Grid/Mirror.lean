import Sgr.Grid.LevelOutcomes

/-!
# Long and short grids

`on_price_tick` of `sgr/execution/grid_controller.py` has a branch for `LONG` grids and one for
the others. A reflection of all prices about a point takes the one to the other: a `SHORT` grid
whose levels are the reflected levels of a `LONG` grid, in the reversed order, has the same
levels filled after the reflected ticks.
-/

namespace Sgr

/-- The reflection of a price about a point. -/
def reflect (c price : ℚ) : ℚ := 2 * c - price

/-- `plan'` is the plan of a `SHORT` grid that mirrors the `LONG` grid of `plan`. -/
structure GridPlan.Mirrors (c : ℚ) (plan plan' : GridPlan) : Prop where
  long : plan.direction = .long
  short : plan'.direction = .short
  prices : plan'.prices = (plan.prices.map (reflect c)).reverse
  currentPrice : plan'.currentPrice = reflect c plan.currentPrice
  positionSize : plan'.parameters.positionSize = plan.parameters.positionSize

/-- A tick and its mirror image. -/
def TickMirrors (c : ℚ) (t t' : TickCall × ℚ) : Prop :=
  t'.2 = reflect c t.2 ∧ t'.1.blocked = t.1.blocked

/-- The levels have positive prices, and a filled level holds something. -/
structure GridState.Held (g : GridState) : Prop where
  inOrder : g.InOrder
  price : ∀ l ∈ g.levels, 0 < l.price
  quantity : ∀ l ∈ g.levels, l.isFilled = true → 0 < l.quantity

/-- A `LONG` grid and its mirror image. -/
structure Mirrored (c : ℚ) (g g' : GridState) : Prop where
  long : g.direction = .long
  short : g'.direction = .short
  positionSize : g'.parameters.positionSize = g.parameters.positionSize
  active : g'.isActive = g.isActive
  lastPrice : g'.lastPrice = g.lastPrice.map (reflect c)
  held : g.Held
  held' : g'.Held
  length : g'.levels.length = g.levels.length
  level : ∀ i j l, i + j + 1 = g.levels.length → g.levels[i]? = some l →
    ∃ l', g'.levels[j]? = some l' ∧ l'.price = reflect c l.price ∧ l'.isFilled = l.isFilled

section Cells

variable {c r p level : ℚ} {g g' : GridState} {call call' : TickCall} {cell : ℕ × ℕ}
  {cells : List (ℕ × ℕ)} {l entry exit entry' exit' : GridLevelState} {i j : ℕ}

@[simp] theorem reflect_lt_reflect_iff (c r p : ℚ) : reflect c r < reflect c p ↔ p < r := by
  unfold reflect
  constructor <;> intro h <;> linarith

@[simp] theorem reflect_le_reflect_iff (c r p : ℚ) : reflect c r ≤ reflect c p ↔ p ≤ r := by
  unfold reflect
  constructor <;> intro h <;> linarith

theorem crossed_reflect (c r p level : ℚ) :
    crossed (reflect c r) (reflect c p) (reflect c level) = crossed r p level := by
  unfold crossed
  simp only [reflect_lt_reflect_iff, reflect_le_reflect_iff]
  rcases lt_trichotomy r p with hlt | rfl | hgt
  · simp [hlt, hlt.not_gt, and_comm]
  · simp
  · simp [hgt, hgt.not_gt, and_comm]

theorem opensAt_reflect (hlong : g.direction = .long) (hshort : g'.direction = .short) :
    g'.opensAt (reflect c r) (reflect c p) (reflect c level) = g.opensAt r p level := by
  rw [GridState.opensAt, GridState.opensAt, crossed_reflect, hlong, hshort]
  simp [reflect]

theorem closesAt_reflect (hlong : g.direction = .long) (hshort : g'.direction = .short) :
    g'.closesAt (reflect c r) (reflect c p) (reflect c level) = g.closesAt r p level := by
  rw [GridState.closesAt, GridState.closesAt, crossed_reflect, hlong, hshort]
  simp [reflect]

theorem fires_reflect (hlong : g.direction = .long) (hshort : g'.direction = .short)
    {blocked : Bool} (hentry : entry'.price = reflect c entry.price)
    (hfilled : entry'.isFilled = entry.isFilled) (hexit : exit'.price = reflect c exit.price) :
    g'.fires (reflect c r) (reflect c p) blocked entry' exit' =
      g.fires r p blocked entry exit := by
  rw [GridState.fires, hentry, hfilled, hexit, opensAt_reflect hlong hshort,
    closesAt_reflect hlong hshort, GridState.fires]

/-- A tick turns over a level that it fills, unless there is no position size to open it
with. -/
theorem isFilled_entryAfter (hcall : call.FillsEvery) (hprice : 0 < entry.price)
    (hheld : entry.isFilled = true → 0 < entry.quantity) (cell : ℕ × ℕ)
    (exit : GridLevelState) :
    (entryAfter call g r p cell entry exit).isFilled =
      if g.fires r p call.blocked entry exit then
        !entry.isFilled && decide (0 < g.parameters.positionSize)
      else entry.isFilled := by
  unfold entryAfter
  split
  · cases hentry : entry.isFilled with
    | true => simp [hcall.isFilled_levelAfter_closing hentry (hheld hentry)]
    | false => simp [hcall.isFilled_levelAfter_opening hentry hprice]
  · rfl

theorem quantity_entryAfter (hcall : call.FillsEvery)
    (hheld : entry.isFilled = true → 0 < entry.quantity) (cell : ℕ × ℕ) (exit : GridLevelState)
    (hfilled : (entryAfter call g r p cell entry exit).isFilled = true) :
    0 < (entryAfter call g r p cell entry exit).quantity := by
  unfold entryAfter at hfilled ⊢
  split at hfilled
  · cases hentry : entry.isFilled with
    | true =>
        rw [hcall.isFilled_levelAfter_closing hentry (hheld hentry)] at hfilled
        cases hfilled
    | false =>
        rcases hcall.levelAfter_opening hentry g cell.1 cell.1 exit with
          hself | ⟨-, hquantity, hpos⟩
        · rw [hself, hentry] at hfilled
          cases hfilled
        · rw [if_pos ‹_›, hquantity]
          exact hpos
  · rw [if_neg ‹_›]
    exact hheld hfilled

theorem GridState.Held.ticksLevels (h : g.Held) (hcall : call.FillsEvery)
    (hticks : TicksLevels call r p cells g g') : g'.Held where
  inOrder := hticks.sameFrame.inOrder h.inOrder
  price := by
    intro l hl
    have hmem : l.price ∈ g'.levels.map GridLevelState.price := List.mem_map_of_mem hl
    rw [hticks.sameFrame.prices_eq] at hmem
    obtain ⟨l', hl', hprice⟩ := List.mem_map.1 hmem
    rw [← hprice]
    exact h.price l' hl'
  quantity := by
    intro l hl hfilled
    obtain ⟨i, hi⟩ := List.mem_iff_getElem?.1 hl
    by_cases hmem : i ∈ cells.map Prod.fst
    · obtain ⟨cell, hcell, rfl⟩ := List.mem_map.1 hmem
      have hlevel := hticks.level cell hcell
      rw [hi, cellAfter] at hlevel
      obtain ⟨entry, hentry, hafter⟩ := Option.map_eq_some_iff.1 hlevel.symm
      have hheld := h.quantity entry (List.mem_of_getElem? hentry)
      cases hexit : g.levels[cell.2]? with
      | none =>
          rw [hexit, Option.elim_none] at hafter
          subst hafter
          exact hheld hfilled
      | some exit =>
          rw [hexit, Option.elim_some] at hafter
          subst hafter
          exact quantity_entryAfter hcall hheld cell exit hfilled
    · rw [hticks.frame i hmem] at hi
      exact h.quantity l (List.mem_of_getElem? hi) hfilled

end Cells

/-! ### Ticks -/

section Ticks

variable {c r p : ℚ} {g g' h h' : GridState} {call call' : TickCall} {w w' : GridWork}
  {plan plan' : GridPlan} {ticks ticks' : List (TickCall × ℚ)}

namespace Mirrored

/-- The highest level of a `LONG` grid is the entry of no cell. -/
theorem last_notMem_tickCells (hm : Mirrored c g g') {i : ℕ} (hlast : i + 1 = g.levels.length) :
    i ∉ (tickCells g).map Prod.fst := by
  intro hmem
  obtain ⟨cell, hcell, rfl⟩ := List.mem_map.1 hmem
  obtain ⟨k, hk, rfl⟩ := hm.held.inOrder.mem_tickCells_iff.1 hcell
  rw [if_pos hm.long] at hlast
  dsimp only at hlast
  omega

/-- The lowest level of a `SHORT` grid is the entry of no cell. -/
theorem zero_notMem_tickCells (hm : Mirrored c g g') : 0 ∉ (tickCells g').map Prod.fst := by
  intro hmem
  obtain ⟨cell, hcell, hzero⟩ := List.mem_map.1 hmem
  obtain ⟨k, -, rfl⟩ := hm.held'.inOrder.mem_tickCells_iff.1 hcell
  rw [if_neg (by simp [hm.short])] at hzero
  cases hzero

/-- The entry of a cell and the entry of its mirror image after mirrored ticks. -/
theorem entryAfter_reflect (hm : Mirrored c g g') (hcall : call.FillsEvery)
    (hcall' : call'.FillsEvery) (hblocked : call'.blocked = call.blocked) {cell cell' : ℕ × ℕ}
    {entry exit entry' exit' : GridLevelState} (hmem : entry ∈ g.levels)
    (hmem' : entry' ∈ g'.levels) (hprice : entry'.price = reflect c entry.price)
    (hfilled : entry'.isFilled = entry.isFilled) (hexit : exit'.price = reflect c exit.price) :
    (entryAfter call' g' (reflect c r) (reflect c p) cell' entry' exit').price =
        reflect c (entryAfter call g r p cell entry exit).price ∧
      (entryAfter call' g' (reflect c r) (reflect c p) cell' entry' exit').isFilled =
        (entryAfter call g r p cell entry exit).isFilled := by
  constructor
  · have hplace := congrArg Prod.snd (place_entryAfter call g r p cell entry exit)
    have hplace' := congrArg Prod.snd
      (place_entryAfter call' g' (reflect c r) (reflect c p) cell' entry' exit')
    exact hplace'.trans (hprice.trans (congrArg (reflect c) hplace.symm))
  · rw [isFilled_entryAfter hcall' (hm.held'.price _ hmem') (hm.held'.quantity _ hmem'),
      isFilled_entryAfter hcall (hm.held.price _ hmem) (hm.held.quantity _ hmem), hblocked,
      fires_reflect hm.long hm.short hprice hfilled hexit, hfilled, hm.positionSize]

/-- The entry of a cell and the entry of its mirror image are filled after mirrored ticks or
are not. -/
theorem cell (hm : Mirrored c g g') (hcall : call.FillsEvery) (hcall' : call'.FillsEvery)
    (hblocked : call'.blocked = call.blocked)
    (hticks : TicksLevels call r p (tickCells g) g h)
    (hticks' : TicksLevels call' (reflect c r) (reflect c p) (tickCells g') g' h')
    {i j : ℕ} {l : GridLevelState} (hij : i + j + 1 = g.levels.length)
    (hl : h.levels[i]? = some l) :
    ∃ l', h'.levels[j]? = some l' ∧ l'.price = reflect c l.price ∧
      l'.isFilled = l.isFilled := by
  have hplace := hticks.places i
  rw [hl, Option.map_some] at hplace
  obtain ⟨entry, hentry, -⟩ := Option.map_eq_some_iff.1 hplace.symm
  obtain ⟨entry', hentry', hprice', hfilled'⟩ := hm.level i j entry hij hentry
  have hlength := hm.length
  cases j with
  | zero =>
      -- the highest level of the one and the lowest of the other are the entry of no cell
      rw [hticks.frame i (hm.last_notMem_tickCells hij), hentry] at hl
      obtain rfl := Option.some.inj hl
      exact ⟨entry', (hticks'.frame 0 hm.zero_notMem_tickCells).trans hentry', hprice', hfilled'⟩
  | succ j =>
      have hnext : i + 1 < g.levels.length := by omega
      obtain ⟨exit', hexit', hprice, -⟩ := hm.level (i + 1) j g.levels[i + 1] (by omega)
        (List.getElem?_eq_getElem hnext)
      have hcell : (i, i + 1) ∈ tickCells g :=
        hm.held.inOrder.mem_tickCells_iff.2 ⟨i, hnext, by rw [if_pos hm.long]⟩
      have hcell' : (j + 1, j) ∈ tickCells g' :=
        hm.held'.inOrder.mem_tickCells_iff.2 ⟨j, by omega, by rw [if_neg (by simp [hm.short])]⟩
      have hlevel := hticks.level _ hcell
      have hlevel' := hticks'.level _ hcell'
      simp only [cellAfter, hentry, List.getElem?_eq_getElem hnext, Option.map_some,
        Option.elim_some, hl, Option.some.injEq] at hlevel
      simp only [cellAfter, hentry', hexit', Option.map_some, Option.elim_some] at hlevel'
      subst hlevel
      exact ⟨_, hlevel', hm.entryAfter_reflect hcall hcall' hblocked
        (List.mem_of_getElem? hentry) (List.mem_of_getElem? hentry') hprice' hfilled' hprice⟩

/-- Mirrored ticks keep two grids mirror images of one another. -/
theorem onPriceTick (hm : Mirrored c w.grid w'.grid) (hcall : call.FillsEvery)
    (hcall' : call'.FillsEvery) (hblocked : call'.blocked = call.blocked) (r : ℚ) :
    Mirrored c (Sgr.onPriceTick call r w).1.grid
      (Sgr.onPriceTick call' (reflect c r) w').1.grid := by
  cases hactive : w.grid.isActive with
  | false =>
      rw [onPriceTick_of_not_isActive hactive,
        onPriceTick_of_not_isActive (hm.active.trans hactive)]
      exact hm
  | true =>
      obtain ⟨v, hv, hlast, hticks⟩ := onPriceTick_ticksLevels hcall.returns hactive r
      obtain ⟨v', hv', hlast', hticks'⟩ := onPriceTick_ticksLevels hcall'.returns
        (hm.active.trans hactive) (reflect c r)
      rw [hv, hv']
      have hprevious : w'.grid.lastPrice.getD (reflect c r) =
          reflect c (w.grid.lastPrice.getD r) := by
        rw [hm.lastPrice]
        cases w.grid.lastPrice <;> rfl
      rw [hprevious] at hticks'
      have hframe := hticks.sameFrame
      have hframe' := hticks'.sameFrame
      refine ⟨?_, ?_, ?_, ?_, ?_, hm.held.ticksLevels hcall hticks,
        hm.held'.ticksLevels hcall' hticks', ?_, fun i j l hij hl => ?_⟩
      · rw [hframe.course.orders.direction, hm.long]
      · rw [hframe'.course.orders.direction, hm.short]
      · rw [hframe'.course.orders.parameters, hm.positionSize, hframe.course.orders.parameters]
      · rw [hframe'.isActive, hm.active, hframe.isActive]
      · rw [hlast', hlast, Option.map_some]
      · rw [hframe'.length_eq, hm.length, hframe.length_eq]
      · rw [hframe.length_eq] at hij
        exact hm.cell hcall hcall' hblocked hticks hticks' hij hl

theorem runTicks (hm : Mirrored c w.grid w'.grid)
    (hmirror : List.Forall₂ (TickMirrors c) ticks ticks')
    (hticks : ∀ t ∈ ticks, t.1.FillsEvery) (hticks' : ∀ t ∈ ticks', t.1.FillsEvery) :
    Mirrored c (Sgr.runTicks ticks w).grid (Sgr.runTicks ticks' w').grid := by
  induction hmirror generalizing w w' with
  | nil => exact hm
  | @cons t t' ticks ticks' ht _ ih =>
      have hfirst := hm.onPriceTick (hticks t List.mem_cons_self) (hticks' t' List.mem_cons_self)
        ht.2 t.2
      rw [← ht.1] at hfirst
      exact ih hfirst (fun x hx => hticks x (List.mem_cons_of_mem t hx))
        fun x hx => hticks' x (List.mem_cons_of_mem t' hx)

/-- The same levels are filled, in the reversed order. -/
theorem map_isFilled (hm : Mirrored c g g') :
    g'.levels.map GridLevelState.isFilled = (g.levels.map GridLevelState.isFilled).reverse := by
  have hlength := hm.length
  apply List.ext_getElem?
  intro j
  by_cases hj : j < g.levels.length
  · have hi : g.levels.length - 1 - j < g.levels.length := by omega
    obtain ⟨l', hl', -, hfilled⟩ := hm.level (g.levels.length - 1 - j) j _ (by omega)
      (List.getElem?_eq_getElem hi)
    rw [List.getElem?_reverse (by simpa using hj), List.getElem?_map, List.getElem?_map, hl',
      List.length_map, List.getElem?_eq_getElem hi, Option.map_some, Option.map_some, hfilled]
  · rw [List.getElem?_eq_none (by simpa [hlength] using hj),
      List.getElem?_eq_none (by simpa using hj)]

end Mirrored

theorem getElem?_freshLevels (prices : List ℚ) (i : ℕ) :
    (freshLevels prices)[i]? = (prices[i]?).map fun p => { index := i, price := p } := by
  rw [freshLevels, List.getElem?_map, List.getElem?_zipIdx, Option.map_map]
  simp [Function.comp_def]

theorem held_buildGridState (hprices : ∀ p ∈ plan.prices, 0 < p) :
    (buildGridState plan).Held where
  inOrder := inOrder_buildGridState plan
  price := by
    intro l hl
    obtain ⟨x, hx, rfl⟩ := List.mem_map.1 hl
    exact hprices x.1 (List.fst_mem_of_mem_zipIdx hx)
  quantity := by
    intro l hl hfilled
    obtain ⟨x, -, rfl⟩ := List.mem_map.1 hl
    cases hfilled

theorem mirrored_buildGridState (h : plan.Mirrors c plan')
    (hprices : ∀ p ∈ plan.prices, 0 < p ∧ 0 < reflect c p) :
    Mirrored c (buildGridState plan) (buildGridState plan') where
  long := h.long
  short := h.short
  positionSize := h.positionSize
  active := rfl
  lastPrice := congrArg some h.currentPrice
  held := held_buildGridState fun p hp => (hprices p hp).1
  held' := by
    refine held_buildGridState fun p hp => ?_
    rw [h.prices, List.mem_reverse] at hp
    obtain ⟨q, hq, rfl⟩ := List.mem_map.1 hp
    exact (hprices q hq).2
  length := by
    show (freshLevels plan'.prices).length = (freshLevels plan.prices).length
    simp [h.prices]
  level := by
    intro i j l hij hl
    have hlength : (buildGridState plan).levels.length = plan.prices.length :=
      length_freshLevels plan.prices
    have hi : i = plan.prices.length - 1 - j := by omega
    have hget : (freshLevels plan.prices)[i]? = some l := hl
    rw [getElem?_freshLevels] at hget
    obtain ⟨p, hp, rfl⟩ := Option.map_eq_some_iff.1 hget
    refine ⟨{ index := j, price := reflect c p }, ?_, rfl, rfl⟩
    show (freshLevels plan'.prices)[j]? = _
    rw [getElem?_freshLevels, h.prices,
      List.getElem?_reverse (by rw [List.length_map]; omega), List.length_map, ← hi,
      List.getElem?_map, hp]
    rfl

/-- The levels that a `SHORT` grid has filled are those that its mirror image has filled after
the mirrored ticks. -/
theorem map_isFilled_runTicks_mirror (c : ℚ) (plan plan' : GridPlan)
    (hplan : plan.Mirrors c plan') (hprices : ∀ p ∈ plan.prices, 0 < p ∧ 0 < reflect c p)
    (gate gate' : Option LiveVerificationState) (ticks ticks' : List (TickCall × ℚ))
    (hmirror : List.Forall₂ (TickMirrors c) ticks ticks')
    (hticks : ∀ t ∈ ticks, t.1.FillsEvery) (hticks' : ∀ t ∈ ticks', t.1.FillsEvery) :
    (runTicks ticks' ⟨buildGridState plan', gate'⟩).grid.levels.map GridLevelState.isFilled =
      ((runTicks ticks ⟨buildGridState plan, gate⟩).grid.levels.map
        GridLevelState.isFilled).reverse :=
  have hbuilt : Mirrored c (buildGridState plan) (buildGridState plan') :=
    mirrored_buildGridState hplan hprices
  (@Mirrored.runTicks c ⟨buildGridState plan, gate⟩ ⟨buildGridState plan', gate'⟩ ticks ticks'
    hbuilt hmirror hticks hticks').map_isFilled

end Ticks

/-- The mirror image of the grid that buys at 90 and sells at 100: it sells at 110 and buys at
100. -/
def GridPlan.btcShort : GridPlan :=
  { GridPlan.btc with direction := .short, prices := [100, 110], currentPrice := 105 }

theorem mirrors_btc : GridPlan.btc.Mirrors 100 .btcShort where
  long := rfl
  short := rfl
  prices := by decide +kernel
  currentPrice := by decide +kernel
  positionSize := rfl

theorem map_isFilled_runTicks_mirror_btc :
    (runTicks [(.completely, 111)] ⟨buildGridState .btcShort, none⟩).grid.levels.map
        GridLevelState.isFilled =
      ((runTicks [(.completely, 89)] ⟨buildGridState .btc, none⟩).grid.levels.map
        GridLevelState.isFilled).reverse :=
  map_isFilled_runTicks_mirror 100 .btc .btcShort mirrors_btc (by decide +kernel) none none
    [(.completely, 89)] [(.completely, 111)]
    (.cons ⟨by decide +kernel, rfl⟩ .nil)
    (fun t ht => by rw [List.mem_singleton.1 ht]; exact fillsEvery_completely)
    fun t ht => by rw [List.mem_singleton.1 ht]; exact fillsEvery_completely

end Sgr
