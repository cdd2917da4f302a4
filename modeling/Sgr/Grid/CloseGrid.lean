import Mathlib.Data.List.Range
import Mathlib.Tactic.Ring
import Sgr.Grid.FillLevel

/-!
# Closing a grid

`close_grid` of `sgr/execution/grid_controller.py` sends a closing order for each filled
level and then sets the status to `CLOSED`, whatever has become of the orders. The
closed grid is flat exactly when the orders of all filled levels have been filled.
-/

namespace Sgr

/-- What a call of `close_grid` takes from outside: a call for each place of the list of
levels and the time of the close. -/
structure CloseCall where
  level : ℕ → LevelCall
  closedAt : Timestamp

/-- The fill type of a close. -/
def closeFillType (force : Bool) : String :=
  if force then gridFillTypeForceExit else gridFillTypeLevelCross

/-- The loop of `close_grid` over the places of the levels. -/
def closeLevels (call : CloseCall) (price : ℚ) (force : Bool) :
    List ℕ → GridWork → GridWork × Bool
  | [], w => (w, false)
  | i :: is, w =>
      if (w.grid.levels[i]?).any GridLevelState.isFilled then
        match fillLevel w i price false (closeFillType force) (call.level i) with
        | (w', true) => (w', true)
        | (w', false) => closeLevels call price force is w'
      else closeLevels call price force is w

/-- `close_grid`; the flag says that an exception has left it. -/
def closeGrid (call : CloseCall) (reason : String) (price : ℚ) (force : Bool)
    (w : GridWork) : GridWork × Bool :=
  if !w.grid.isActive then (w, false)
  else
    match closeLevels call price force (List.range w.grid.levels.length)
      { w with grid := { w.grid with status := .closing } } with
    | (w', true) => (w', true)
    | (w', false) =>
        ({ w' with
            grid := updateMarkToMarket
              { w'.grid with
                status := .closed
                closedAt := some call.closedAt
                closeReason := some reason } price }, false)

/-- No level is filled and the net position is zero up to the tolerance. -/
def GridState.Flat (g : GridState) : Prop :=
  (∀ l ∈ g.levels, l.isFilled = false) ∧ |g.netPositionQty| ≤ gridEpsilon

instance (g : GridState) : Decidable g.Flat := inferInstanceAs (Decidable (_ ∧ _))

/-- The quantity by which the order of a call closes a level. -/
def filledBy (g : GridState) (l : GridLevelState) (price : ℚ) (fillType : String)
    (call : LevelCall) : Option ℚ :=
  (levelOrder g l price false fillType call.id).bind fun o =>
    if !call.allowed then none
    else
      match call.execute o false with
      | .returned r => acceptedFill r
      | .raised => none

/-- The quantity by which `close_grid` closes the level at a place. -/
def closedBy (call : CloseCall) (price : ℚ) (force : Bool) (g : GridState) (i : ℕ) :
    Option ℚ :=
  ((g.levels[i]?).filter GridLevelState.isFilled).bind fun l =>
    filledBy g l price (closeFillType force) (call.level i)

/-- The order of a filled level is filled up to the tolerance. -/
def Closes (call : CloseCall) (price : ℚ) (force : Bool) (g : GridState) (i : ℕ)
    (l : GridLevelState) : Prop :=
  l.isFilled = true → ∃ quantity,
    filledBy g l price (closeFillType force) (call.level i) = some quantity ∧
      l.quantity - quantity ≤ gridEpsilon

/-- The order of every filled level is filled up to the tolerance. -/
def ClosesAll (call : CloseCall) (price : ℚ) (force : Bool) (g : GridState) : Prop :=
  ∀ (i : ℕ) (l : GridLevelState), g.levels[i]? = some l → Closes call price force g i l

/-- The order of every filled level is filled up to the tolerance, and what is filled is
the net position up to the tolerance. -/
structure ClosesFlat (call : CloseCall) (price : ℚ) (force : Bool) (g : GridState) :
    Prop where
  levels : ClosesAll call price force g
  net : |g.netPositionQty - g.sideFactor *
    ((List.range g.levels.length).map fun i =>
      (closedBy call price force g i).getD 0).sum| ≤ gridEpsilon

/-- Two states of a grid that order the same for a level. -/
structure GridState.SameOrders (g g' : GridState) : Prop where
  id : g'.id = g.id
  symbol : g'.symbol = g.symbol
  strategyName : g'.strategyName = g.strategyName
  tradingMode : g'.tradingMode = g.tradingMode
  direction : g'.direction = g.direction
  parameters : g'.parameters = g.parameters

namespace GridState.SameOrders

variable {g g' g'' : GridState}

theorem refl (g : GridState) : g.SameOrders g := ⟨rfl, rfl, rfl, rfl, rfl, rfl⟩

theorem trans (h : g.SameOrders g') (h' : g'.SameOrders g'') : g.SameOrders g'' where
  id := h'.id.trans h.id
  symbol := h'.symbol.trans h.symbol
  strategyName := h'.strategyName.trans h.strategyName
  tradingMode := h'.tradingMode.trans h.tradingMode
  direction := h'.direction.trans h.direction
  parameters := h'.parameters.trans h.parameters

theorem sideFactor (h : g.SameOrders g') : g'.sideFactor = g.sideFactor := by
  rw [GridState.sideFactor, h.direction, GridState.sideFactor]

theorem levelOrder (h : g.SameOrders g') (l : GridLevelState) (price : ℚ) (opening : Bool)
    (fillType : String) (id : UUID) :
    Sgr.levelOrder g' l price opening fillType id =
      Sgr.levelOrder g l price opening fillType id := by
  simp only [Sgr.levelOrder, fillQuantity, h.id, h.symbol, h.strategyName, h.tradingMode,
    h.direction, h.parameters]

theorem filledBy (h : g.SameOrders g') (l : GridLevelState) (price : ℚ) (fillType : String)
    (call : LevelCall) :
    Sgr.filledBy g' l price fillType call = Sgr.filledBy g l price fillType call := by
  rw [Sgr.filledBy, h.levelOrder, Sgr.filledBy]

end GridState.SameOrders

/-- What an order that closes the level `l` at place `i` does to the grid, when `filled`
is the quantity by which it is filled. -/
structure ClosesLevel (g g' : GridState) (i : ℕ) (l : GridLevelState) (filled : Option ℚ) :
    Prop where
  orders : g.SameOrders g'
  frame : ∀ j, j ≠ i → g'.levels[j]? = g.levels[j]?
  level : ∃ l', g'.levels[i]? = some l' ∧
    (l'.isFilled = false ↔ ∃ quantity, filled = some quantity ∧
      l.quantity - quantity ≤ gridEpsilon)
  net : g'.netPositionQty = g.netPositionQty - g.sideFactor * filled.getD 0

theorem ClosesLevel.none {g : GridState} {i : ℕ} {l : GridLevelState}
    (hl : g.levels[i]? = some l) (hfilled : l.isFilled = true) :
    ClosesLevel g g i l Option.none where
  orders := .refl g
  frame := fun _ _ => rfl
  level := ⟨l, hl, by simp [hfilled]⟩
  net := by simp

theorem closedLevel_isFilled_eq_false_iff (l : GridLevelState) (quantity : ℚ) :
    (closedLevel l quantity).isFilled = false ↔ l.quantity - quantity ≤ gridEpsilon := by
  unfold closedLevel
  split <;> simp_all

theorem ClosesLevel.fillResult {w : GridWork} {i : ℕ} {l : GridLevelState}
    (hl : w.grid.levels[i]? = some l) (hfilled : l.isFilled = true) (price : ℚ)
    (r : OrderResult) (now : Timestamp) :
    ClosesLevel w.grid (fillResult w i l price false r now).grid i l (acceptedFill r) := by
  obtain ⟨hi, -⟩ := List.getElem?_eq_some_iff.1 hl
  cases h : acceptedFill r with
  | none =>
      have hw : Sgr.fillResult w i l price false r now = w := by rw [Sgr.fillResult, h]
      rw [hw]
      exact .none hl hfilled
  | some quantity =>
      have hgrid : (Sgr.fillResult w i l price false r now).grid =
          updateMarkToMarket (bookFill w.grid i l price false quantity r now) price := by
        rw [Sgr.fillResult, h]
      rw [hgrid]
      constructor
      · exact ⟨rfl, rfl, rfl, rfl, rfl, rfl⟩
      · intro j hj
        exact List.getElem?_set_ne (Ne.symm hj)
      · refine ⟨_, List.getElem?_set_self hi, ?_⟩
        rw [closedLevel_isFilled_eq_false_iff]
        simp
      · rfl

/-- A closing call of `_fill_level` that returns closes its level by what its order is
filled. -/
theorem ClosesLevel.fillLevel {w w' : GridWork} {i : ℕ} {l : GridLevelState} {price : ℚ}
    {fillType : String} {call : LevelCall} (hl : w.grid.levels[i]? = some l)
    (hfilled : l.isFilled = true)
    (h : fillLevel w i price false fillType call = (w', false)) :
    ClosesLevel w.grid w'.grid i l (filledBy w.grid l price fillType call) := by
  rw [Sgr.fillLevel, hl] at h
  rw [filledBy]
  cases ho : levelOrder w.grid l price false fillType call.id with
  | none =>
      simp only [ho] at h
      obtain rfl : w = w' := congrArg Prod.fst h
      exact .none hl hfilled
  | some o =>
      simp only [ho] at h
      rw [Option.bind_some]
      split at h
      next hdenied =>
        obtain rfl : w = w' := congrArg Prod.fst h
        rw [if_pos hdenied]
        exact .none hl hfilled
      next hallowed =>
        rw [if_neg hallowed]
        cases ha : call.execute o false with
        | raised => simp [ha] at h
        | returned r =>
            simp only [ha] at h ⊢
            obtain rfl := congrArg Prod.fst h
            exact .fillResult hl hfilled price r call.now

theorem closedBy_of_not_isFilled {call : CloseCall} {price : ℚ} {force : Bool}
    {g : GridState} {i : ℕ} (h : ¬ (g.levels[i]?).any GridLevelState.isFilled) :
    closedBy call price force g i = none := by
  rw [closedBy]
  cases hl : g.levels[i]? with
  | none => rfl
  | some l =>
      rw [hl, Option.any_some] at h
      rw [Option.filter_some, if_neg h, Option.bind_none]

theorem closedBy_of_isFilled {call : CloseCall} {price : ℚ} {force : Bool} {g : GridState}
    {i : ℕ} {l : GridLevelState} (hl : g.levels[i]? = some l) (hfilled : l.isFilled = true) :
    closedBy call price force g i =
      filledBy g l price (closeFillType force) (call.level i) := by
  rw [closedBy, hl, Option.filter_some, if_pos hfilled, Option.bind_some]

theorem closedBy_congr {call : CloseCall} {price : ℚ} {force : Bool} {g g' : GridState}
    (h : g.SameOrders g') {i : ℕ} (hi : g'.levels[i]? = g.levels[i]?) :
    closedBy call price force g' i = closedBy call price force g i := by
  rw [closedBy, hi, closedBy]
  congr 1
  funext l
  exact h.filledBy l price _ _

/-- What the loop over the places `is` has done to the grid. -/
structure ClosesLevels (call : CloseCall) (price : ℚ) (force : Bool) (is : List ℕ)
    (g g' : GridState) : Prop where
  orders : g.SameOrders g'
  frame : ∀ j : ℕ, j ∉ is → g'.levels[j]? = g.levels[j]?
  missing : ∀ j : ℕ, g.levels[j]? = none → g'.levels[j]? = none
  level : ∀ (j : ℕ) (l : GridLevelState), j ∈ is → g.levels[j]? = some l →
    ∃ l', g'.levels[j]? = some l' ∧ (l'.isFilled = false ↔ Closes call price force g j l)
  net : g'.netPositionQty = g.netPositionQty - g.sideFactor *
    (is.map fun i => (closedBy call price force g i).getD 0).sum

namespace ClosesLevels

variable {call : CloseCall} {price : ℚ} {force : Bool}

theorem skip {g : GridState} {i : ℕ} (h : ¬ (g.levels[i]?).any GridLevelState.isFilled) :
    ClosesLevels call price force [i] g g where
  orders := .refl g
  frame := fun _ _ => rfl
  missing := fun _ hj => hj
  level := by
    intro j l hj hl
    obtain rfl := List.mem_singleton.1 hj
    rw [hl, Option.any_some] at h
    exact ⟨l, hl, by simp [Closes, h]⟩
  net := by simp [closedBy_of_not_isFilled h]

theorem single {g g' : GridState} {i : ℕ} {l : GridLevelState} (hl : g.levels[i]? = some l)
    (hfilled : l.isFilled = true)
    (h : ClosesLevel g g' i l
      (filledBy g l price (closeFillType force) (call.level i))) :
    ClosesLevels call price force [i] g g' where
  orders := h.orders
  frame := fun j hj => h.frame j (List.mem_singleton.not.1 hj)
  missing := by
    intro j hj
    have hne : j ≠ i := by
      rintro rfl
      rw [hl] at hj
      cases hj
    rw [h.frame j hne, hj]
  level := by
    intro j l₁ hj hl₁
    obtain rfl := List.mem_singleton.1 hj
    obtain rfl := Option.some.inj (hl.symm.trans hl₁)
    obtain ⟨l', hl', hiff⟩ := h.level
    refine ⟨l', hl', ?_⟩
    rw [hiff, Closes, forall_prop_of_true hfilled]
  net := by
    rw [h.net, List.map_singleton, List.sum_singleton, closedBy_of_isFilled hl hfilled]

theorem cons {g g₁ g' : GridState} {i : ℕ} {is : List ℕ} (hi : i ∉ is)
    (h : ClosesLevels call price force [i] g g₁)
    (h' : ClosesLevels call price force is g₁ g') :
    ClosesLevels call price force (i :: is) g g' := by
  have hframe : ∀ j ∈ is, g₁.levels[j]? = g.levels[j]? := by
    intro j hj
    apply h.frame
    rintro hmem
    obtain rfl := List.mem_singleton.1 hmem
    exact hi hj
  refine ⟨h.orders.trans h'.orders, ?_, fun j hj => h'.missing j (h.missing j hj), ?_, ?_⟩
  · intro j hj
    obtain ⟨hne, hj⟩ := not_or.1 (List.mem_cons.not.1 hj)
    rw [h'.frame j hj, h.frame j (List.mem_singleton.not.2 hne)]
  · intro j l hj hl
    rcases List.mem_cons.1 hj with rfl | hj
    · obtain ⟨l', hl', hiff⟩ := h.level j l (List.mem_singleton_self j) hl
      exact ⟨l', (h'.frame j hi).trans hl', hiff⟩
    · obtain ⟨l', hl', hiff⟩ := h'.level j l hj ((hframe j hj).trans hl)
      refine ⟨l', hl', ?_⟩
      rw [hiff, Closes, Closes, h.orders.filledBy]
  · have hsum : (is.map fun i => (closedBy call price force g₁ i).getD 0) =
        is.map fun i => (closedBy call price force g i).getD 0 := by
      apply List.map_congr_left
      intro j hj
      rw [closedBy_congr h.orders (hframe j hj)]
    rw [h'.net, h.net, h.orders.sideFactor, hsum]
    simp only [List.map_cons, List.map_nil, List.sum_cons, List.sum_nil]
    ring

end ClosesLevels

/-- The loop closes each of its levels by what the order of the level is filled. The
places are distinct, so that a level is met in the state in which the call found it. -/
theorem closesLevels {call : CloseCall} {price : ℚ} {force : Bool} {is : List ℕ}
    (hnodup : is.Nodup) {w w' : GridWork}
    (h : closeLevels call price force is w = (w', false)) :
    ClosesLevels call price force is w.grid w'.grid := by
  induction is generalizing w with
  | nil =>
      obtain rfl : w = w' := congrArg Prod.fst h
      exact ⟨.refl _, fun _ _ => rfl, fun _ hj => hj, by simp, by simp⟩
  | cons i is ih =>
      obtain ⟨hi, his⟩ := List.nodup_cons.1 hnodup
      rw [closeLevels] at h
      split at h
      next hfilled =>
        obtain ⟨l, hl, hfilled⟩ := (Option.any_eq_true _ _).1 hfilled
        split at h
        next => simp at h
        next v hv =>
          exact .cons hi (.single hl hfilled (.fillLevel hl hfilled hv)) (ih his h)
      next hfilled => exact .cons hi (.skip hfilled) (ih his h)

/-- After the loop over all places no level is filled exactly when every order has been
filled up to the tolerance. -/
theorem ClosesLevels.forall_not_isFilled_iff {call : CloseCall} {price : ℚ} {force : Bool}
    {g g' : GridState}
    (h : ClosesLevels call price force (List.range g.levels.length) g g') :
    (∀ l ∈ g'.levels, l.isFilled = false) ↔ ClosesAll call price force g := by
  constructor
  · intro hall i l hl
    obtain ⟨hi, -⟩ := List.getElem?_eq_some_iff.1 hl
    obtain ⟨l', hl', hiff⟩ := h.level i l (List.mem_range.2 hi) hl
    exact hiff.1 (hall l' (List.mem_of_getElem? hl'))
  · intro hall l' hl'
    obtain ⟨i, hi⟩ := List.mem_iff_getElem?.1 hl'
    cases hl : g.levels[i]? with
    | none =>
        rw [h.missing i hl] at hi
        cases hi
    | some l =>
        obtain ⟨hlt, -⟩ := List.getElem?_eq_some_iff.1 hl
        obtain ⟨l₁, hl₁, hiff⟩ := h.level i l (List.mem_range.2 hlt) hl
        obtain rfl := Option.some.inj (hi.symm.trans hl₁)
        exact hiff.2 (hall i l hl)

theorem closeGrid_of_not_isActive {call : CloseCall} {reason : String} {price : ℚ}
    {force : Bool} {w : GridWork} (h : ¬ w.grid.isActive) :
    closeGrid call reason price force w = (w, false) := by
  rw [closeGrid, if_pos (by simp [h])]

/-- `close_grid` of an active grid that returns: the grid is `CLOSED`, and its levels and
its net position are those that the loop has left. -/
theorem closeGrid_of_isActive {call : CloseCall} {reason : String} {price : ℚ}
    {force : Bool} {w w' : GridWork} (hactive : w.grid.isActive)
    (h : closeGrid call reason price force w = (w', false)) :
    w'.grid.status = .closed ∧
      ClosesLevels call price force (List.range w.grid.levels.length) w.grid w'.grid := by
  rw [closeGrid, if_neg (by simp [hactive])] at h
  split at h
  next => simp at h
  next v hv =>
    have hloop := closesLevels List.nodup_range hv
    obtain rfl := congrArg Prod.fst h
    have hstart : w.grid.SameOrders { w.grid with status := .closing } :=
      ⟨rfl, rfl, rfl, rfl, rfl, rfl⟩
    have hend : v.grid.SameOrders
        (updateMarkToMarket
          { v.grid with
            status := .closed, closedAt := some call.closedAt,
            closeReason := some reason } price) := ⟨rfl, rfl, rfl, rfl, rfl, rfl⟩
    exact ⟨rfl, (hstart.trans hloop.orders).trans hend, hloop.frame, hloop.missing,
      hloop.level, hloop.net⟩

/-- A `CLOSED` grid that `close_grid` returns is flat exactly when the order of every
filled level of an active grid has been filled and accounts for the net position; a grid
that is not active is returned as it is. -/
theorem closeGrid_flat_iff {call : CloseCall} {reason : String} {price : ℚ} {force : Bool}
    {w w' : GridWork} (h : closeGrid call reason price force w = (w', false)) :
    (w'.grid.status = .closed → w'.grid.Flat) ↔
      (w.grid.isActive → ClosesFlat call price force w.grid) ∧
        (w.grid.status = .closed → w.grid.Flat) := by
  by_cases hactive : w.grid.isActive
  · obtain ⟨hclosed, hloop⟩ := closeGrid_of_isActive hactive h
    have hopen : w.grid.status ≠ .closed := by
      intro hstatus
      simp [GridState.isActive, hstatus] at hactive
    have hflat : w'.grid.Flat ↔ ClosesFlat call price force w.grid := by
      rw [GridState.Flat, hloop.forall_not_isFilled_iff, hloop.net]
      exact ⟨fun ⟨hlevels, hnet⟩ => ⟨hlevels, hnet⟩, fun ⟨hlevels, hnet⟩ => ⟨hlevels, hnet⟩⟩
    simp only [hclosed, hactive, hopen, forall_const, IsEmpty.forall_iff, and_true,
      hflat]
  · rw [closeGrid_of_not_isActive hactive] at h
    obtain rfl : w = w' := congrArg Prod.fst h
    simp [hactive]

section Frames

variable (call : CloseCall) (reason : String) (price : ℚ) (force : Bool) (w : GridWork)

/-- What every booking of a fill keeps, a call of `_fill_level` keeps. -/
theorem rel_fillLevel {R : GridState → GridState → Prop} (hrefl : ∀ g, R g g)
    (hbook : ∀ g i l price opening quantity r now,
      R g (updateMarkToMarket (bookFill g i l price opening quantity r now) price))
    (i : ℕ) (opening : Bool) (fillType : String) (level : LevelCall) :
    R w.grid (fillLevel w i price opening fillType level).1.grid := by
  unfold fillLevel
  split
  · exact hrefl _
  · split
    · exact hrefl _
    · split
      · exact hrefl _
      · split
        · exact hrefl _
        · unfold fillResult
          split
          · exact hrefl _
          · exact hbook _ _ _ _ _ _ _ _

theorem rel_closeLevels {R : GridState → GridState → Prop} (hrefl : ∀ g, R g g)
    (htrans : ∀ g g' g'', R g g' → R g' g'' → R g g'')
    (hbook : ∀ g i l price opening quantity r now,
      R g (updateMarkToMarket (bookFill g i l price opening quantity r now) price))
    (is : List ℕ) : R w.grid (closeLevels call price force is w).1.grid := by
  induction is generalizing w with
  | nil => exact hrefl _
  | cons i is ih =>
      have hfill := rel_fillLevel price w hrefl hbook i false (closeFillType force)
        (call.level i)
      rw [closeLevels]
      split
      · split
        next v hv =>
          rw [hv] at hfill
          exact hfill
        next v hv =>
          rw [hv] at hfill
          exact htrans _ _ _ hfill (ih v)
      · exact ih w

theorem sameOrders_bookFill (g : GridState) (i : ℕ) (l : GridLevelState) (price : ℚ)
    (opening : Bool) (quantity : ℚ) (r : OrderResult) (now : Timestamp) :
    g.SameOrders
      (updateMarkToMarket (bookFill g i l price opening quantity r now) price) := by
  cases opening <;> exact ⟨rfl, rfl, rfl, rfl, rfl, rfl⟩

theorem sameOrders_closeLevels (is : List ℕ) :
    w.grid.SameOrders (closeLevels call price force is w).1.grid :=
  rel_closeLevels call price force w .refl (fun _ _ _ => .trans) sameOrders_bookFill is

theorem sameOrders_closeGrid :
    w.grid.SameOrders (closeGrid call reason price force w).1.grid := by
  have hloop := sameOrders_closeLevels call price force
    { w with grid := { w.grid with status := .closing } } (List.range w.grid.levels.length)
  have hstart : w.grid.SameOrders { w.grid with status := .closing } :=
    ⟨rfl, rfl, rfl, rfl, rfl, rfl⟩
  unfold closeGrid
  split
  · exact .refl _
  · split
    next v hv =>
      rw [hv] at hloop
      exact hstart.trans hloop
    next v hv =>
      rw [hv] at hloop
      have horders := hstart.trans hloop
      exact ⟨horders.id, horders.symbol, horders.strategyName, horders.tradingMode,
        horders.direction, horders.parameters⟩

/-- No closing order is filled. -/
def LevelCall.NeverFills (level : LevelCall) : Prop :=
  ∀ o r, o.reduceOnly = true → level.execute o false = .returned r → acceptedFill r = none

theorem reduceOnly_levelOrder {g : GridState} {l : GridLevelState} {fillType : String}
    {id : UUID} {o : OrderRequest} (h : levelOrder g l price false fillType id = some o) :
    o.reduceOnly = true := by
  obtain ⟨quantity, -, rfl⟩ := Option.map_eq_some_iff.1 h
  rfl

theorem LevelCall.NeverFills.fillLevel {level : LevelCall} (h : level.NeverFills) (i : ℕ)
    (fillType : String) : (fillLevel w i price false fillType level).1 = w := by
  unfold Sgr.fillLevel
  split
  · rfl
  · split
    · rfl
    next o ho =>
      split
      · rfl
      · split
        · rfl
        next r hr =>
          dsimp only
          rw [fillResult, h o r (reduceOnly_levelOrder price ho) hr]

theorem closeLevels_of_neverFills (h : ∀ i, (call.level i).NeverFills) (is : List ℕ) :
    (closeLevels call price force is w).1 = w := by
  induction is with
  | nil => rfl
  | cons i is ih =>
      have hfill := (h i).fillLevel price w i (closeFillType force)
      rw [closeLevels]
      split
      · split
        next v hv =>
          rw [hv] at hfill
          exact hfill
        next v hv =>
          rw [hv] at hfill
          obtain rfl : v = w := hfill
          exact ih
      · exact ih

/-- Without fills a grid keeps its levels, whatever its status becomes. -/
theorem levels_closeGrid_of_neverFills (h : ∀ i, (call.level i).NeverFills) :
    (closeGrid call reason price force w).1.grid.levels = w.grid.levels := by
  have hloop := closeLevels_of_neverFills call price force
    { w with grid := { w.grid with status := .closing } } h
    (List.range w.grid.levels.length)
  unfold closeGrid
  split
  · rfl
  · split
    next v hv =>
      rw [hv] at hloop
      obtain rfl : v = _ := hloop
      rfl
    next v hv =>
      rw [hv] at hloop
      obtain rfl : v = _ := hloop
      rfl

end Frames

/-- The grid of the examples: a long grid whose two levels hold 1 and 2. -/
def GridState.btc : GridState where
  id := 7
  exchange := .binance
  symbol := btcUsdt
  strategyName := "futures_grid"
  tradingMode := .paper
  direction := .long
  status := .active
  levels :=
    [{ index := 0, price := 100, isFilled := true, quantity := 1 },
      { index := 1, price := 90, isFilled := true, quantity := 2 }]
  netPositionQty := 3
  lastPrice := some 110

/-- An engine whose exchange fills the orders up to a quantity and rejects the larger
ones. -/
def Execute.upTo (bound : ℚ) : Execute := fun o _ =>
  .returned
    { requestId := o.id
      exchangeOrderId := "PAPER-" ++ toString o.id
      symbol := o.symbol
      status := if o.quantity ≤ bound then .filled else .rejected
      filledQuantity := if o.quantity ≤ bound then o.quantity else 0
      averageFillPrice := some 110
      tradingMode := .paper
      rawResponse := { side := some o.side.value } }

/-- The calls of the examples at that engine. -/
def CloseCall.upTo (bound : ℚ) : CloseCall where
  level := fun i => ⟨i, 0, true, Execute.upTo bound⟩
  closedAt := 0

theorem closeGrid_flat_iff_btc :
    ((closeGrid (.upTo 1) "manual" 110 true ⟨.btc, none⟩).1.grid.status = .closed →
        (closeGrid (.upTo 1) "manual" 110 true ⟨.btc, none⟩).1.grid.Flat) ↔
      (GridState.btc.isActive → ClosesFlat (.upTo 1) 110 true .btc) ∧
        (GridState.btc.status = .closed → GridState.btc.Flat) :=
  closeGrid_flat_iff (w := ⟨.btc, none⟩) (Prod.ext rfl (by decide +kernel))

/-- The order of the second level is rejected, and the grid is `CLOSED` with it. -/
theorem not_closeGrid_flat :
    ¬ ∀ (call : CloseCall) (reason : String) (price : ℚ) (force : Bool) (w w' : GridWork),
      closeGrid call reason price force w = (w', false) → w'.grid.status = .closed →
        w'.grid.Flat := by
  intro h
  have hflat := h (.upTo 1) "manual" 110 true ⟨.btc, none⟩ _
    (Prod.ext rfl (by decide +kernel)) (by decide +kernel)
  revert hflat
  decide +kernel

end Sgr
