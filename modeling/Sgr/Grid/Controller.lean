import Sgr.Collection.Dict
import Sgr.Grid.CloseGrid

/-!
# The grid controller

The grids of `GridController` (`sgr/execution/grid_controller.py`), kept under their
ids. Closing one grid leaves the others alone.
-/

open Collection

namespace Sgr

/-- The attributes of `GridController` that closing a grid reads and writes. -/
structure GridController where
  /-- `_grids`. -/
  grids : Dict UUID GridState
  /-- `_live_verification_gate`. -/
  gate : Option LiveVerificationState
  keyed : ∀ id g, grids.get? id = some g → g.id = id

namespace GridController

/-- A controller without grids. -/
def init (gate : Option LiveVerificationState) : GridController :=
  ⟨Dict.empty, gate, fun _ _ h => by cases h⟩

/-- A grid that has been worked on is in the place of its id. -/
def put (ctl : GridController) (w : GridWork) : GridController where
  grids := ctl.grids.set w.grid.id w.grid
  gate := w.gate
  keyed := by
    intro id g h
    rw [Dict.get?_set] at h
    split at h
    next heq =>
      obtain rfl := Option.some.inj h
      exact heq.symm
    next => exact ctl.keyed id g h

/-- `active_grids`. -/
def activeGrids (ctl : GridController) : List GridState :=
  ctl.grids.values.filter GridState.isActive

/-- `close_grid` by the id of the grid, with the grid that it returns; `none` is an
exception, the `KeyError` of `_require_grid` among them. -/
def closeGrid (ctl : GridController) (id : UUID) (call : CloseCall) (reason : String)
    (price : ℚ) (force : Bool) : GridController × Option GridState :=
  match ctl.grids.get? id with
  | none => (ctl, none)
  | some g =>
      let r := Sgr.closeGrid call reason price force ⟨g, ctl.gate⟩
      (ctl.put r.1, if r.2 then none else some r.1.grid)

/-- No grid has a filled level, whatever its status. -/
def Empty (ctl : GridController) : Prop :=
  ∀ id g, ctl.grids.get? id = some g → ∀ l ∈ g.levels, l.isFilled = false

variable {ctl : GridController}

theorem get?_put (ctl : GridController) (w : GridWork) (id : UUID) :
    (ctl.put w).grids.get? id = if id = w.grid.id then some w.grid else ctl.grids.get? id :=
  Dict.get?_set ctl.grids w.grid.id id w.grid

theorem mem_activeGrids_iff {g : GridState} :
    g ∈ ctl.activeGrids ↔ ctl.grids.get? g.id = some g ∧ g.isActive = true := by
  rw [activeGrids, List.mem_filter, Dict.mem_values_iff]
  constructor
  · rintro ⟨⟨id, hget⟩, hactive⟩
    obtain rfl := ctl.keyed id g hget
    exact ⟨hget, hactive⟩
  · rintro ⟨hget, hactive⟩
    exact ⟨⟨g.id, hget⟩, hactive⟩

theorem nodup_ids_activeGrids (ctl : GridController) :
    (ctl.activeGrids.map GridState.id).Nodup := by
  have hkeys : ctl.grids.values.map GridState.id = ctl.grids.entries.map Prod.fst := by
    rw [Dict.values, List.map_map]
    apply List.map_congr_left
    rintro ⟨id, g⟩ hmem
    exact ctl.keyed id g ((Dict.mem_entries_iff _ _ _).1 hmem)
  have hnodup : (ctl.grids.values.map GridState.id).Nodup := by
    rw [hkeys]
    exact ctl.grids.nodup_keys
  exact hnodup.sublist (List.filter_sublist.map _)

section Close

variable {id : UUID} {call : CloseCall} {reason : String} {price : ℚ} {force : Bool}

theorem get?_closeGrid_of_ne (ctl : GridController) {id' : UUID} (h : id' ≠ id)
    (call : CloseCall) (reason : String) (price : ℚ) (force : Bool) :
    (ctl.closeGrid id call reason price force).1.grids.get? id' = ctl.grids.get? id' := by
  unfold closeGrid
  split
  · rfl
  next g hget =>
    have hid := (sameOrders_closeGrid call reason price force ⟨g, ctl.gate⟩).id
    rw [ctl.keyed id g hget] at hid
    rw [get?_put, hid, if_neg h]

/-- An active grid that `close_grid` returns has no filled level exactly when the orders
of its filled levels have been filled. -/
theorem closeGrid_eq_some {g g' : GridState} {ctl' : GridController}
    (hget : ctl.grids.get? id = some g) (hactive : g.isActive = true)
    (h : ctl.closeGrid id call reason price force = (ctl', some g')) :
    ctl'.grids.get? id = some g' ∧
      ((∀ l ∈ g'.levels, l.isFilled = false) ↔ ClosesAll call price force g) := by
  unfold closeGrid at h
  rw [hget] at h
  dsimp only at h
  cases hraised : (Sgr.closeGrid call reason price force ⟨g, ctl.gate⟩).2 with
  | true =>
      rw [hraised, if_pos rfl] at h
      cases h
  | false =>
      rw [hraised, if_neg Bool.false_ne_true] at h
      cases h
      have hid := (sameOrders_closeGrid call reason price force ⟨g, ctl.gate⟩).id
      rw [ctl.keyed id g hget] at hid
      obtain ⟨-, hloop⟩ := closeGrid_of_isActive (w := ⟨g, ctl.gate⟩) hactive
        (Prod.ext rfl hraised)
      refine ⟨?_, hloop.forall_not_isFilled_iff⟩
      rw [get?_put, hid, if_pos rfl]

theorem levels_get?_closeGrid (ctl : GridController) (id id' : UUID)
    (h : ∀ i, (call.level i).NeverFills) (reason : String) (price : ℚ) (force : Bool) :
    ((ctl.closeGrid id call reason price force).1.grids.get? id').map GridState.levels =
      (ctl.grids.get? id').map GridState.levels := by
  by_cases hid' : id' = id
  · subst hid'
    unfold closeGrid
    split
    · rfl
    next g hget =>
      have hid := (sameOrders_closeGrid call reason price force ⟨g, ctl.gate⟩).id
      rw [ctl.keyed id' g hget] at hid
      dsimp only
      rw [get?_put, hid, if_pos rfl, Option.map_some,
        levels_closeGrid_of_neverFills call reason price force _ h, hget, Option.map_some]
  · rw [ctl.get?_closeGrid_of_ne hid']

end Close

end GridController

end Sgr
