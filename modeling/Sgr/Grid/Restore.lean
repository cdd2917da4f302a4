import Mathlib.Data.Fintype.Basic
import Sgr.Grid.Tasks

/-!
# Restoring a grid after a crash

`restore_from_persistence` of `sgr/execution/grid_controller.py` for one grid. The frame
of the grid comes from its row and its levels from a replay of the fill ledger; the two
are written at different moments.
-/

open Concurrency

namespace Sgr

/-- `get_fills`. -/
def getFills (ledger : List LedgerFill) : List LedgerFill :=
  ledger.insertionSort fun a b => a.filledAt ≤ b.filledAt

/-- What a row of the ledger does to its level in the replay. -/
def replayLevel (fill : LedgerFill) (l : GridLevelState) : GridLevelState :=
  let l' :=
    if fill.isOpening then
      { l with
        isFilled := true
        quantity := l.quantity + fill.quantity
        cycleCount := l.cycleCount + 1 }
    else closedLevel l fill.quantity
  { l' with
    lastOrderId := (fill.orderId.map toString).or l.lastOrderId
    lastFilledAt := some fill.filledAt }

/-- The order of a row of the ledger is `filled` in the `orders` table, as far as there is
an order repository to ask. -/
def orderFilled (statuses : Option (UUID → Option String)) (fill : LedgerFill) : Bool :=
  match fill.orderId, statuses with
  | some id, some status => status id = some "filled"
  | _, _ => true

/-- The replay of a row of the ledger; `none` when the grid is not restored. The index of a
fresh level is its place. -/
def replayFill (statuses : Option (UUID → Option String)) (levels : List GridLevelState)
    (fill : LedgerFill) : Option (List GridLevelState) :=
  (levels[fill.levelIndex]?).bind fun l =>
    if orderFilled statuses fill then some (levels.set fill.levelIndex (replayLevel fill l))
    else none

/-- `_grid_state_from_row`. The asset class of the symbol is not stored. -/
def gridStateFromRow (prices : List ℚ) (row : GridState) : GridState :=
  { row with
    symbol := { row.symbol with assetClass := .spot }
    levels := freshLevels prices }

/-- `_restore_one_grid`. -/
def restoreOneGrid (prices : List ℚ) (statuses : Option (UUID → Option String))
    (row : GridState) (fills : List LedgerFill) : Option GridState :=
  let g := gridStateFromRow prices row
  (fills.foldlM (replayFill statuses) g.levels).map fun levels => { g with levels := levels }

/-- The rows that `get_open_grids` returns. -/
def GridStatus.isOpen : GridStatus → Bool
  | .pending | .active | .paused | .closing => true
  | .closed | .error => false

/-- What `restore_from_persistence` makes of the row and the ledger of a grid. -/
def restoreGrid (cfg : GridConfig) (prices : List ℚ)
    (statuses : Option (UUID → Option String)) (s : GridShared) : Option GridState :=
  if cfg.repository then
    (s.row.filter fun row => row.status.isOpen).bind fun row =>
      restoreOneGrid prices statuses row (getFills s.ledger)
  else none

/-! ### Crashes -/

/-- What can happen next. -/
inductive GridAction (ι : Type*)
  | wake (i : ι) (w : GridWake)
  /-- The process dies, and its successor restores the grid. -/
  | restart (statuses : Option (UUID → Option String))
      (gate : Option LiveVerificationState)

/-- A call after its process has died; a call that is not made belongs to a later
process. -/
def GridPc.crash : GridPc → GridPc
  | .idle => .idle
  | _ => .raised

/-- The calls on one grid in one process and its successors. -/
def restartMachine {ι : Type*} [DecidableEq ι] (cfg : GridConfig) (prices : List ℚ)
    (job : ι → GridJob) : Machine (Pool ι GridShared GridPc) (GridAction ι) where
  next P
    | .wake i w => (gridMachine cfg job).next P (i, w)
    | .restart statuses gate =>
        (restoreGrid cfg prices statuses P.shared).map fun g =>
          { shared := { P.shared with work := ⟨g, gate⟩ }
            task := fun i => (P.task i).crash }

/-! ### What a restored grid should be -/

/-- The figures of a grid are those of its levels and of the fills of its ledger. -/
structure GridState.AccountsFor (g : GridState) (fills : List LedgerFill) : Prop where
  net : g.netPositionQty = g.sideFactor * (g.levels.map GridLevelState.quantity).sum
  realized : g.realizedPnl = (fills.map LedgerFill.cyclePnl).sum
  fees : g.feesPaid = (fills.map LedgerFill.fees).sum
  count : g.fillsCount = fills.length

/-! ### Writing in turn -/

namespace GridPc

/-- The fill of the call is in the ledger, and the row of the grid is still to be
written. -/
def isBetween : GridPc → Bool
  | .recorded _ _ _ _ _ _ => true
  | .reading (.loop _ _) => true
  | .writing _ (.loop _ _) => true
  | _ => false

/-- A write of a fill or of the row after it fails. -/
def loses : GridPc → GridEvent → Bool
  | .recording _ _ _ _ _ _, .failed => true
  | .reading (.loop _ _), .failed => true
  | .writing _ (.loop _ _), .failed => true
  | _, _ => false

/-- The fill of the call is written to the ledger. -/
def records : GridPc → GridEvent → Bool
  | .recording _ _ _ _ _ _, .served => true
  | _, _ => false

/-- The row of the ledger that is written. -/
def recordedFill (cfg : GridConfig) (s : GridShared) : GridPc → GridEvent → Option LedgerFill
  | .recording f o r quantity now _, .served => s.ledgerFill cfg f o r quantity now
  | _, _ => none

/-- `upsert` reads the grid. -/
def reads : GridPc → GridEvent → Bool
  | .reading _, .served => true
  | _, _ => false

/-- The row of the grid that is written. -/
def stores : GridPc → GridEvent → Option GridState
  | .writing row _, .served => some row
  | _, _ => none

end GridPc

/-- The levels that a replay of the ledger gives, as far as the rows are about levels of
the grid. -/
def replay (levels : List GridLevelState) (fills : List LedgerFill) : List GridLevelState :=
  fills.foldl (fun levels fill =>
    match levels[fill.levelIndex]? with
    | some l => levels.set fill.levelIndex (replayLevel fill l)
    | none => levels) levels

/-- A closing fill leaves nothing of its level or more than the tolerance. -/
def ClosesClean (levels : List GridLevelState) (fill : LedgerFill) : Prop :=
  fill.isOpening = false → ∀ l ∈ levels[fill.levelIndex]?,
    l.quantity - fill.quantity = 0 ∨ gridEpsilon < l.quantity - fill.quantity

/-- The figures of a grid have no more decimals than their columns. -/
structure GridState.FitsColumns (cfg : GridConfig) (g : GridState) : Prop where
  net : cfg.column g.netPositionQty = g.netPositionQty
  realized : cfg.column g.realizedPnl = g.realizedPnl
  fees : cfg.column g.feesPaid = g.feesPaid

/-- A call writes as if it were alone: no write of a fill or of the row after it fails;
a fill is written after the earlier ones in time, while no other call is between its two
writes; a row is written before another fill is booked; and the columns keep what is
written. -/
structure WritesInTurn {ι : Type*} (cfg : GridConfig) (prices : List ℚ)
    (P : Pool ι GridShared GridPc) (i : ι) (e : GridEvent) : Prop where
  kept : (P.task i).loses e = false
  alone : (P.task i).records e = true → ∀ j, (P.task j).isBetween = false
  later : ∀ x ∈ (P.task i).recordedFill cfg P.shared e,
    ∀ y ∈ P.shared.ledger, y.filledAt < x.filledAt
  clean : ∀ x ∈ (P.task i).recordedFill cfg P.shared e,
    ClosesClean (replay (freshLevels prices) P.shared.ledger) x
  quantity : (P.task i).records e = true → ∀ quantity ∈ (P.task i).filled,
    cfg.column quantity = quantity
  columns : (P.task i).reads e = true → P.shared.grid.FitsColumns cfg
  current : ∀ row ∈ (P.task i).stores e, row.fillsCount = P.shared.grid.fillsCount

section Decidability

variable {ι : Type*} [Fintype ι] (cfg : GridConfig) (prices : List ℚ)

instance (levels : List GridLevelState) (fill : LedgerFill) :
    Decidable (ClosesClean levels fill) :=
  inferInstanceAs (Decidable (_ → _))

instance (g : GridState) : Decidable (g.FitsColumns cfg) :=
  decidable_of_iff
    (cfg.column g.netPositionQty = g.netPositionQty ∧
      cfg.column g.realizedPnl = g.realizedPnl ∧ cfg.column g.feesPaid = g.feesPaid)
    ⟨fun h => ⟨h.1, h.2.1, h.2.2⟩, fun h => ⟨h.1, h.2, h.3⟩⟩

instance (P : Pool ι GridShared GridPc) (i : ι) (e : GridEvent) :
    Decidable (WritesInTurn cfg prices P i e) :=
  decidable_of_iff
    ((P.task i).loses e = false ∧
      ((P.task i).records e = true → ∀ j, (P.task j).isBetween = false) ∧
      (∀ x ∈ (P.task i).recordedFill cfg P.shared e,
        ∀ y ∈ P.shared.ledger, y.filledAt < x.filledAt) ∧
      (∀ x ∈ (P.task i).recordedFill cfg P.shared e,
        ClosesClean (replay (freshLevels prices) P.shared.ledger) x) ∧
      ((P.task i).records e = true → ∀ quantity ∈ (P.task i).filled,
        cfg.column quantity = quantity) ∧
      ((P.task i).reads e = true → P.shared.grid.FitsColumns cfg) ∧
      ∀ row ∈ (P.task i).stores e, row.fillsCount = P.shared.grid.fillsCount)
    ⟨fun h => ⟨h.1, h.2.1, h.2.2.1, h.2.2.2.1, h.2.2.2.2.1, h.2.2.2.2.2.1,
      h.2.2.2.2.2.2⟩, fun h => ⟨h.1, h.2, h.3, h.4, h.5, h.6, h.7⟩⟩

end Decidability

/-- The calls write in turn, and no crash comes between the two writes of a fill. -/
def StoredInTurn {ι : Type*} (cfg : GridConfig) (prices : List ℚ)
    (P : Pool ι GridShared GridPc) : GridAction ι → Prop
  | .wake i w => WritesInTurn cfg prices P i w.event
  | .restart _ _ => ∀ i, (P.task i).isBetween = false

instance {ι : Type*} [Fintype ι] (cfg : GridConfig) (prices : List ℚ)
    (P : Pool ι GridShared GridPc) : ∀ a, Decidable (StoredInTurn cfg prices P a)
  | .wake i w => inferInstanceAs (Decidable (WritesInTurn cfg prices P i w.event))
  | .restart _ _ => inferInstanceAs (Decidable (∀ i, (P.task i).isBetween = false))

end Sgr
