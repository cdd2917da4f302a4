import Mathlib.Algebra.BigOperators.Group.List.Basic
import Mathlib.Tactic.Linarith
import Sgr.Grid.Restore

/-!
# What a crash leaves of a grid

A fill is written to the ledger, booked on the grid, and stored with the row of the grid,
in this order and with other calls in between. A restored grid takes its figures from the
row and its levels from the ledger. They belong together when the calls write in turn and
the crash does not come between the two writes of a fill.
-/

open Concurrency

namespace Sgr

/-! ### The replay of a ledger -/

/-- What a fill adds to the position. -/
def LedgerFill.signed (fill : LedgerFill) : ℚ :=
  if fill.isOpening then fill.quantity else -fill.quantity

/-- What all levels hold. -/
def heldByLevels (levels : List GridLevelState) : ℚ :=
  (levels.map GridLevelState.quantity).sum

/-- The rows of a ledger are in the order of their times, and their replay loses
nothing. -/
structure LedgerSound (prices : List ℚ) (fills : List LedgerFill) : Prop where
  sorted : fills.Pairwise fun x y => x.filledAt < y.filledAt
  held : heldByLevels (replay (freshLevels prices) fills) = (fills.map LedgerFill.signed).sum

section Replay

variable {prices : List ℚ} {levels : List GridLevelState} {fills : List LedgerFill}
  {fill : LedgerFill}

theorem replay_append (levels : List GridLevelState) (fills : List LedgerFill)
    (fill : LedgerFill) :
    replay levels (fills ++ [fill]) = replay (replay levels fills) [fill] := by
  rw [replay, List.foldl_append]
  rfl

theorem index_replayLevel (fill : LedgerFill) (l : GridLevelState) :
    (replayLevel fill l).index = l.index := by
  unfold replayLevel closedLevel
  split_ifs <;> rfl

theorem map_set_of_eq {α β : Type*} (f : α → β) {xs : List α} {i : ℕ} {x y : α}
    (hx : xs[i]? = some x) (h : f y = f x) : (xs.set i y).map f = xs.map f := by
  rw [List.map_set, h]
  apply List.ext_getElem?
  intro j
  rw [List.getElem?_set, List.length_map]
  split
  next hij =>
    subst hij
    obtain ⟨hlt, -⟩ := List.getElem?_eq_some_iff.1 hx
    rw [if_pos hlt, List.getElem?_map, hx, Option.map_some]
  next => rfl

/-- A replay keeps the indices of the levels. -/
theorem indices_replay (levels : List GridLevelState) (fills : List LedgerFill) :
    (replay levels fills).map GridLevelState.index = levels.map GridLevelState.index := by
  induction fills generalizing levels with
  | nil => rfl
  | cons fill fills ih =>
      rw [replay, List.foldl_cons]
      refine (ih _).trans ?_
      split
      next l hl => exact map_set_of_eq _ hl (index_replayLevel fill l)
      next => rfl

theorem length_replay (levels : List GridLevelState) (fills : List LedgerFill) :
    (replay levels fills).length = levels.length := by
  simpa using congrArg List.length (indices_replay levels fills)

@[simp] theorem length_freshLevels (prices : List ℚ) :
    (freshLevels prices).length = prices.length := by
  simp [freshLevels]

theorem indices_freshLevels (prices : List ℚ) :
    (freshLevels prices).map GridLevelState.index = List.range prices.length := by
  rw [freshLevels, List.map_map, List.range_eq_range']
  exact List.zipIdx_map_snd 0 prices

/-- The replay of the source, where it restores the grid. -/
theorem eq_replay_of_foldlM {statuses : Option (UUID → Option String)}
    {levels' : List GridLevelState}
    (h : fills.foldlM (replayFill statuses) levels = some levels') :
    levels' = replay levels fills := by
  induction fills generalizing levels with
  | nil =>
      cases h
      rfl
  | cons fill fills ih =>
      rw [List.foldlM_cons] at h
      obtain ⟨levels₁, hstep, hrest⟩ := Option.bind_eq_some_iff.1 h
      obtain ⟨l, hl, hset⟩ := Option.bind_eq_some_iff.1 hstep
      rw [ih hrest, replay, replay, List.foldl_cons, hl]
      split at hset
      · cases hset
        rfl
      · cases hset

theorem quantity_replayLevel {l : GridLevelState}
    (hclean : fill.isOpening = false →
      l.quantity - fill.quantity = 0 ∨ gridEpsilon < l.quantity - fill.quantity) :
    (replayLevel fill l).quantity = l.quantity + fill.signed := by
  unfold replayLevel LedgerFill.signed
  cases hopening : fill.isOpening with
  | true => simp
  | false =>
      simp only [Bool.false_eq_true, if_false, closedLevel]
      split
      next hsmall =>
        rcases hclean hopening with hzero | hlarge
        · dsimp only
          linarith
        · exact absurd hlarge (not_lt.2 hsmall)
      next =>
        dsimp only
        ring

theorem heldByLevels_set {i : ℕ} {l : GridLevelState} (hl : levels[i]? = some l)
    (x : GridLevelState) :
    heldByLevels (levels.set i x) = heldByLevels levels - l.quantity + x.quantity := by
  obtain ⟨hlt, hget⟩ := List.getElem?_eq_some_iff.1 hl
  rw [heldByLevels, List.map_set, List.sum_set', dif_pos (by rwa [List.length_map]),
    List.getElem_map, hget, heldByLevels]
  ring

/-- A further row of the ledger adds its fill to what the levels hold. -/
theorem heldByLevels_replay_singleton (hindex : fill.levelIndex < levels.length)
    (hclean : ClosesClean levels fill) :
    heldByLevels (replay levels [fill]) = heldByLevels levels + fill.signed := by
  have hl : levels[fill.levelIndex]? = some levels[fill.levelIndex] :=
    List.getElem?_eq_getElem hindex
  have hquantity := quantity_replayLevel fun hopening => hclean hopening _ hl
  rw [replay, List.foldl_cons, List.foldl_nil, hl]
  dsimp only
  rw [heldByLevels_set hl, hquantity]
  ring

theorem LedgerSound.append (h : LedgerSound prices fills)
    (hlater : ∀ y ∈ fills, y.filledAt < fill.filledAt)
    (hindex : fill.levelIndex < prices.length)
    (hclean : ClosesClean (replay (freshLevels prices) fills) fill) :
    LedgerSound prices (fills ++ [fill]) where
  sorted := by
    rw [List.pairwise_append]
    refine ⟨h.sorted, List.pairwise_singleton _ _, fun y hy x hx => ?_⟩
    obtain rfl := List.mem_singleton.1 hx
    exact hlater y hy
  held := by
    rw [replay_append, heldByLevels_replay_singleton _ hclean, h.held, List.map_append,
      List.sum_append, List.map_singleton, List.sum_singleton]
    rw [length_replay, length_freshLevels]
    exact hindex

/-- The ledger comes back in the order in which it was written. -/
theorem LedgerSound.getFills (h : LedgerSound prices fills) : getFills fills = fills := by
  apply List.Pairwise.insertionSort_eq
  exact h.sorted.imp fun hlt => hlt.le

end Replay

/-! ### The figures of a grid -/

/-- The figures of a grid are those of the fills. -/
structure GridState.Books (g : GridState) (fills : List LedgerFill) : Prop where
  net : g.netPositionQty = g.sideFactor * (fills.map LedgerFill.signed).sum
  realized : g.realizedPnl = (fills.map LedgerFill.cyclePnl).sum
  fees : g.feesPaid = (fills.map LedgerFill.fees).sum
  count : g.fillsCount = fills.length

/-- Two states of a grid with the same figures. -/
structure GridState.SameFigures (g g' : GridState) : Prop where
  direction : g'.direction = g.direction
  net : g'.netPositionQty = g.netPositionQty
  realized : g'.realizedPnl = g.realizedPnl
  fees : g'.feesPaid = g.feesPaid
  count : g'.fillsCount = g.fillsCount

theorem GridState.sideFactor_congr {g g' : GridState} (h : g'.direction = g.direction) :
    g'.sideFactor = g.sideFactor := by
  rw [GridState.sideFactor, h, GridState.sideFactor]

theorem GridState.Books.congr {g g' : GridState} {fills : List LedgerFill}
    (h : g.Books fills) (hsame : g.SameFigures g') : g'.Books fills where
  net := by rw [hsame.net, GridState.sideFactor_congr hsame.direction, h.net]
  realized := hsame.realized.trans h.realized
  fees := hsame.fees.trans h.fees
  count := hsame.count.trans h.count

theorem GridState.FitsColumns.sameFigures {cfg : GridConfig} {g : GridState}
    (h : g.FitsColumns cfg) : g.SameFigures (g.stored cfg) :=
  ⟨rfl, h.net, h.realized, h.fees, rfl⟩

/-- Two shared states that differ in nothing that is counted or stored. -/
structure GridShared.SameStores (s t : GridShared) : Prop where
  levels : t.grid.levels = s.grid.levels
  figures : s.grid.SameFigures t.grid
  ledger : t.ledger = s.ledger
  row : t.row = s.row

namespace GridShared.SameStores

variable {s t u : GridShared}

theorem refl (s : GridShared) : s.SameStores s := ⟨rfl, ⟨rfl, rfl, rfl, rfl, rfl⟩, rfl, rfl⟩

theorem trans (h : s.SameStores t) (h' : t.SameStores u) : s.SameStores u where
  levels := h'.levels.trans h.levels
  figures :=
    ⟨h'.figures.direction.trans h.figures.direction, h'.figures.net.trans h.figures.net,
      h'.figures.realized.trans h.figures.realized, h'.figures.fees.trans h.figures.fees,
      h'.figures.count.trans h.figures.count⟩
  ledger := h'.ledger.trans h.ledger
  row := h'.row.trans h.row

theorem setGrid {g : GridState} (hlevels : g.levels = s.grid.levels)
    (hfigures : s.grid.SameFigures g) : s.SameStores (s.setGrid g) :=
  ⟨hlevels, hfigures, rfl, rfl⟩

/-- The row that a fill writes depends on the level and the direction only. -/
theorem ledgerFill (h : s.SameStores t) (cfg : GridConfig) (f : LevelFill) (o : OrderRequest)
    (r : OrderResult) (quantity : ℚ) (now : Timestamp) :
    t.ledgerFill cfg f o r quantity now = s.ledgerFill cfg f o r quantity now := by
  simp only [GridShared.ledgerFill, h.levels, cyclePnl,
    GridState.sideFactor_congr h.figures.direction]

end GridShared.SameStores

/-! ### What a segment does to the stores -/

/-- The call is not between its two writes, and it does not write the row. -/
structure GridPc.Idles (pc : GridPc) : Prop where
  between : pc.isBetween = false
  writing : ∀ row n, pc ≠ .writing row n

/-- What a segment that loses no write does to the ledger, the row and the figures. -/
inductive StoreStep (cfg : GridConfig) (s : GridShared) :
    GridPc → GridEvent → GridShared → GridPc → Prop
  | goesOn {pc : GridPc} {e : GridEvent} {t : GridShared} {pc' : GridPc}
      (hsame : s.SameStores t) (hpc : pc.isBetween = false) (hpc' : pc'.Idles) :
      StoreStep cfg s pc e t pc'
  | records (f : LevelFill) (o : OrderRequest) (r : OrderResult) (quantity : ℚ)
      (now : Timestamp) (k : GridFrame) :
      StoreStep cfg s (.recording f o r quantity now k) .served
        { s with ledger := s.ledger ++ (s.ledgerFill cfg f o r quantity now).toList }
        (.recorded f o r quantity now k)
  | books (f : LevelFill) (o : OrderRequest) (r : OrderResult) (quantity : ℚ)
      (now : Timestamp) (k : GridFrame) :
      StoreStep cfg s (.recorded f o r quantity now k) .resumed
        (s.book f quantity r now) (.reading (.loop f k))
  | reads (n : GridNext) :
      StoreStep cfg s (.reading n) .served s (.writing (s.grid.stored cfg) n)
  | stores (row : GridState) (n : GridNext) :
      StoreStep cfg s (.writing row n) .served { s with row := some row } (.persisted n)

section Segments

variable {cfg : GridConfig} {id : UUID} {now : Timestamp} {s t : GridShared} {pc pc' : GridPc}
  {w : GridWake}

theorem sameStores_advance (cfg : GridConfig) (id : UUID) (now : Timestamp) (s : GridShared)
    (loop : GridLoop) (cells : List (ℕ × ℕ)) :
    s.SameStores (s.advance cfg id now loop cells).1 := by
  induction cells with
  | nil => cases loop <;> exact ⟨rfl, ⟨rfl, rfl, rfl, rfl, rfl⟩, rfl, rfl⟩
  | cons cell rest ih =>
      rw [GridShared.advance]
      split
      · exact ih
      · exact .refl s

theorem idles_advance (cfg : GridConfig) (id : UUID) (now : Timestamp) (s : GridShared)
    (loop : GridLoop) (cells : List (ℕ × ℕ)) :
    (s.advance cfg id now loop cells).2.Idles := by
  induction cells with
  | nil =>
      rw [GridShared.advance]
      split
      · exact ⟨rfl, fun _ _ h => nomatch h⟩
      · exact ⟨rfl, fun _ _ h => nomatch h⟩
  | cons cell rest ih =>
      rw [GridShared.advance]
      split
      · exact ih
      · split
        · exact ⟨rfl, fun _ _ h => nomatch h⟩
        · exact ⟨rfl, fun _ _ h => nomatch h⟩

theorem StoreStep.advance {e : GridEvent} (hpc : pc.isBetween = false)
    (hsame : s.SameStores t) (loop : GridLoop) (cells : List (ℕ × ℕ)) :
    StoreStep cfg s pc e (t.advance cfg id now loop cells).1
      (t.advance cfg id now loop cells).2 :=
  .goesOn (hsame.trans (sameStores_advance cfg id now t loop cells)) hpc
    (idles_advance cfg id now t loop cells)

theorem storeStep_tick {e : GridEvent} (hpc : pc.isBetween = false) (blocked : Bool)
    (price : ℚ) :
    StoreStep cfg s pc e (s.tick cfg id now blocked price).1
      (s.tick cfg id now blocked price).2 := by
  unfold GridShared.tick
  split
  · exact .advance hpc (.refl s) _ _
  · exact .goesOn (.refl s) hpc ⟨rfl, fun _ _ h => nomatch h⟩

theorem storeStep_close {e : GridEvent} (hpc : pc.isBetween = false) (reason : String)
    (price : ℚ) (force : Bool) :
    StoreStep cfg s pc e (s.close cfg id now reason price force).1
      (s.close cfg id now reason price force).2 := by
  unfold GridShared.close
  split
  · have hclosing : s.SameStores (s.setGrid { s.grid with status := .closing }) :=
      .setGrid rfl ⟨rfl, rfl, rfl, rfl, rfl⟩
    exact .advance hpc hclosing _ _
  · exact .goesOn (.refl s) hpc ⟨rfl, fun _ _ h => nomatch h⟩

theorem storeStep_call {e : GridEvent} (hpc : pc.isBetween = false) (job : GridJob)
    (blocked : Bool) :
    StoreStep cfg s pc e (gridCall cfg job id now s blocked).1
      (gridCall cfg job id now s blocked).2 := by
  cases job with
  | opened =>
      unfold gridCall
      dsimp only
      split
      · exact .goesOn (.refl s) hpc ⟨rfl, fun _ _ h => nomatch h⟩
      · exact .goesOn (.refl s) hpc ⟨rfl, fun _ _ h => nomatch h⟩
  | tick price => exact storeStep_tick hpc blocked price
  | close reason price force => exact storeStep_close hpc reason price force
  | monitor price violated =>
      unfold gridCall
      dsimp only
      split
      · split
        · exact storeStep_close hpc _ price true
        · exact storeStep_tick hpc blocked price
      · exact .goesOn (.refl s) hpc ⟨rfl, fun _ _ h => nomatch h⟩

theorem GridPc.isBetween_of_givesUp {e : GridEvent} {f : LevelFill}
    (h : pc.givesUp e = some f) : pc.isBetween = false := by
  unfold GridPc.givesUp at h
  split at h
  · rfl
  · rfl
  · cases h

/-- A call of a controller with a repository, on a segment that loses no write. -/
theorem storeStep_of_segment {job : GridJob} (hrepository : cfg.repository = true)
    (hkept : pc.loses w.event = false)
    (hseg : gridSegment cfg job s pc w = some (t, pc')) :
    StoreStep cfg s pc w.event t pc' := by
  have hstep := gridStep_of_segment hseg
  generalize w.event = e at hstep hkept ⊢
  cases hstep with
  | starts job blocked => exact storeStep_call rfl job blocked
  | admits => exact .goesOn (.refl s) rfl ⟨rfl, fun _ _ h => nomatch h⟩
  | raises => exact .goesOn (.refl s) rfl ⟨rfl, fun _ _ h => nomatch h⟩
  | leaves hgives => exact .advance (GridPc.isBetween_of_givesUp hgives) (.refl s) _ _
  | fills => exact .goesOn (.refl s) rfl ⟨rfl, fun _ _ h => nomatch h⟩
  | records f o r quantity now k => exact .records f o r quantity now k
  | forgets => cases hkept
  | books f o r quantity filledAt k =>
      rw [GridShared.afterRecord, if_pos hrepository]
      exact .books f o r quantity filledAt k
  | booksUnrecorded f o k r quantity filledAt hnone => exact absurd hrepository hnone
  | reads n => exact .reads n
  | stores row n => exact .stores row n
  | unread n =>
      cases n with
      | loop f k => cases hkept
      | done => exact .goesOn (.refl s) rfl ⟨rfl, fun _ _ h => nomatch h⟩
  | unstored row n =>
      cases n with
      | loop f k => cases hkept
      | done => exact .goesOn (.refl s) rfl ⟨rfl, fun _ _ h => nomatch h⟩
  | resumes f k =>
      have hmarked : s.SameStores (s.setGrid (updateMarkToMarket s.grid f.price)) :=
        .setGrid rfl ⟨rfl, rfl, rfl, rfl, rfl⟩
      exact .advance rfl hmarked _ _
  | returns => exact .goesOn (.refl s) rfl ⟨rfl, fun _ _ h => nomatch h⟩

end Segments

/-! ### The invariant -/

/-- The fill of a call is in the ledger and not yet booked. -/
def GridPc.isRecorded : GridPc → Bool
  | .recorded _ _ _ _ _ _ => true
  | _ => false

theorem GridPc.isBetween_of_isRecorded {pc : GridPc} (h : pc.isRecorded = true) :
    pc.isBetween = true := by
  cases pc <;> first | rfl | cases h

theorem GridPc.isRecorded_of_isBetween {pc : GridPc} (h : pc.isBetween = false) :
    pc.isRecorded = false := by
  by_contra hrecorded
  rw [GridPc.isBetween_of_isRecorded (Bool.of_not_eq_false hrecorded)] at h
  cases h

/-- A row that has been read: the grid has its figures until the next fill is booked. -/
structure GridState.ReadOf (row g : GridState) : Prop where
  direction : row.direction = g.direction
  count : row.fillsCount ≤ g.fillsCount
  figures : row.fillsCount = g.fillsCount → g.SameFigures row

/-- What a call has still to write is what the grid says of it: the ledger is ahead of the
grid by the fill that the call books next, and a row that it writes has been read. -/
structure GridPc.Agrees (cfg : GridConfig) (s : GridShared) (pc : GridPc) : Prop where
  recorded : ∀ f o r quantity now k, pc = .recorded f o r quantity now k →
    cfg.column quantity = quantity ∧ ∃ fills, s.grid.Books fills ∧
      s.ledger = fills ++ (s.ledgerFill cfg f o r quantity now).toList
  writing : ∀ row n, pc = .writing row n → row.ReadOf s.grid

/-- The grid, its ledger and its row agree, but for a fill that a call is about to book
and to store. -/
structure StoresAgree {ι : Type*} (cfg : GridConfig) (prices : List ℚ)
    (P : Pool ι GridShared GridPc) : Prop where
  indices : P.shared.grid.levels.map GridLevelState.index = List.range prices.length
  ledger : LedgerSound prices P.shared.ledger
  alone : ∀ i j, (P.task i).isBetween = true → (P.task j).isBetween = true → i = j
  tasks : ∀ i, (P.task i).Agrees cfg P.shared
  settled : (∀ i, (P.task i).isRecorded = false) → P.shared.grid.Books P.shared.ledger
  direction : ∀ row ∈ P.shared.row, row.direction = P.shared.grid.direction
  row : (∀ i, (P.task i).isBetween = false) → ∀ row ∈ P.shared.row,
    row.Books P.shared.ledger

section Invariant

variable {cfg : GridConfig} {prices : List ℚ} {s t : GridShared}

theorem GridState.ReadOf.congr {row g g' : GridState} (h : row.ReadOf g)
    (hsame : g.SameFigures g') : row.ReadOf g' where
  direction := h.direction.trans hsame.direction.symm
  count := h.count.trans hsame.count.ge
  figures := fun hcount =>
    have hrow := h.figures (hcount.trans hsame.count)
    ⟨hrow.direction.trans hsame.direction.symm, hrow.net.trans hsame.net.symm,
      hrow.realized.trans hsame.realized.symm, hrow.fees.trans hsame.fees.symm,
      hrow.count.trans hsame.count.symm⟩

theorem GridState.ReadOf.stored {g : GridState} (h : g.FitsColumns cfg) :
    (g.stored cfg).ReadOf g :=
  ⟨rfl, le_rfl, fun _ => h.sameFigures⟩

/-- A fill that has been booked is that of the row of the ledger. -/
structure GridShared.Books (s t : GridShared) (fill : LedgerFill) : Prop where
  ledger : t.ledger = s.ledger
  row : t.row = s.row
  indices : t.grid.levels.map GridLevelState.index = s.grid.levels.map GridLevelState.index
  direction : t.grid.direction = s.grid.direction
  net : t.grid.netPositionQty = s.grid.netPositionQty + s.grid.sideFactor * fill.signed
  realized : t.grid.realizedPnl = s.grid.realizedPnl + fill.cyclePnl
  fees : t.grid.feesPaid = s.grid.feesPaid + fill.fees
  count : t.grid.fillsCount = s.grid.fillsCount + 1

theorem books_of_ledgerFill {f : LevelFill} {o : OrderRequest} {r : OrderResult}
    {quantity : ℚ} {now : Timestamp} {fill : LedgerFill}
    (hcolumn : cfg.column quantity = quantity)
    (h : s.ledgerFill cfg f o r quantity now = some fill) :
    s.Books (s.book f quantity r now) fill := by
  obtain ⟨l, hl, rfl⟩ := Option.map_eq_some_iff.1 h
  have hindex : ∀ l' : GridLevelState, l'.index = l.index →
      (s.grid.levels.set f.place l').map GridLevelState.index =
        s.grid.levels.map GridLevelState.index := fun l' => map_set_of_eq _ hl
  simp only [GridShared.book, hl, hcolumn]
  cases f.opening with
  | true =>
      refine ⟨rfl, rfl, hindex _ rfl, rfl, ?_, ?_, rfl, rfl⟩
      · simp [LedgerFill.signed, bookFill, GridShared.grid]
      · simp [bookFill, GridShared.grid, GridState.setLevel]
  | false =>
      refine ⟨rfl, rfl, hindex _ ?_, rfl, ?_, rfl, rfl, rfl⟩
      · unfold closedLevel
        split_ifs <;> rfl
      · simp [LedgerFill.signed, bookFill, GridShared.grid, sub_eq_add_neg]

theorem book_of_ledgerFill_eq_none {f : LevelFill} {o : OrderRequest} {r : OrderResult}
    {quantity : ℚ} {now : Timestamp} (h : s.ledgerFill cfg f o r quantity now = none) :
    s.book f quantity r now = s := by
  have hl : s.grid.levels[f.place]? = none := Option.map_eq_none_iff.1 h
  simp only [GridShared.book, hl]

theorem GridState.Books.append {fills : List LedgerFill} {fill : LedgerFill}
    (h : s.grid.Books fills) (hbook : s.Books t fill) : t.grid.Books (fills ++ [fill]) where
  net := by
    rw [hbook.net, h.net, GridState.sideFactor_congr hbook.direction, List.map_append,
      List.sum_append, List.map_singleton, List.sum_singleton, mul_add]
  realized := by
    rw [hbook.realized, h.realized, List.map_append, List.sum_append, List.map_singleton,
      List.sum_singleton]
  fees := by
    rw [hbook.fees, h.fees, List.map_append, List.sum_append, List.map_singleton,
      List.sum_singleton]
  count := by
    rw [hbook.count, h.count, List.length_append, List.length_singleton]

theorem GridState.ReadOf.booked {row : GridState} {fill : LedgerFill}
    (h : row.ReadOf s.grid) (hbook : s.Books t fill) : row.ReadOf t.grid where
  direction := h.direction.trans hbook.direction.symm
  count := by
    have hcount := h.count
    have hnext := hbook.count
    omega
  figures := fun heq => by
    have hcount := h.count
    have hnext := hbook.count
    omega

theorem GridPc.Agrees.congr {pc : GridPc} (h : pc.Agrees cfg s) (hsame : s.SameStores t) :
    pc.Agrees cfg t where
  recorded := fun f o r quantity now k htask => by
    obtain ⟨hcolumn, fills, hbooks, hledger⟩ := h.recorded f o r quantity now k htask
    refine ⟨hcolumn, fills, hbooks.congr hsame.figures, ?_⟩
    rw [hsame.ledger, hsame.ledgerFill, hledger]
  writing := fun row n htask => (h.writing row n htask).congr hsame.figures

/-- A call that is not about to book reads only the grid. -/
theorem GridPc.Agrees.of_not_recorded {pc : GridPc} (hpc : pc.isRecorded = false)
    (hwriting : ∀ row n, pc = .writing row n → row.ReadOf s.grid) : pc.Agrees cfg s where
  recorded := by
    rintro f o r quantity now k rfl
    cases hpc
  writing := hwriting

/-- A fill that is written in turn is about a level of the grid and keeps the ledger
sound. -/
theorem LedgerSound.written {f : LevelFill} {o : OrderRequest} {r : OrderResult}
    {quantity : ℚ} {now : Timestamp} (h : LedgerSound prices s.ledger)
    (hindices : s.grid.levels.map GridLevelState.index = List.range prices.length)
    (hlater : ∀ x ∈ s.ledgerFill cfg f o r quantity now, ∀ y ∈ s.ledger,
      y.filledAt < x.filledAt)
    (hclean : ∀ x ∈ s.ledgerFill cfg f o r quantity now,
      ClosesClean (replay (freshLevels prices) s.ledger) x) :
    LedgerSound prices
      (s.ledger ++ (s.ledgerFill cfg f o r quantity now).toList) := by
  cases hfill : s.ledgerFill cfg f o r quantity now with
  | none => simpa using h
  | some fill =>
      refine h.append (hlater fill hfill) ?_ (hclean fill hfill)
      obtain ⟨l, hl, rfl⟩ := Option.map_eq_some_iff.1 hfill
      have hmem : l.index ∈ s.grid.levels.map GridLevelState.index :=
        List.mem_map_of_mem (List.mem_of_getElem? hl)
      rw [hindices] at hmem
      exact List.mem_range.1 hmem

end Invariant

/-! ### Runs -/

section Runs

variable {ι : Type*} [DecidableEq ι] {cfg : GridConfig} {prices : List ℚ}
  {P : Pool ι GridShared GridPc} {i : ι}

theorem forall_task_of_resume {φ : GridPc → Prop} {t : GridShared} {pc' : GridPc}
    (h : ∀ j, φ ((P.resume i t pc').task j)) (hi : φ (P.task i)) : ∀ j, φ (P.task j) := by
  intro j
  by_cases hj : j = i
  · rwa [hj]
  · have hother := h j
    rwa [Pool.resume_task_of_ne P hj] at hother

/-- No other call is between its writes when this one was not and is not. -/
theorem StoresAgree.alone_resume (h : StoresAgree cfg prices P) {t : GridShared}
    {pc' : GridPc}
    (hi : pc'.isBetween = true →
      (P.task i).isBetween = true ∨ ∀ j, (P.task j).isBetween = false) (a b : ι)
    (ha : ((P.resume i t pc').task a).isBetween = true)
    (hb : ((P.resume i t pc').task b).isBetween = true) : a = b := by
  refine Pool.atMostOne_resume (φ := fun pc : GridPc => pc.isBetween = true) h.alone
    (fun hbetween => ?_) a b ha hb
  exact (hi hbetween).imp_right fun hnone j => Bool.eq_false_iff.1 (hnone j)

theorem forall_agrees_resume {t : GridShared} {pc' : GridPc}
    (hrest : ∀ j, j ≠ i → (P.task j).Agrees cfg t) (hi : pc'.Agrees cfg t) (j : ι) :
    ((P.resume i t pc').task j).Agrees cfg t :=
  Pool.forall_task_resume (φ := fun _ (pc : GridPc) => pc.Agrees cfg t) hrest hi j

theorem StoresAgree.goesOn (h : StoresAgree cfg prices P) {t : GridShared} {pc' : GridPc}
    (hsame : P.shared.SameStores t) (hpc : (P.task i).isBetween = false)
    (hpc' : pc'.Idles) : StoresAgree cfg prices (P.resume i t pc') where
  indices := by
    rw [Pool.resume_shared, hsame.levels]
    exact h.indices
  ledger := by
    rw [Pool.resume_shared, hsame.ledger]
    exact h.ledger
  alone := h.alone_resume fun hbetween => by
    rw [hpc'.between] at hbetween
    cases hbetween
  tasks := forall_agrees_resume (fun j _ => (h.tasks j).congr hsame)
    (.of_not_recorded (GridPc.isRecorded_of_isBetween hpc'.between)
      fun row n htask => absurd htask (hpc'.writing row n))
  settled := fun hnone => by
    have hbooks := h.settled (forall_task_of_resume (φ := fun pc => pc.isRecorded = false)
      hnone (GridPc.isRecorded_of_isBetween hpc))
    rw [Pool.resume_shared, hsame.ledger]
    exact hbooks.congr hsame.figures
  direction := by
    rw [Pool.resume_shared, hsame.row, hsame.figures.direction]
    exact h.direction
  row := fun hnone => by
    rw [Pool.resume_shared, hsame.row, hsame.ledger]
    exact h.row (forall_task_of_resume (φ := fun pc => pc.isBetween = false) hnone hpc)

/-- A call that writes its fill to the ledger while no other is between its writes. -/
theorem StoresAgree.records (h : StoresAgree cfg prices P) {f : LevelFill} {o : OrderRequest}
    {r : OrderResult} {quantity : ℚ} {now : Timestamp} {k : GridFrame}
    (htask : P.task i = .recording f o r quantity now k)
    (hok : WritesInTurn cfg prices P i .served) :
    StoresAgree cfg prices (P.resume i
      { P.shared with
        ledger := P.shared.ledger ++ (P.shared.ledgerFill cfg f o r quantity now).toList }
      (.recorded f o r quantity now k)) where
  indices := h.indices
  ledger := by
    refine h.ledger.written h.indices (fun x hx => hok.later x ?_) fun x hx =>
      hok.clean x ?_
    · rwa [htask]
    · rwa [htask]
  alone := h.alone_resume fun _ => .inr (hok.alone (by rw [htask]; rfl))
  tasks := by
    have hnone := hok.alone (by rw [htask]; rfl)
    have hbooks := h.settled fun j => GridPc.isRecorded_of_isBetween (hnone j)
    refine forall_agrees_resume (fun j _ => ?_) ⟨?_, fun row n hpc => nomatch hpc⟩
    · exact .of_not_recorded (GridPc.isRecorded_of_isBetween (hnone j)) (h.tasks j).writing
    · intro f' o' r' quantity' now' k' hpc
      cases hpc
      exact ⟨hok.quantity (by rw [htask]; rfl) quantity (by rw [htask]; rfl), _, hbooks, rfl⟩
  settled := fun hrecorded => by
    have hself := hrecorded i
    rw [Pool.resume_task_self] at hself
    cases hself
  direction := h.direction
  row := fun hbetween => by
    have hself := hbetween i
    rw [Pool.resume_task_self] at hself
    cases hself

/-- A call that books the fill that it has written. -/
theorem StoresAgree.books (h : StoresAgree cfg prices P) {f : LevelFill} {o : OrderRequest}
    {r : OrderResult} {quantity : ℚ} {now : Timestamp} {k : GridFrame}
    (htask : P.task i = .recorded f o r quantity now k) :
    StoresAgree cfg prices
      (P.resume i (P.shared.book f quantity r now) (.reading (.loop f k))) := by
  obtain ⟨hcolumn, fills, hbooks, hledger⟩ := (h.tasks i).recorded f o r quantity now k htask
  have hbetween : (P.task i).isBetween = true := by rw [htask]; rfl
  have hothers : ∀ j, j ≠ i → (P.task j).isRecorded = false := by
    intro j hj
    by_contra hrecorded
    exact hj (h.alone j i (GridPc.isBetween_of_isRecorded (Bool.of_not_eq_false hrecorded))
      hbetween)
  have hself : ¬ ∀ j, ((P.resume i (P.shared.book f quantity r now)
      (.reading (.loop f k))).task j).isBetween = false := by
    intro hnone
    have hi := hnone i
    rw [Pool.resume_task_self] at hi
    cases hi
  have hreads : (GridPc.reading (.loop f k)).Agrees cfg (P.shared.book f quantity r now) :=
    .of_not_recorded rfl fun row n hpc => nomatch hpc
  cases hfill : P.shared.ledgerFill cfg f o r quantity now with
  | none =>
      rw [hfill, Option.toList_none, List.append_nil] at hledger
      rw [book_of_ledgerFill_eq_none hfill] at hself hreads ⊢
      exact
        { indices := h.indices
          ledger := h.ledger
          alone := h.alone_resume fun _ => .inl hbetween
          tasks := forall_agrees_resume (fun j _ => h.tasks j) hreads
          settled := fun _ => hledger ▸ hbooks
          direction := h.direction
          row := fun hnone => absurd hnone hself }
  | some fill =>
      have hbook := books_of_ledgerFill hcolumn hfill
      rw [hfill, Option.toList_some] at hledger
      exact
        { indices := hbook.indices.trans h.indices
          ledger := by
            rw [Pool.resume_shared, hbook.ledger]
            exact h.ledger
          alone := h.alone_resume fun _ => .inl hbetween
          tasks := forall_agrees_resume
            (fun j hj => .of_not_recorded (hothers j hj) fun row n hpc =>
              ((h.tasks j).writing row n hpc).booked hbook) hreads
          settled := fun _ => by
            rw [Pool.resume_shared, hbook.ledger, hledger]
            exact hbooks.append hbook
          direction := by
            rw [Pool.resume_shared, hbook.row, hbook.direction]
            exact h.direction
          row := fun hnone => absurd hnone hself }

/-- A call that reads the grid for its row. -/
theorem StoresAgree.reads (h : StoresAgree cfg prices P) {n : GridNext}
    (htask : P.task i = .reading n) (hok : WritesInTurn cfg prices P i .served) :
    StoresAgree cfg prices
      (P.resume i P.shared (.writing (P.shared.grid.stored cfg) n)) := by
  have hbetween : (GridPc.writing (P.shared.grid.stored cfg) n).isBetween =
      (P.task i).isBetween := by
    rw [htask]
    cases n <;> rfl
  have hcolumns := hok.columns (by rw [htask]; rfl)
  refine ⟨h.indices, h.ledger, h.alone_resume fun hnow => .inl (hbetween ▸ hnow),
    forall_agrees_resume (fun j _ => h.tasks j) (.of_not_recorded rfl ?_), fun hnone => ?_,
    h.direction, fun hnone => ?_⟩
  · intro row n' hpc
    cases hpc
    exact .stored hcolumns
  · refine h.settled (forall_task_of_resume (φ := fun pc => pc.isRecorded = false) hnone ?_)
    rw [htask]
    rfl
  · refine h.row (forall_task_of_resume (φ := fun pc => pc.isBetween = false) hnone ?_)
    have hself := hnone i
    rwa [Pool.resume_task_self, hbetween] at hself

/-- A call that stores a row that is still current. -/
theorem StoresAgree.stores (h : StoresAgree cfg prices P) {row : GridState} {n : GridNext}
    (htask : P.task i = .writing row n) (hok : WritesInTurn cfg prices P i .served) :
    StoresAgree cfg prices
      (P.resume i { P.shared with row := some row } (.persisted n)) := by
  have hread := (h.tasks i).writing row n htask
  have hfigures := hread.figures (hok.current row (by rw [htask]; rfl))
  have hsettled : (∀ j, ((P.resume i { P.shared with row := some row }
      (.persisted n)).task j).isRecorded = false) → P.shared.grid.Books P.shared.ledger := by
    intro hnone
    refine h.settled (forall_task_of_resume (φ := fun pc => pc.isRecorded = false) hnone ?_)
    rw [htask]
    rfl
  refine ⟨h.indices, h.ledger, h.alone_resume (fun hnow => nomatch hnow),
    forall_agrees_resume (fun j _ => ⟨(h.tasks j).recorded, (h.tasks j).writing⟩)
      (.of_not_recorded rfl fun row' n' hpc => nomatch hpc), hsettled, ?_, ?_⟩
  · rintro row' hrow'
    cases hrow'
    exact hread.direction
  · rintro hnone row' hrow'
    cases hrow'
    exact (hsettled fun j => GridPc.isRecorded_of_isBetween (hnone j)).congr hfigures

theorem StoresAgree.wake (h : StoresAgree cfg prices P) (hrepository : cfg.repository = true)
    {job : ι → GridJob} {w : GridWake} {Q : Pool ι GridShared GridPc}
    (hok : WritesInTurn cfg prices P i w.event)
    (hnext : (gridMachine cfg job).next P (i, w) = some Q) : StoresAgree cfg prices Q := by
  obtain ⟨t, pc', hseg, rfl⟩ := Pool.machine_next_eq_some_iff.1 hnext
  have hstep := storeStep_of_segment hrepository hok.kept hseg
  generalize hpc : P.task i = pc at hstep
  generalize w.event = e at hstep hok
  cases hstep with
  | goesOn hsame hbetween hidles => exact h.goesOn hsame (hpc ▸ hbetween) hidles
  | records f o r quantity now k => exact h.records hpc hok
  | books f o r quantity now k => exact h.books hpc
  | reads n => exact h.reads hpc hok
  | stores row n => exact h.stores hpc hok

/-- A restored grid is its row with the levels of its ledger. -/
theorem exists_row_of_restoreGrid {statuses : Option (UUID → Option String)}
    {s : GridShared} {g : GridState} (h : restoreGrid cfg prices statuses s = some g) :
    ∃ row, s.row = some row ∧
      g = { gridStateFromRow prices row with
        levels := replay (freshLevels prices) (getFills s.ledger) } := by
  unfold restoreGrid at h
  split at h
  next =>
    obtain ⟨row, hrow, hrestore⟩ := Option.bind_eq_some_iff.1 h
    obtain ⟨levels, hlevels, rfl⟩ := Option.map_eq_some_iff.1 hrestore
    obtain rfl := eq_replay_of_foldlM hlevels
    exact ⟨row, (Option.filter_eq_some_iff.1 hrow).1, rfl⟩
  next => cases h

/-- A restored grid has the figures of its row and the levels of its ledger. -/
theorem restoreGrid_eq_some {statuses : Option (UUID → Option String)} {s : GridShared}
    {g : GridState} (h : restoreGrid cfg prices statuses s = some g)
    (hledger : LedgerSound prices s.ledger) :
    ∃ row, s.row = some row ∧ row.SameFigures g ∧
      g.levels = replay (freshLevels prices) s.ledger := by
  obtain ⟨row, hrow, rfl⟩ := exists_row_of_restoreGrid h
  rw [hledger.getFills]
  exact ⟨row, hrow, ⟨rfl, rfl, rfl, rfl, rfl⟩, rfl⟩

omit [DecidableEq ι] in
/-- A crash that comes between no two writes. -/
theorem StoresAgree.restart (h : StoresAgree cfg prices P)
    {statuses : Option (UUID → Option String)} {gate : Option LiveVerificationState}
    {g : GridState} (hnone : ∀ i, (P.task i).isBetween = false)
    (hrestore : restoreGrid cfg prices statuses P.shared = some g) :
    StoresAgree cfg prices
      ⟨{ P.shared with work := ⟨g, gate⟩ }, fun i => (P.task i).crash⟩ := by
  obtain ⟨row, hrow, hfigures, hlevels⟩ := restoreGrid_eq_some hrestore h.ledger
  have hcrash : ∀ pc : GridPc, pc.crash.isBetween = false ∧ pc.crash.isRecorded = false ∧
      ∀ row n, pc.crash ≠ .writing row n := by
    intro pc
    cases pc <;> exact ⟨rfl, rfl, fun _ _ hpc => nomatch hpc⟩
  have hbooks : g.Books P.shared.ledger := (h.row hnone row hrow).congr hfigures
  refine ⟨?_, h.ledger, fun i j hi => ?_, fun i => ?_, fun _ => hbooks, ?_, fun _ => ?_⟩
  · have hindices := indices_replay (freshLevels prices) P.shared.ledger
    rw [← hlevels, indices_freshLevels] at hindices
    exact hindices
  · rw [(hcrash (P.task i)).1] at hi
    cases hi
  · exact .of_not_recorded (hcrash (P.task i)).2.1
      fun row n hpc => absurd hpc ((hcrash (P.task i)).2.2 row n)
  · intro row' hrow'
    obtain rfl := Option.some.inj (hrow.symm.trans hrow')
    exact hfigures.direction.symm
  · intro row' hrow'
    obtain rfl := Option.some.inj (hrow.symm.trans hrow')
    exact h.row hnone row hrow

omit [DecidableEq ι] in
theorem storesAgree_start (cfg : GridConfig) (plan : GridPlan)
    (gate : Option LiveVerificationState) :
    StoresAgree cfg plan.prices (gridStart plan gate : Pool ι GridShared GridPc) where
  indices := indices_freshLevels plan.prices
  ledger := by
    refine ⟨List.Pairwise.nil, ?_⟩
    simp only [gridStart, replay, List.foldl_nil, List.map_nil, List.sum_nil, heldByLevels,
      freshLevels, List.map_map]
    apply List.sum_eq_zero
    intro x hx
    obtain ⟨p, -, rfl⟩ := List.mem_map.1 hx
    rfl
  alone := fun i j hi => nomatch hi
  tasks := fun i => .of_not_recorded rfl fun row n hpc => nomatch hpc
  settled := fun _ => ⟨by simp [gridStart, GridShared.grid, buildGridState], rfl, rfl, rfl⟩
  direction := fun row hrow => nomatch hrow
  row := fun _ row hrow => nomatch hrow

omit [DecidableEq ι] in
theorem StoresAgree.accountsFor (h : StoresAgree cfg prices P)
    {statuses : Option (UUID → Option String)} {g : GridState}
    (hnone : ∀ i, (P.task i).isBetween = false)
    (hrestore : restoreGrid cfg prices statuses P.shared = some g) :
    g.AccountsFor (getFills P.shared.ledger) := by
  obtain ⟨row, hrow, hfigures, hlevels⟩ := restoreGrid_eq_some hrestore h.ledger
  have hbooks := (h.row hnone row hrow).congr hfigures
  rw [h.ledger.getFills]
  refine ⟨?_, hbooks.realized, hbooks.fees, hbooks.count⟩
  rw [hbooks.net, ← h.ledger.held, hlevels, heldByLevels]

/-- In every run in which the calls write in turn and no crash comes between the two writes
of a fill, the grid that is restored after another such crash accounts for the fills of its
ledger. -/
theorem accountsFor_of_storedInTurn {job : ι → GridJob} {plan : GridPlan}
    {gate : Option LiveVerificationState} {as : List (GridAction ι)}
    {statuses : Option (UUID → Option String)} {g : GridState}
    (hok : (restartMachine cfg plan.prices job).Guarded (StoredInTurn cfg plan.prices)
      (gridStart plan gate) as)
    (hrun : (restartMachine cfg plan.prices job).run (gridStart plan gate) as = some P)
    (hnone : ∀ i, (P.task i).isBetween = false)
    (hrestore : restoreGrid cfg plan.prices statuses P.shared = some g) :
    g.AccountsFor (getFills P.shared.ledger) := by
  have hrepository : cfg.repository = true := by
    by_contra hno
    rw [restoreGrid, if_neg hno] at hrestore
    cases hrestore
  have hagree : StoresAgree cfg plan.prices P := by
    refine (restartMachine cfg plan.prices job).guarded_run_invariant
      (StoredInTurn cfg plan.prices) (StoresAgree cfg plan.prices) ?_
      (storesAgree_start cfg plan gate) hok hrun
    intro P a Q h hstored hnext
    cases a with
    | wake i w => exact h.wake hrepository hstored hnext
    | restart statuses gate =>
        obtain ⟨g, hg, rfl⟩ := Option.map_eq_some_iff.1 hnext
        exact h.restart hstored hg
  exact hagree.accountsFor hnone hrestore

end Runs

/-! ### A crash between the two writes -/

/-- A `Numeric(28, 8)` column rounds to eight decimals, halves away from zero. -/
def numeric8 (x : ℚ) : ℚ :=
  if 0 ≤ x then ((x * 100000000 + 1 / 2).floor : ℚ) / 100000000
  else -(((-x * 100000000 + 1 / 2).floor : ℚ) / 100000000)

/-- A controller with a repository. -/
def GridConfig.storing : GridConfig := ⟨false, true, numeric8⟩

/-- The grid is opened, and a tick opens a level of it. -/
def GridJob.opening : Fin 2 → GridJob
  | 0 => .opened
  | 1 => .tick 89

/-- The grid is stored, and the tick writes its fill to the ledger. -/
def gridRecorded : List (GridAction (Fin 2)) :=
  [.wake 0 (.call 1), .wake 0 ⟨.served, 0, 0⟩, .wake 0 ⟨.served, 0, 0⟩,
    .wake 1 (.call 2), .wake 1 .fill, .wake 1 ⟨.served, 0, 0⟩]

/-- The tick books its fill and stores the grid with it. -/
def gridStored : List (GridAction (Fin 2)) :=
  gridRecorded ++
    [.wake 1 ⟨.resumed, 0, 0⟩, .wake 1 ⟨.served, 0, 0⟩, .wake 1 ⟨.served, 0, 0⟩]

theorem accountsFor_of_storedInTurn_btc :
    ∃ P g, (restartMachine .storing GridPlan.btc.prices .opening).run (gridStart .btc none)
        gridStored = some P ∧
      restoreGrid .storing GridPlan.btc.prices none P.shared = some g ∧
        g.AccountsFor (getFills P.shared.ledger) := by
  have hend : ((restartMachine .storing GridPlan.btc.prices .opening).run
      (gridStart .btc none) gridStored).any (fun P =>
        decide (∀ i, (P.task i).isBetween = false) &&
          (restoreGrid .storing GridPlan.btc.prices none P.shared).isSome) = true := by
    decide +kernel
  obtain ⟨P, hP, hgrid⟩ := (Option.any_eq_true _ _).1 hend
  obtain ⟨hnone, hsome⟩ := Bool.and_eq_true_iff.1 hgrid
  obtain ⟨g, hg⟩ := Option.isSome_iff_exists.1 hsome
  exact ⟨P, g, hP, hg,
    accountsFor_of_storedInTurn (by decide +kernel) hP (of_decide_eq_true hnone) hg⟩

/-- The restored grid holds a level that its figures do not know. -/
theorem not_accountsFor :
    ¬ ∀ (cfg : GridConfig) (plan : GridPlan) (job : Fin 2 → GridJob)
      (as : List (GridAction (Fin 2))) (P : Pool (Fin 2) GridShared GridPc) (g : GridState),
      (restartMachine cfg plan.prices job).run (gridStart plan none) as = some P →
        restoreGrid cfg plan.prices none P.shared = some g →
          g.AccountsFor (getFills P.shared.ledger) := by
  intro h
  have hend : ((restartMachine .storing GridPlan.btc.prices .opening).run
      (gridStart .btc none) gridRecorded).any (fun P =>
        (restoreGrid .storing GridPlan.btc.prices none P.shared).any fun g =>
          decide (g.fillsCount ≠ (getFills P.shared.ledger).length)) = true := by
    decide +kernel
  obtain ⟨P, hP, hgrid⟩ := (Option.any_eq_true _ _).1 hend
  obtain ⟨g, hg, hcount⟩ := (Option.any_eq_true _ _).1 hgrid
  exact of_decide_eq_true hcount (h _ _ _ _ P g hP hg).count

end Sgr
