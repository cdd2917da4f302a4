import Sgr.Grid.CrashConsistency
import Sgr.Grid.LevelTotals

/-!
# A replayed ledger and the grid that wrote it

`_restore_one_grid` goes through the fill ledger in the order of its times and does to
fresh levels what `_fill_level` did to the levels of the running grid. Where the fills are
written one after the other, the replay comes to the levels of the running grid, unless it
gives the grid up. It does so when the row of an order in the `orders` table does not say
`filled`, which is also the case for an order that was filled in part.
-/

open Concurrency

namespace Sgr

/-- What a replay gives back of a level: `is_filled`, `quantity` and `cycle_count`. -/
def GridLevelState.fillState (l : GridLevelState) : Bool × ℚ × ℕ :=
  (l.isFilled, l.quantity, l.cycleCount)

/-- The levels of a grid as far as a replay gives them back. -/
def fillStates (levels : List GridLevelState) : List (Bool × ℚ × ℕ) :=
  levels.map GridLevelState.fillState

/-! ### The orders table -/

/-- The calls on a grid next to the `status` column of the `orders` table. -/
structure GridOrders (ι : Type*) where
  pool : Pool ι GridShared GridPc
  status : UUID → Option OrderStatus

/-- The `orders` table when `execute` has returned the result `r` of a filled order, with
every write successful. The row of the order has been written with the status with which
the exchange accepted it; when the order is filled, the row of the request id of the
result is updated, otherwise its own. -/
def settle (status : UUID → Option OrderStatus) (o : OrderRequest) (accepted : OrderStatus)
    (r : OrderResult) : UUID → Option OrderStatus :=
  let own := Function.update status o.id
    (some (if r.status = .filled then accepted else r.status))
  if r.status = .filled ∧ (own r.requestId).isSome then
    Function.update own r.requestId (some .filled)
  else own

/-- The `orders` table after a call has been woken. -/
def GridPc.settles (status : UUID → Option OrderStatus) (accepted : OrderStatus) :
    GridPc → GridEvent → UUID → Option OrderStatus
  | .executing _ o _, .executed (.returned r) =>
      if (acceptedFill r).isSome then settle status o accepted r else status
  | _, _ => status

/-- A call is woken; an order that `execute` returns was accepted with the given status. -/
structure OrderWake (ι : Type*) where
  call : ι
  wake : GridWake
  accepted : OrderStatus := .filled

/-- The calls on one grid, whose orders are rows of the `orders` table. -/
def ordersMachine {ι : Type*} [DecidableEq ι] (cfg : GridConfig) (job : ι → GridJob) :
    Machine (GridOrders ι) (OrderWake ι) where
  next S a :=
    ((gridMachine cfg job).next S.pool (a.call, a.wake)).map fun P =>
      { pool := P
        status := (S.pool.task a.call).settles S.status a.accepted a.wake.event }

/-- The texts that `_lookup_order_status` finds. -/
def GridOrders.statusText {ι : Type*} (S : GridOrders ι) (id : UUID) : Option String :=
  (S.status id).map OrderStatus.value

/-- A grid that `open_grid` has just put into the registry, next to an `orders` table. -/
def ordersStart {ι : Type*} (plan : GridPlan) (gate : Option LiveVerificationState)
    (status : UUID → Option OrderStatus) : GridOrders ι :=
  ⟨gridStart plan gate, status⟩

/-- The replay of the ledger restores the levels of the running grid. -/
def GridOrders.Restores {ι : Type*} (S : GridOrders ι) (prices : List ℚ) (row : GridState) :
    Prop :=
  ∃ g, restoreOneGrid prices (some S.statusText) row (getFills S.pool.shared.ledger) =
      some g ∧ fillStates g.levels = fillStates S.pool.shared.grid.levels

/-! ### Writing fills one after the other -/

/-- The write of a fill to the ledger fails. -/
def GridPc.forgets : GridPc → GridEvent → Bool
  | .recording _ _ _ _ _ _, .failed => true
  | _, _ => false

/-- A fill is not lost on its way to the ledger; it is written with a later time than those
before it, while no other call is between writing and booking its fill, and an opening fill
only for a level that holds nothing. -/
structure RecordsInTurn {ι : Type*} (cfg : GridConfig) (S : GridOrders ι) (a : OrderWake ι) :
    Prop where
  kept : (S.pool.task a.call).forgets a.wake.event = false
  later : ∀ x ∈ (S.pool.task a.call).recordedFill cfg S.pool.shared a.wake.event,
    ∀ y ∈ S.pool.shared.ledger, y.filledAt < x.filledAt
  alone : (S.pool.task a.call).records a.wake.event = true →
    ∀ j, (S.pool.task j).isRecorded = false
  empty : (S.pool.task a.call).records a.wake.event = true →
    ∀ f ∈ (S.pool.task a.call).fill, f.opening = true → S.pool.shared.held f.place = 0

/-! ### One fill -/

section Fills

variable {levels levels' : List GridLevelState} {fill : LedgerFill} {l l' : GridLevelState}

theorem index_eq_of_indices {n i : ℕ}
    (h : levels.map GridLevelState.index = List.range n) (hl : levels[i]? = some l) :
    l.index = i := by
  have hi : (levels.map GridLevelState.index)[i]? = some l.index := by
    rw [List.getElem?_map, hl, Option.map_some]
  rw [h] at hi
  obtain ⟨hlt, hget⟩ := List.getElem?_eq_some_iff.1 hi
  rw [List.getElem_range] at hget
  exact hget.symm

theorem getElem?_of_fillStates (h : fillStates levels = fillStates levels') {i : ℕ}
    (hl : levels[i]? = some l) : ∃ l', levels'[i]? = some l' ∧ l'.fillState = l.fillState := by
  have hi : (fillStates levels')[i]? = some l.fillState := by
    rw [← h, fillStates, List.getElem?_map, hl, Option.map_some]
  rw [fillStates, List.getElem?_map] at hi
  exact Option.map_eq_some_iff.1 hi

theorem fillState_closedLevel (h : l'.fillState = l.fillState) (quantity : ℚ) :
    (closedLevel l' quantity).fillState = (closedLevel l quantity).fillState := by
  obtain ⟨-, hquantity, hcycles⟩ : l'.isFilled = l.isFilled ∧ l'.quantity = l.quantity ∧
      l'.cycleCount = l.cycleCount := by
    simpa [GridLevelState.fillState] using h
  unfold closedLevel
  rw [hquantity]
  split
  · simp [GridLevelState.fillState, hcycles]
  · simp [GridLevelState.fillState, hcycles]

theorem fillState_replayLevel_closing (hclosing : fill.isOpening = false)
    (h : l'.fillState = l.fillState) :
    (replayLevel fill l').fillState = (closedLevel l fill.quantity).fillState := by
  rw [← fillState_closedLevel h]
  simp [replayLevel, hclosing, GridLevelState.fillState]

/-- The replay adds the quantity of an opening fill, and the running grid takes it as it
is. -/
theorem fillState_replayLevel_opening (hopening : fill.isOpening = true)
    (hempty : l.quantity = 0) (h : l'.fillState = l.fillState) :
    (replayLevel fill l').fillState = (openedLevel l fill.quantity).fillState := by
  obtain ⟨-, hquantity, hcycles⟩ : l'.isFilled = l.isFilled ∧ l'.quantity = l.quantity ∧
      l'.cycleCount = l.cycleCount := by
    simpa [GridLevelState.fillState] using h
  simp [replayLevel, hopening, GridLevelState.fillState, openedLevel, hquantity, hempty,
    hcycles]

theorem fillStates_replay_singleton (levels : List GridLevelState)
    (hl : levels[fill.levelIndex]? = some l) :
    fillStates (replay levels [fill]) =
      (fillStates levels).set fill.levelIndex (replayLevel fill l).fillState := by
  rw [replay, List.foldl_cons, List.foldl_nil, hl]
  exact List.map_set

variable {cfg : GridConfig} {s : GridShared} {f : LevelFill} {o : OrderRequest}
  {r : OrderResult} {quantity : ℚ} {now : Timestamp}

/-- A level with the id and the time of the order that has filled it. -/
def GridLevelState.filledBy (l : GridLevelState) (r : OrderResult) (now : Timestamp) :
    GridLevelState :=
  { l with lastOrderId := some r.exchangeOrderId, lastFilledAt := some now }

/-- A fill that is booked changes the levels as the replay of its row does. -/
theorem fillStates_book {n : ℕ} (hexact : ∀ x, cfg.column x = x)
    (hindices : s.grid.levels.map GridLevelState.index = List.range n)
    (hempty : f.opening = true → s.held f.place = 0)
    (hstates : fillStates s.grid.levels = fillStates levels)
    (hfill : s.ledgerFill cfg f o r quantity now = some fill) :
    fillStates (s.book f quantity r now).grid.levels =
      fillStates (replay levels [fill]) := by
  obtain ⟨l, hl, rfl⟩ := Option.map_eq_some_iff.1 hfill
  have hplace := index_eq_of_indices hindices hl
  obtain ⟨l', hl', hstate⟩ := getElem?_of_fillStates hstates hl
  rw [← hplace] at hl'
  rw [fillStates_replay_singleton levels hl', ← hstates, hplace]
  have hrow : (s.book f quantity r now).grid.levels = s.grid.levels.set f.place
      (if f.opening then openedLevel (l.filledBy r now) quantity
        else closedLevel (l.filledBy r now) quantity) := by
    simp only [GridShared.book, hl]
    cases f.opening <;> rfl
  rw [hrow, fillStates, List.map_set]
  refine congrArg _ ?_
  cases hopening : f.opening with
  | true =>
      have hzero : l.quantity = 0 := by
        rw [← held_of_getElem? hl]
        exact hempty hopening
      rw [fillState_replayLevel_opening rfl hzero hstate, if_pos rfl]
      simp [hexact, openedLevel, GridLevelState.fillState, GridLevelState.filledBy]
  | false =>
      rw [fillState_replayLevel_closing rfl hstate, if_neg Bool.false_ne_true, hexact]
      have hbooked : (l.filledBy r now).fillState = l.fillState := rfl
      exact fillState_closedLevel hbooked quantity

end Fills

/-! ### The replay -/

section Replay

variable {levels : List GridLevelState} {fills : List LedgerFill} {fill : LedgerFill}
  {status : UUID → Option OrderStatus}

theorem OrderStatus.value_eq_filled_iff (s : OrderStatus) : s.value = "filled" ↔ s = .filled := by
  cases s <;> decide

/-- The row of an order is looked up under the id in the ledger. -/
theorem orderFilled_iff :
    orderFilled (some fun id => (status id).map OrderStatus.value) fill = true ↔
      ∀ id ∈ fill.orderId, status id = some .filled := by
  unfold orderFilled
  cases fill.orderId with
  | none => simp
  | some id =>
      cases hstatus : status id with
      | none => simp [hstatus]
      | some s => simp [hstatus, OrderStatus.value_eq_filled_iff]

/-- A replay comes to its end exactly when every order that it looks up is filled. -/
theorem exists_foldlM_replayFill_iff {statuses : Option (UUID → Option String)}
    (hindex : ∀ fill ∈ fills, fill.levelIndex < levels.length) :
    (∃ levels', fills.foldlM (replayFill statuses) levels = some levels') ↔
      ∀ fill ∈ fills, orderFilled statuses fill = true := by
  induction fills generalizing levels with
  | nil => simp
  | cons fill fills ih =>
      have hlt := hindex fill List.mem_cons_self
      have hl : levels[fill.levelIndex]? = some levels[fill.levelIndex] :=
        List.getElem?_eq_getElem hlt
      rw [List.foldlM_cons, replayFill, hl, Option.bind_some, List.forall_mem_cons]
      by_cases hfilled : orderFilled statuses fill = true
      · rw [if_pos hfilled, Option.bind_eq_bind, Option.bind_some, ih]
        · simp [hfilled]
        · intro fill' hmem
          rw [List.length_set]
          exact hindex fill' (List.mem_cons_of_mem fill hmem)
      · simp [hfilled]

theorem getFills_of_sorted (h : fills.Pairwise fun x y => x.filledAt < y.filledAt) :
    getFills fills = fills :=
  List.Pairwise.insertionSort_eq (h.imp fun hlt => hlt.le)

end Replay

/-! ### The invariant -/

/-- The ledger is ahead of the levels by the fill that the call is about to book. -/
def GridPc.IsAhead (cfg : GridConfig) (prices : List ℚ) (s : GridShared) (pc : GridPc) : Prop :=
  ∀ f o r quantity now k, pc = .recorded f o r quantity now k →
    (f.opening = true → s.held f.place = 0) ∧
      ∃ fills, fillStates s.grid.levels = fillStates (replay (freshLevels prices) fills) ∧
        s.ledger = fills ++ (s.ledgerFill cfg f o r quantity now).toList

/-- The levels of the grid are those of the replayed ledger, but for a fill that a call is
about to book. -/
structure ReplaysLive {ι : Type*} (cfg : GridConfig) (prices : List ℚ)
    (P : Pool ι GridShared GridPc) : Prop where
  indices : P.shared.grid.levels.map GridLevelState.index = List.range prices.length
  ledger : ∀ fill ∈ P.shared.ledger, fill.levelIndex < prices.length
  sorted : P.shared.ledger.Pairwise fun x y => x.filledAt < y.filledAt
  alone : ∀ i j, (P.task i).isRecorded = true → (P.task j).isRecorded = true → i = j
  ahead : ∀ i, (P.task i).IsAhead cfg prices P.shared
  settled : (∀ i, (P.task i).isRecorded = false) → fillStates P.shared.grid.levels =
    fillStates (replay (freshLevels prices) P.shared.ledger)

/-- What a segment does to the levels and to the ledger, when no fill is lost. -/
inductive LedgerStep (cfg : GridConfig) (s : GridShared) :
    GridPc → GridEvent → GridShared → GridPc → Prop
  | goesOn {pc : GridPc} {e : GridEvent} {t : GridShared} {pc' : GridPc}
      (hlevels : t.grid.levels = s.grid.levels)
      (hdirection : t.grid.direction = s.grid.direction) (hledger : t.ledger = s.ledger)
      (hpc : pc.isRecorded = false) (hpc' : pc'.isRecorded = false) :
      LedgerStep cfg s pc e t pc'
  | records (f : LevelFill) (o : OrderRequest) (r : OrderResult) (quantity : ℚ)
      (now : Timestamp) (k : GridFrame) :
      LedgerStep cfg s (.recording f o r quantity now k) .served
        { s with ledger := s.ledger ++ (s.ledgerFill cfg f o r quantity now).toList }
        (.recorded f o r quantity now k)
  | books (f : LevelFill) (o : OrderRequest) (r : OrderResult) (quantity : ℚ)
      (now : Timestamp) (k : GridFrame) {e : GridEvent} :
      LedgerStep cfg s (.recorded f o r quantity now k) e (s.book f quantity r now)
        (.reading (.loop f k))

section Segments

variable {cfg : GridConfig} {id : UUID} {now : Timestamp} {s t : GridShared} {pc pc' : GridPc}
  {w : GridWake}

theorem StoreStep.ledgerStep {e : GridEvent} (h : StoreStep cfg s pc e t pc') :
    LedgerStep cfg s pc e t pc' := by
  cases h with
  | goesOn hsame hpc hidles =>
      exact .goesOn hsame.levels hsame.figures.direction hsame.ledger
        (GridPc.isRecorded_of_isBetween hpc) (GridPc.isRecorded_of_isBetween hidles.between)
  | records f o r quantity now k => exact .records f o r quantity now k
  | books f o r quantity now k => exact .books f o r quantity now k
  | reads n => exact .goesOn rfl rfl rfl rfl rfl
  | stores row n => exact .goesOn rfl rfl rfl rfl rfl

theorem GridPc.loses_of_givesUp {e : GridEvent} {f : LevelFill}
    (h : pc.givesUp e = some f) : pc.loses e = false := by
  unfold GridPc.givesUp at h
  split at h
  · rfl
  · rfl
  · cases h

/-- A segment that does not lose its fill; a failed write of the grid's row changes
nothing here. -/
theorem ledgerStep_of_segment {job : GridJob} (hrepository : cfg.repository = true)
    (hkept : pc.forgets w.event = false)
    (hseg : gridSegment cfg job s pc w = some (t, pc')) :
    LedgerStep cfg s pc w.event t pc' := by
  by_cases hloses : pc.loses w.event = false
  · exact (storeStep_of_segment hrepository hloses hseg).ledgerStep
  · have hstep := gridStep_of_segment hseg
    generalize w.event = e at hstep hkept hloses ⊢
    cases hstep with
    | forgets => cases hkept
    | unread n => exact .goesOn rfl rfl rfl rfl rfl
    | unstored row n => exact .goesOn rfl rfl rfl rfl rfl
    | leaves hgives => exact absurd (GridPc.loses_of_givesUp hgives) hloses
    | reads n => cases n <;> exact absurd rfl hloses
    | stores row n => cases n <;> exact absurd rfl hloses
    | _ => exact absurd rfl hloses

end Segments

section Runs

variable {ι : Type*} [DecidableEq ι] {cfg : GridConfig} {prices : List ℚ}
  {P : Pool ι GridShared GridPc} {i : ι} {t : GridShared} {pc' : GridPc}

theorem GridPc.isAhead_of_not_isRecorded {s : GridShared} {pc : GridPc}
    (h : pc.isRecorded = false) : pc.IsAhead cfg prices s := by
  rintro f o r quantity now k rfl
  cases h

theorem GridPc.IsAhead.congr {s : GridShared} {pc : GridPc} (h : pc.IsAhead cfg prices s)
    (hlevels : t.grid.levels = s.grid.levels)
    (hdirection : t.grid.direction = s.grid.direction) (hledger : t.ledger = s.ledger) :
    pc.IsAhead cfg prices t := by
  intro f o r quantity now k hpc
  have hfill : t.ledgerFill cfg f o r quantity now = s.ledgerFill cfg f o r quantity now := by
    simp only [GridShared.ledgerFill, hlevels, cyclePnl, GridState.sideFactor_congr hdirection]
  rw [GridShared.held, hlevels, hledger, hfill]
  exact h f o r quantity now k hpc

theorem indices_book {s : GridShared} {f : LevelFill} {r : OrderResult} {quantity : ℚ}
    {now : Timestamp} :
    (s.book f quantity r now).grid.levels.map GridLevelState.index =
      s.grid.levels.map GridLevelState.index := by
  cases hl : s.grid.levels[f.place]? with
  | none => rw [book_of_none hl]
  | some l =>
      simp only [GridShared.book, hl]
      cases f.opening with
      | true => exact map_set_of_eq _ hl rfl
      | false =>
          refine map_set_of_eq _ hl ?_
          unfold closedLevel
          split_ifs <;> rfl

theorem ledger_book {s : GridShared} {f : LevelFill} {r : OrderResult} {quantity : ℚ}
    {now : Timestamp} : (s.book f quantity r now).ledger = s.ledger := by
  unfold GridShared.book
  split <;> rfl

/-- A segment that leaves the levels and the ledger alone. -/
theorem ReplaysLive.goesOn (h : ReplaysLive cfg prices P)
    (hlevels : t.grid.levels = P.shared.grid.levels)
    (hdirection : t.grid.direction = P.shared.grid.direction)
    (hledger : t.ledger = P.shared.ledger) (hpc : (P.task i).isRecorded = false)
    (hpc' : pc'.isRecorded = false) : ReplaysLive cfg prices (P.resume i t pc') where
  indices := by rw [Pool.resume_shared, hlevels, h.indices]
  ledger := by
    rw [Pool.resume_shared, hledger]
    exact h.ledger
  sorted := by
    rw [Pool.resume_shared, hledger]
    exact h.sorted
  alone := Pool.atMostOne_resume (φ := fun pc : GridPc => pc.isRecorded = true) h.alone
    fun hrecorded => by
      rw [hpc'] at hrecorded
      cases hrecorded
  ahead := Pool.forall_task_resume (φ := fun _ (pc : GridPc) => pc.IsAhead cfg prices t)
    (fun j _ => (h.ahead j).congr hlevels hdirection hledger)
    (GridPc.isAhead_of_not_isRecorded hpc')
  settled := fun hnone => by
    rw [Pool.resume_shared, hlevels, hledger]
    exact h.settled (forall_task_of_resume (φ := fun pc => pc.isRecorded = false) hnone hpc)

/-- A call that writes its fill to the ledger. -/
theorem ReplaysLive.records (h : ReplaysLive cfg prices P) {f : LevelFill} {o : OrderRequest}
    {r : OrderResult} {quantity : ℚ} {now : Timestamp} {k : GridFrame}
    (hlater : ∀ x ∈ P.shared.ledgerFill cfg f o r quantity now, ∀ y ∈ P.shared.ledger,
      y.filledAt < x.filledAt)
    (hnone : ∀ j, (P.task j).isRecorded = false)
    (hempty : f.opening = true → P.shared.held f.place = 0) :
    ReplaysLive cfg prices (P.resume i
      { P.shared with
        ledger := P.shared.ledger ++ (P.shared.ledgerFill cfg f o r quantity now).toList }
      (.recorded f o r quantity now k)) where
  indices := h.indices
  ledger := by
    intro x hx
    rcases List.mem_append.1 hx with hx | hx
    · exact h.ledger x hx
    · obtain ⟨l, hl, rfl⟩ := Option.map_eq_some_iff.1 (Option.mem_toList.1 hx)
      have hmem : l.index ∈ P.shared.grid.levels.map GridLevelState.index :=
        List.mem_map_of_mem (List.mem_of_getElem? hl)
      rw [h.indices] at hmem
      exact List.mem_range.1 hmem
  sorted := by
    rw [Pool.resume_shared, List.pairwise_append]
    refine ⟨h.sorted, ?_, fun y hy x hx => hlater x (Option.mem_toList.1 hx) y hy⟩
    cases P.shared.ledgerFill cfg f o r quantity now with
    | none => exact .nil
    | some x => exact List.pairwise_singleton _ x
  alone := Pool.atMostOne_resume (φ := fun pc : GridPc => pc.isRecorded = true) h.alone
    fun _ => .inr fun j => Bool.eq_false_iff.1 (hnone j)
  ahead := by
    refine Pool.forall_task_resume (φ := fun _ (pc : GridPc) => pc.IsAhead cfg prices _)
      (fun j _ => GridPc.isAhead_of_not_isRecorded (hnone j)) ?_
    intro f' o' r' quantity' now' k' hpc
    cases hpc
    exact ⟨hempty, _, h.settled hnone, rfl⟩
  settled := fun hrecorded => by
    have hself := hrecorded i
    rw [Pool.resume_task_self] at hself
    cases hself

/-- A call that books the fill that it has written. -/
theorem ReplaysLive.books (h : ReplaysLive cfg prices P) (hexact : ∀ x, cfg.column x = x)
    {f : LevelFill} {o : OrderRequest} {r : OrderResult} {quantity : ℚ} {now : Timestamp}
    {k : GridFrame} (htask : P.task i = .recorded f o r quantity now k) :
    ReplaysLive cfg prices
      (P.resume i (P.shared.book f quantity r now) (.reading (.loop f k))) where
  indices := indices_book.trans h.indices
  ledger := by
    rw [Pool.resume_shared, ledger_book]
    exact h.ledger
  sorted := by
    rw [Pool.resume_shared, ledger_book]
    exact h.sorted
  alone := Pool.atMostOne_resume (φ := fun pc : GridPc => pc.isRecorded = true) h.alone
    fun hrecorded => nomatch hrecorded
  ahead := by
    have hself : (P.task i).isRecorded = true := by rw [htask]; rfl
    refine Pool.forall_task_resume (φ := fun _ (pc : GridPc) => pc.IsAhead cfg prices _)
      (fun j hj => GridPc.isAhead_of_not_isRecorded ?_)
      (GridPc.isAhead_of_not_isRecorded rfl)
    by_contra hrecorded
    exact hj (h.alone j i (Bool.of_not_eq_false hrecorded) hself)
  settled := fun _ => by
    obtain ⟨hempty, fills, hstates, hledger⟩ := h.ahead i f o r quantity now k htask
    rw [Pool.resume_shared, ledger_book, hledger]
    cases hfill : P.shared.ledgerFill cfg f o r quantity now with
    | none =>
        rw [book_of_ledgerFill_eq_none hfill, Option.toList_none, List.append_nil]
        exact hstates
    | some fill =>
        rw [Option.toList_some, replay_append]
        exact fillStates_book hexact h.indices hempty hstates hfill

theorem ReplaysLive.step (h : ReplaysLive cfg prices P) (hrepository : cfg.repository = true)
    (hexact : ∀ x, cfg.column x = x) {job : ι → GridJob}
    {status : UUID → Option OrderStatus} {a : OrderWake ι} {Q : Pool ι GridShared GridPc}
    (hok : RecordsInTurn cfg ⟨P, status⟩ a)
    (hnext : (gridMachine cfg job).next P (a.call, a.wake) = some Q) :
    ReplaysLive cfg prices Q := by
  obtain ⟨t, pc', hseg, rfl⟩ := Pool.machine_next_eq_some_iff.1 hnext
  have hstep := ledgerStep_of_segment hrepository hok.kept hseg
  obtain ⟨i, ⟨e, id, now⟩, accepted⟩ := a
  generalize hpc : P.task i = pc at hstep
  cases hstep with
  | goesOn hlevels hdirection hledger hbefore hafter =>
      exact h.goesOn hlevels hdirection hledger (hpc ▸ hbefore) hafter
  | records f o r quantity now k =>
      refine h.records (fun x hx => hok.later x ?_) (hok.alone ?_) (hok.empty ?_ f ?_)
      · rwa [hpc]
      · rw [hpc]; rfl
      · rw [hpc]; rfl
      · rw [hpc]; rfl
  | books f o r quantity now k => exact h.books hexact hpc

omit [DecidableEq ι] in
theorem replaysLive_start (cfg : GridConfig) (plan : GridPlan)
    (gate : Option LiveVerificationState) :
    ReplaysLive cfg plan.prices (gridStart plan gate : Pool ι GridShared GridPc) where
  indices := indices_freshLevels plan.prices
  ledger := fun _ hfill => absurd hfill List.not_mem_nil
  sorted := .nil
  alone := fun _ _ hi => nomatch hi
  ahead := fun _ => GridPc.isAhead_of_not_isRecorded rfl
  settled := fun _ => rfl

omit [DecidableEq ι] in
/-- Between a booking and the next fill the replay comes to the levels of the running grid
or gives the grid up. -/
theorem ReplaysLive.restores_iff {S : GridOrders ι} (h : ReplaysLive cfg prices S.pool)
    (hquiet : ∀ i, (S.pool.task i).isRecorded = false) (row : GridState) :
    S.Restores prices row ↔
      ∀ fill ∈ S.pool.shared.ledger, ∀ id ∈ fill.orderId, S.status id = some .filled := by
  have hindex : ∀ fill ∈ S.pool.shared.ledger,
      fill.levelIndex < (freshLevels prices).length := by
    rw [length_freshLevels]
    exact h.ledger
  have hfills := getFills_of_sorted h.sorted
  rw [GridOrders.Restores, hfills]
  constructor
  · rintro ⟨g, hrestore, -⟩ fill hfill
    obtain ⟨levels, hlevels, -⟩ := Option.map_eq_some_iff.1 hrestore
    exact orderFilled_iff.1 ((exists_foldlM_replayFill_iff hindex).1 ⟨levels, hlevels⟩ fill hfill)
  · intro hfilled
    obtain ⟨levels, hlevels⟩ := (exists_foldlM_replayFill_iff hindex).2 fun fill hfill =>
      orderFilled_iff.2 (hfilled fill hfill)
    refine ⟨{ gridStateFromRow prices row with levels := levels },
      Option.map_eq_some_iff.2 ⟨levels, hlevels, rfl⟩, ?_⟩
    rw [h.settled hquiet]
    exact congrArg fillStates (eq_replay_of_foldlM hlevels)

/-- In every run that writes its fills one after the other, the replay of the ledger
restores the levels of the running grid exactly when the row of every order in the ledger
says `filled`. -/
theorem restores_iff_of_recordsInTurn {job : ι → GridJob} {plan : GridPlan}
    {gate : Option LiveVerificationState} {status : UUID → Option OrderStatus}
    {as : List (OrderWake ι)} {S : GridOrders ι} (hrepository : cfg.repository = true)
    (hexact : ∀ x, cfg.column x = x)
    (hok : (ordersMachine cfg job).Guarded (RecordsInTurn cfg) (ordersStart plan gate status)
      as)
    (hrun : (ordersMachine cfg job).run (ordersStart plan gate status) as = some S)
    (hquiet : ∀ i, (S.pool.task i).isRecorded = false) (row : GridState) :
    S.Restores plan.prices row ↔
      ∀ fill ∈ S.pool.shared.ledger, ∀ id ∈ fill.orderId, S.status id = some .filled := by
  have hlive : ReplaysLive cfg plan.prices S.pool := by
    refine (ordersMachine cfg job).guarded_run_invariant (RecordsInTurn cfg)
      (fun S => ReplaysLive cfg plan.prices S.pool) ?_ (replaysLive_start cfg plan gate) hok
      hrun
    intro S a S' h hturn hnext
    obtain ⟨Q, hQ, rfl⟩ := Option.map_eq_some_iff.1 hnext
    exact h.step hrepository hexact hturn hQ
  exact hlive.restores_iff hquiet row

end Runs

/-! ### Calls one after the other -/

/-- The call has not been made, or is over. -/
def GridPc.rests : GridPc → Bool
  | .idle | .returned | .raised => true
  | _ => false

/-- The call has not been made. -/
def GridPc.isIdle : GridPc → Bool
  | .idle => true
  | _ => false

/-- No fill is lost on its way to the ledger, the time moves on between two fills, and a
call is made only when no other is under way. -/
structure CallsInTurn {ι : Type*} (cfg : GridConfig) (S : GridOrders ι) (a : OrderWake ι) :
    Prop where
  kept : (S.pool.task a.call).forgets a.wake.event = false
  later : ∀ x ∈ (S.pool.task a.call).recordedFill cfg S.pool.shared a.wake.event,
    ∀ y ∈ S.pool.shared.ledger, y.filledAt < x.filledAt
  alone : (S.pool.task a.call).isIdle = true → ∀ j, (S.pool.task j).rests = true

/-- At most one call is under way; a level that is not filled is empty, and it is such a
level that a call opens. -/
structure OneCall {ι : Type*} (P : Pool ι GridShared GridPc) : Prop where
  active : ∀ i j, (P.task i).rests = false → (P.task j).rests = false → i = j
  empty : ∀ l ∈ P.shared.grid.levels, l.isFilled = false → l.quantity = 0
  opens : ∀ i, ∀ f ∈ (P.task i).fill, f.opening = true → P.shared.isFilledAt f.place = false

section OneCall

variable {cfg : GridConfig} {id : UUID} {now : Timestamp} {s t : GridShared} {pc pc' : GridPc}
  {w : GridWake}

/-- A loop opens a level only when it is not filled. -/
theorem GridLoop.not_isFilledAt_of_fill {loop : GridLoop} {cell : ℕ × ℕ} {f : LevelFill}
    (h : loop.fill s.grid cell = some f) (hopening : f.opening = true) :
    s.isFilledAt f.place = false := by
  have hplace := (GridLoop.fill_eq_some h).1
  unfold GridLoop.fill at h
  split at h
  next entry exit hentry hexit =>
    cases loop with
    | tick price previous blocked =>
        rw [GridShared.isFilledAt, hplace, hentry, Option.any_some]
        by_contra hfilled
        simp only [tickFill, Bool.of_not_eq_false hfilled, Bool.not_true, Bool.false_and,
          Bool.false_eq_true, if_false] at h
        split_ifs at h <;> cases h <;> cases hopening
    | close reason price force =>
        dsimp only at h
        split at h
        · cases h
          cases hopening
        · cases h
  · cases h

theorem opens_advance (cfg : GridConfig) (id : UUID) (now : Timestamp) (s : GridShared)
    (loop : GridLoop) (cells : List (ℕ × ℕ)) :
    ∀ f ∈ (s.advance cfg id now loop cells).2.fill, f.opening = true →
      s.isFilledAt f.place = false := by
  induction cells with
  | nil =>
      rw [GridShared.advance]
      intro f hf
      split at hf
      · cases hf
      · cases hf
  | cons cell rest ih =>
      rw [GridShared.advance]
      split
      · exact ih
      next f o hsome =>
        obtain ⟨f₀, hf, ho⟩ := Option.bind_eq_some_iff.1 hsome
        obtain ⟨o₀, -, hpair⟩ := Option.map_eq_some_iff.1 ho
        obtain rfl : f₀ = f := congrArg Prod.fst hpair
        intro g hg
        obtain rfl : f₀ = g := by
          split at hg
          · exact Option.some.inj hg
          · exact Option.some.inj hg
        exact GridLoop.not_isFilledAt_of_fill hf

/-- What a segment keeps of the levels, and which level the call goes on to open. -/
structure OpensEmpty (c : GridShared × GridPc) : Prop where
  empty : ∀ l ∈ c.1.grid.levels, l.isFilled = false → l.quantity = 0
  opens : ∀ f ∈ c.2.fill, f.opening = true → c.1.isFilledAt f.place = false

theorem OpensEmpty.advance (h : ∀ l ∈ s.grid.levels, l.isFilled = false → l.quantity = 0)
    (loop : GridLoop) (cells : List (ℕ × ℕ)) :
    OpensEmpty (s.advance cfg id now loop cells) where
  empty := by
    rw [levels_advance]
    exact h
  opens := fun f hf hopening => by
    rw [isFilledAt_congr (levels_advance cfg id now s loop cells)]
    exact opens_advance cfg id now s loop cells f hf hopening

theorem OpensEmpty.of_fill_eq_none
    (h : ∀ l ∈ s.grid.levels, l.isFilled = false → l.quantity = 0) (hpc : pc.fill = none) :
    OpensEmpty (s, pc) :=
  ⟨h, fun f hf => by rw [hpc] at hf; cases hf⟩

/-- A level that a call opens holds nothing. -/
theorem OpensEmpty.held_eq_zero (h : OpensEmpty (s, pc)) {f : LevelFill}
    (hf : pc.fill = some f) (hopening : f.opening = true) : s.held f.place = 0 := by
  have hempty := h.opens f hf hopening
  unfold GridShared.held
  cases hl : s.grid.levels[f.place]? with
  | none => rfl
  | some l =>
      rw [GridShared.isFilledAt, hl, Option.any_some] at hempty
      exact h.empty l (List.mem_of_getElem? hl) hempty

theorem opensEmpty_call (h : ∀ l ∈ s.grid.levels, l.isFilled = false → l.quantity = 0)
    (job : GridJob) (blocked : Bool) : OpensEmpty (gridCall cfg job id now s blocked) := by
  have htick : ∀ price, OpensEmpty (s.tick cfg id now blocked price) := by
    intro price
    unfold GridShared.tick
    split
    · exact .advance h _ _
    · exact .of_fill_eq_none h rfl
  have hclose : ∀ reason price force, OpensEmpty (s.close cfg id now reason price force) := by
    intro reason price force
    unfold GridShared.close
    split
    · exact .advance (s := s.setGrid { s.grid with status := .closing }) h _ _
    · exact .of_fill_eq_none h rfl
  cases job with
  | opened =>
      refine .of_fill_eq_none h ?_
      split
      · rfl
      · rfl
  | tick price => exact htick price
  | close reason price force => exact hclose reason price force
  | monitor price violated =>
      unfold gridCall
      dsimp only
      split
      · split
        · exact hclose _ price true
        · exact htick price
      · exact .of_fill_eq_none h rfl

theorem empty_book (h : ∀ l ∈ s.grid.levels, l.isFilled = false → l.quantity = 0)
    (f : LevelFill) (quantity : ℚ) (r : OrderResult) (now : Timestamp) :
    ∀ l ∈ (s.book f quantity r now).grid.levels, l.isFilled = false → l.quantity = 0 := by
  cases hl : s.grid.levels[f.place]? with
  | none =>
      rw [book_of_none hl]
      exact h
  | some l =>
      obtain ⟨l', hlevels, -⟩ := book_eq hl quantity r now
      rw [hlevels]
      intro x hx hfilled
      rcases List.mem_or_eq_of_mem_set hx with hmem | rfl
      · exact h x hmem hfilled
      · cases hopening : f.opening with
        | true => simp [hopening, openedLevel] at hfilled
        | false =>
            simp only [hopening, Bool.false_eq_true, if_false, closedLevel] at hfilled ⊢
            split at hfilled
            next hsmall => rw [if_pos hsmall]
            next => cases hfilled

/-- One segment of a call that runs alone. -/
theorem opensEmpty_segment {job : GridJob} (hseg : gridSegment cfg job s pc w = some (t, pc'))
    (h : OpensEmpty (s, pc)) : OpensEmpty (t, pc') := by
  have hstep := gridStep_of_segment hseg
  generalize w.event = e at hstep
  have hrecord : ∀ {id now} f r quantity filledAt k,
      OpensEmpty (s.afterRecord cfg id now f r quantity filledAt k) := by
    intro id now f r quantity filledAt k
    have hbook := empty_book h.empty f quantity r filledAt
    unfold GridShared.afterRecord
    split
    · exact .of_fill_eq_none hbook rfl
    · exact .advance (s := (s.book f quantity r filledAt).setGrid
        (updateMarkToMarket (s.book f quantity r filledAt).grid f.price)) hbook _ _
  cases hstep with
  | starts job blocked => exact opensEmpty_call h.empty job blocked
  | admits f o k => exact ⟨h.empty, h.opens⟩
  | leaves => exact .advance h.empty _ _
  | fills f o k r quantity now => exact ⟨h.empty, h.opens⟩
  | records f o r quantity now k => exact ⟨h.empty, h.opens⟩
  | forgets f o r quantity now k => exact ⟨h.empty, h.opens⟩
  | books f o r quantity filledAt k => exact hrecord f r quantity filledAt k
  | booksUnrecorded f o k r quantity filledAt => exact hrecord f r quantity filledAt k
  | resumes f k =>
      exact .advance (s := s.setGrid (updateMarkToMarket s.grid f.price)) h.empty _ _
  | stores row n => exact .of_fill_eq_none h.empty rfl
  | _ => exact .of_fill_eq_none h.empty rfl

variable {ι : Type*} [DecidableEq ι] {P Q : Pool ι GridShared GridPc}

theorem GridPc.fill_eq_none_of_rests (h : pc.rests = true) : pc.fill = none := by
  cases pc <;> first | rfl | cases h

theorem GridPc.eq_idle_of_rests {job : GridJob} (h : pc.rests = true)
    (hseg : gridSegment cfg job s pc w = some (t, pc')) : pc = .idle := by
  cases pc with
  | idle => rfl
  | returned => cases hseg
  | raised => cases hseg
  | _ => cases h

omit [DecidableEq ι] in
/-- While a call is woken all others rest. -/
theorem OneCall.rests_of_ne (h : OneCall P) {job : GridJob} {i j : ι}
    (halone : (P.task i).isIdle = true → ∀ j, (P.task j).rests = true)
    (hseg : gridSegment cfg job P.shared (P.task i) w = some (t, pc')) (hj : j ≠ i) :
    (P.task j).rests = true := by
  by_contra hactive
  refine hj (h.active j i (Bool.eq_false_iff.2 hactive) (Bool.eq_false_iff.2 fun hrests => ?_))
  exact hactive (halone (by rw [GridPc.eq_idle_of_rests hrests hseg]; rfl) j)

theorem OneCall.step (h : OneCall P) {job : ι → GridJob} {i : ι}
    (halone : (P.task i).isIdle = true → ∀ j, (P.task j).rests = true)
    (hnext : (gridMachine cfg job).next P (i, w) = some Q) : OneCall Q := by
  obtain ⟨t, pc', hseg, rfl⟩ := Pool.machine_next_eq_some_iff.1 hnext
  have hothers : ∀ j, j ≠ i → (P.task j).rests = true :=
    fun j hj => h.rests_of_ne halone hseg hj
  have hkeeps := opensEmpty_segment hseg ⟨h.empty, h.opens i⟩
  refine ⟨?_, hkeeps.empty, ?_⟩
  · have honly : ∀ j, ((P.resume i t pc').task j).rests = false → j = i := by
      intro j hj
      by_contra hne
      rw [Pool.resume_task_of_ne P hne, hothers j hne] at hj
      cases hj
    intro j k hj hk
    rw [honly j hj, honly k hk]
  · refine Pool.forall_task_resume (φ := fun _ (pc : GridPc) => ∀ f ∈ pc.fill,
      f.opening = true → t.isFilledAt f.place = false) (fun j hj => ?_) hkeeps.opens
    rw [GridPc.fill_eq_none_of_rests (hothers j hj)]
    exact fun _ hf => nomatch hf

omit [DecidableEq ι] in
/-- Calls that are made one after the other write their fills one after the other. -/
theorem OneCall.recordsInTurn {S : GridOrders ι} {a : OrderWake ι} (h : OneCall S.pool)
    (hok : CallsInTurn cfg S a) : RecordsInTurn cfg S a where
  kept := hok.kept
  later := hok.later
  alone := by
    intro hrecords j
    by_contra hrecorded
    have hj : (S.pool.task j).rests = false := by
      cases hpc : S.pool.task j <;> first | rfl | simp [hpc, GridPc.isRecorded] at hrecorded
    have hcall : (S.pool.task a.call).rests = false := by
      cases hpc : S.pool.task a.call <;> first | rfl | simp [hpc, GridPc.records] at hrecords
    obtain rfl := h.active j a.call hj hcall
    cases hpc : S.pool.task a.call <;> simp [hpc, GridPc.isRecorded, GridPc.records] at *
  empty := by
    intro _ f hf hopening
    exact OpensEmpty.held_eq_zero ⟨h.empty, h.opens a.call⟩ hf hopening

omit [DecidableEq ι] in
theorem oneCall_start (plan : GridPlan) (gate : Option LiveVerificationState) :
    OneCall (gridStart plan gate : Pool ι GridShared GridPc) where
  active := fun _ _ hi => nomatch hi
  empty := fun l hl _ => by
    obtain ⟨p, -, rfl⟩ := List.mem_map.1 hl
    rfl
  opens := fun _ _ hf => nomatch hf

/-- A run in which the calls are made one after the other writes its fills one after the
other. -/
theorem guarded_recordsInTurn_of_callsInTurn {job : ι → GridJob} {plan : GridPlan}
    {gate : Option LiveVerificationState} {status : UUID → Option OrderStatus}
    {as : List (OrderWake ι)}
    (hok : (ordersMachine cfg job).Guarded (CallsInTurn cfg) (ordersStart plan gate status)
      as) :
    (ordersMachine cfg job).Guarded (RecordsInTurn cfg) (ordersStart plan gate status) as := by
  refine Machine.Guarded.imp_of_invariant (I := fun S : GridOrders ι => OneCall S.pool)
    (ordersMachine cfg job) ?_ (fun S a h hturn => h.recordsInTurn hturn)
    (oneCall_start plan gate) hok
  intro S a S' h hturn hnext
  obtain ⟨Q, hQ, rfl⟩ := Option.map_eq_some_iff.1 hnext
  exact h.step hturn.alone hQ

end OneCall

/-! ### An order that is filled in part -/

section Decidability

variable {ι : Type*} [Fintype ι] (cfg : GridConfig) (S : GridOrders ι) (a : OrderWake ι)

instance : Decidable (CallsInTurn cfg S a) :=
  decidable_of_iff
    ((S.pool.task a.call).forgets a.wake.event = false ∧
      (∀ x ∈ (S.pool.task a.call).recordedFill cfg S.pool.shared a.wake.event,
        ∀ y ∈ S.pool.shared.ledger, y.filledAt < x.filledAt) ∧
      ((S.pool.task a.call).isIdle = true → ∀ j, (S.pool.task j).rests = true))
    ⟨fun h => ⟨h.1, h.2.1, h.2.2⟩, fun h => ⟨h.1, h.2, h.3⟩⟩

instance : Decidable (RecordsInTurn cfg S a) :=
  decidable_of_iff
    ((S.pool.task a.call).forgets a.wake.event = false ∧
      (∀ x ∈ (S.pool.task a.call).recordedFill cfg S.pool.shared a.wake.event,
        ∀ y ∈ S.pool.shared.ledger, y.filledAt < x.filledAt) ∧
      ((S.pool.task a.call).records a.wake.event = true →
        ∀ j, (S.pool.task j).isRecorded = false) ∧
      ((S.pool.task a.call).records a.wake.event = true →
        ∀ f ∈ (S.pool.task a.call).fill, f.opening = true →
          S.pool.shared.held f.place = 0))
    ⟨fun h => ⟨h.1, h.2.1, h.2.2.1, h.2.2.2⟩, fun h => ⟨h.1, h.2, h.3, h.4⟩⟩

end Decidability

/-- A controller with a repository whose columns keep every number. -/
def GridConfig.exact : GridConfig := ⟨false, true, id⟩

/-- A tick that opens the level at 90. -/
def GridJob.falling : Fin 1 → GridJob
  | 0 => .tick 89

/-- An order of 1 of which a half has been filled when the engine gives it up. -/
def OrderResult.filledHalf : OrderResult :=
  { OrderResult.filledOne with status := .partiallyFilled, filledQuantity := 1 / 2 }

/-- The tick orders, its order is filled as the result says, and the fill is written and
booked. -/
def gridFilled (accepted : OrderStatus) (r : OrderResult) : List (OrderWake (Fin 1)) :=
  [⟨0, .call 1, accepted⟩, ⟨0, ⟨.executed (.returned r), 0, 0⟩, accepted⟩,
    ⟨0, ⟨.served, 0, 0⟩, accepted⟩, ⟨0, ⟨.resumed, 0, 0⟩, accepted⟩]

theorem restores_iff_of_recordsInTurn_btc :
    ∃ S, (ordersMachine .exact .falling).run (ordersStart .btc none fun _ => none)
        (gridFilled .filled .filledOne) = some S ∧
      S.Restores GridPlan.btc.prices (buildGridState .btc) := by
  have hend : ((ordersMachine .exact .falling).run (ordersStart .btc none fun _ => none)
      (gridFilled .filled .filledOne)).any (fun S =>
        decide (∀ i, (S.pool.task i).isRecorded = false) &&
          decide (∀ fill ∈ S.pool.shared.ledger, ∀ id ∈ fill.orderId,
            S.status id = some .filled)) = true := by
    decide +kernel
  obtain ⟨S, hS, hgood⟩ := (Option.any_eq_true _ _).1 hend
  obtain ⟨hquiet, hfilled⟩ := Bool.and_eq_true_iff.1 hgood
  exact ⟨S, hS, (restores_iff_of_recordsInTurn rfl (fun _ => rfl) (by decide +kernel) hS
    (of_decide_eq_true hquiet) _).2 (of_decide_eq_true hfilled)⟩

/-- The order of the level says `partially_filled`, and the grid is not restored. -/
theorem not_restores :
    ¬ ∀ (cfg : GridConfig) (plan : GridPlan) (job : Fin 1 → GridJob)
      (as : List (OrderWake (Fin 1))) (S : GridOrders (Fin 1)),
      cfg.repository = true → (∀ x, cfg.column x = x) →
        (ordersMachine cfg job).Guarded (CallsInTurn cfg)
          (ordersStart plan none fun _ => none) as →
        (ordersMachine cfg job).run (ordersStart plan none fun _ => none) as = some S →
          (∀ i, (S.pool.task i).isRecorded = false) →
            S.Restores plan.prices (buildGridState plan) := by
  intro h
  have hend : ((ordersMachine .exact .falling).run (ordersStart .btc none fun _ => none)
      (gridFilled .submitted .filledHalf)).any (fun S =>
        decide (∀ i, (S.pool.task i).isRecorded = false) &&
          (restoreOneGrid GridPlan.btc.prices (some S.statusText) (buildGridState .btc)
            (getFills S.pool.shared.ledger)).isNone) = true := by
    decide +kernel
  obtain ⟨S, hS, hbad⟩ := (Option.any_eq_true _ _).1 hend
  obtain ⟨hquiet, hnone⟩ := Bool.and_eq_true_iff.1 hbad
  obtain ⟨g, hg, -⟩ := h .exact .btc .falling _ S rfl (fun _ => rfl) (by decide +kernel) hS
    (of_decide_eq_true hquiet)
  rw [hg] at hnone
  cases hnone

end Sgr
