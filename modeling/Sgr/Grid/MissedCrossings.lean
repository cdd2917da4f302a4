import Sgr.Grid.LevelOutcomes

/-!
# Crossings that are missed

A tick calls `_fill_level` for the levels that the price has crossed since the last price of the
grid. When the rate limiter denies the order or the engine does not fill it, the level stays as
it is, and the last price moves on. The call is made again when the price crosses the level
again, that is after a tick at which it was not beyond the level.
-/

namespace Sgr

/-- A call of `_fill_level` that has come to the rate limiter, and whether it has brought a
fill. -/
structure LevelAttempt where
  fill : LevelFill
  filled : Bool
  deriving DecidableEq

/-- The attempt of a call of `_fill_level`, where there is an order. -/
def levelAttempt (call : TickCall) (g : GridState) (f : LevelFill) : Option LevelAttempt :=
  (f.order g (call.level f.place).id).map fun o =>
    ⟨f, ((call.level f.place).filled o).isSome⟩

/-- The attempts of the loop of `on_price_tick` over the cells. -/
def tickAttempts (call : TickCall) (price previous : ℚ) :
    List (ℕ × ℕ) → GridWork → List LevelAttempt
  | [], _ => []
  | cell :: cells, w =>
      match (GridLoop.tick price previous call.blocked).fill w.grid cell with
      | none => tickAttempts call price previous cells w
      | some f =>
          (levelAttempt call w.grid f).toList ++
            match fillLevel w f.place f.price f.opening f.fillType (call.level f.place) with
            | (_, true) => []
            | (w', false) => tickAttempts call price previous cells w'

/-- The attempts of a call of `on_price_tick`. -/
def attempts (w : GridWork) (t : TickCall × ℚ) : List LevelAttempt :=
  if !w.grid.isActive then []
  else tickAttempts t.1 t.2 (w.grid.lastPrice.getD t.2) (tickCells w.grid) w

namespace LevelFill

/-- The price has come to the level, in the direction in which the price of the fill is
crossed. -/
def Beyond (f : LevelFill) (direction : GridDirection) (price : ℚ) : Prop :=
  if f.opening = decide (direction = .long) then price ≤ f.price else f.price ≤ price

instance (f : LevelFill) (direction : GridDirection) (price : ℚ) :
    Decidable (f.Beyond direction price) := inferInstanceAs (Decidable (ite ..))

/-- A tick finds the price beyond the level, and does not block the fill. -/
def IsDue (f : LevelFill) (direction : GridDirection) (t : TickCall × ℚ) : Prop :=
  f.Beyond direction t.2 ∧ (f.opening = true → t.1.blocked = false)

instance (f : LevelFill) (direction : GridDirection) (t : TickCall × ℚ) :
    Decidable (f.IsDue direction t) := inferInstanceAs (Decidable (_ ∧ _))

/-- The next tick that the fill is due at makes an attempt for it. -/
def Retried (f : LevelFill) : GridWork → List (TickCall × ℚ) → Prop
  | _, [] => True
  | w, t :: ts =>
      if f.IsDue w.grid.direction t then ∃ a ∈ attempts w t, a.fill = f
      else f.Retried (onPriceTick t.1 t.2 w).1 ts

/-- The price comes back from the level before the next tick that the fill is due at: the
tick before is not beyond the level. -/
def TurnsBack (f : LevelFill) (direction : GridDirection) :
    ℚ → List (TickCall × ℚ) → Prop
  | _, [] => True
  | last, t :: ts =>
      if f.IsDue direction t then ¬ f.Beyond direction last
      else f.TurnsBack direction t.2 ts

end LevelFill

/-- Every attempt without a fill is made again at the next tick that it is due at. -/
def RetriesMissed : GridWork → List (TickCall × ℚ) → Prop
  | _, [] => True
  | w, t :: ts =>
      (∀ a ∈ attempts w t, a.filled = false → a.fill.Retried (onPriceTick t.1 t.2 w).1 ts) ∧
        RetriesMissed (onPriceTick t.1 t.2 w).1 ts

/-- After every attempt without a fill the price comes back from the level before the fill is
due again. -/
def MissedTurnBack : GridWork → List (TickCall × ℚ) → Prop
  | _, [] => True
  | w, t :: ts =>
      (∀ a ∈ attempts w t, a.filled = false →
          a.fill.TurnsBack w.grid.direction t.2 ts) ∧
        MissedTurnBack (onPriceTick t.1 t.2 w).1 ts

/-- The attempt of a tick for a cell. -/
def cellAttempt (call : TickCall) (g : GridState) (price previous : ℚ) (cell : ℕ × ℕ) :
    Option LevelAttempt :=
  ((GridLoop.tick price previous call.blocked).fill g cell).bind (levelAttempt call g)

/-- A fill that waits for a tick: a cell whose entry level would be filled so. -/
def GridState.Awaits (g : GridState) (f : LevelFill) : Prop :=
  ∃ cell ∈ tickCells g, ∃ entry exit, g.levels[cell.1]? = some entry ∧
    g.levels[cell.2]? = some exit ∧ f = cellFill cell.1 entry exit ∧
      (fillQuantity g entry f.price f.opening).isSome = true

section Attempts

variable {call : TickCall} {w : GridWork} {g g₁ g' : GridState} {f : LevelFill}
  {entry exit exit' : GridLevelState} {r p : ℚ} {cell : ℕ × ℕ} {cells : List (ℕ × ℕ)}
  {a : LevelAttempt} {t : TickCall × ℚ} {ts ticks : List (TickCall × ℚ)}

/-- A tick sees of a cell the entry level and the exit price. -/
theorem cellAttempt_congr (h : g.SameOrders g') (hentry : g'.levels[cell.1]? = g.levels[cell.1]?)
    (hexit : (g'.levels[cell.2]?).map GridLevelState.place =
      (g.levels[cell.2]?).map GridLevelState.place) :
    cellAttempt call g' r p cell = cellAttempt call g r p cell := by
  have hfill : (GridLoop.tick r p call.blocked).fill g' cell =
      (GridLoop.tick r p call.blocked).fill g cell := by
    ext f
    simp only [GridLoop.tick_fill_eq_some_iff, hentry]
    have hsame (entry : GridLevelState) {l l' : GridLevelState} (hplace : l'.place = l.place) :
        g'.fires r p call.blocked entry l' = g.fires r p call.blocked entry l ∧
          cellFill cell.1 entry l' = cellFill cell.1 entry l := by
      have hprice : l'.price = l.price := congrArg Prod.snd hplace
      simp only [GridState.fires, GridState.closesAt, GridState.opensAt, h.direction, hprice,
        cellFill, and_self]
    constructor
    · rintro ⟨entry, l', hl, hl', hfires, rfl⟩
      rw [hl', Option.map_some] at hexit
      obtain ⟨l, hl₁, hplace⟩ := Option.map_eq_some_iff.1 hexit.symm
      obtain ⟨hfires', hcell⟩ := hsame entry hplace.symm
      exact ⟨entry, l, hl, hl₁, hfires' ▸ hfires, hcell⟩
    · rintro ⟨entry, l, hl, hl₁, hfires, rfl⟩
      rw [hl₁, Option.map_some] at hexit
      obtain ⟨l', hl', hplace⟩ := Option.map_eq_some_iff.1 hexit
      obtain ⟨hfires', hcell⟩ := hsame entry hplace
      exact ⟨entry, l', hl, hl', hfires' ▸ hfires, hcell.symm⟩
  rw [cellAttempt, hfill, cellAttempt]
  cases hf : (GridLoop.tick r p call.blocked).fill g cell with
  | none => rfl
  | some f =>
      obtain ⟨entry, exit, hl, -, -, rfl⟩ := GridLoop.tick_fill_eq_some_iff.1 hf
      have hl' : g'.levels[(cellFill cell.1 entry exit).place]? = some entry := hentry.trans hl
      have hl : g.levels[(cellFill cell.1 entry exit).place]? = some entry := hl
      simp only [Option.bind_some, levelAttempt, LevelFill.order, hl, hl', h.levelOrder]

/-- The loop makes the attempts that the grid before it calls for. -/
theorem tickAttempts_eq (h : call.Returns) (hcells : (cells.map Prod.fst).Nodup)
    (w : GridWork) :
    tickAttempts call r p cells w = cells.filterMap (cellAttempt call w.grid r p) := by
  induction cells generalizing w with
  | nil => rfl
  | cons cell cells ih =>
      rw [List.map_cons, List.nodup_cons] at hcells
      rw [tickAttempts]
      cases hf : (GridLoop.tick r p call.blocked).fill w.grid cell with
      | none =>
          have hnone : cellAttempt call w.grid r p cell = none := by
            rw [cellAttempt, hf, Option.bind_none]
          rw [List.filterMap_cons_none hnone]
          exact ih hcells.2 w
      | some f =>
          obtain ⟨w₁, hw₁, hfirst⟩ := ticksLevels_of_fill_eq_some h hf
          have hrest : cells.filterMap (cellAttempt call w₁.grid r p) =
              cells.filterMap (cellAttempt call w.grid r p) := by
            refine List.filterMap_congr fun c hc => ?_
            refine cellAttempt_congr hfirst.course.orders (hfirst.frame c.1 fun hmem => ?_)
              (hfirst.places c.2)
            rw [List.map_singleton, List.mem_singleton] at hmem
            exact hcells.1 (hmem ▸ List.mem_map_of_mem hc)
          have hhead : cellAttempt call w.grid r p cell = levelAttempt call w.grid f := by
            rw [cellAttempt, hf, Option.bind_some]
          dsimp only
          rw [hw₁]
          dsimp only
          rw [ih hcells.2 w₁, hrest, ← hhead, List.filterMap_cons]
          cases cellAttempt call w.grid r p cell <;> rfl

/-- A tick fills a cell when the price has come to its level since the last price. -/
theorem fires_iff (g : GridState) (r p : ℚ) (blocked : Bool) (place : ℕ)
    (entry exit : GridLevelState) :
    g.fires r p blocked entry exit = true ↔
      (cellFill place entry exit).Beyond g.direction r ∧
        ((cellFill place entry exit).opening = true → blocked = false) ∧
          ¬ (cellFill place entry exit).Beyond g.direction p := by
  unfold GridState.fires GridState.opensAt GridState.closesAt crossed LevelFill.Beyond cellFill
  by_cases hlong : g.direction = .long
  · cases entry.isFilled with
    | true =>
        simp [hlong]
        grind
    | false =>
        simp [hlong]
        grind
  · cases entry.isFilled with
    | true =>
        simp [hlong]
        grind
    | false =>
        simp [hlong]
        grind

/-- The attempts of a tick of an active grid. -/
theorem mem_attempts_iff (h : t.1.Returns) (hactive : w.grid.isActive = true) :
    a ∈ attempts w t ↔ ∃ cell ∈ tickCells w.grid,
      cellAttempt t.1 w.grid t.2 (w.grid.lastPrice.getD t.2) cell = some a := by
  rw [attempts, hactive, Bool.not_true, if_neg Bool.false_ne_true,
    tickAttempts_eq h (nodup_tickCells w.grid), List.mem_filterMap]

theorem cellAttempt_eq_some_iff :
    cellAttempt call g r p cell = some a ↔
      (GridLoop.tick r p call.blocked).fill g cell = some a.fill ∧
        levelAttempt call g a.fill = some a := by
  rw [cellAttempt, Option.bind_eq_some_iff]
  constructor
  · rintro ⟨f, hf, ha⟩
    obtain ⟨o, -, rfl⟩ := Option.map_eq_some_iff.1 ha
    exact ⟨hf, ha⟩
  · rintro ⟨hf, ha⟩
    exact ⟨a.fill, hf, ha⟩

theorem isSome_levelAttempt_cellFill (call : TickCall) (hentry : g.levels[cell.1]? = some entry) :
    (levelAttempt call g (cellFill cell.1 entry exit)).isSome =
      (fillQuantity g entry (cellFill cell.1 entry exit).price
        (cellFill cell.1 entry exit).opening).isSome := by
  have hl : g.levels[(cellFill cell.1 entry exit).place]? = some entry := hentry
  simp [levelAttempt, LevelFill.order, hl, levelOrder]

theorem fill_of_levelAttempt (h : levelAttempt call g f = some a) : a.fill = f := by
  obtain ⟨o, -, rfl⟩ := Option.map_eq_some_iff.1 h
  rfl

/-- A tick that fires for a cell makes the attempt for it. -/
theorem mem_attempts_of_fires (h : t.1.Returns) (hactive : w.grid.isActive = true)
    (hcell : cell ∈ tickCells w.grid) (hentry : w.grid.levels[cell.1]? = some entry)
    (hexit : w.grid.levels[cell.2]? = some exit)
    (hfires : w.grid.fires t.2 (w.grid.lastPrice.getD t.2) t.1.blocked entry exit = true)
    (ha : levelAttempt t.1 w.grid (cellFill cell.1 entry exit) = some a) : a ∈ attempts w t := by
  have hfill := fill_of_levelAttempt ha
  rw [← hfill] at ha
  refine (mem_attempts_iff h hactive).2 ⟨cell, hcell, cellAttempt_eq_some_iff.2 ⟨?_, ha⟩⟩
  exact GridLoop.tick_fill_eq_some_iff.2 ⟨entry, exit, hentry, hexit, hfires, hfill⟩

/-- An attempt is made for a fill that the grid waits for. -/
theorem awaits_of_mem_attempts (h : t.1.Returns) (hactive : w.grid.isActive = true)
    (ha : a ∈ attempts w t) : w.grid.Awaits a.fill := by
  obtain ⟨cell, hcell, hattempt⟩ := (mem_attempts_iff h hactive).1 ha
  obtain ⟨hfill, hlevel⟩ := cellAttempt_eq_some_iff.1 hattempt
  obtain ⟨entry, exit, hentry, hexit, -, hf⟩ := GridLoop.tick_fill_eq_some_iff.1 hfill
  refine ⟨cell, hcell, entry, exit, hentry, hexit, hf, ?_⟩
  rw [hf, ← isSome_levelAttempt_cellFill t.1 hentry, ← hf, hlevel, Option.isSome_some]

/-- An attempt for a fill that the grid waits for is made when the price has come to its level
since the last price, and the fill is not blocked. -/
theorem exists_attempt_iff (h : t.1.Returns) (hactive : w.grid.isActive = true)
    (hf : w.grid.Awaits f) :
    (∃ a ∈ attempts w t, a.fill = f) ↔
      f.IsDue w.grid.direction t ∧
        ¬ f.Beyond w.grid.direction (w.grid.lastPrice.getD t.2) := by
  rw [LevelFill.IsDue, and_assoc]
  constructor
  · rintro ⟨a, ha, rfl⟩
    obtain ⟨cell, -, hattempt⟩ := (mem_attempts_iff h hactive).1 ha
    obtain ⟨hfill, -⟩ := cellAttempt_eq_some_iff.1 hattempt
    obtain ⟨entry, exit, -, -, hfires, heq⟩ := GridLoop.tick_fill_eq_some_iff.1 hfill
    rw [heq]
    exact (fires_iff w.grid t.2 _ t.1.blocked cell.1 entry exit).1 hfires
  · intro hdue
    obtain ⟨cell, hcell, entry, exit, hentry, hexit, rfl, hquantity⟩ := hf
    have hfires := (fires_iff w.grid t.2 _ t.1.blocked cell.1 entry exit).2 hdue
    rw [← isSome_levelAttempt_cellFill t.1 hentry] at hquantity
    obtain ⟨a, ha⟩ := Option.isSome_iff_exists.1 hquantity
    exact ⟨a, mem_attempts_of_fires h hactive hcell hentry hexit hfires ha,
      fill_of_levelAttempt ha⟩

/-- A tick without a fill for it leaves the grid waiting. -/
theorem GridState.Awaits.onPriceTick (h : t.1.Returns) (hactive : w.grid.isActive = true)
    (hf : w.grid.Awaits f) (hmissed : ∀ a ∈ attempts w t, a.fill = f → a.filled = false) :
    (Sgr.onPriceTick t.1 t.2 w).1.grid.Awaits f := by
  obtain ⟨w', hw', -, hticks⟩ := onPriceTick_ticksLevels h hactive t.2
  rw [hw']
  obtain ⟨cell, hcell, entry, exit, hentry, hexit, rfl, hquantity⟩ := hf
  have hentry' : w'.grid.levels[cell.1]? = some entry := by
    rw [hticks.level cell hcell, cellAfter, hentry, hexit, Option.map_some, Option.elim_some,
      entryAfter]
    cases hfires : w.grid.fires t.2 (w.grid.lastPrice.getD t.2) t.1.blocked entry exit with
    | false => rfl
    | true =>
        have hl : w.grid.levels[(cellFill cell.1 entry exit).place]? = some entry := hentry
        rw [if_pos rfl, levelAfter]
        cases ho : levelOrder w.grid entry (cellFill cell.1 entry exit).price
            (cellFill cell.1 entry exit).opening (cellFill cell.1 entry exit).fillType
            (t.1.level cell.1).id with
        | none => rfl
        | some o =>
            have hattempt : levelAttempt t.1 w.grid (cellFill cell.1 entry exit) =
                some ⟨cellFill cell.1 entry exit, ((t.1.level cell.1).filled o).isSome⟩ := by
              rw [levelAttempt, LevelFill.order, hl, Option.bind_some]
              exact congrArg _ ho
            have hnone := hmissed _
              (mem_attempts_of_fires h hactive hcell hentry hexit hfires hattempt) rfl
            rw [Option.isSome_eq_false_iff, Option.isNone_iff_eq_none] at hnone
            rw [Option.bind_some, hnone, Option.elim_none]
  have hplace := hticks.places cell.2
  rw [hexit, Option.map_some] at hplace
  obtain ⟨exit', hexit', hplace⟩ := Option.map_eq_some_iff.1 hplace
  have hsame : cellFill cell.1 entry exit' = cellFill cell.1 entry exit := by
    rw [cellFill, show exit'.price = exit.price from congrArg Prod.snd hplace, cellFill]
  refine ⟨cell, ?_, entry, exit', hentry', hexit', hsame.symm, ?_⟩
  · rw [hticks.sameFrame.tickCells_eq]
    exact hcell
  · rw [fillQuantity, hticks.course.orders.parameters]
    exact hquantity

/-- Two attempts for one fill are the same. -/
theorem eq_of_mem_attempts {b : LevelAttempt} (h : t.1.Returns)
    (hactive : w.grid.isActive = true) (ha : a ∈ attempts w t) (hb : b ∈ attempts w t)
    (hfill : b.fill = a.fill) : b = a := by
  obtain ⟨cell, -, hattempt⟩ := (mem_attempts_iff h hactive).1 ha
  obtain ⟨cell', -, hattempt'⟩ := (mem_attempts_iff h hactive).1 hb
  have hlevel := (cellAttempt_eq_some_iff.1 hattempt).2
  have hlevel' := (cellAttempt_eq_some_iff.1 hattempt').2
  rw [hfill] at hlevel'
  exact Option.some.inj (hlevel'.symm.trans hlevel)

/-- A fill that the grid waits for is tried at the next tick that it is due at when the price
turns back before this tick. -/
theorem retried_iff (hticks : ∀ t ∈ ts, t.1.Returns) (hactive : w.grid.isActive = true)
    {last : ℚ} (hlast : w.grid.lastPrice = some last) (hf : w.grid.Awaits f) :
    f.Retried w ts ↔ f.TurnsBack w.grid.direction last ts := by
  induction ts generalizing w last with
  | nil => exact Iff.rfl
  | cons t ts ih =>
      have ht := hticks t List.mem_cons_self
      have hattempt := exists_attempt_iff ht hactive hf
      rw [hlast, Option.getD_some] at hattempt
      rw [LevelFill.Retried, LevelFill.TurnsBack]
      by_cases hdue : f.IsDue w.grid.direction t
      · rw [if_pos hdue, if_pos hdue, hattempt]
        exact and_iff_right hdue
      · rw [if_neg hdue, if_neg hdue]
        have hframe := sameFrame_onPriceTick ht t.2 w
        have hlast' := lastPrice_onPriceTick ht hactive t.2
        have hnone : ∀ a ∈ attempts w t, a.fill = f → a.filled = false := by
          intro a ha hfill
          exact (hdue (hattempt.1 ⟨a, ha, hfill⟩).1).elim
        rw [ih (fun t' ht' => hticks t' (List.mem_cons_of_mem t ht'))
          (hframe.isActive.trans hactive) hlast' (hf.onPriceTick ht hactive hnone),
          hframe.course.orders.direction]

/-- Every run retries what it has missed when the price turns back from each missed level
before the level is due again. -/
theorem retriesMissed_iff (w : GridWork) (ticks : List (TickCall × ℚ))
    (hticks : ∀ t ∈ ticks, t.1.Returns) : RetriesMissed w ticks ↔ MissedTurnBack w ticks := by
  induction ticks generalizing w with
  | nil => exact Iff.rfl
  | cons t ticks ih =>
      have ht := hticks t List.mem_cons_self
      have hrest : ∀ t' ∈ ticks, t'.1.Returns :=
        fun t' ht' => hticks t' (List.mem_cons_of_mem t ht')
      rw [RetriesMissed, MissedTurnBack, ih (onPriceTick t.1 t.2 w).1 hrest]
      refine and_congr_left' (forall₂_congr fun a ha => forall_congr' fun hmissed => ?_)
      cases hactive : w.grid.isActive with
      | false =>
          rw [attempts, hactive] at ha
          cases ha
      | true =>
          have hframe := sameFrame_onPriceTick ht t.2 w
          have hawaits : (onPriceTick t.1 t.2 w).1.grid.Awaits a.fill := by
            refine (awaits_of_mem_attempts ht hactive ha).onPriceTick ht hactive ?_
            intro b hb hfill
            rw [eq_of_mem_attempts ht hactive ha hb hfill]
            exact hmissed
          rw [retried_iff hrest (hframe.isActive.trans hactive)
            (lastPrice_onPriceTick ht hactive t.2) hawaits, hframe.course.orders.direction]

end Attempts

/-- A tick that the rate limiter denies the orders of. -/
def TickCall.denied : TickCall where
  level := fun i => ⟨i, 0, false, Execute.completely⟩

theorem returns_denied : TickCall.denied.Returns := fun _ _ => ⟨_, rfl⟩

theorem retriesMissed_iff_btc :
    RetriesMissed ⟨buildGridState .btc, none⟩ [(.denied, 89), (.completely, 88)] ↔
      MissedTurnBack ⟨buildGridState .btc, none⟩ [(.denied, 89), (.completely, 88)] :=
  retriesMissed_iff _ _ (by
    intro t ht
    rcases List.mem_cons.1 ht with rfl | ht
    · exact returns_denied
    · rw [List.mem_singleton.1 ht]
      exact fillsEvery_completely.returns)

/-- The price falls through the level at 90, the rate limiter denies the order, and at the next
tick, where the price is lower still, no order is tried. -/
theorem not_retriesMissed :
    ¬ ∀ (w : GridWork) (ticks : List (TickCall × ℚ)), (∀ t ∈ ticks, t.1.Returns) →
      RetriesMissed w ticks := by
  intro h
  have hretries := h ⟨buildGridState .btc, none⟩ [(.denied, 89), (.completely, 88)] (by
    intro t ht
    rcases List.mem_cons.1 ht with rfl | ht
    · exact returns_denied
    · rw [List.mem_singleton.1 ht]
      exact fillsEvery_completely.returns)
  have hmissed : ⟨⟨0, 90, true, gridFillTypeLevelCross⟩, false⟩ ∈
      attempts ⟨buildGridState .btc, none⟩ (.denied, 89) := by decide +kernel
  have hretried := hretries.1 _ hmissed rfl
  rw [LevelFill.Retried, if_pos (by decide +kernel)] at hretried
  obtain ⟨a, ha, -⟩ := hretried
  have hnone : attempts (onPriceTick .denied 89 ⟨buildGridState .btc, none⟩).1 (.completely, 88) =
      [] := by decide +kernel
  rw [hnone] at ha
  cases ha

end Sgr
