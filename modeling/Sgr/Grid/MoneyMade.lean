import Mathlib.Tactic.Ring
import Sgr.Grid.Replay
import Sgr.Risk.GridRisk

/-!
# The money that a grid has made

`_fill_level` books a closing fill at the prices of its levels and deducts the fees of the
closing order; what the engine has reported as the average fill price, and the fees of the
opening order, do not come into `realized_pnl`. So the profit that `check_ongoing_grid`
compares with the loss limit is the money that the fills have moved only where these come to
nothing.
-/

open Concurrency

namespace Sgr

/-- A fill that is booked: the level as it stood, the price and the direction that the call
had in mind, and what the engine has reported. -/
structure GridFill where
  level : GridLevelState
  price : ℚ
  opening : Bool
  quantity : ℚ
  result : OrderResult

namespace GridFill

variable (side : ℚ) (x : GridFill)

/-- The average fill price that the engine has reported. -/
def averagePrice : ℚ := x.result.averageFillPrice.getD 0

/-- What the filled quantity has been traded for, in the direction of the grid. -/
def signedValue : ℚ := side * x.averagePrice * x.quantity

/-- The money that a fill brings: the proceeds of a closing fill, or the cost of an opening
fill, less its fees. -/
def money : ℚ :=
  (if x.opening then -x.signedValue side else x.signedValue side) - x.result.fees

/-- What a closing fill leaves of its level and `_fill_level` gives up. -/
def dropped : ℚ :=
  if x.level.quantity - x.quantity ≤ gridEpsilon then x.level.quantity - x.quantity else 0

/-- By how much the books are off after a fill: an opening fill that is paid at another price
than its level's, costs fees or comes to a level that holds something; a closing fill at
another average price than the one it is booked at, or one that leaves a rest behind. -/
def misbooked : ℚ :=
  if x.opening then
    side * (x.averagePrice - x.level.price) * x.quantity + x.result.fees +
      side * x.level.price * x.level.quantity
  else side * (x.price - x.averagePrice) * x.quantity + side * x.level.price * x.dropped

/-- A fill as `_fill_level` books it: an opening fill of an empty level at its price and
without fees, or a closing fill at the price of the crossing that leaves no rest behind. -/
structure AsBooked (x : GridFill) : Prop where
  opening : x.opening = true →
    x.averagePrice = x.level.price ∧ x.result.fees = 0 ∧ x.level.quantity = 0
  closing : x.opening = false → x.averagePrice = x.price ∧ x.dropped = 0

instance (x : GridFill) : Decidable x.AsBooked :=
  decidable_of_iff
    ((x.opening = true →
        x.averagePrice = x.level.price ∧ x.result.fees = 0 ∧ x.level.quantity = 0) ∧
      (x.opening = false → x.averagePrice = x.price ∧ x.dropped = 0))
    ⟨fun h => ⟨h.1, h.2⟩, fun h => ⟨h.1, h.2⟩⟩

variable {x}

theorem AsBooked.misbooked_eq_zero (h : x.AsBooked) : x.misbooked side = 0 := by
  unfold misbooked
  cases hopening : x.opening with
  | true =>
      obtain ⟨hprice, hfees, hheld⟩ := h.opening hopening
      simp [hprice, hfees, hheld]
  | false =>
      obtain ⟨hprice, hdropped⟩ := h.closing hopening
      simp [hprice, hdropped]

end GridFill

/-- The proceeds of the closing fills less the cost of the opening fills and all fees. -/
def moneyMade (side : ℚ) (fills : List GridFill) : ℚ :=
  ((fills.filter fun x => !x.opening).map (GridFill.signedValue side)).sum -
    ((fills.filter fun x => x.opening).map (GridFill.signedValue side)).sum -
    (fills.map fun x => x.result.fees).sum

theorem moneyMade_eq_sum (side : ℚ) (fills : List GridFill) :
    moneyMade side fills = (fills.map (GridFill.money side)).sum := by
  induction fills with
  | nil => simp [moneyMade]
  | cons x fills ih =>
      rw [List.map_cons, List.sum_cons, ← ih]
      unfold moneyMade GridFill.money
      cases hopening : x.opening with
      | true =>
          simp only [List.filter_cons, hopening, Bool.not_true, Bool.false_eq_true, if_false,
            if_true, List.map_cons, List.sum_cons]
          ring
      | false =>
          simp only [List.filter_cons, hopening, Bool.not_false, Bool.false_eq_true, if_false,
            if_true, List.map_cons, List.sum_cons]
          ring

/-! ### The fills of a run -/

/-- The fill that a call books when it is woken, with the result of its order. -/
def GridPc.booking (cfg : GridConfig) : GridPc → GridEvent → Option (LevelFill × ℚ × OrderResult)
  | .recorded f _ r quantity _ _, .resumed => some (f, quantity, r)
  | .executing f _ _, .executed (.returned r) =>
      if cfg.repository then none else (acceptedFill r).map fun quantity => (f, quantity, r)
  | _, _ => none

/-- A fill that is booked on the level at its place. -/
def GridShared.gridFill (s : GridShared) (f : LevelFill) (quantity : ℚ) (r : OrderResult) :
    Option GridFill :=
  (s.grid.levels[f.place]?).map fun l => ⟨l, f.price, f.opening, quantity, r⟩

/-- The fills that an action books. -/
def gridFills {ι : Type*} (cfg : GridConfig) (P : Pool ι GridShared GridPc)
    (a : ι × GridWake) : List GridFill :=
  (((P.task a.1).booking cfg a.2.event).bind fun x =>
    P.shared.gridFill x.1 x.2.1 x.2.2).toList

/-! ### The books -/

/-- What levels hold, at their prices. -/
def valueOfLevels (levels : List GridLevelState) : ℚ :=
  (levels.map fun l => l.price * l.quantity).sum

/-- The realized profit less what is held at the prices of the levels. -/
def GridState.cashBooked (g : GridState) : ℚ :=
  g.realizedPnl - g.sideFactor * valueOfLevels g.levels

/-- No level is filled. -/
def GridState.NoneFilled (g : GridState) : Prop := ∀ l ∈ g.levels, l.isFilled = false

theorem valueOfLevels_set {levels : List GridLevelState} {i : ℕ} {l : GridLevelState}
    (hl : levels[i]? = some l) (x : GridLevelState) :
    valueOfLevels (levels.set i x) =
      valueOfLevels levels - l.price * l.quantity + x.price * x.quantity := by
  obtain ⟨hlt, hget⟩ := List.getElem?_eq_some_iff.1 hl
  rw [valueOfLevels, List.map_set, List.sum_set', dif_pos (by rwa [List.length_map]),
    List.getElem_map, hget, valueOfLevels]
  ring

theorem GridState.cashBooked_eq_realizedPnl {g : GridState} (hflat : g.NoneFilled)
    (hempty : ∀ l ∈ g.levels, l.isFilled = false → l.quantity = 0) :
    g.cashBooked = g.realizedPnl := by
  have hvalue : valueOfLevels g.levels = 0 := by
    refine List.sum_eq_zero fun v hv => ?_
    obtain ⟨l, hl, rfl⟩ := List.mem_map.1 hv
    rw [hempty l hl (hflat l hl), mul_zero]
  rw [cashBooked, hvalue, mul_zero, sub_zero]

section Bookings

variable {s t : GridShared} {f : LevelFill} {quantity : ℚ} {r : OrderResult} {now : Timestamp}

/-- What a closing fill leaves of a level, with what it gives up. -/
theorem quantity_closedLevel (l : GridLevelState) (quantity : ℚ) :
    (closedLevel l quantity).quantity = l.quantity - quantity -
      if l.quantity - quantity ≤ gridEpsilon then l.quantity - quantity else 0 := by
  unfold closedLevel
  split
  · simp
  · simp

/-- A fill moves the books by the money that it brings and by what it is misbooked. -/
theorem cashBooked_book {l : GridLevelState} (hl : s.grid.levels[f.place]? = some l) :
    (s.book f quantity r now).grid.cashBooked = s.grid.cashBooked +
      ((⟨l, f.price, f.opening, quantity, r⟩ : GridFill).money s.grid.sideFactor +
        (⟨l, f.price, f.opening, quantity, r⟩ : GridFill).misbooked s.grid.sideFactor) := by
  have hfactor : (s.book f quantity r now).grid.sideFactor = s.grid.sideFactor := by
    simp only [GridShared.book, hl]
    cases f.opening <;> rfl
  cases hopening : f.opening with
  | true =>
      have hrealized : (s.book f quantity r now).grid.realizedPnl = s.grid.realizedPnl := by
        simp only [GridShared.book, hl, hopening]
        rfl
      have hlevels : (s.book f quantity r now).grid.levels = s.grid.levels.set f.place
          (openedLevel { l with lastOrderId := some r.exchangeOrderId, lastFilledAt := some now }
            quantity) := by
        simp only [GridShared.book, hl, hopening]
        rfl
      rw [GridState.cashBooked, hfactor, hrealized, hlevels, valueOfLevels_set hl,
        GridState.cashBooked]
      simp only [GridFill.money, GridFill.misbooked, GridFill.signedValue, openedLevel, if_true]
      ring
  | false =>
      have hrealized : (s.book f quantity r now).grid.realizedPnl =
          s.grid.realizedPnl + cyclePnl s.grid l f.price quantity r := by
        simp only [GridShared.book, hl, hopening]
        rfl
      have hlevels : (s.book f quantity r now).grid.levels = s.grid.levels.set f.place
          (closedLevel { l with lastOrderId := some r.exchangeOrderId, lastFilledAt := some now }
            quantity) := by
        simp only [GridShared.book, hl, hopening]
        rfl
      have hprice : (closedLevel { l with
          lastOrderId := some r.exchangeOrderId, lastFilledAt := some now } quantity).price =
          l.price := by
        unfold closedLevel
        split <;> rfl
      rw [GridState.cashBooked, hfactor, hrealized, hlevels, valueOfLevels_set hl, hprice,
        quantity_closedLevel, GridState.cashBooked]
      simp only [GridFill.money, GridFill.misbooked, GridFill.signedValue, GridFill.dropped,
        cyclePnl, Bool.false_eq_true, if_false]
      ring

end Bookings

/-! ### Segments -/

section Segments

variable {cfg : GridConfig} {id : UUID} {now : Timestamp} {s t : GridShared} {pc pc' : GridPc}
  {w : GridWake}

/-- Two shared states with the same levels and realized profit. -/
structure GridShared.SameBooks (s t : GridShared) : Prop where
  levels : t.grid.levels = s.grid.levels
  direction : t.grid.direction = s.grid.direction
  realized : t.grid.realizedPnl = s.grid.realizedPnl

/-- What a segment does to the books: it books its fill, where it has one, and nothing else. -/
inductive BookStep (s : GridShared) : Option (LevelFill × ℚ × OrderResult) → GridShared → Prop
  | keeps {t : GridShared} (hsame : s.SameBooks t) : BookStep s none t
  | books {t : GridShared} {f : LevelFill} {quantity : ℚ} {r : OrderResult} {now : Timestamp}
      (hsame : (s.book f quantity r now).SameBooks t) : BookStep s (some (f, quantity, r)) t

theorem GridShared.SameStores.sameBooks (h : s.SameStores t) : s.SameBooks t :=
  ⟨h.levels, h.figures.direction, h.figures.realized⟩

theorem GridShared.SameBooks.refl (s : GridShared) : s.SameBooks s := ⟨rfl, rfl, rfl⟩

theorem sameStores_call (s : GridShared) (job : GridJob) (blocked : Bool) :
    s.SameStores (gridCall cfg job id now s blocked).1 := by
  have hstep : StoreStep cfg s .idle .resumed (gridCall cfg job id now s blocked).1
      (gridCall cfg job id now s blocked).2 := storeStep_call rfl job blocked
  generalize gridCall cfg job id now s blocked = c at hstep ⊢
  obtain ⟨t, pc'⟩ := c
  cases hstep with
  | goesOn hsame => exact hsame

theorem sameStores_afterPersist (s : GridShared) (f : LevelFill) (k : GridFrame) :
    s.SameStores (s.afterPersist cfg id now f k).1 := by
  have hmarked : s.SameStores (s.setGrid (updateMarkToMarket s.grid f.price)) :=
    .setGrid rfl ⟨rfl, rfl, rfl, rfl, rfl⟩
  exact hmarked.trans (sameStores_advance cfg id now _ k.loop k.rest)

theorem sameStores_afterRecord (s : GridShared) (f : LevelFill) (r : OrderResult) (quantity : ℚ)
    (filledAt : Timestamp) (k : GridFrame) :
    (s.book f quantity r filledAt).SameStores
      (s.afterRecord cfg id now f r quantity filledAt k).1 := by
  unfold GridShared.afterRecord
  split
  · exact .refl _
  · exact sameStores_afterPersist _ f k

theorem GridPc.booking_of_givesUp {e : GridEvent} {f : LevelFill} (h : pc.givesUp e = some f) :
    pc.booking cfg e = none := by
  unfold givesUp at h
  split at h
  · rfl
  next r =>
    cases hfill : acceptedFill r with
    | none => simp [booking, hfill]
    | some quantity => simp [hfill] at h
  · cases h

theorem bookStep_of_segment {job : GridJob} (hseg : gridSegment cfg job s pc w = some (t, pc')) :
    BookStep s (pc.booking cfg w.event) t := by
  have hstep := gridStep_of_segment hseg
  generalize w.event = e at hstep ⊢
  cases hstep with
  | starts job blocked => exact .keeps (sameStores_call s job blocked).sameBooks
  | admits => exact .keeps (.refl s)
  | raises => exact .keeps (.refl s)
  | leaves hgives =>
      rw [GridPc.booking_of_givesUp hgives]
      exact .keeps (sameStores_advance cfg _ _ s _ _).sameBooks
  | fills f o k r quantity now hrepository =>
      simp only [GridPc.booking, hrepository, if_true]
      exact .keeps (.refl s)
  | records => exact .keeps ⟨rfl, rfl, rfl⟩
  | forgets => exact .keeps (.refl s)
  | books f o r quantity filledAt k =>
      exact .books (sameStores_afterRecord s f r quantity filledAt k).sameBooks
  | booksUnrecorded f o k r quantity filledAt hrepository hquantity =>
      simp only [GridPc.booking, hrepository, hquantity, Option.map_some]
      exact .books (sameStores_afterRecord s f r quantity filledAt k).sameBooks
  | reads => exact .keeps (.refl s)
  | stores => exact .keeps ⟨rfl, rfl, rfl⟩
  | unread => exact .keeps (.refl s)
  | unstored => exact .keeps (.refl s)
  | resumes f k => exact .keeps (sameStores_afterPersist s f k).sameBooks
  | returns => exact .keeps (.refl s)

theorem GridState.cashBooked_congr (h : s.SameBooks t) :
    t.grid.cashBooked = s.grid.cashBooked := by
  rw [cashBooked, h.realized, GridState.sideFactor_congr h.direction, h.levels, cashBooked]

end Segments

/-! ### Runs -/

section Runs

variable {ι : Type*} [DecidableEq ι] {cfg : GridConfig} {job : ι → GridJob}
  {P Q : Pool ι GridShared GridPc}

/-- The grid has its direction, and a level that is not filled holds nothing. -/
structure GridBooks (direction : GridDirection) (P : Pool ι GridShared GridPc) : Prop where
  direction : P.shared.grid.direction = direction
  empty : ∀ l ∈ P.shared.grid.levels, l.isFilled = false → l.quantity = 0

/-- `side_factor` of a direction. -/
def GridDirection.sideFactor (d : GridDirection) : ℚ := if d = .long then 1 else -1

variable {direction : GridDirection} {side : ℚ}

theorem GridBooks.step {a : ι × GridWake} (h : GridBooks direction P)
    (hnext : (gridMachine cfg job).next P a = some Q) : GridBooks direction Q := by
  obtain ⟨i, w⟩ := a
  obtain ⟨t, pc', hseg, rfl⟩ := Pool.machine_next_eq_some_iff.1 hnext
  have hstep := bookStep_of_segment hseg
  generalize (P.task i).booking cfg w.event = fill at hstep
  cases hstep with
  | keeps hsame =>
      refine ⟨hsame.direction.trans h.direction, ?_⟩
      rw [Pool.resume_shared, hsame.levels]
      exact h.empty
  | @books _ f quantity r now hsame =>
      refine ⟨(hsame.direction.trans ?_).trans h.direction, ?_⟩
      · unfold GridShared.book
        split
        · rfl
        · cases f.opening <;> rfl
      · rw [Pool.resume_shared, hsame.levels]
        exact empty_book h.empty f quantity r now

theorem GridBooks.cashBooked_step {a : ι × GridWake} (h : GridBooks direction P)
    (hnext : (gridMachine cfg job).next P a = some Q) :
    Q.shared.grid.cashBooked = P.shared.grid.cashBooked +
      ((gridFills cfg P a).map fun x =>
        x.money direction.sideFactor + x.misbooked direction.sideFactor).sum := by
  obtain ⟨i, w⟩ := a
  obtain ⟨t, pc', hseg, rfl⟩ := Pool.machine_next_eq_some_iff.1 hnext
  have hside : P.shared.grid.sideFactor = direction.sideFactor := by
    rw [GridState.sideFactor, h.direction, GridDirection.sideFactor]
  have hstep := bookStep_of_segment hseg
  unfold gridFills
  dsimp only
  generalize (P.task i).booking cfg w.event = fill at hstep
  rw [Pool.resume_shared]
  cases hstep with
  | keeps hsame => simp [GridState.cashBooked_congr hsame]
  | @books _ f quantity r now hsame =>
      rw [GridState.cashBooked_congr hsame, Option.bind_some]
      dsimp only
      cases hl : P.shared.grid.levels[f.place]? with
      | none =>
          rw [book_of_none hl]
          simp [GridShared.gridFill, hl]
      | some l =>
          rw [cashBooked_book hl, hside]
          simp [GridShared.gridFill, hl]

omit [DecidableEq ι] in
theorem gridBooks_start (plan : GridPlan) (gate : Option LiveVerificationState) :
    GridBooks plan.direction (gridStart plan gate : Pool ι GridShared GridPc) := by
  refine ⟨rfl, fun l hl _ => ?_⟩
  obtain ⟨p, -, rfl⟩ := List.mem_map.1 hl
  rfl

/-- The fills of a run. -/
def runFills (cfg : GridConfig) (job : ι → GridJob) (plan : GridPlan)
    (gate : Option LiveVerificationState) (as : List (ι × GridWake)) : List GridFill :=
  (gridMachine cfg job).outputs (gridFills cfg) (gridStart plan gate) as

variable {plan : GridPlan} {gate : Option LiveVerificationState} {as : List (ι × GridWake)}

/-- What the books of a grid come to in a run. -/
theorem cashBooked_run (hrun : (gridMachine cfg job).run (gridStart plan gate) as = some P) :
    P.shared.grid.cashBooked =
      moneyMade plan.direction.sideFactor (runFills cfg job plan gate as) +
        ((runFills cfg job plan gate as).map
          (GridFill.misbooked plan.direction.sideFactor)).sum := by
  have hmoved := (gridMachine cfg job).run_eq_add_sum_outputs (gridFills cfg)
    (fun x => x.money plan.direction.sideFactor + x.misbooked plan.direction.sideFactor)
    (fun P => P.shared.grid.cashBooked) (I := GridBooks plan.direction)
    (fun _ _ _ h hnext => h.step hnext) (fun _ _ _ h hnext => h.cashBooked_step hnext)
    (gridBooks_start plan gate) hrun
  have hstart : (gridStart plan gate : Pool ι GridShared GridPc).shared.grid.cashBooked = 0 := by
    have hvalue : valueOfLevels (freshLevels plan.prices) = 0 := by
      simp [valueOfLevels, freshLevels, Function.comp_def]
    show 0 - (buildGridState plan).sideFactor * valueOfLevels (freshLevels plan.prices) = 0
    rw [hvalue, mul_zero, sub_zero]
  rw [hmoved, hstart, zero_add, List.sum_map_add, ← moneyMade_eq_sum, runFills]

theorem realizedPnl_run (hrun : (gridMachine cfg job).run (gridStart plan gate) as = some P)
    (hflat : P.shared.grid.NoneFilled) :
    P.shared.grid.realizedPnl =
      moneyMade plan.direction.sideFactor (runFills cfg job plan gate as) +
        ((runFills cfg job plan gate as).map
          (GridFill.misbooked plan.direction.sideFactor)).sum := by
  have hbooks : GridBooks plan.direction P :=
    (gridMachine cfg job).run_invariant _ (fun _ _ _ h hnext => h.step hnext)
      (gridBooks_start plan gate) hrun
  rw [← GridState.cashBooked_eq_realizedPnl hflat hbooks.empty, cashBooked_run hrun]

theorem sum_misbooked_eq_zero
    (hok : (gridMachine cfg job).Guarded (fun P a => ∀ x ∈ gridFills cfg P a, x.AsBooked)
      (gridStart plan gate) as) (side : ℚ) :
    ((runFills cfg job plan gate as).map (GridFill.misbooked side)).sum = 0 := by
  have hall := (gridMachine cfg job).forall_mem_outputs hok
  refine List.sum_eq_zero fun v hv => ?_
  obtain ⟨x, hx, rfl⟩ := List.mem_map.1 hv
  exact (hall x hx).misbooked_eq_zero side

theorem mem_checkOngoingGrid_maxLoss {limits : GridRiskLimits} {g : GridState} {m : GridMarket} :
    ⟨"max_grid_loss_exceeded", .hard⟩ ∈ checkOngoingGrid limits g m ↔
      g.realizedPnl < -limits.maxGridLossUsd := by
  simp [checkOngoingGrid, violationIf]

/-- In every run that ends with no filled level, the realized profit is the money that the
fills have made exactly when what they are misbooked comes to nothing, as it does when each
of them is filled as it is booked. The loss limit is then compared with that money. -/
theorem realizedPnl_eq_moneyMade_iff
    (hrun : (gridMachine cfg job).run (gridStart plan gate) as = some P)
    (hflat : P.shared.grid.NoneFilled) :
    (P.shared.grid.realizedPnl =
        moneyMade plan.direction.sideFactor (runFills cfg job plan gate as) ↔
      ((runFills cfg job plan gate as).map
        (GridFill.misbooked plan.direction.sideFactor)).sum = 0) ∧
    ((gridMachine cfg job).Guarded (fun P a => ∀ x ∈ gridFills cfg P a, x.AsBooked)
        (gridStart plan gate) as →
      P.shared.grid.realizedPnl =
          moneyMade plan.direction.sideFactor (runFills cfg job plan gate as) ∧
        ∀ limits m, ⟨"max_grid_loss_exceeded", .hard⟩ ∈
            checkOngoingGrid limits P.shared.grid m ↔
          moneyMade plan.direction.sideFactor (runFills cfg job plan gate as) <
            -limits.maxGridLossUsd) := by
  have hrealized := realizedPnl_run hrun hflat
  refine ⟨by rw [hrealized, add_eq_left], fun hok => ?_⟩
  rw [sum_misbooked_eq_zero hok, add_zero] at hrealized
  refine ⟨hrealized, fun limits m => ?_⟩
  rw [mem_checkOngoingGrid_maxLoss, hrealized]

end Runs

/-- The level is opened at 90 and closed at 100, for a fee each time. -/
def gridForFees (fees : ℚ) : List (Fin 3 × GridWake) :=
  let filled (price : ℚ) : OrderResult :=
    { OrderResult.filledOne with averageFillPrice := some price, fees := fees }
  (gridInTurn.map Prod.fst).zip [.call 1, ⟨.executed (.returned (filled 90)), 0, 0⟩,
    .call 2, ⟨.executed (.returned (filled 100)), 0, 0⟩]

instance (g : GridState) : Decidable g.NoneFilled :=
  inferInstanceAs (Decidable (∀ l ∈ g.levels, l.isFilled = false))

theorem realizedPnl_eq_moneyMade_iff_btc :
    ∃ P, (gridMachine .bare .btc).run (gridStart .btc none) (gridForFees 0) = some P ∧
      P.shared.grid.realizedPnl = moneyMade 1 (runFills .bare .btc .btc none (gridForFees 0)) := by
  have hend : ∀ P, (gridMachine .bare .btc).run (gridStart .btc none) (gridForFees 0) = some P →
      P.shared.grid.NoneFilled := by
    intro P hP
    have hflat : ∀ Q ∈ (gridMachine .bare .btc).run (gridStart .btc none) (gridForFees 0),
      Q.shared.grid.NoneFilled := by decide +kernel
    exact hflat P hP
  have hrun : ((gridMachine .bare .btc).run (gridStart .btc none) (gridForFees 0)).isSome =
      true := by decide +kernel
  obtain ⟨P, hP⟩ := Option.isSome_iff_exists.1 hrun
  exact ⟨P, hP, ((realizedPnl_eq_moneyMade_iff hP (hend P hP)).2 (by decide +kernel)).1⟩

/-- The fees of the opening order are never deducted. -/
theorem not_realizedPnl_eq_moneyMade :
    ¬ ∀ (cfg : GridConfig) (job : Fin 3 → GridJob) (plan : GridPlan)
      (as : List (Fin 3 × GridWake)) (P : Pool (Fin 3) GridShared GridPc),
      (gridMachine cfg job).run (gridStart plan none) as = some P →
      P.shared.grid.NoneFilled →
        P.shared.grid.realizedPnl =
          moneyMade plan.direction.sideFactor (runFills cfg job plan none as) := by
  intro h
  have hall : ∀ P ∈ (gridMachine .bare .btc).run (gridStart .btc none) (gridForFees 1),
      P.shared.grid.NoneFilled ∧
        P.shared.grid.realizedPnl ≠
          moneyMade 1 (runFills .bare .btc .btc none (gridForFees 1)) := by decide +kernel
  have hrun : ((gridMachine .bare .btc).run (gridStart .btc none) (gridForFees 1)).isSome =
      true := by decide +kernel
  obtain ⟨P, hP⟩ := Option.isSome_iff_exists.1 hrun
  obtain ⟨hflat, hne⟩ := hall P hP
  exact hne (h .bare .btc .btc (gridForFees 1) P hP hflat)

end Sgr
