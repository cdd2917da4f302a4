import Mathlib.Algebra.Order.AbsoluteValue.Basic
import Mathlib.Algebra.Order.BigOperators.Group.List
import Sgr.Grid.Replay

/-!
# The net position and the levels

`_fill_level` updates `net_position_qty` and the quantity of a level in separate
statements, and gives up what is left of a level when it is at most `gridEpsilon`. Where
the calls on a grid are made one after the other and no order is filled by more than it
asks for, this is the only difference between the net position and the levels.
-/

open Concurrency

namespace Sgr

/-- The order of a call is filled by no more than it asks for. -/
def GridPc.FillsWithin : GridPc → GridEvent → Prop
  | .executing _ o _, .executed (.returned r) => r.filledQuantity ≤ o.quantity
  | _, _ => True

/-- A call is made only when no other is under way, and its orders are filled by no more
than they ask for. -/
structure TakesTurns {ι : Type*} (P : Pool ι GridShared GridPc) (a : ι × GridWake) : Prop where
  within : (P.task a.1).FillsWithin a.2.event
  alone : (P.task a.1).isIdle = true → ∀ j, (P.task j).rests = true

namespace GridShared

/-- What the filled levels hold. -/
def filledQuantity (s : GridShared) : ℚ :=
  heldByLevels (s.grid.levels.filter GridLevelState.isFilled)

/-- The closing fills so far. -/
def closings (s : GridShared) : ℕ := s.booked.countP fun b => !b.opening

/-- The net position is what the filled levels hold, but for what closing fills have left
over, and has the sign of the direction. -/
structure NetMatchesLevels (s : GridShared) : Prop where
  atLeast : s.filledQuantity ≤ |s.grid.netPositionQty|
  atMost : |s.grid.netPositionQty| ≤ s.filledQuantity + gridEpsilon * s.closings
  long : s.grid.direction = .long → 0 ≤ s.grid.netPositionQty
  short : s.grid.direction ≠ .long → s.grid.netPositionQty ≤ 0

end GridShared

/-! ### The invariant -/

theorem GridPc.filled_eq_none_of_rests {pc : GridPc} (h : pc.rests = true) :
    pc.filled = none := by
  cases pc <;> first | rfl | cases h

/-- The quantity that a call orders, or by which its order has been filled. -/
def GridPc.asked : GridPc → Option ℚ
  | .limiting _ o _ => some o.quantity
  | .executing _ o _ => some o.quantity
  | .recording _ _ _ quantity _ _ => some quantity
  | .recorded _ _ _ quantity _ _ => some quantity
  | _ => none

/-- A call closes no more of a level than it holds. -/
structure GridPc.AsksHeld (pc : GridPc) (s : GridShared) : Prop where
  positive : ∀ quantity ∈ pc.filled, 0 < quantity
  closing : ∀ f ∈ pc.fill, f.opening = false → ∀ quantity ∈ pc.asked,
    quantity ≤ s.held f.place

/-- The net position in the direction of the grid. -/
def GridState.exposure (g : GridState) : ℚ := g.sideFactor * g.netPositionQty

/-- Each closing fill has left at most `gridEpsilon` over. -/
structure NetDrifts (s : GridShared) : Prop where
  nonneg : ∀ l ∈ s.grid.levels, 0 ≤ l.quantity
  atLeast : heldByLevels s.grid.levels ≤ s.grid.exposure
  atMost : s.grid.exposure ≤ heldByLevels s.grid.levels + gridEpsilon * s.closings

section Levels

variable {levels : List GridLevelState}

theorem heldByLevels_nonneg (h : ∀ l ∈ levels, 0 ≤ l.quantity) : 0 ≤ heldByLevels levels := by
  refine List.sum_nonneg fun x hx => ?_
  obtain ⟨l, hl, rfl⟩ := List.mem_map.1 hx
  exact h l hl

/-- A level that is not filled holds nothing. -/
theorem heldByLevels_filter_isFilled (h : ∀ l ∈ levels, l.isFilled = false → l.quantity = 0) :
    heldByLevels (levels.filter GridLevelState.isFilled) = heldByLevels levels := by
  induction levels with
  | nil => rfl
  | cons l levels ih =>
      have hrest := ih fun x hx => h x (List.mem_cons_of_mem l hx)
      cases hl : l.isFilled with
      | true => simpa [List.filter_cons, hl, heldByLevels] using hrest
      | false =>
          have hzero := h l List.mem_cons_self hl
          simpa [List.filter_cons, hl, heldByLevels, hzero] using hrest

/-- What a closing fill gives up of a level that holds as much. -/
theorem quantity_closedLevel_ge {l : GridLevelState} {quantity : ℚ} :
    l.quantity - quantity ≤ (closedLevel l quantity).quantity + gridEpsilon := by
  unfold closedLevel
  split
  next h => simpa using h
  next h =>
    have heps := gridEpsilon_pos
    dsimp only
    linarith

end Levels

namespace GridState

theorem abs_sideFactor (g : GridState) : |g.sideFactor| = 1 := by
  unfold sideFactor
  split
  · exact abs_one
  · rw [abs_neg, abs_one]

theorem sideFactor_mul_self (g : GridState) : g.sideFactor * g.sideFactor = 1 := by
  unfold sideFactor
  split
  · norm_num
  · norm_num

theorem abs_netPositionQty {g : GridState} (h : 0 ≤ g.exposure) :
    |g.netPositionQty| = g.exposure := by
  rw [← abs_of_nonneg h, exposure, abs_mul, abs_sideFactor, one_mul]

end GridState

/-! ### One fill -/

section Bookings

variable {s t : GridShared} {f : LevelFill} {quantity : ℚ} {r : OrderResult} {now : Timestamp}

theorem acceptedFill_le {bound : ℚ} (h : acceptedFill r = some quantity)
    (hr : r.filledQuantity ≤ bound) : quantity ≤ bound := by
  unfold acceptedFill at h
  split at h
  · cases h
  · split at h
    · cases h
    · cases h
      exact hr

theorem NetDrifts.congr (h : NetDrifts s) (hlevels : t.grid.levels = s.grid.levels)
    (hfigures : s.grid.SameFigures t.grid) (hbooked : t.booked = s.booked) : NetDrifts t := by
  have hexposure : t.grid.exposure = s.grid.exposure := by
    rw [GridState.exposure, hfigures.net, GridState.sideFactor_congr hfigures.direction,
      GridState.exposure]
  have hclosings : t.closings = s.closings := by
    rw [GridShared.closings, hbooked, GridShared.closings]
  refine ⟨hlevels ▸ h.nonneg, ?_, ?_⟩
  · rw [hlevels, hexposure]
    exact h.atLeast
  · rw [hlevels, hexposure, hclosings]
    exact h.atMost

theorem exposure_book {l : GridLevelState} (hl : s.grid.levels[f.place]? = some l) :
    (s.book f quantity r now).grid.exposure =
      s.grid.exposure + if f.opening then quantity else -quantity := by
  have hsquare := s.grid.sideFactor_mul_self
  have hfactor : (s.book f quantity r now).grid.sideFactor = s.grid.sideFactor := by
    simp only [GridShared.book, hl]
    cases f.opening <;> rfl
  have hnet : (s.book f quantity r now).grid.netPositionQty =
      s.grid.netPositionQty + s.grid.sideFactor * if f.opening then quantity else -quantity := by
    simp only [GridShared.book, hl]
    cases f.opening with
    | true => rfl
    | false =>
        show s.grid.netPositionQty - s.grid.sideFactor * quantity = _
        rw [if_neg Bool.false_ne_true]
        ring
  rw [GridState.exposure, hfactor, hnet, mul_add, ← mul_assoc, hsquare, one_mul,
    GridState.exposure]

/-- A fill that is booked: an opening fill of an empty level, or a closing fill of no more
than the level holds. -/
theorem NetDrifts.book (h : NetDrifts s) (hquantity : 0 < quantity)
    (hopening : f.opening = true → s.held f.place = 0)
    (hclosing : f.opening = false → quantity ≤ s.held f.place) :
    NetDrifts (s.book f quantity r now) := by
  cases hl : s.grid.levels[f.place]? with
  | none => rwa [book_of_none hl]
  | some l =>
      obtain ⟨l', hlevels, hl', hbooked, -⟩ := book_eq hl quantity r now
      have hexposure : (s.book f quantity r now).grid.exposure =
          s.grid.exposure + if f.opening = true then quantity else -quantity := exposure_book hl
      have hleast := h.atLeast
      have hmost := h.atMost
      rw [held_of_getElem? hl, ← hl'] at hopening hclosing
      cases hf : f.opening with
      | true =>
          have hempty := hopening hf
          have hclosings : (s.book f quantity r now).closings = s.closings := by
            simp [GridShared.closings, hbooked, hf]
          rw [hf, if_pos rfl] at hlevels hexposure
          have hheld : heldByLevels (s.book f quantity r now).grid.levels =
              heldByLevels s.grid.levels + quantity := by
            rw [hlevels, heldByLevels_set hl, ← hl', hempty, sub_zero]
            rfl
          refine ⟨fun x hx => ?_, ?_, ?_⟩
          · rw [hlevels] at hx
            rcases List.mem_or_eq_of_mem_set hx with hmem | rfl
            · exact h.nonneg x hmem
            · exact hquantity.le
          · rw [hheld, hexposure]
            linarith
          · rw [hheld, hexposure, hclosings]
            linarith
      | false =>
          have hfits := hclosing hf
          have hclosings : (s.book f quantity r now).closings = s.closings + 1 := by
            simp [GridShared.closings, hbooked, hf]
          rw [hf, if_neg Bool.false_ne_true] at hlevels hexposure
          have hheld : heldByLevels (s.book f quantity r now).grid.levels =
              heldByLevels s.grid.levels - l'.quantity + (closedLevel l' quantity).quantity := by
            rw [hlevels, heldByLevels_set hl, ← hl']
          have hle := quantity_closedLevel_le hfits
          have hge := @quantity_closedLevel_ge l' quantity
          refine ⟨fun x hx => ?_, ?_, ?_⟩
          · rw [hlevels] at hx
            rcases List.mem_or_eq_of_mem_set hx with hmem | rfl
            · exact h.nonneg x hmem
            · exact (GridLevelState.Sound.closed l' quantity).nonneg
          · rw [hheld, hexposure]
            linarith
          · rw [hheld, hexposure, hclosings]
            push_cast
            linarith

end Bookings

/-! ### The calls -/

section Calls

variable {cfg : GridConfig} {id : UUID} {now : Timestamp} {s t : GridShared} {pc pc' : GridPc}
  {w : GridWake}

theorem booked_advance (cfg : GridConfig) (id : UUID) (now : Timestamp) (s : GridShared)
    (loop : GridLoop) (cells : List (ℕ × ℕ)) :
    (s.advance cfg id now loop cells).1.booked = s.booked := by
  induction cells with
  | nil => rfl
  | cons cell rest ih =>
      rw [GridShared.advance]
      split
      · exact ih
      · rfl

theorem NetDrifts.advance (h : NetDrifts s) (loop : GridLoop) (cells : List (ℕ × ℕ)) :
    NetDrifts (s.advance cfg id now loop cells).1 :=
  h.congr (sameStores_advance cfg id now s loop cells).levels
    (sameStores_advance cfg id now s loop cells).figures (booked_advance cfg id now s loop cells)

/-- A call without a fill to book asks for nothing. -/
theorem GridPc.asksHeld_of_fill_eq_none (hfill : pc.fill = none) (hfilled : pc.filled = none)
    (s : GridShared) : pc.AsksHeld s where
  positive := by simp [hfilled]
  closing := by simp [hfill]

/-- The order of a closing fill asks for what the level holds. -/
theorem LevelFill.quantity_order {g : GridState} {f : LevelFill} {o : OrderRequest}
    (h : f.order g id = some o) (hclosing : f.opening = false) :
    o.quantity = (g.levels[f.place]?).elim 0 GridLevelState.quantity := by
  obtain ⟨l, hl, horder⟩ := Option.bind_eq_some_iff.1 h
  obtain ⟨quantity, hquantity, rfl⟩ := Option.map_eq_some_iff.1 horder
  rw [fillQuantity, hclosing, if_neg Bool.false_ne_true] at hquantity
  split at hquantity
  · cases hquantity
  · cases hquantity
    rw [hl, Option.elim_some]

theorem asksHeld_advance (cfg : GridConfig) (id : UUID) (now : Timestamp) (s : GridShared)
    (loop : GridLoop) (cells : List (ℕ × ℕ)) :
    (s.advance cfg id now loop cells).2.AsksHeld (s.advance cfg id now loop cells).1 := by
  induction cells with
  | nil =>
      rw [GridShared.advance]
      split
      · exact GridPc.asksHeld_of_fill_eq_none rfl rfl _
      · exact GridPc.asksHeld_of_fill_eq_none rfl rfl _
  | cons cell rest ih =>
      rw [GridShared.advance]
      split
      · exact ih
      next f o hsome =>
        obtain ⟨f₀, -, ho⟩ := Option.bind_eq_some_iff.1 hsome
        obtain ⟨o₀, ho, hpair⟩ := Option.map_eq_some_iff.1 ho
        cases hpair
        have hasks : f.opening = false → o.quantity ≤ s.held f.place :=
          fun hclosing => (LevelFill.quantity_order ho hclosing).le
        split
        · exact ⟨by simp [GridPc.filled], by simpa [GridPc.fill, GridPc.asked] using hasks⟩
        · exact ⟨by simp [GridPc.filled], by simpa [GridPc.fill, GridPc.asked] using hasks⟩

/-- What a segment keeps of the net position, and what the call goes on to ask for. -/
structure DriftKeeps (c : GridShared × GridPc) : Prop where
  drifts : NetDrifts c.1
  asks : c.2.AsksHeld c.1

theorem DriftKeeps.advance (h : NetDrifts s) (loop : GridLoop) (cells : List (ℕ × ℕ)) :
    DriftKeeps (s.advance cfg id now loop cells) :=
  ⟨h.advance loop cells, asksHeld_advance cfg id now s loop cells⟩

theorem DriftKeeps.of_fill_eq_none (h : NetDrifts s) (hfill : pc.fill = none)
    (hfilled : pc.filled = none) : DriftKeeps (s, pc) :=
  ⟨h, GridPc.asksHeld_of_fill_eq_none hfill hfilled s⟩

/-- Another status or last price changes nothing about the net position. -/
theorem NetDrifts.setGrid (h : NetDrifts s) {g : GridState} (hlevels : g.levels = s.grid.levels)
    (hfigures : s.grid.SameFigures g) : NetDrifts (s.setGrid g) :=
  h.congr hlevels hfigures rfl

theorem driftKeeps_call (h : NetDrifts s) (job : GridJob) (blocked : Bool) :
    DriftKeeps (gridCall cfg job id now s blocked) := by
  have htick : ∀ price, DriftKeeps (s.tick cfg id now blocked price) := by
    intro price
    unfold GridShared.tick
    split
    · exact .advance h _ _
    · exact .of_fill_eq_none h rfl rfl
  have hclose : ∀ reason price force, DriftKeeps (s.close cfg id now reason price force) := by
    intro reason price force
    unfold GridShared.close
    split
    · have hclosing : NetDrifts (s.setGrid { s.grid with status := .closing }) :=
        h.setGrid rfl ⟨rfl, rfl, rfl, rfl, rfl⟩
      exact .advance hclosing _ _
    · exact .of_fill_eq_none h rfl rfl
  cases job with
  | opened =>
      unfold gridCall
      dsimp only
      split
      · exact .of_fill_eq_none h rfl rfl
      · exact .of_fill_eq_none h rfl rfl
  | tick price => exact htick price
  | close reason price force => exact hclose reason price force
  | monitor price violated =>
      unfold gridCall
      dsimp only
      split
      · split
        · exact hclose _ price true
        · exact htick price
      · exact .of_fill_eq_none h rfl rfl

theorem DriftKeeps.afterPersist (h : NetDrifts s) (f : LevelFill) (k : GridFrame) :
    DriftKeeps (s.afterPersist cfg id now f k) := by
  have hmarked : NetDrifts (s.setGrid (updateMarkToMarket s.grid f.price)) :=
    h.setGrid rfl ⟨rfl, rfl, rfl, rfl, rfl⟩
  exact .advance hmarked k.loop k.rest

/-- A call that books the fill of its order. -/
theorem driftKeeps_afterRecord {f : LevelFill} {k : GridFrame} {quantity : ℚ}
    {r : OrderResult} {filledAt : Timestamp} (h : NetDrifts s) (hquantity : 0 < quantity)
    (hopening : f.opening = true → s.held f.place = 0)
    (hclosing : f.opening = false → quantity ≤ s.held f.place) :
    DriftKeeps (s.afterRecord cfg id now f r quantity filledAt k) := by
  have hbook : NetDrifts (s.book f quantity r filledAt) := h.book hquantity hopening hclosing
  unfold GridShared.afterRecord
  split
  · exact .of_fill_eq_none hbook rfl rfl
  · exact .afterPersist hbook f k

/-- One segment of a call that runs alone. -/
theorem driftKeeps_segment {job : GridJob} (hseg : gridSegment cfg job s pc w = some (t, pc'))
    (hopens : OpensEmpty (s, pc)) (hwithin : pc.FillsWithin w.event) (h : DriftKeeps (s, pc)) :
    DriftKeeps (t, pc') := by
  have hstep := gridStep_of_segment hseg
  generalize w.event = e at hstep hwithin
  have hasks := h.asks
  cases hstep with
  | starts job blocked => exact driftKeeps_call h.drifts job blocked
  | admits f o k => exact ⟨h.drifts, by simp [GridPc.filled], hasks.closing⟩
  | raises => exact .of_fill_eq_none h.drifts rfl rfl
  | leaves => exact .advance h.drifts _ _
  | fills f o k r quantity now hrepository hquantity =>
      refine ⟨h.drifts, fun q hq => ?_, fun g hg hclosing q hq => ?_⟩
      · obtain rfl := Option.some.inj hq
        exact acceptedFill_pos hquantity
      · obtain rfl := Option.some.inj hq
        exact (acceptedFill_le hquantity hwithin).trans (hasks.closing g hg hclosing _ rfl)
  | records =>
      exact ⟨h.drifts.congr rfl ⟨rfl, rfl, rfl, rfl, rfl⟩ rfl, hasks.positive, hasks.closing⟩
  | forgets => exact ⟨h.drifts, hasks.positive, hasks.closing⟩
  | books f o r quantity filledAt k =>
      exact driftKeeps_afterRecord h.drifts (hasks.positive quantity rfl)
        (hopens.held_eq_zero rfl) fun hclosing => hasks.closing f rfl hclosing quantity rfl
  | booksUnrecorded f o k r quantity filledAt hrepository hquantity =>
      exact driftKeeps_afterRecord h.drifts (acceptedFill_pos hquantity)
        (hopens.held_eq_zero rfl) fun hclosing =>
          (acceptedFill_le hquantity hwithin).trans (hasks.closing f rfl hclosing _ rfl)
  | reads n => exact .of_fill_eq_none h.drifts rfl rfl
  | stores row n =>
      exact .of_fill_eq_none (h.drifts.congr rfl ⟨rfl, rfl, rfl, rfl, rfl⟩ rfl) rfl rfl
  | unread n => exact .of_fill_eq_none h.drifts rfl rfl
  | unstored row n => exact .of_fill_eq_none h.drifts rfl rfl
  | resumes f k => exact .afterPersist h.drifts f k
  | returns => exact .of_fill_eq_none h.drifts rfl rfl

end Calls

/-! ### Runs -/

section Runs

variable {ι : Type*} [DecidableEq ι] {cfg : GridConfig} {job : ι → GridJob}
  {P Q : Pool ι GridShared GridPc}

/-- At most one call is under way, and it closes no more of a level than it holds. -/
structure DriftsAlone (P : Pool ι GridShared GridPc) : Prop where
  calls : OneCall P
  drifts : NetDrifts P.shared
  asks : ∀ i, (P.task i).AsksHeld P.shared

theorem DriftsAlone.step {a : ι × GridWake} (h : DriftsAlone P) (hok : TakesTurns P a)
    (hnext : (gridMachine cfg job).next P a = some Q) : DriftsAlone Q := by
  obtain ⟨i, w⟩ := a
  have hcalls := h.calls.step hok.alone hnext
  obtain ⟨t, pc', hseg, rfl⟩ := Pool.machine_next_eq_some_iff.1 hnext
  have hkeeps := driftKeeps_segment hseg ⟨h.calls.empty, h.calls.opens i⟩ hok.within
    ⟨h.drifts, h.asks i⟩
  refine ⟨hcalls, hkeeps.drifts,
    Pool.forall_task_resume (φ := fun _ (pc : GridPc) => pc.AsksHeld t) (fun j hj => ?_)
      hkeeps.asks⟩
  have hrests := h.calls.rests_of_ne hok.alone hseg hj
  exact GridPc.asksHeld_of_fill_eq_none (GridPc.fill_eq_none_of_rests hrests)
    (GridPc.filled_eq_none_of_rests hrests) t

omit [DecidableEq ι] in
theorem driftsAlone_start (plan : GridPlan) (gate : Option LiveVerificationState) :
    DriftsAlone (gridStart plan gate : Pool ι GridShared GridPc) := by
  have hzero : heldByLevels (freshLevels plan.prices) = 0 := by
    simp [heldByLevels, freshLevels, Function.comp_def]
  refine ⟨oneCall_start plan gate, ⟨fun l hl => ?_, ?_, ?_⟩,
    fun i => GridPc.asksHeld_of_fill_eq_none rfl rfl _⟩
  · obtain ⟨p, -, rfl⟩ := List.mem_map.1 hl
    exact le_rfl
  · show heldByLevels (freshLevels plan.prices) ≤ _ * 0
    rw [hzero, mul_zero]
  · show _ * 0 ≤ heldByLevels (freshLevels plan.prices) + gridEpsilon * ((0 : ℕ) : ℚ)
    simp [hzero]

omit [DecidableEq ι] in
theorem DriftsAlone.netMatchesLevels (h : DriftsAlone P) : P.shared.NetMatchesLevels := by
  have hheld : P.shared.filledQuantity = heldByLevels P.shared.grid.levels :=
    heldByLevels_filter_isFilled h.calls.empty
  have hexposure : 0 ≤ P.shared.grid.exposure :=
    (heldByLevels_nonneg h.drifts.nonneg).trans h.drifts.atLeast
  have habs := GridState.abs_netPositionQty hexposure
  refine ⟨?_, ?_, fun hlong => ?_, fun hshort => ?_⟩
  · rw [hheld, habs]
    exact h.drifts.atLeast
  · rw [hheld, habs]
    exact h.drifts.atMost
  · simpa [GridState.exposure, GridState.sideFactor, hlong] using hexposure
  · simpa [GridState.exposure, GridState.sideFactor, hshort] using hexposure

end Runs

section Decidability

instance (pc : GridPc) (e : GridEvent) : Decidable (pc.FillsWithin e) := by
  unfold GridPc.FillsWithin
  split
  · infer_instance
  · infer_instance

instance {ι : Type*} [Fintype ι] (P : Pool ι GridShared GridPc) (a : ι × GridWake) :
    Decidable (TakesTurns P a) :=
  decidable_of_iff
    ((P.task a.1).FillsWithin a.2.event ∧
      ((P.task a.1).isIdle = true → ∀ j, (P.task j).rests = true))
    ⟨fun h => ⟨h.1, h.2⟩, fun h => ⟨h.1, h.2⟩⟩

end Decidability

end Sgr
